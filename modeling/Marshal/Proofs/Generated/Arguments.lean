import Marshal.Proofs.App.Part
import Marshal.Proofs.Conversion.Arguments
import Marshal.Proofs.Generated.Parameters

/-!
# Arguments and parameters of converters

The call of a converter is made for the arguments of a type, the converter is made for the type
parameters of a definition. One fits the other, place by place, unless a type parameter is declared
twice: it has one parameter then, but types still have an argument for either place.
-/

namespace Marshal
set_option autoImplicit false

open Code (Expr Function Stmt)
open Conversion (Applied CalledAs Converts Covers convert covers_applied)
open Converter (mem_J_param paramEnding typeParamConverters)
open Declaration (parse)
open Naming (IsConverterName sanitize)

namespace Converter

variable {dir : Direction} {runtime : String} {d : Definition}

theorem named_scope : Conversion.Named (scope dir runtime d) := by
  intro c hc hempty
  obtain ⟨p, -, rfl⟩ := List.mem_map.mp hc
  have hJ : 'J' ∈ (sanitize p ++ paramEnding dir).toList := mem_J_param
  have hnil : (sanitize p ++ paramEnding dir).toList = [] := congrArg String.toList hempty
  rw [hnil] at hJ
  cases hJ

theorem converter?_scope {p : String} (hp : p ∈ d.genericParams) :
    (scope dir runtime d).converter? p = some (sanitize p ++ paramEnding dir) := by
  have hfresh : p ∈ extendFresh [] d.genericParams := mem_extendFresh.mpr (Or.inr hp)
  exact List.lookup_graph _ hfresh

end Converter

namespace Generated

namespace Module

variable {m : Module} {d : Definition} {dir : Direction}

/-- Every type parameter has the parameter at its place, which conversions of its values call. -/
def Receives (m : Module) (dir : Direction) (d : Definition) : Prop :=
  List.Forall₂ (fun p q => (Converter.scope dir m.options.runtimeAlias d).converter? p = some q)
    d.typeParams (m.converter d dir).paramNames.tail

/--
A call of the converter of a datatype, made for the arguments of a type. The definition of the
datatype, having as many type parameters as there are arguments, has a converter with as many
parameters as the call has if its type parameters are different, and only then.
-/
def Fits (m : Module) (dir : Direction) (s : Scope) (R : TypeDescriptor → Prop) (n : String)
    (args : List Expr) : Prop :=
  ∃ r ts source cs, R (.datatype r ts) ∧ n = dir.converterName r ∧ args = source :: cs ∧
    List.Forall₂ (Converts dir s) ts cs ∧
    ∀ d ∈ m.generationSet.definitions, d.name = r → d.typeParams.length = ts.length →
      ((m.converter d dir).params.length = args.length ↔ d.typeParams.Nodup) ∧
        (d.typeParams.Nodup → m.Receives dir d)

/-- A type inside those of the fields of a definition. -/
def UsedBy (d : Definition) (t : TypeDescriptor) : Prop := ∃ f ∈ d.fields, f.type.Within t

/-- A type inside those that members deal with. -/
def Used (m : Module) (t : TypeDescriptor) : Prop :=
  (∃ d ∈ m.generationSet.definitions, UsedBy d t) ∨ ∃ s ∈ m.functions, ∃ u ∈ s.types, u.Within t

theorem usedBy_arg (t a : TypeDescriptor) (h : UsedBy d t) (ha : a ∈ t.args) : UsedBy d a := by
  obtain ⟨f, hf, ht⟩ := h
  exact ⟨f, hf, ht.arg ha⟩

theorem used_arg (t a : TypeDescriptor) (h : m.Used t) (ha : a ∈ t.args) : m.Used a := by
  rcases h with ⟨d, hd, ht⟩ | ⟨s, hs, u, hu, ht⟩
  · exact Or.inl ⟨d, hd, usedBy_arg t a ht ha⟩
  · exact Or.inr ⟨s, hs, u, hu, ht.arg ha⟩

theorem tail_paramNames (d : Definition) (dir : Direction) :
    (m.converter d dir).paramNames.tail = (typeParamConverters dir d).map (·.2) := by
  rw [converter_eq, Function.paramNames, Converter.params_eq, List.tail_cons]

theorem length_params_converter (d : Definition) (dir : Direction) :
    (m.converter d dir).params.length = (extendFresh [] d.genericParams).length + 1 := by
  have hnames : (m.converter d dir).params.length = (m.converter d dir).paramNames.length :=
    (List.length_map _).symm
  rw [hnames, converter_eq, Function.paramNames, Converter.params_eq, List.length_cons,
    List.length_map, typeParamConverters, List.length_map]

theorem length_params_iff (hd : d.genericParams = d.typeParams) :
    (m.converter d dir).params.length = d.typeParams.length + 1 ↔ d.typeParams.Nodup := by
  rw [length_params_converter, hd, Nat.add_right_cancel_iff, length_extendFresh_iff]

theorem receives (hd : d.genericParams = d.typeParams) (h : d.typeParams.Nodup) :
    m.Receives dir d := by
  rw [Receives, tail_paramNames, typeParamConverters, hd, extendFresh_of_nodup h, List.map_map,
    List.forall₂_map_right_iff, List.forall₂_same]
  exact fun p hp => Converter.converter?_scope (hd ▸ hp)

section Calls
variable (hset : ∀ d ∈ m.generationSet.definitions, d.genericParams = d.typeParams)
  {n : String} {args : List Expr}
include hset

theorem fits_of_applied {s : Scope} {R : TypeDescriptor → Prop} (h : Applied dir s R n args) :
    m.Fits dir s R n args := by
  obtain ⟨r, ts, source, cs, hr, hn, rfl, hcs⟩ := h
  refine ⟨r, ts, source, cs, hr, hn, rfl, hcs, fun d hd _ hlength => ?_⟩
  refine ⟨?_, receives (hset d hd)⟩
  -- either side has the value, and besides it one for each argument or type parameter
  rw [List.length_cons, ← hcs.length_eq, ← hlength]
  exact length_params_iff (hset d hd)

theorem fits_converter (h : .call (.name n) args ∈ (m.converter d dir).parts)
    (hn : IsConverterName n) :
    m.Fits dir (Converter.scope dir m.options.runtimeAlias d) (UsedBy d) n args := by
  have hcovers : Covers dir (Converter.scope dir m.options.runtimeAlias d) (UsedBy d)
      (CalledAs (m.Fits dir (Converter.scope dir m.options.runtimeAlias d) (UsedBy d))) :=
    covers_applied Converter.named_scope Converter.not_isConverterName_of_scope usedBy_arg
      fun _ _ => fits_of_applied hset
  rw [converter_eq] at h
  have hbody : Stmt.EachPart
      (CalledAs (m.Fits dir (Converter.scope dir m.options.runtimeAlias d) (UsedBy d)))
      (Converter.function m.mangling m.options.runtimeAlias d dir).body :=
    Converter.parts_body hcovers (fun f hf => ⟨f, hf, .self⟩) nofun
  exact Function.forall_parts.mpr hbody _ h n args rfl hn

theorem fits_member {g : Function} (hg : g ∈ m.app.members)
    (h : .call (.name n) args ∈ g.parts) (hn : IsConverterName n) :
    ∃ dir, m.Fits dir m.app.scope m.Used n args := by
  have hcovers (dir : Direction) : Covers dir m.app.scope m.Used
      (CalledAs fun n args => ∃ dir, m.Fits dir m.app.scope m.Used n args) :=
    covers_applied nofun nofun used_arg fun _ _ h => ⟨dir, fits_of_applied hset h⟩
  have hfields : ∀ d ∈ m.generationSet.definitions, ∀ f ∈ d.fields, m.Used f.type :=
    fun d hd f hf => Or.inl ⟨d, hd, f, hf, .self⟩
  have hsignatures : ∀ s ∈ m.functions, ∀ t ∈ s.types, m.Used t :=
    fun s hs t ht => Or.inr ⟨s, hs, t, ht, .self⟩
  have hbody := App.parts_members hcovers hfields hsignatures hg
  exact Function.forall_parts.mpr hbody _ h n args rfl hn

end Calls

theorem convert_typeParam (hd : d.genericParams = d.typeParams) {t : TypeDescriptor}
    (ht : t.kind = .typeParam) (hn : t.name ∈ d.typeParams) :
    ∃ q ∈ (m.converter d dir).paramNames.tail, ∀ source depth,
      convert dir (Converter.scope dir m.options.runtimeAlias d) t source depth =
        .call (.name q) [source] := by
  obtain ⟨kind, p, args⟩ := t
  obtain rfl : kind = .typeParam := ht
  have hp : p ∈ d.genericParams := hd ▸ hn
  refine ⟨sanitize p ++ paramEnding dir, ?_, fun source depth => ?_⟩
  · rw [tail_paramNames]
    exact Converter.mem_typeParamConverters.mpr ⟨p, hp, rfl⟩
  · rw [convert]
    exact Conversion.ofParam_eq_call Converter.named_scope (Converter.converter?_scope hp) source

end Module

/--
Calls and converters in the module for a declared catalog: every call of a converter, in converters
and in members, fits the definitions of its name; a converter has a parameter for each type
parameter exactly if these are different, at the same places; and its conversions of values of type
parameters call these parameters.
-/
theorem converters_fit {text : String} {c : Catalog} {o : Options} {m : Module}
    (hc : (parse text).outcome = .ok c) (hm : (module c o).outcome = .ok m) :
    (∀ d ∈ m.generationSet.definitions, ∀ dir n args,
        .call (.name n) args ∈ (m.converter d dir).parts → IsConverterName n →
        m.Fits dir (Converter.scope dir m.options.runtimeAlias d) (Module.UsedBy d) n args) ∧
      (∀ g ∈ m.app.members, ∀ n args, .call (.name n) args ∈ g.parts → IsConverterName n →
        ∃ dir, m.Fits dir m.app.scope m.Used n args) ∧
      (∀ d ∈ m.generationSet.definitions, ∀ dir,
        ((m.converter d dir).params.length = d.typeParams.length + 1 ↔ d.typeParams.Nodup) ∧
          (d.typeParams.Nodup → m.Receives dir d)) ∧
      ∀ d ∈ m.generationSet.definitions, ∀ dir t, Module.UsedBy d t → t.kind = .typeParam →
        ∃ q ∈ (m.converter d dir).paramNames.tail, ∀ source depth,
          convert dir (Converter.scope dir m.options.runtimeAlias d) t source depth =
            .call (.name q) [source] := by
  have hmem : ∀ d ∈ m.generationSet.definitions, d ∈ c.definitions :=
    fun d hd => (Catalog.mem_of_resolve (module_eq hm).1 hd).1
  have hset : ∀ d ∈ m.generationSet.definitions, d.genericParams = d.typeParams :=
    fun d hd => Declaration.genericParams_of_parse hc (hmem d hd)
  refine ⟨fun d _ dir n args => Module.fits_converter hset, fun g hg n args =>
    Module.fits_member hset hg, fun d hd dir => ?_, fun d hd dir t ht hkind => ?_⟩
  · exact ⟨Module.length_params_iff (hset d hd), Module.receives (hset d hd)⟩
  · obtain ⟨f, hf, hwithin⟩ := ht
    have hname : t.name ∈ f.type.namesOf .typeParam :=
      TypeDescriptor.mem_namesOf_iff.mpr ⟨t, hwithin, hkind, rfl⟩
    exact Module.convert_typeParam (hset d hd) hkind
      (Declaration.typeParams_declared_of_parse hc (hmem d hd) hf _ hname)

/-- Pairs of anything, and what holds one of a text and a number. -/
def held : String :=
  "module M { datatype P<A, B> = P(a: A, b: B) datatype Q = Q(p: P<string, int>, n: int) }"

def heldPair : Definition :=
  ⟨"M", "P", [⟨"P", [⟨"a", .typeParam "A"⟩, ⟨"b", .typeParam "B"⟩]⟩], ["A", "B"]⟩

def pairHolder : Definition := ⟨"M", "Q",
  [⟨"Q", [⟨"p", .datatype "P" [.string, .int "int"]⟩, ⟨"n", .int "int"⟩]⟩], []⟩

def heldModule : Module := ⟨⟨"M", [heldPair, pairHolder], []⟩, [], {}, .escaping⟩

/-- What the holder passes to the converter of pairs. -/
def pairArguments : List Expr :=
  [.callAttr (.name "json") "get" [.str "p"],
    .function "x" (.callAttr (.attr (.name "_rt") "Seq") "from_string" [.name "x"]),
    .function "x" (.call (.name "int") [.name "x"])]

theorem converters_fit_held :
    ∃ c m p q args, (parse held).outcome = .ok c ∧ (module c {}).outcome = .ok m ∧
      p ∈ m.generationSet.definitions ∧ q ∈ m.generationSet.definitions ∧
      .call (.name "pFromJson") args ∈ (m.converter q .fromExternal).parts ∧
      m.Fits .fromExternal (Converter.scope .fromExternal "_rt" q) (Module.UsedBy q)
        "pFromJson" args ∧
      (m.converter p .fromExternal).params.length = args.length ∧ m.Receives .fromExternal p := by
  have hc : (parse held).outcome = .ok ⟨[heldPair, pairHolder], []⟩ := by decide +kernel
  have hm : (module ⟨[heldPair, pairHolder], []⟩ {}).outcome = .ok heldModule := rfl
  have hp : heldPair ∈ heldModule.generationSet.definitions := List.mem_cons_self
  have hq : pairHolder ∈ heldModule.generationSet.definitions :=
    List.mem_cons_of_mem _ List.mem_cons_self
  have hcall :
      .call (.name "pFromJson") pairArguments ∈
        (heldModule.converter pairHolder .fromExternal).parts :=
    List.mem_of_getElem? (i := 4) rfl
  obtain ⟨hcalls, -, hparams, -⟩ := converters_fit hc hm
  obtain ⟨hlength, hreceives⟩ := hparams heldPair hp .fromExternal
  exact ⟨_, heldModule, heldPair, pairHolder, pairArguments, hc, hm, hp, hq, hcall,
    hcalls pairHolder hq .fromExternal _ pairArguments hcall ⟨.fromExternal, "P", by decide⟩,
    hlength.mpr (by decide), hreceives (by decide)⟩

/-- Pairs with one type parameter, which is declared twice. -/
def twice : String :=
  "module M { datatype P<T, T> = P(a: T, b: int) datatype Q = Q(p: P<string, int>, n: int) }"

def twicePair : Definition :=
  ⟨"M", "P", [⟨"P", [⟨"a", .typeParam "T"⟩, ⟨"b", .int "int"⟩]⟩], ["T", "T"]⟩

def twiceModule : Module := ⟨⟨"M", [twicePair, pairHolder], []⟩, [], {}, .escaping⟩

/-- A type parameter that is declared twice leaves one parameter for two arguments. -/
theorem converter_lacks_param :
    ∃ c m p q args ts,
      (parse twice).outcome = .ok c ∧ (module c {}).outcome = .ok m ∧
      p ∈ m.generationSet.definitions ∧ q ∈ m.generationSet.definitions ∧
      p.name = "P" ∧ Module.UsedBy q (.datatype "P" ts) ∧ ts.length = p.typeParams.length ∧
      .call (.name "pFromJson") args ∈ (m.converter q .fromExternal).parts ∧
      args.length = 3 ∧ (m.converter p .fromExternal).params.length = 2 := by
  have hused : Module.UsedBy pairHolder (.datatype "P" [.string, .int "int"]) :=
    ⟨⟨"p", _⟩, List.mem_cons_self, .self⟩
  have hcall :
      .call (.name "pFromJson") pairArguments ∈
        (twiceModule.converter pairHolder .fromExternal).parts :=
    List.mem_of_getElem? (i := 4) rfl
  exact ⟨⟨[twicePair, pairHolder], []⟩, twiceModule, twicePair, pairHolder, pairArguments, _,
    by decide +kernel, rfl, List.mem_cons_self, List.mem_cons_of_mem _ List.mem_cons_self, rfl,
    hused, rfl, hcall, rfl, rfl⟩

end Generated

end Marshal
