import Marshal.Proofs.Converter.Called
import Marshal.Proofs.Declaration.Names
import Marshal.Proofs.Generated.Converters

/-!
# Erased wrappers

The value of an erased wrapper is its field, so there is nothing to construct. Converters and
members agree on that, but for the constructors of actions: these build the action in any case. The
path of a constructor may be called all the same, for something else that has this path.
-/

namespace Marshal
set_option autoImplicit false

open Code (Expr Function Stmt)
open Conversion (Dotfree Ordinary convert_calls)
open Converter (Permitted)
open Naming (Dotless Mangling identifier sanitize)

namespace App

variable {a : App} {d : Definition} {v : Variant} {f : Field} {e : Expr}

/-- What an accessor does with the field, wherever it is found. -/
def accessorBody (a : App) (f : Field) (source : Expr) : List Stmt :=
  match f.type.mapArgs? with
  | some (key, value) =>
    [.assign "dafny_key" (Conversion.convert .fromExternal a.scope key (.name "key") 0),
      .when (.callAttr source "contains" [.name "dafny_key"])
        [.assign "val" (.callAttr source "get" [.name "dafny_key"]),
          .ret (Conversion.convert .toExternal a.scope value (.name "val") 0)],
      .ret (.name "None")]
  | none => [.ret (Conversion.convert .toExternal a.scope f.type source 0)]

theorem body_accessor (a : App) (d : Definition) (f : Field) :
    (a.accessor d f).body = a.accessorBody f (a.modelField d f) := by
  unfold accessor accessorBody
  cases f.type.mapArgs? with
  | none => simp only
  | some p => simp only

/-- A constructor of a variant with the values of its fields. -/
def building (a : App) (isAction : Bool) (d : Definition) (v : Variant) : Expr :=
  .call (Converter.constructor a.mangling d v)
    (v.fields.map fun f => (a.constructorParam isAction f).2)

theorem body_constructor (a : App) (isAction : Bool) (d : Definition) (v : Variant) :
    (a.constructor isAction d v).body =
      [.ret (if d.isErased && !isAction then
        (v.fields.map fun f => (a.constructorParam isAction f).2).headD (a.building isAction d v)
        else a.building isAction d v)] := by
  simp only [constructor, building, Converter.constructor, List.map_map]
  rfl

theorem body_constructor_erased (hv : d.variants = [v]) (hf : v.fields = [f]) :
    (a.constructor false d v).body = [.ret (a.constructorParam false f).2] := by
  have herased : d.isErased = true := Definition.isErased_iff.mpr ⟨v, f, hv, hf⟩
  rw [body_constructor, herased, hf]
  rfl

theorem body_constructor_action :
    (a.constructor true d v).body = [.ret (a.building true d v)] := by
  rw [body_constructor, Bool.not_true, Bool.and_false]
  rfl

theorem dotfree_scope (a : App) : Dotfree a.scope := nofun

theorem converted_calls (f : Field) : (a.converted f).2.Calls Ordinary :=
  convert_calls le_rfl a.dotfree_scope Expr.calls_name 0

theorem constructorParam_calls (isAction : Bool) (f : Field) :
    (a.constructorParam isAction f).2.Calls Ordinary := by
  rw [constructorParam]
  split
  · exact Expr.calls_name
  · exact converted_calls f

theorem wrapperParam_calls (f : Field) : (a.wrapperParam f).2.Calls Ordinary := by
  rw [wrapperParam]
  split
  · exact Expr.calls_name
  · exact converted_calls f

theorem building_calls (isAction : Bool) (d : Definition) (v : Variant) :
    (a.building isAction d v).Calls (Permitted a.mangling d v) := by
  have hparam : ∀ f ∈ v.fields,
      (a.constructorParam isAction f).2.Calls (Permitted a.mangling d v) :=
    fun f _ => (constructorParam_calls isAction f).mono fun _ => Or.inl
  simpa [building, Permitted, Converter.constructor, Mangling.constructor] using hparam

/-- Erased wrappers are built as actions only. -/
theorem called_constructor {isAction : Bool} (hv : v ∈ d.variants)
    (he : e ∈ (a.constructor isAction d v).called) :
    Ordinary e ∨
      (d.isErased && !isAction) = false ∧ e = Converter.constructor a.mangling d v := by
  cases helided : d.isErased && !isAction with
  | true =>
    obtain ⟨herased, haction⟩ := Bool.and_eq_true_iff.mp helided
    obtain rfl : isAction = false := by simpa using haction
    obtain ⟨w, f, hw, hf⟩ := Definition.isErased_iff.mp herased
    obtain rfl : v = w := List.mem_singleton.mp (hw ▸ hv)
    rw [Function.called, body_constructor_erased hw hf] at he
    exact Or.inl (Stmt.callsEach_single_ret (constructorParam_calls false f) e he)
  | false =>
    rw [Function.called, body_constructor, helided] at he
    have hcalls := Stmt.callsEach_single_ret (a.building_calls isAction d v) e he
    exact hcalls.imp_right fun h => ⟨rfl, h⟩

theorem modelField_calls (d : Definition) (f : Field) :
    (a.modelField d f).Calls Ordinary := by
  rw [modelField]
  split
  · exact Expr.calls_name
  · exact Expr.calls_attr.mpr Expr.calls_name

theorem called_accessor (he : e ∈ (a.accessor d f).called) : Ordinary e := by
  have hconvert (dir : Direction) (t : TypeDescriptor) (x : String) :
      (Conversion.convert dir a.scope t (.name x) 0).Calls Ordinary :=
    convert_calls le_rfl a.dotfree_scope Expr.calls_name 0
  have hfield := a.modelField_calls d f
  have hbody : Stmt.CallsEach Ordinary (a.accessorBody f (a.modelField d f)) := by
    rw [accessorBody]
    split
    · have hcontains : Ordinary (.attr (a.modelField d f) "contains") :=
        .member _ (by decide) (by decide)
      have hget : Ordinary (.attr (a.modelField d f) "get") := .member _ (by decide) (by decide)
      simp [hconvert, hfield, hcontains, hget]
    · exact Stmt.callsEach_single_ret (convert_calls le_rfl a.dotfree_scope hfield 0)
  rw [Function.called, body_accessor] at he
  exact hbody e he

def corePath (a : App) (s : Signature) : Expr := a.mangling.function a.options.appCoreModule s.name

/-- A call of a function of the core with the values of the parameters. -/
def delegating (a : App) (s : Signature) : Expr :=
  .call (a.corePath s) (s.parameters.map fun f => (a.wrapperParam f).2)

theorem body_wrapper (s : Signature) :
    (a.wrapper s).body = [.ret (if convertsResult s.result then
      Conversion.convert .toExternal a.scope s.result (a.delegating s) 0 else a.delegating s)] := by
  simp only [wrapper, delegating, List.map_map]
  rfl

theorem called_wrapper {s : Signature} (he : e ∈ (a.wrapper s).called) :
    Ordinary e ∨ e = a.corePath s := by
  have hordinary : Ordinary ≤ fun e => Ordinary e ∨ e = a.corePath s := fun _ => Or.inl
  have hcall : (a.delegating s).Calls fun e => Ordinary e ∨ e = a.corePath s := by
    have hparam : ∀ f ∈ s.parameters,
        (a.wrapperParam f).2.Calls fun e => Ordinary e ∨ e = a.corePath s :=
      fun f _ => (wrapperParam_calls f).mono hordinary
    simpa [delegating, corePath, Mangling.function] using hparam
  have hresult : (if convertsResult s.result then
      Conversion.convert .toExternal a.scope s.result (a.delegating s) 0
      else a.delegating s).Calls fun e => Ordinary e ∨ e = a.corePath s := by
    split
    · exact convert_calls hordinary a.dotfree_scope hcall 0
    · exact hcall
  rw [Function.called, body_wrapper] at he
  exact Stmt.callsEach_single_ret hresult e he

/--
Members call ordinary functions, functions of the core and constructors of definitions that are not
erased; only the constructor of an action calls its own whatever the definition is.
-/
theorem called_members {g : Function} (hg : g ∈ a.members) (he : e ∈ g.called) :
    Ordinary e ∨ (∃ s ∈ a.functions, e = a.corePath s) ∨
      ∃ d ∈ a.generationSet.definitions, ∃ v ∈ d.variants,
        e = Converter.constructor a.mangling d v ∧
          (d.isErased = false ∨ a.action? = some d ∧ g = a.constructor true d v) := by
  rcases member_cases hg with ⟨d, hd, v, hv, rfl⟩ | ⟨d, hd, v, hv, rfl⟩ | ⟨d, -, f, -, rfl⟩ |
    ⟨s, hs, rfl⟩
  · refine (called_constructor hv he).imp_right fun h => Or.inr ?_
    have herased : d.isErased = false := by simpa using h.1
    exact ⟨d, hd, v, hv, h.2, Or.inl herased⟩
  · refine (called_constructor hv he).imp_right fun h => Or.inr ?_
    exact ⟨d, domainType?_mem hd, v, hv, h.2, Or.inr ⟨hd, rfl⟩⟩
  · exact Or.inl (called_accessor he)
  · exact (called_wrapper he).imp_right fun h => Or.inl ⟨s, hs, h⟩

end App

namespace Generated

open Declaration (parse)

namespace Module

variable {m : Module} {d : Definition} {v : Variant} {f : Field}

/--
The path of a constructor is also that of a function of the core, or that of a constructor of
another definition with the same sanitized name, which is not erased or built as an action.
-/
def SharesPath (m : Module) (d : Definition) (v : Variant) : Prop :=
  (∃ d' ∈ m.generationSet.definitions, d' ≠ d ∧
      (d'.isErased = false ∨ m.app.action? = some d') ∧ d'.moduleName = d.moduleName ∧
      sanitize d'.name = sanitize d.name ∧ ∃ w ∈ d'.variants, w.name = v.name) ∨
    ∃ s ∈ m.functions, (m.app.corePath s).text = (Converter.constructor m.mangling d v).text

theorem converter_eq (m : Module) (d : Definition) (dir : Direction) :
    m.converter d dir = Converter.function m.mangling m.options.runtimeAlias d dir := by
  cases dir with
  | fromExternal => rfl
  | toExternal => rfl

theorem called_converter {g : Function} (hg : g ∈ m.converters) {e : Expr} (he : e ∈ g.called) :
    Ordinary e ∨ ∃ d ∈ m.generationSet.definitions, ∃ v ∈ d.variants,
      e = Converter.constructor m.mangling d v ∧ d.isErased = false := by
  obtain ⟨d, hd, dir, rfl⟩ := mem_converters.mp hg
  rw [converter_eq] at he
  rcases Converter.called_function he with h | ⟨herased, v, hv, h⟩
  · exact Or.inl h
  · exact Or.inr ⟨d, hd, v, hv, h, herased⟩

/-- The constructor of an erased wrapper is called as an action, or else its path is shared. -/
theorem called_erased (hdotless : ∀ d ∈ m.generationSet.definitions, ∀ v ∈ d.variants,
      Dotless v.name) (hd : d ∈ m.generationSet.definitions) (hv : d.variants = [v])
    (hf : v.fields = [f]) {g : Function} (hg : g ∈ m.converters ++ m.app.members) {e : Expr}
    (he : e ∈ g.called) (htext : e.text = (Converter.constructor m.mangling d v).text) :
    (m.app.action? = some d ∧ g = m.app.constructor true d v) ∨ m.SharesPath d v := by
  have hmem : v ∈ d.variants := hv ▸ List.mem_cons_self
  have herased : d.isErased := Definition.isErased_iff.mpr ⟨v, f, hv, hf⟩
  have hcalled : Ordinary e ∨ (∃ s ∈ m.functions, e = m.app.corePath s) ∨
      ∃ d ∈ m.generationSet.definitions, ∃ v ∈ d.variants,
        e = Converter.constructor m.mangling d v ∧
          (d.isErased = false ∨ m.app.action? = some d ∧ g = m.app.constructor true d v) := by
    rcases List.mem_append.mp hg with hg | hg
    · rcases called_converter hg he with h | ⟨d, hd, v, hv, h, hd'⟩
      · exact Or.inl h
      · exact Or.inr (Or.inr ⟨d, hd, v, hv, h, Or.inl hd'⟩)
    · exact App.called_members hg he
  rcases hcalled with h | ⟨s, hs, rfl⟩ | ⟨d', hd', w, hw, rfl, hbuilt⟩
  · exact absurd htext (h.text_ne m.mangling (hdotless d hd v hmem) d.moduleName d.name)
  · exact Or.inr (Or.inr ⟨s, hs, htext⟩)
  · obtain ⟨hmodule, htype, hvariant⟩ :=
      (m.mangling.text_constructor_inj (hdotless d' hd' w hw) (hdotless d hd v hmem)).mp htext
    by_cases hsame : d' = d
    · -- the wrapper itself is erased, so it is built as an action
      subst d'
      obtain rfl : w = v := List.mem_singleton.mp (hv ▸ hw)
      refine Or.inl (hbuilt.resolve_left fun h => ?_)
      rw [herased] at h
      cases h
    · have hother := hbuilt.imp_right And.left
      exact Or.inr (Or.inl ⟨d', hd', hsame, hother, hmodule, htype, w, hw, hvariant⟩)

end Module

/--
In the module for a declared catalog, no converter and no member calls the constructor of an erased
wrapper, unless the wrapper is the action type and the member its constructor, or the path of the
constructor is shared. Converters read and write the field in place of the value, the constructor
returns the converted field, and accessors take the model for the field; only an action is built.
-/
theorem erased_elided {text : String} {c : Catalog} {o : Options} {m : Module} {d : Definition}
    {v : Variant} {f : Field} (hc : (parse text).outcome = .ok c)
    (hm : (module c o).outcome = .ok m) (hd : d ∈ m.generationSet.definitions)
    (hv : d.variants = [v]) (hf : v.fields = [f]) :
    (∀ g ∈ m.converters ++ m.app.members, ∀ e ∈ g.called,
        e.text = (Converter.constructor m.mangling d v).text →
        (m.app.action? = some d ∧ g = m.app.constructor true d v) ∨ m.SharesPath d v) ∧
      (∀ dir, (m.converter d dir).body = Converter.erasedBody m.options.runtimeAlias d f dir) ∧
      (m.app.constructor false d v).body = [.ret (m.app.constructorParam false f).2] ∧
      (∀ g, (m.app.accessor d g).body = m.app.accessorBody g (.name "m")) ∧
      (m.app.constructor true d v).body = [.ret (m.app.building true d v)] := by
  have hdotless : ∀ d ∈ m.generationSet.definitions, ∀ v ∈ d.variants, Dotless v.name :=
    fun d hd v hv => Declaration.dotless_variant_of_parse hc
      (Catalog.mem_of_resolve (module_eq hm).1 hd).1 hv
  refine ⟨fun g hg e he => Module.called_erased hdotless hd hv hf hg he, fun dir => ?_,
    App.body_constructor_erased hv hf, fun g => ?_, App.body_constructor_action⟩
  · rw [Module.converter_eq, Converter.body_erased hv hf]
  · have herased : d.isErased = true := Definition.isErased_iff.mpr ⟨v, f, hv, hf⟩
    rw [App.body_accessor, App.modelField, if_pos herased]

/-- Identities are erased where users are made. -/
def users : String := "module M { datatype Id = Id(n: int) datatype User = User(id: Id, age: int) }"

def idVariant : Variant := ⟨"Id", [⟨"n", .int "int"⟩]⟩

def idWrapper : Definition := ⟨"M", "Id", [idVariant], []⟩

def userDatatype : Definition :=
  ⟨"M", "User", [⟨"User", [⟨"id", .datatype "Id" []⟩, ⟨"age", .int "int"⟩]⟩], []⟩

def usersModule : Module := ⟨⟨"M", [idWrapper, userDatatype], []⟩, [], {}, .escaping⟩

theorem erased_elided_users :
    ∃ c m d v f, (parse users).outcome = .ok c ∧ (module c {}).outcome = .ok m ∧
      d ∈ m.generationSet.definitions ∧ d.variants = [v] ∧ v.fields = [f] ∧
      (Converter.constructor m.mangling d v).text = "M.Id.create_Id" ∧
      ∀ g ∈ m.converters ++ m.app.members, ∀ e ∈ g.called, e.text ≠ "M.Id.create_Id" := by
  have hc : (parse users).outcome = .ok ⟨[idWrapper, userDatatype], []⟩ := by decide +kernel
  have hm : (module ⟨[idWrapper, userDatatype], []⟩ {}).outcome = .ok usersModule := rfl
  have hd : idWrapper ∈ usersModule.generationSet.definitions := List.mem_cons_self
  have htext : (Converter.constructor usersModule.mangling idWrapper idVariant).text =
      "M.Id.create_Id" := by decide
  refine ⟨_, usersModule, idWrapper, idVariant, _, hc, hm, hd, rfl, rfl, htext,
    fun g hg e he h => ?_⟩
  rcases (erased_elided hc hm hd rfl rfl).1 g hg e he (h.trans htext.symm) with
    ⟨haction, -⟩ | ⟨d', hd', hne, -, -, hname, -⟩ | ⟨s, hs, -⟩
  · have hnone : usersModule.app.action? = none := by decide
    rw [hnone] at haction
    cases haction
  · rcases List.mem_cons.mp hd' with rfl | hd'
    · exact hne rfl
    · obtain rfl := List.mem_singleton.mp hd'
      exact absurd hname (by decide)
  · cases hs

def incVariant : Variant := ⟨"Inc", [⟨"n", .int "int"⟩]⟩

def incAction : Definition := ⟨"M", "Action", [incVariant], []⟩

def incModule : Module := ⟨⟨"M", [incAction], []⟩, [], {}, .escaping⟩

/-- An action of one field is erased, and its constructor is called all the same. -/
theorem erased_action_constructed :
    ∃ c m d v g e,
      (parse "module M { datatype Action = Inc(n: int) }").outcome = .ok c ∧
      (module c {}).outcome = .ok m ∧ d ∈ m.generationSet.definitions ∧
      d.shape = .erasedWrapper ∧ v ∈ d.variants ∧ g ∈ m.app.members ∧ e ∈ g.called ∧
      e = Converter.constructor m.mangling d v := by
  have hmembers : incModule.app.members =
      [incModule.app.constructor true incAction incVariant] := rfl
  refine ⟨⟨[incAction], []⟩, incModule, incAction, incVariant,
    incModule.app.constructor true incAction incVariant, _, by decide +kernel, rfl,
    List.mem_cons_self, rfl, List.mem_cons_self, ?_, ?_, rfl⟩
  · rw [hmembers]
    exact List.mem_cons_self
  · rw [Function.called, App.body_constructor_action]
    exact List.mem_cons_self

/-- Two datatypes with one sanitized name, and a function where their constructors are. -/
def alikes : String :=
  "module M { datatype K? = q(n: int) datatype K_ = q(n: int) | o }
  module M.K_ { function create?(n: int): int }"

def alikeWrapper : Definition := ⟨"M", "K?", [⟨"q", [⟨"n", .int "int"⟩]⟩], []⟩

def alikeDatatype : Definition := ⟨"M", "K_", [⟨"q", [⟨"n", .int "int"⟩]⟩, ⟨"o", []⟩], []⟩

def alikeFunction : Signature := ⟨"M.K_", "create?", [⟨"n", .int "int"⟩], .int "int"⟩

def alikeModule : Module :=
  ⟨⟨"M", [alikeWrapper, alikeDatatype], []⟩, [alikeFunction], { appCoreModule := "M.K_" }, .escaping⟩

/-- The path of the constructor of an erased wrapper is that of another one, and of a function. -/
theorem erased_path_shared :
    ∃ c m d v s, (parse alikes).outcome = .ok c ∧
      (module c { appCoreModule := "M.K_" }).outcome = .ok m ∧
      d ∈ m.generationSet.definitions ∧ d.shape = .erasedWrapper ∧ v ∈ d.variants ∧
      m.app.action? = none ∧ m.app.wrapper s ∈ m.app.members ∧
      (∃ g ∈ m.converters, Converter.constructor m.mangling d v ∈ g.called) ∧
      ∃ e ∈ (m.app.wrapper s).called, e.text = (Converter.constructor m.mangling d v).text := by
  have hconverter : alikeModule.converter alikeDatatype .fromExternal ∈ alikeModule.converters :=
    List.mem_of_getElem? (i := 2) rfl
  have hwrapper : alikeModule.app.wrapper alikeFunction ∈ alikeModule.app.members :=
    List.mem_of_getElem? (i := 2) rfl
  have hcore : (alikeModule.app.corePath alikeFunction).text = "M.K_.create_q" := by decide
  have htext : (Converter.constructor alikeModule.mangling alikeWrapper
      ⟨"q", [⟨"n", .int "int"⟩]⟩).text = "M.K_.create_q" := by decide
  refine ⟨⟨[alikeWrapper, alikeDatatype], [alikeFunction]⟩, alikeModule, alikeWrapper, _,
    alikeFunction, by decide +kernel, rfl, List.mem_cons_self, rfl, List.mem_cons_self, by decide,
    hwrapper, ⟨_, hconverter, ?_⟩, alikeModule.app.corePath alikeFunction, ?_,
    hcore.trans htext.symm⟩
  · -- the field is fetched first
    exact List.mem_of_getElem? (i := 1) rfl
  · rw [Function.called, App.body_wrapper]
    exact List.mem_cons_of_mem _ List.mem_cons_self

end Generated

end Marshal
