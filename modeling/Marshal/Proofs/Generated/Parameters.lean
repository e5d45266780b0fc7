import Marshal.Proofs.Converter.Temporaries
import Marshal.Proofs.Declaration.Names
import Marshal.Proofs.Generated.Erasure

/-!
# Names of parameters

Parameters are named for fields, for parameters of functions and for type parameters. A function can
only be defined if these become different names: fields and type parameters do unless two of them
match, parameters of functions moreover have to be different from the start, which is not checked.
-/

namespace Marshal
set_option autoImplicit false

open Code (Expr Function Param)
open Converter (holder mem_J_param typeParamConverters)
open Declaration (parse)
open Naming (Matching identifier identifier_eq_iff sanitize sanitize_eq_iff spelled)

def Code.Function.paramNames (f : Function) : List String := f.params.map (·.name)

/-- Names of which different ones do not match, spelled in some way. -/
def Naming.Unmatched (spell : String → String) (ns : List String) : Prop :=
  ∀ a ∈ ns, ∀ b ∈ ns, Matching (spell a) (spell b) → a = b

instance (spell : String → String) (ns : List String) : Decidable (Naming.Unmatched spell ns) :=
  inferInstanceAs (Decidable (∀ a ∈ ns, ∀ b ∈ ns, Matching (spell a) (spell b) → a = b))

/-- What is made of names has no repetition if they have none and do not match. -/
theorem Naming.nodup_map_iff {spell made : String → String} {ns : List String}
    (hmade : ∀ a b, made a = made b ↔ Matching (spell a) (spell b)) :
    (ns.map made).Nodup ↔ ns.Nodup ∧ Unmatched spell ns := by
  constructor
  · intro h
    refine ⟨h.of_map, fun a ha b hb hab => ?_⟩
    exact List.inj_on_of_nodup_map h ha hb ((hmade a b).mpr hab)
  · rintro ⟨hns, hunmatched⟩
    exact hns.map_on fun a ha b hb hab => hunmatched a ha b hb ((hmade a b).mp hab)

theorem Naming.nodup_identifiers_iff {ns : List String} :
    (ns.map identifier).Nodup ↔ ns.Nodup ∧ Unmatched spelled ns :=
  nodup_map_iff fun _ _ => identifier_eq_iff

namespace Converter

variable {dir : Direction} {d : Definition}

/-- Type parameters count once, however often they are declared. -/
theorem nodup_typeParamConverters_iff :
    ((typeParamConverters dir d).map (·.2)).Nodup ↔ Naming.Unmatched id d.genericParams := by
  have hmade (p q : String) :
      sanitize p ++ paramEnding dir = sanitize q ++ paramEnding dir ↔ Matching (id p) (id q) :=
    (String.append_left_inj _).trans sanitize_eq_iff
  have hfresh : (extendFresh [] d.genericParams).Nodup := nodup_extendFresh List.nodup_nil
  have hmem {p : String} : p ∈ extendFresh [] d.genericParams ↔ p ∈ d.genericParams :=
    mem_extendFresh.trans (or_iff_right List.not_mem_nil)
  have hparams : (typeParamConverters dir d).map (·.2) =
      (extendFresh [] d.genericParams).map fun p => sanitize p ++ paramEnding dir := by
    rw [typeParamConverters, List.map_map]
    rfl
  rw [hparams, Naming.nodup_map_iff hmade, and_iff_right hfresh]
  constructor
  · exact fun h p hp q hq => h p (hmem.mpr hp) q (hmem.mpr hq)
  · exact fun h p hp q hq => h p (hmem.mp hp) q (hmem.mp hq)

theorem holder_not_mem : holder dir ∉ (typeParamConverters dir d).map (·.2) := by
  intro h
  obtain ⟨p, -, hp⟩ := mem_typeParamConverters.mp h
  have hJ : 'J' ∈ (holder dir).toList := by
    rw [hp]
    exact mem_J_param
  cases dir <;> exact absurd hJ (by decide)

end Converter

namespace App

variable {a : App}

theorem names_of_params {param : Field → Param × Expr}
    (hp : ∀ f, param f = a.passed f ∨ param f = a.converted f) (fs : List Field) :
    ((fs.map param).map (·.1)).map (·.name) = (fs.map (·.name)).map identifier := by
  rw [List.map_map, List.map_map, List.map_map]
  refine List.map_congr_left fun f _ => ?_
  simp only [Function.comp_apply, param_name hp]

theorem paramNames_constructor (isAction : Bool) (d : Definition) (v : Variant) :
    (a.constructor isAction d v).paramNames = (v.fields.map (·.name)).map identifier :=
  names_of_params (constructorParam_cases isAction) v.fields

theorem paramNames_wrapper (s : Signature) :
    (a.wrapper s).paramNames = (s.parameters.map (·.name)).map identifier :=
  names_of_params wrapperParam_cases s.parameters

theorem nodup_paramNames_accessor (d : Definition) (f : Field) :
    (a.accessor d f).paramNames.Nodup := by
  unfold accessor
  cases f.type.mapArgs? with
  | none => exact List.nodup_singleton _
  | some p => exact (by decide : ["m", "key"].Nodup)

end App

namespace Generated

namespace Module

variable {m : Module}

theorem nodup_paramNames_converter (d : Definition) (dir : Direction) :
    (m.converter d dir).paramNames.Nodup ↔ Naming.Unmatched id d.genericParams := by
  rw [converter_eq, Function.paramNames, Converter.params_eq, List.nodup_cons,
    and_iff_right Converter.holder_not_mem, Converter.nodup_typeParamConverters_iff]

end Module

/--
When the functions of the module for a declared catalog can be defined: converters if no two
different type parameters match, constructors if no two different fields do, accessors always, and
wrappers if no two different parameters match and none is repeated.
-/
theorem nodup_paramNames {text : String} {c : Catalog} {o : Options} {m : Module} {g : Function}
    (hc : (parse text).outcome = .ok c) (hm : (module c o).outcome = .ok m)
    (hg : g ∈ m.converters ++ m.app.members) :
    (∃ d ∈ m.generationSet.definitions, ∃ dir, g = m.converter d dir ∧
        (g.paramNames.Nodup ↔ Naming.Unmatched id d.genericParams)) ∨
      (∃ d ∈ m.generationSet.definitions, ∃ v ∈ d.variants, ∃ isAction,
        g = m.app.constructor isAction d v ∧
          (g.paramNames.Nodup ↔ Naming.Unmatched spelled (v.fields.map (·.name)))) ∨
      (∃ d, m.app.model? = some d ∧ ∃ f ∈ m.app.modelFields, g = m.app.accessor d f ∧
        g.paramNames.Nodup) ∨
      ∃ s ∈ m.functions, g = m.app.wrapper s ∧
        (g.paramNames.Nodup ↔ (s.parameters.map (·.name)).Nodup ∧
          Naming.Unmatched spelled (s.parameters.map (·.name))) := by
  have hconstructor (isAction : Bool) {d : Definition} (hd : d ∈ m.generationSet.definitions)
      {v : Variant} (hv : v ∈ d.variants) :
      (m.app.constructor isAction d v).paramNames.Nodup ↔
        Naming.Unmatched spelled (v.fields.map (·.name)) := by
    have hfields : (v.fields.map (·.name)).Nodup :=
      Declaration.nodup_fields_of_parse hc (Catalog.mem_of_resolve (module_eq hm).1 hd).1 hv
    rw [App.paramNames_constructor, Naming.nodup_identifiers_iff, and_iff_right hfields]
  rcases List.mem_append.mp hg with hg | hg
  · obtain ⟨d, hd, dir, rfl⟩ := Module.mem_converters.mp hg
    exact Or.inl ⟨d, hd, dir, rfl, Module.nodup_paramNames_converter d dir⟩
  rcases App.member_cases hg with ⟨d, hd, v, hv, rfl⟩ | ⟨d, hd, v, hv, rfl⟩ |
    ⟨d, hd, f, hf, rfl⟩ | ⟨s, hs, rfl⟩
  · exact Or.inr (Or.inl ⟨d, hd, v, hv, false, rfl, hconstructor false hd hv⟩)
  · have hmem : d ∈ m.generationSet.definitions := App.domainType?_mem hd
    exact Or.inr (Or.inl ⟨d, hmem, v, hv, true, rfl, hconstructor true hmem hv⟩)
  · exact Or.inr (Or.inr (Or.inl ⟨d, hd, f, hf, rfl, App.nodup_paramNames_accessor d f⟩))
  · refine Or.inr (Or.inr (Or.inr ⟨s, hs, rfl, ?_⟩))
    rw [App.paramNames_wrapper, Naming.nodup_identifiers_iff]

/-- Pairs and a function on them, next to a reserved word that is not taken. -/
def pairs : String :=
  "module AppCore { datatype Pair<A, B> = Pair(from: A, to: B) function Swap(x: int, y: int): int }"

def pairVariant : Variant := ⟨"Pair", [⟨"from", .typeParam "A"⟩, ⟨"to", .typeParam "B"⟩]⟩

def pairDatatype : Definition := ⟨"AppCore", "Pair", [pairVariant], ["A", "B"]⟩

def swapFunction : Signature :=
  ⟨"AppCore", "Swap", [⟨"x", .int "int"⟩, ⟨"y", .int "int"⟩], .int "int"⟩

def pairsModule : Module := ⟨⟨"AppCore", [pairDatatype], []⟩, [swapFunction], {}, .escaping⟩

theorem nodup_paramNames_pairs :
    ∃ c m, (parse pairs).outcome = .ok c ∧ (module c {}).outcome = .ok m ∧
      (m.converters ++ m.app.members).map (·.paramNames) =
        [["json", "A_fromJson", "B_fromJson"], ["value", "A_toJson", "B_toJson"], ["from_", "to"],
          ["x", "y"]] ∧
      ∀ g ∈ m.converters ++ m.app.members, g.paramNames.Nodup := by
  have hc : (parse pairs).outcome = .ok ⟨[pairDatatype], [swapFunction]⟩ := by decide +kernel
  have hm : (module ⟨[pairDatatype], [swapFunction]⟩ {}).outcome = .ok pairsModule := rfl
  refine ⟨_, pairsModule, hc, hm, by decide +kernel, fun g hg => ?_⟩
  rcases nodup_paramNames hc hm hg with ⟨e, he, dir, -, hiff⟩ | ⟨e, he, w, hw, isAction, -, hiff⟩ |
    ⟨e, -, f, -, -, hnodup⟩ | ⟨t, ht, -, hiff⟩
  · obtain rfl := List.mem_singleton.mp he
    exact hiff.mpr (by decide +kernel)
  · obtain rfl := List.mem_singleton.mp he
    obtain rfl := List.mem_singleton.mp hw
    exact hiff.mpr (by decide +kernel)
  · exact hnodup
  · obtain rfl := List.mem_singleton.mp ht
    exact hiff.mpr (by decide +kernel)

def repeatedFunction : Signature :=
  ⟨"AppCore", "F", [⟨"x", .int "int"⟩, ⟨"x", .int "int"⟩], .int "int"⟩

def repeatedModule : Module := ⟨⟨"Domain", [], []⟩, [repeatedFunction], {}, .escaping⟩

/-- A parameter of a function is declared twice, and so is that of its wrapper. -/
theorem paramNames_repeated :
    ∃ c m g, (parse "module AppCore { function F(x: int, x: int): int }").outcome = .ok c ∧
      (module c {}).outcome = .ok m ∧ g ∈ m.app.members ∧ g.paramNames = ["x", "x"] := by
  have hmembers : repeatedModule.app.members = [repeatedModule.app.wrapper repeatedFunction] := rfl
  refine ⟨⟨[], [repeatedFunction]⟩, repeatedModule, repeatedModule.app.wrapper repeatedFunction,
    by decide +kernel, rfl, ?_, rfl⟩
  rw [hmembers]
  exact List.mem_cons_self

end Generated

end Marshal
