import Marshal.Proofs.App.Offering
import Marshal.Proofs.App.Writing
import Marshal.Proofs.Declaration.Named

/-!
# Identifiers in generated modules

Names of members and parameters are made usable, and names of the runtime are escaped behind a
beginning of their own. Only on the way to a constructor or a function the names of modules, types
and functions stand by themselves: there nobody looks after reserved words.
-/

namespace Marshal
set_option autoImplicit false

open Code (Expr Function)
open Conversion (Affords WrittenWith)
open Declaration (IsName parse)
open Naming (Leading Mangling Usable components escapeName identifier isIdentifierChar
  reservedWords sanitize usable_append usable_identifier)

namespace Naming.Mangling

/-- What the runtime spells by escaping can be used behind a beginning that reserved words lack. -/
theorem usable_member {p n : String} (hp : Wordlike p)
    (hnone : ∀ w ∈ reservedWords, ¬ p.toList <+: w.toList) (hn : IsName n) :
    Usable (p ++ Mangling.escaping.apply n) := usable_append hp hnone hn.chars_escapeName

theorem usable_constructorName {v : String} (hv : IsName v) :
    Usable (Mangling.escaping.constructorName v) := usable_member (by decide) (by decide) hv

theorem usable_variantFlag {v : String} (hv : IsName v) :
    Usable (Mangling.escaping.variantFlag v) := usable_member (by decide) (by decide) hv

theorem usable_fieldAttribute {f : String} (hf : IsName f) :
    Usable (Mangling.escaping.fieldAttribute f) := usable_member (by decide) (by decide) hf

end Naming.Mangling

open Naming.Mangling (usable_constructorName usable_fieldAttribute usable_variantFlag)

theorem Definition.Named.isName_field {d : Definition} (h : d.Named) {v : Variant}
    (hv : v ∈ d.variants) {f : Field} (hf : f ∈ v.fields) : IsName f.name :=
  h.field f (mem_fields hv hf)

/-- The path of a constructor is made of the parts of its module, its type and its own name. -/
theorem components_constructor {d : Definition} (h : d.Named) {v : Variant} (hv : v ∈ d.variants)
    (m : Mangling) :
    components (Converter.constructor m d v).text =
      components d.moduleName ++ [sanitize d.name, m.constructorName v.name] := by
  have hvariant := m.dotless_constructorName (h.variant v hv).dotless
  rw [Converter.constructor, Mangling.text_constructor, Naming.components_append,
    Naming.components_append, Naming.components_of_dotless (Naming.dotless_sanitize _),
    Naming.components_of_dotless hvariant, List.append_assoc]
  rfl

theorem components_function {n : String} (h : IsName n) (m : Mangling) (moduleName : String) :
    components (m.function moduleName n).text = components moduleName ++ [m.apply n] := by
  have htext : (m.function moduleName n).text = moduleName ++ "." ++ m.apply n := rfl
  rw [htext, Naming.components_append, Naming.components_of_dotless (m.dotless_apply h.dotless)]

namespace App

variable {a : App}

theorem name_constructor (isAction : Bool) (d : Definition) (v : Variant) :
    (a.constructor isAction d v).name = identifier v.name := by simp only [constructor]

theorem name_wrapper (s : Signature) : (a.wrapper s).name = identifier s.name := by
  simp only [wrapper]

end App

namespace Generated

variable {c : Catalog} {o : Options} {m : Module}

theorem module_options (h : (module c o).outcome = .ok m) :
    m.options = o ∧ o.mangling = .ok m.mangling := by
  obtain ⟨set, -, h⟩ := Report.bind_outcome_eq_ok.mp h
  obtain ⟨_, -, h⟩ := Report.bind_outcome_eq_ok.mp h
  obtain ⟨mangling, hmangling, h⟩ := Report.bind_outcome_eq_ok.mp h
  obtain ⟨_, -, h⟩ := Report.bind_outcome_eq_ok.mp h
  cases h
  exact ⟨rfl, hmangling⟩

theorem named_of_module {text : String} (hc : (parse text).outcome = .ok c)
    (hm : (module c o).outcome = .ok m) :
    (∀ d ∈ m.generationSet.definitions, d.Named ∧ d.genericParams = d.typeParams) ∧
      ∀ s ∈ m.functions, s.Named ∧ s.moduleName = m.options.appCoreModule := by
  obtain ⟨hset, hfunctions⟩ := module_eq hm
  constructor
  · intro d hd
    have hmem := (Catalog.mem_of_resolve hset hd).1
    exact ⟨(Declaration.named_of_parse hc).definition d hmem,
      Declaration.genericParams_of_parse hc hmem⟩
  · intro s hs
    rw [hfunctions, Catalog.functionsIn, List.mem_filter, beq_iff_eq] at hs
    rw [(module_options hm).1]
    exact ⟨(Declaration.named_of_parse hc).function s hs.1, hs.2⟩

namespace Module

/-- A reserved word as the type on the way to a constructor, or as a function of the core. -/
def Reserved (m : Module) (object : Expr) (member : String) : Prop :=
  member ∈ reservedWords ∧
    ((∃ d ∈ m.generationSet.definitions,
        object = .name d.moduleName ∧ member = sanitize d.name) ∨
      ∃ s ∈ m.functions, .attr object member = m.app.corePath s)

/--
The names that the code of a module writes down are identifiers: those of functions, of parameters
and of whatever is selected, but for reserved words as types and functions. The path of a
constructor or function is made of identifiers if those of the module, and the type or function, are
not reserved, and if the module has no marks in its name.
-/
structure Identifiers (m : Module) : Prop where
  helper : ∀ h ∈ Helper.all m.options.runtimeAlias,
    Usable h.name ∧ ∀ n ∈ h.params.map (·.name), Usable n
  function : ∀ g ∈ m.converters ++ m.app.members, Usable g.name ∧ ∀ n ∈ g.paramNames, Usable n
  member : ∀ g ∈ m.converters ++ m.app.members, ∀ object a, .attr object a ∈ g.parts →
    Usable a ∨ m.Reserved object a
  runtime : ∀ d ∈ m.generationSet.definitions, ∀ v ∈ d.variants,
    Usable (m.mangling.constructorName v.name) ∧ Usable (m.mangling.variantFlag v.name) ∧
      ∀ f ∈ v.fields, Usable (m.mangling.fieldAttribute f.name)
  constructor : ∀ d ∈ m.generationSet.definitions, ∀ v ∈ d.variants,
    (∀ p ∈ components (Converter.constructor m.mangling d v).text, Usable p) ↔
      d.name ∉ reservedWords ∧ ∀ p ∈ components d.moduleName,
        (∀ c ∈ p.toList, isIdentifierChar c) ∧ p ∉ reservedWords
  core : ∀ s ∈ m.functions, (∀ p ∈ components (m.app.corePath s).text, Usable p) ↔
    s.name ∉ reservedWords ∧ ∀ p ∈ components m.options.appCoreModule,
      (∀ c ∈ p.toList, isIdentifierChar c) ∧ p ∉ reservedWords

theorem usable_helpers (runtime : String) :
    ∀ h ∈ Helper.all runtime, Usable h.name ∧ ∀ n ∈ h.params.map (·.name), Usable n := by
  intro h hh
  simp only [Helper.all, List.mem_cons, List.not_mem_nil, or_false] at hh
  rcases hh with rfl | rfl | rfl | rfl
  · decide
  · decide
  · decide
  · exact ⟨(by decide : Usable "_map_from_json"),
      (by decide : ∀ n ∈ ["obj", "key_from_json", "val_from_json"], Usable n)⟩

theorem usable_converter {d : Definition} (hd : d.Named) (hgeneric : d.genericParams = d.typeParams)
    (dir : Direction) :
    Usable (m.converter d dir).name ∧ ∀ n ∈ (m.converter d dir).paramNames, Usable n := by
  constructor
  · rw [converter_name]
    exact Naming.usable_converterName hd.name.leading dir
  · rw [converter_eq, Function.paramNames, Converter.params_eq, List.forall_mem_cons]
    refine ⟨by cases dir <;> decide, fun n hn => ?_⟩
    obtain ⟨p, hp, rfl⟩ := Converter.mem_typeParamConverters.mp hn
    exact Naming.usable_converterParam (hd.typeParam p (hgeneric ▸ hp)).leading dir

theorem usable_identifiers {fs : List Field} (h : ∀ f ∈ fs, IsName f.name) :
    ∀ n ∈ (fs.map (·.name)).map identifier, Usable n := by
  rw [List.forall_mem_map, List.forall_mem_map]
  exact fun f hf => usable_identifier (h f hf).ne_empty

theorem usable_member (hd : ∀ d ∈ m.generationSet.definitions, d.Named)
    (hs : ∀ s ∈ m.functions, s.Named) {g : Function} (hg : g ∈ m.app.members) :
    Usable g.name ∧ ∀ n ∈ g.paramNames, Usable n := by
  have hconstructor (isAction : Bool) {d : Definition} (hmem : d ∈ m.generationSet.definitions)
      {v : Variant} (hv : v ∈ d.variants) :
      Usable (m.app.constructor isAction d v).name ∧
        ∀ n ∈ (m.app.constructor isAction d v).paramNames, Usable n := by
    rw [App.name_constructor, App.paramNames_constructor]
    exact ⟨usable_identifier ((hd d hmem).variant v hv).ne_empty,
      usable_identifiers fun f hf => (hd d hmem).isName_field hv hf⟩
  rcases App.member_cases hg with ⟨d, hmem, v, hv, rfl⟩ | ⟨d, hmem, v, hv, rfl⟩ |
    ⟨d, hmem, f, hf, rfl⟩ | ⟨s, hmem, rfl⟩
  · exact hconstructor false hmem hv
  · exact hconstructor true (App.domainType?_mem hmem) hv
  · rw [App.name_accessor, App.Origin.paramNames_accessor]
    refine ⟨usable_identifier (Naming.accessorName_ne_empty _), ?_⟩
    split <;> decide
  · rw [App.name_wrapper, App.paramNames_wrapper]
    exact ⟨usable_identifier (hs s hmem).name.ne_empty, usable_identifiers (hs s hmem).parameter⟩

section Escaping
variable (hmangling : m.mangling = .escaping)
include hmangling

theorem selectable {d : Definition} (hmem : d ∈ m.generationSet.definitions) (hd : d.Named) :
    d.Selectable m.mangling (fun _ => True) fun object a => Usable a ∨ m.Reserved object a := by
  rw [hmangling]
  refine ⟨trivial, ?_, ?_, ?_, ?_⟩
  · by_cases h : sanitize d.name ∈ reservedWords
    · exact Or.inr ⟨h, Or.inl ⟨d, hmem, rfl, rfl⟩⟩
    · exact Or.inl ⟨Naming.wordlike_sanitize hd.name.leading, h⟩
  · exact fun v hv => Or.inl (usable_constructorName (hd.variant v hv))
  · exact fun v hv _ => Or.inl (usable_variantFlag (hd.variant v hv))
  · exact fun f hf _ => Or.inl (usable_fieldAttribute (hd.field f hf))

theorem usable_core {s : Signature} (hmem : s ∈ m.functions) (hs : s.Named) :
    Usable (m.mangling.apply s.name) ∨
      m.Reserved (.name m.options.appCoreModule) (m.mangling.apply s.name) := by
  by_cases h : m.mangling.apply s.name ∈ reservedWords
  · exact Or.inr ⟨h, Or.inr ⟨s, hmem, rfl⟩⟩
  · refine Or.inl ⟨?_, h⟩
    rw [hmangling]
    exact hs.name.wordlike_escapeName

theorem usable_selected (hd : ∀ d ∈ m.generationSet.definitions, d.Named)
    (hs : ∀ s ∈ m.functions, s.Named) {g : Function} (hg : g ∈ m.converters ++ m.app.members)
    {object : Expr} {a : String} (ha : .attr object a ∈ g.parts) :
    Usable a ∨ m.Reserved object a := by
  have hselectable := fun d hmem => selectable hmangling (d := d) hmem (hd d hmem)
  have hsupplies (g : Function) (s : Scope) :
      Supplies g s (fun _ => True) fun object a => Usable a ∨ m.Reserved object a :=
    ⟨⟨fun _ _ => trivial, fun _ _ _ => trivial, trivial, fun _ _ => trivial, fun _ _ => trivial,
      fun _ _ => Or.inl⟩, fun _ _ => trivial, fun _ _ => trivial⟩
  have hbody : Code.Stmt.EachPart
      (WrittenWith (fun _ => True) fun object a => Usable a ∨ m.Reserved object a) g.body := by
    rcases List.mem_append.mp hg with hg | hg
    · obtain ⟨d, hmem, dir, rfl⟩ := mem_converters.mp hg
      rw [converter_eq]
      exact Converter.body_writes (hsupplies _ _) (hselectable d hmem)
    · exact App.member_writes hg (hsupplies _ _) trivial hselectable fun s hmem =>
        ⟨trivial, usable_core hmangling hmem (hs s hmem)⟩
  exact Function.forall_parts.mpr hbody _ ha

end Escaping

theorem forall_components_iff {n : String} (h : IsModuleName n) :
    (∀ p ∈ components n, Usable p) ↔
      ∀ p ∈ components n, (∀ c ∈ p.toList, isIdentifierChar c) ∧ p ∉ reservedWords :=
  forall₂_congr fun p hp => (h.components p hp).usable_iff

theorem usable_constructor_iff (hmangling : m.mangling = .escaping) {d : Definition} (hd : d.Named)
    {v : Variant} (hv : v ∈ d.variants) :
    (∀ p ∈ components (Converter.constructor m.mangling d v).text, Usable p) ↔
      d.name ∉ reservedWords ∧ ∀ p ∈ components d.moduleName,
        (∀ c ∈ p.toList, isIdentifierChar c) ∧ p ∉ reservedWords := by
  have hvariant : Usable (m.mangling.constructorName v.name) := by
    rw [hmangling]
    exact usable_constructorName (hd.variant v hv)
  rw [components_constructor hd hv, List.forall_mem_append, List.forall_mem_cons,
    List.forall_mem_singleton, and_iff_left hvariant, forall_components_iff hd.moduleName,
    Naming.usable_sanitize_iff hd.name.leading, and_comm]

theorem usable_core_iff (hmangling : m.mangling = .escaping) {s : Signature} (hs : s.Named)
    (hmodule : s.moduleName = m.options.appCoreModule) :
    (∀ p ∈ components (m.app.corePath s).text, Usable p) ↔
      s.name ∉ reservedWords ∧ ∀ p ∈ components m.options.appCoreModule,
        (∀ c ∈ p.toList, isIdentifierChar c) ∧ p ∉ reservedWords := by
  have hpath : m.app.corePath s = Mangling.escaping.function s.moduleName s.name := by
    rw [hmodule, ← hmangling]
    rfl
  rw [hpath, components_function hs.name, List.forall_mem_append, List.forall_mem_singleton,
    forall_components_iff hs.moduleName, hmodule, and_comm]
  exact and_congr_left' hs.name.usable_escapeName_iff

end Module

/-- The code for a declared catalog is written with identifiers, where the runtime escapes names. -/
theorem identifiers_of_parse {text : String} (hc : (parse text).outcome = .ok c)
    (hm : (module c o).outcome = .ok m) (ho : o.mangling = .ok .escaping) : m.Identifiers := by
  have hmangling : m.mangling = .escaping := Except.ok.inj ((module_options hm).2.symm.trans ho)
  obtain ⟨hdefinitions, hfunctions⟩ := named_of_module hc hm
  have hd : ∀ d ∈ m.generationSet.definitions, d.Named := fun d hmem => (hdefinitions d hmem).1
  have hs : ∀ s ∈ m.functions, s.Named := fun s hmem => (hfunctions s hmem).1
  refine ⟨Module.usable_helpers _, fun g hg => ?_, ?_, fun d hmem v hv => ?_, ?_, ?_⟩
  · rcases List.mem_append.mp hg with hg | hg
    · obtain ⟨d, hmem, dir, rfl⟩ := Module.mem_converters.mp hg
      exact Module.usable_converter (hd d hmem) (hdefinitions d hmem).2 dir
    · exact Module.usable_member hd hs hg
  · exact fun g hg object a ha => Module.usable_selected hmangling hd hs hg ha
  · rw [hmangling]
    exact ⟨usable_constructorName ((hd d hmem).variant v hv),
      usable_variantFlag ((hd d hmem).variant v hv),
      fun f hf => usable_fieldAttribute ((hd d hmem).isName_field hv hf)⟩
  · exact fun d hmem v hv => Module.usable_constructor_iff hmangling (hd d hmem) hv
  · exact fun s hmem => Module.usable_core_iff hmangling (hs s hmem) (hfunctions s hmem).2

def guardedDatatype : Definition :=
  ⟨"AppCore", "D", [⟨"class", [⟨"from", .typeParam "T"⟩]⟩, ⟨"D?", []⟩], ["T"]⟩

def guardedFunction : Signature := ⟨"AppCore", "f?", [⟨"in", .int "int"⟩], .int "int"⟩

/-- Reserved words as variants, fields and parameters, and names with marks. -/
def guardedModule : Module :=
  ⟨⟨"AppCore", [guardedDatatype], []⟩, [guardedFunction], {}, .escaping⟩

/-- Reserved words as variants, fields and parameters, and names with marks. -/
theorem identifiers_guarded :
    ∃ c m,
      (parse "module AppCore{datatype D<T>=class(from:T)|D? function f?(in:int):int}").outcome =
        .ok c ∧
      (module c {}).outcome = .ok m ∧ Options.mangling {} = .ok .escaping ∧
      m.app.members.map (fun g => (g.name, g.paramNames)) =
        [("class_", ["from_"]), ("D_", []), ("f_", ["in_"])] ∧ m.Identifiers := by
  have hc :
      (parse "module AppCore{datatype D<T>=class(from:T)|D? function f?(in:int):int}").outcome =
        .ok ⟨[guardedDatatype], [guardedFunction]⟩ := by decide +kernel
  have hm : (module ⟨[guardedDatatype], [guardedFunction]⟩ {}).outcome = .ok guardedModule := rfl
  exact ⟨_, guardedModule, hc, hm, rfl, by decide +kernel, identifiers_of_parse hc hm rfl⟩

def reservedDatatype : Definition := ⟨"AppCore", "class", [⟨"A", []⟩], []⟩

def reservedFunction : Signature := ⟨"AppCore", "from", [], .int "int"⟩

def reservedModule : Module :=
  ⟨⟨"AppCore", [reservedDatatype], []⟩, [reservedFunction], {}, .escaping⟩

/-- Members take care of reserved words, but not the paths of what they call. -/
theorem identifiers_reserved :
    ∃ c m, (parse "module AppCore { datatype class = A function from(): int }").outcome = .ok c ∧
      (module c {}).outcome = .ok m ∧ Options.mangling {} = .ok .escaping ∧
      m.app.members.map (fun g => (g.name, g.called.map fun e => components e.text)) =
        [("A", [["AppCore", "class", "create_A"]]),
          ("from_", [["_to_number"], ["AppCore", "from"]])] ∧
      ¬ Usable "class" ∧ ¬ Usable "from" := by
  have hc : (parse "module AppCore { datatype class = A function from(): int }").outcome =
      .ok ⟨[reservedDatatype], [reservedFunction]⟩ := by decide +kernel
  have hm : (module ⟨[reservedDatatype], [reservedFunction]⟩ {}).outcome = .ok reservedModule := rfl
  exact ⟨_, reservedModule, hc, hm, rfl, by decide +kernel, by decide, by decide⟩

end Generated

end Marshal
