import Marshal.Generated.Module
import Marshal.Proofs.Declaration.References
import Marshal.Proofs.Generated.Exports
import Marshal.Proofs.Generated.Globals
import Marshal.Proofs.Generated.Names

/-!
# Converters of a module

No converter is missing and none is left out: every converter name that generated code uses has a
definition among the converters of the module, and the App class exports every converter once.
-/

namespace Marshal.Generated
set_option autoImplicit false

open Code (Behind Function behind_append)
open Naming (IsConverterName)

namespace Module

variable {m : Module} {d : Definition} {n : String}

def converter (m : Module) (d : Definition) : Direction → Function
  | .fromExternal => Converter.fromJson m.mangling m.options.runtimeAlias d
  | .toExternal => Converter.toJson m.mangling m.options.runtimeAlias d

def converters (m : Module) : List Function :=
  m.generationSet.definitions.flatMap fun d =>
    [m.converter d .fromExternal, m.converter d .toExternal]

/-- Some line of the converters begins the definition of a function with a name. -/
def Defines (m : Module) (n : String) : Prop :=
  ∃ line ∈ m.converterLines, ∃ rest, line = "def " ++ n ++ "(" ++ rest

theorem converter_name (dir : Direction) :
    (m.converter d dir).name = dir.converterName d.name := by
  cases dir <;> rfl

theorem mem_converters {f : Function} :
    f ∈ m.converters ↔ ∃ d ∈ m.generationSet.definitions, ∃ dir, f = m.converter d dir := by
  constructor
  · intro h
    obtain ⟨d, hd, h⟩ := List.mem_flatMap.mp h
    rcases List.mem_cons.mp h with rfl | h
    · exact ⟨d, hd, .fromExternal, rfl⟩
    · exact ⟨d, hd, .toExternal, List.mem_singleton.mp h⟩
  · rintro ⟨d, hd, dir, rfl⟩
    refine List.mem_flatMap.mpr ⟨d, hd, ?_⟩
    cases dir with
    | fromExternal => exact List.mem_cons_self
    | toExternal => exact List.mem_cons_of_mem _ List.mem_cons_self

theorem mem_converterLines {line : String} :
    line ∈ m.converterLines ↔ ∃ d ∈ m.generationSet.definitions,
      line = "" ∨ ∃ dir, line ∈ (m.converter d dir).lines m.options.typed "" := by
  rw [converterLines, List.mem_flatMap]
  refine exists_congr fun d => and_congr_right fun _ => ?_
  rw [Converter.pairLines, List.mem_append, List.mem_append]
  constructor
  · rintro ((h | h) | h)
    · exact .inr ⟨.fromExternal, h⟩
    · exact .inl (by simpa using h)
    · exact .inr ⟨.toExternal, h⟩
  · rintro (rfl | ⟨_ | _, h⟩)
    · exact .inl (.inr List.mem_cons_self)
    · exact .inr h
    · exact .inl (.inl h)

theorem behind_header (f : Function) (typed : Bool) :
    Behind ("def " ++ f.name ++ "(") ("" ++ f.header typed) := by
  rw [String.empty_append, Function.header]
  exact (((behind_append _ _).append ")").append _).append ":"

/-- Names are what stands in front of the first parenthesis. -/
theorem eq_of_append_parenthesis {a b x y : String} (ha : IsConverterName a)
    (hb : IsConverterName b) (h : "def " ++ a ++ "(" ++ x = "def " ++ b ++ "(" ++ y) : a = b := by
  have hstop {a : String} (ha : IsConverterName a) (x : String) :
      (a.toList ++ '(' :: x.toList).takeWhile (· != '(') = a.toList := by
    rw [List.takeWhile_append_of_pos, List.takeWhile_cons_of_neg (by decide), List.append_nil]
    intro c hc
    have hc := ha.isIdentifierChar c hc
    rw [bne_iff_ne]
    rintro rfl
    cases hc
  have h := congrArg String.toList h
  simp only [String.toList_append, List.append_assoc] at h
  have htail : a.toList ++ '(' :: x.toList = b.toList ++ '(' :: y.toList := (List.append_inj h rfl).2
  exact String.toList_inj.mp (by rw [← hstop ha x, htail, hstop hb y])

theorem defines_of_mem (hd : d ∈ m.generationSet.definitions) (dir : Direction) :
    m.Defines (dir.converterName d.name) := by
  refine ⟨_, mem_converterLines.mpr ⟨d, hd, .inr ⟨dir, List.mem_cons_self⟩⟩, ?_⟩
  rw [← converter_name]
  exact behind_header _ _

theorem mem_of_defines (hn : IsConverterName n) (h : m.Defines n) :
    ∃ d ∈ m.generationSet.definitions, ∃ dir : Direction, n = dir.converterName d.name := by
  obtain ⟨line, hline, rest, rfl⟩ := h
  obtain ⟨d, hd, h | ⟨dir, h⟩⟩ := mem_converterLines.mp hline
  · have h := congrArg String.toList h
    simp at h
  · rcases Function.mem_lines h with h | ⟨rest', h⟩
    · obtain ⟨rest', hheader⟩ := behind_header (m.converter d dir) m.options.typed
      rw [hheader, converter_name] at h
      exact ⟨d, hd, dir, eq_of_append_parenthesis hn ⟨dir, d.name, rfl⟩ h⟩
    · have h := congrArg String.toList h
      simp [Code.indent] at h

/-- Converters are defined where they are used, and exported once. -/
structure Complete (m : Module) : Prop where
  fields : ∀ d ∈ m.generationSet.definitions, ∀ f ∈ d.fields, ∀ r ∈ f.type.references,
    ∀ dir : Direction, m.Defines (dir.converterName r)
  functions : ∀ s ∈ m.functions, ∀ r ∈ s.references, ∀ dir : Direction,
    m.Defines (dir.converterName r)
  globals : ∀ f ∈ m.converters ++ m.app.members, ∀ n ∈ f.globals, IsConverterName n → m.Defines n
  exports : ∀ line ∈ m.app.exportLines,
    ∃ n, IsConverterName n ∧ m.Defines n ∧ line = App.exportLine n
  exported : ∀ n, IsConverterName n → m.Defines n → m.app.lines.count (App.exportLine n) = 1

theorem ambient (m : Module) : Ambient fun n => IsConverterName n → m.Defines n where
  builtin _ hn h := absurd h (Naming.not_isConverterName_of_builtins hn)
  bound _ hb depth h := absurd h (Naming.not_isConverterName_placeholder hb depth)
  none h := absurd h Naming.not_isConverterName_none

/-- What is referred to needs a definition; the rest follows. -/
theorem complete_of_references
    (hfields : ∀ d ∈ m.generationSet.definitions, ∀ f ∈ d.fields, ∀ r ∈ f.type.references,
      ∃ e ∈ m.generationSet.definitions, e.name = r)
    (hfunctions : ∀ s ∈ m.functions, ∀ r ∈ s.references,
      ∃ e ∈ m.generationSet.definitions, e.name = r) : m.Complete := by
  have hdefines {r : String} (h : ∃ e ∈ m.generationSet.definitions, e.name = r)
      (dir : Direction) : m.Defines (dir.converterName r) := by
    obtain ⟨e, he, rfl⟩ := h
    exact defines_of_mem he dir
  have hfields : ∀ d ∈ m.generationSet.definitions, ∀ f ∈ d.fields, ∀ r ∈ f.type.references,
      ∀ dir : Direction, m.Defines (dir.converterName r) :=
    fun d hd f hf r hr => hdefines (hfields d hd f hf r hr)
  have hfunctions : ∀ s ∈ m.functions, ∀ r ∈ s.references, ∀ dir : Direction,
      m.Defines (dir.converterName r) := fun s hs r hr => hdefines (hfunctions s hs r hr)
  refine ⟨hfields, hfunctions, fun f hf => ?_, fun line hline => ?_, fun n hn h => ?_⟩
  · rcases List.mem_append.mp hf with hf | hf
    · obtain ⟨d, hd, dir, rfl⟩ := mem_converters.mp hf
      cases dir with
      | fromExternal =>
        exact Converter.globals_fromJson m.ambient
          (fun f hf r hr dir _ => hfields d hd f hf r hr dir) m.mangling
      | toExternal =>
        exact Converter.globals_toJson m.ambient
          (fun f hf r hr dir _ => hfields d hd f hf r hr dir) m.mangling
    · exact App.globals_members m.ambient (fun d hd f hf r hr dir _ => hfields d hd f hf r hr dir)
        (fun s hs r hr dir _ => hfunctions s hs r hr dir) f hf
  · rw [App.exportLines_eq] at hline
    obtain ⟨n, hn, rfl⟩ := List.mem_map.mp hline
    obtain ⟨d, hd, dir, rfl⟩ := App.mem_exported.mp hn
    exact ⟨_, ⟨dir, d.name, rfl⟩, defines_of_mem hd dir, rfl⟩
  · exact App.count_exportLine (App.mem_exported.mpr (mem_of_defines hn h))

end Module

theorem module_eq {c : Catalog} {o : Options} {m : Module} (h : (module c o).outcome = .ok m) :
    (c.generationSet o).outcome = .ok m.generationSet ∧
      m.functions = c.functionsIn o.appCoreModule := by
  obtain ⟨set, hset, h⟩ := Report.bind_outcome_eq_ok.mp h
  obtain ⟨_, -, h⟩ := Report.bind_outcome_eq_ok.mp h
  obtain ⟨mangling, -, h⟩ := Report.bind_outcome_eq_ok.mp h
  obtain ⟨_, -, h⟩ := Report.bind_outcome_eq_ok.mp h
  cases h
  exact ⟨Report.mapError_outcome_eq_ok.mp hset, rfl⟩

/--
Generated modules define every converter that they use, if every datatype that the catalog refers to
has a definition, which is the case for catalogs of declarations.
-/
theorem module_complete {c : Catalog} {o : Options} {m : Module}
    (hc : (∃ text, (Declaration.parse text).outcome = .ok c) ∨ c.NamesDefined)
    (hm : (module c o).outcome = .ok m) : m.Complete := by
  have hc : c.NamesDefined := by
    rcases hc with ⟨text, hc⟩ | hc
    · exact Declaration.namesDefined_of_parse hc
    · exact hc
  obtain ⟨hset, hfunctions⟩ := module_eq hm
  refine Module.complete_of_references (fun d hd f hf r hr => ?_) fun s hs r hr => ?_
  · exact Catalog.generated_of_field hc hset hd hf hr
  · exact Catalog.generated_of_function hc hset (hfunctions ▸ hs) hr

/-- Trees and their owners, declared in two modules, and a function that plants trees. -/
def trees : Catalog where
  definitions :=
    [{ moduleName := "Trees", name := "Tree", typeParams := []
       variants :=
        [⟨"Node", [⟨"owner", .datatype "User" []⟩, ⟨"trees", .seq (.datatype "Tree" [])⟩]⟩] },
      { moduleName := "Users", name := "User", typeParams := []
        variants := [⟨"Guest", []⟩, ⟨"Member", []⟩] }]
  functions := [⟨"AppCore", "Plant", [⟨"owner", .datatype "User" []⟩], .datatype "Tree" []⟩]

def treesModule : Module where
  generationSet := { rootModule := "Trees", definitions := trees.definitions, merged := [] }
  functions := trees.functions
  options := {}
  mangling := .escaping

theorem trees_namesDefined : trees.NamesDefined := by
  have hfields : ∀ d ∈ trees.definitions, ∀ f ∈ d.fields, ∀ r ∈ f.type.references,
      ∃ e ∈ trees.definitions, e.name = r := by decide
  have hfunctions : ∀ s ∈ trees.functions, ∀ r ∈ s.references,
      ∃ e ∈ trees.definitions, e.name = r := by decide
  exact ⟨hfields, hfunctions⟩

theorem treesModule_complete :
    trees.NamesDefined ∧ (module trees {}).outcome = .ok treesModule ∧ treesModule.Complete :=
  ⟨trees_namesDefined, rfl, module_complete (o := {}) (.inr trees_namesDefined) rfl⟩

end Marshal.Generated
