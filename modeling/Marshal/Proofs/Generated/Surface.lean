import Marshal.Proofs.Closure.Members
import Marshal.Proofs.Declaration.Blocks
import Marshal.Proofs.Generated.Converters
import Marshal.Surface

/-!
# Surfaces and modules

A surface is described exactly if a module is generated, and it lists the definitions that get
converters there. The action type is looked for twice: a surface shows the last definition of that
name in the domain module, and the App class constructs the first one. They are the same wherever the
blocks of a module declare different datatypes.
-/

namespace Marshal
set_option autoImplicit false

open Declaration (ModuleDecl Renders concreteModules parse read_eq_ok_iff)
open Generated (Module)

namespace Catalog

variable {c : Catalog} {o : Options}

/-- The definitions of the domain module that have the name of actions. -/
def actionTypes (c : Catalog) (o : Options) : List Definition :=
  (c.definitionsIn (c.domainModule o)).filter (·.name == o.actionType)

/-- How a surface shows an action type. -/
def actionEntries : Option Definition → List ConstructorEntry
  | some d => constructorEntries d.variants
  | none => []

theorem surfaceActions_eq : c.surfaceActions o = actionEntries (c.actionTypes o).getLast? := by
  rw [actionTypes, List.getLast?_filter, surfaceActions]
  cases (c.definitionsIn (c.domainModule o)).reverse.find? (·.name == o.actionType) <;> rfl

theorem UniqueNames.actionTypes_length_le_one (h : c.UniqueNames) :
    (c.actionTypes o).length ≤ 1 := by
  have hnodup : ((c.actionTypes o).map (·.path)).Nodup := by
    refine List.Sublist.nodup ?_ h
    exact ((List.filter_sublist).trans List.filter_sublist).map _
  have hpath : ∀ p ∈ (c.actionTypes o).map (·.path), p = (c.domainModule o, o.actionType) := by
    intro p hp
    obtain ⟨d, hd, rfl⟩ := List.mem_map.mp hp
    obtain ⟨hd, hname⟩ := List.mem_filter.mp hd
    exact Prod.ext (mem_definitionsIn.mp hd).2 (eq_of_beq hname)
  rw [← List.length_map (·.path), List.eq_replicate_of_mem hpath, List.length_replicate]
  rw [List.eq_replicate_of_mem hpath] at hnodup
  exact List.nodup_replicate.mp hnodup

theorem UniqueNames.getLast?_actionTypes (h : c.UniqueNames) :
    (c.actionTypes o).getLast? = (c.actionTypes o).head? := by
  have hlength : (c.actionTypes o).length ≤ 1 := h.actionTypes_length_le_one
  match c.actionTypes o, hlength with
  | [], _ => rfl
  | [d], _ => rfl

theorem surface_outcome (c : Catalog) (o : Options) :
    (c.surface o).outcome = (c.generationSet o).outcome.map fun set =>
      ⟨c.surfaceModel o, c.surfaceActions o,
        (c.definitions.filter (·.name != o.actionType)).map fun d =>
          ⟨d.name, d.moduleName, constructorEntries d.variants⟩,
        (c.functionsIn o.appCoreModule).map fun s =>
          ⟨s.name, fieldEntries s.parameters, s.result.text⟩,
        set.definitions.map (·.fullName)⟩ := by
  rw [surface, Report.outcome_bind]
  cases (c.generationSet o).outcome <;> rfl

end Catalog

namespace Generated

variable {c : Catalog} {o : Options} {set : GenerationSet}

theorem module_outcome {mangling : Naming.Mangling} (h : o.mangling = .ok mangling) :
    (module c o).outcome =
      ((c.generationSet o).outcome.mapError GenerationError.ambiguous).map fun set =>
        ⟨set, c.functionsIn o.appCoreModule, o, mangling⟩ := by
  rw [module, Report.outcome_bind]
  change (c.generationSet o).outcome.mapError GenerationError.ambiguous >>= _ = _
  cases (c.generationSet o).outcome with
  | error a => rfl
  | ok set =>
    simp only [Except.mapError, h]
    rfl

/-- The App class constructs the first action type. -/
theorem action?_eq (h : (c.generationSet o).outcome = .ok set) (signatures : List Signature)
    (mangling : Naming.Mangling) :
    (Module.mk set signatures o mangling).app.action? = (c.actionTypes o).head? := by
  rw [Catalog.actionTypes, ← Catalog.filter_of_resolve h, List.filter_filter, List.head?_filter,
    App.action?, App.domainType?, ← Catalog.rootModule_of_resolve h]
  simp only [Bool.and_comm]
  rfl

/-- A surface lists what gets converters, and shows the last of the action types; the App class
constructs the first one. -/
structure Module.ShownBy (m : Module) (actionTypes : List Definition) (s : Surface) : Prop where
  converters : ∃ ds : List Definition, s.generationSet = ds.map (·.fullName) ∧
    m.converterLines =
      ds.flatMap (Converter.pairLines m.options.typed m.mangling m.options.runtimeAlias)
  shown : s.actions = Catalog.actionEntries actionTypes.getLast?
  constructed : m.app.action? = actionTypes.head?

/--
For a declared catalog, a surface fails exactly if no module is generated, with the same ambiguity.
Otherwise it lists the definitions that get converters, and the action type that it shows is the one
of the App class, if blocks of one module declare different datatypes.
-/
theorem surface_agrees {text : String} {ms : List ModuleDecl} {mangling : Naming.Mangling}
    (hms : Renders ms text.toList) (hc : (parse text).outcome = .ok c)
    (ho : o.mangling = .ok mangling) :
    (∀ e, (module c o).outcome = .error e ↔
        ∃ a, e = .ambiguous a ∧ (c.surface o).outcome = .error a) ∧
      ∀ s, (c.surface o).outcome = .ok s → ∃ m, (module c o).outcome = .ok m ∧
        m.ShownBy (c.actionTypes o) s ∧
        ((c.actionTypes o).getLast? = none ↔ m.app.action? = none) ∧
        ((concreteModules ms).Pairwise ModuleDecl.Apart →
          (c.actionTypes o).getLast? = m.app.action?) := by
  rw [c.surface_outcome o, module_outcome ho]
  cases hset : (c.generationSet o).outcome with
  | error a =>
    refine ⟨fun e => ?_, fun s hs => nomatch hs⟩
    simp [Except.mapError, Except.map, eq_comm]
  | ok set =>
    refine ⟨fun e => by simp [Except.mapError, Except.map], fun s hs => ?_⟩
    cases hs
    have hfirst := action?_eq hset (c.functionsIn o.appCoreModule) mangling
    refine ⟨_, rfl, ⟨⟨set.definitions, rfl, rfl⟩, Catalog.surfaceActions_eq, hfirst⟩, ?_, ?_⟩
    · rw [hfirst, List.getLast?_eq_none_iff, List.head?_eq_none_iff]
    · intro hapart
      obtain ⟨hv, hcatalog⟩ :=
        Declaration.catalogOf_outcome_eq_ok.mp ((Declaration.parse_of_renders hms).mp hc)
      have hunique : c.UniqueNames := (hcatalog.uniqueNames_iff hv).mpr hapart
      rw [hfirst, hunique.getLast?_actionTypes]

/-- A counter and its actions, in two blocks of one module. -/
def counter : String :=
  "module M { datatype Model = Model(n: int) } module M { datatype Action = Inc | Dec }"

def counterBlocks : List ModuleDecl :=
  [⟨false, ⟨["M"]⟩,
    [.datatype ⟨"Model", [], false, [⟨"Model", some [⟨false, "n", .named ⟨["int"]⟩ []⟩]⟩]⟩]⟩,
    ⟨false, ⟨["M"]⟩, [.datatype ⟨"Action", [], false, [⟨"Inc", none⟩, ⟨"Dec", none⟩]⟩]⟩]

def counterCatalog : Catalog :=
  ⟨[⟨"M", "Model", [⟨"Model", [⟨"n", .int "int"⟩]⟩], []⟩,
    ⟨"M", "Action", [⟨"Inc", []⟩, ⟨"Dec", []⟩], []⟩], []⟩

theorem surface_agrees_counter :
    ∃ ms c s m, Renders ms counter.toList ∧ (parse counter).outcome = .ok c ∧
      (c.surface {}).outcome = .ok s ∧ (module c {}).outcome = .ok m ∧
      m.ShownBy (c.actionTypes {}) s ∧ (c.actionTypes {}).getLast? = m.app.action? := by
  have hms : Renders counterBlocks counter.toList := read_eq_ok_iff.mp (by decide +kernel)
  have hc : (parse counter).outcome = .ok counterCatalog := by decide +kernel
  obtain ⟨-, hagrees⟩ := surface_agrees (o := {}) hms hc rfl
  have hapart : (concreteModules counterBlocks).Pairwise ModuleDecl.Apart :=
    List.pairwise_pair.mpr fun _ => by decide
  have hs : (counterCatalog.surface {}).outcome = .ok _ := rfl
  obtain ⟨m, hm, hshown, -, hsame⟩ := hagrees _ hs
  exact ⟨counterBlocks, counterCatalog, _, m, hms, hc, hs, hm, hshown, hsame hapart⟩

/-- The action type of the second block is shown, that of the first one is constructed. -/
theorem surface_disagrees_reopened :
    ∃ c s m,
      (parse "module M { datatype Action = A } module M { datatype Action = B }").outcome = .ok c ∧
      (c.surface {}).outcome = .ok s ∧ (module c {}).outcome = .ok m ∧
      s.actions = [⟨"B", []⟩] ∧ Catalog.actionEntries m.app.action? = [⟨"A", []⟩] := by
  refine ⟨⟨[⟨"M", "Action", [⟨"A", []⟩], []⟩, ⟨"M", "Action", [⟨"B", []⟩], []⟩], []⟩, _, _, ?_, rfl,
    rfl, ?_, ?_⟩
  · decide +kernel
  · decide
  · decide

end Generated

end Marshal
