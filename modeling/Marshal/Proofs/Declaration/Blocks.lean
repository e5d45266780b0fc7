import Marshal.Proofs.Catalog.References
import Marshal.Proofs.Declaration.Meaning
import Marshal.Proofs.Matching

/-!
# Modules that are declared in several blocks

Within one block the datatypes have different names. Blocks may have the same module name, and then
nothing keeps their datatypes apart: a definition is found by its module and name in the catalog
exactly if no two concrete blocks of one module declare datatypes of the same name.
-/

namespace Marshal.Declaration
set_option autoImplicit false

def ModuleDecl.Apart (m m' : ModuleDecl) : Prop :=
  m.name.text = m'.name.text → ∀ d ∈ m.datatypes, ∀ d' ∈ m'.datatypes, d.name ≠ d'.name

def ModuleDecl.paths (m : ModuleDecl) : List (String × String) :=
  m.datatypes.map fun d => (m.name.text, d.name)

theorem ModuleDecl.nodup_paths {m : ModuleDecl} (h : m.Distinct) : m.paths.Nodup := by
  have hpaths : m.paths = (m.datatypes.map (·.name)).map (m.name.text, ·) := by
    rw [paths, List.map_map]
    rfl
  rw [hpaths]
  exact h.1.map fun a b hab => (Prod.mk.inj hab).2

theorem ModuleDecl.apart_iff_disjoint (m m' : ModuleDecl) :
    m.Apart m' ↔ m.paths.Disjoint m'.paths := by
  constructor
  · intro h p hp hp'
    obtain ⟨d, hd, rfl⟩ := List.mem_map.mp hp
    obtain ⟨d', hd', heq⟩ := List.mem_map.mp hp'
    obtain ⟨hmodule, hname⟩ := Prod.mk.inj heq
    exact h hmodule.symm d hd d' hd' hname.symm
  · intro h hmodule d hd d' hd' hname
    refine h (List.mem_map.mpr ⟨d, hd, rfl⟩) (List.mem_map.mpr ⟨d', hd', ?_⟩)
    rw [hmodule, hname]

/-- The catalog has the datatypes of the concrete blocks, one after the other. -/
theorem IsCatalogOf.paths {ms : List ModuleDecl} {c : Catalog} (h : IsCatalogOf ms c) :
    c.definitions.map (·.path) = (concreteModules ms).flatMap (·.paths) := by
  obtain ⟨parts, hparts, hdefinitions, -⟩ := h
  have hpart (m : ModuleDecl) (part : Catalog)
      (hm : m.Denotes (knownNames (concreteModules ms)) part) :
      m.paths = part.definitions.map (·.path) :=
    forall₂_map_eq (fun d def' hd => Prod.ext hd.1.symm hd.2.1.symm) hm.1
  rw [hdefinitions, List.map_flatMap, List.flatMap_def, List.flatMap_def,
    forall₂_map_eq hpart hparts]

theorem nodup_paths_iff {ms : List ModuleDecl} (h : ∀ m ∈ ms, m.Distinct) :
    (ms.flatMap (·.paths)).Nodup ↔ ms.Pairwise ModuleDecl.Apart := by
  have hblocks : ∀ m ∈ ms, m.paths.Nodup := fun m hm => ModuleDecl.nodup_paths (h m hm)
  rw [List.nodup_flatMap, and_iff_right hblocks]
  exact List.Pairwise.iff fun m m' => (m.apart_iff_disjoint m').symm

theorem IsCatalogOf.uniqueNames_iff {ms : List ModuleDecl} {c : Catalog} (h : IsCatalogOf ms c)
    (hv : Valid ms) : c.UniqueNames ↔ (concreteModules ms).Pairwise ModuleDecl.Apart := by
  rw [Catalog.UniqueNames, h.paths]
  exact nodup_paths_iff fun m hm => hv.distinct m (List.mem_of_mem_filter hm)

theorem IsCatalogOf.paths_definitionsIn {ms : List ModuleDecl} {c : Catalog} (h : IsCatalogOf ms c)
    (name : String) :
    (c.definitionsIn name).map (·.path) =
      ((concreteModules ms).filter (·.name.text == name)).flatMap (·.paths) := by
  have hpart (m : ModuleDecl) :
      m.paths.filter (·.1 == name) = if m.name.text == name then m.paths else [] := by
    have hall : ∀ p ∈ m.paths, p.1 = m.name.text := by
      intro p hp
      obtain ⟨d, -, rfl⟩ := List.mem_map.mp hp
      rfl
    split
    · rename_i hm
      exact List.filter_eq_self.mpr fun p hp => by rw [hall p hp, hm]
    · rename_i hm
      exact List.filter_eq_nil_iff.mpr fun p hp => by rwa [hall p hp]
  have hdefinitions : (c.definitionsIn name).map (·.path) =
      (c.definitions.map (·.path)).filter (·.1 == name) := by
    rw [List.filter_map]
    rfl
  rw [hdefinitions, h.paths, List.filter_flatMap]
  simp only [hpart]
  induction concreteModules ms with
  | nil => rfl
  | cons m ms ih =>
    rw [List.flatMap_cons, ih, List.filter_cons]
    cases m.name.text == name <;> rfl

/-- The names of one module are unique exactly if its blocks declare different datatypes. -/
theorem IsCatalogOf.nodup_names_iff {ms : List ModuleDecl} {c : Catalog} (h : IsCatalogOf ms c)
    (hv : Valid ms) (name : String) :
    ((c.definitionsIn name).map (·.name)).Nodup ↔
      ((concreteModules ms).filter (·.name.text == name)).Pairwise ModuleDecl.Apart := by
  have hpath : (c.definitionsIn name).map (·.path) =
      ((c.definitionsIn name).map (·.name)).map (name, ·) := by
    rw [List.map_map]
    refine List.map_congr_left fun d hd => Prod.ext ?_ rfl
    exact eq_of_beq (List.mem_filter.mp hd).2
  rw [← List.nodup_map_iff (f := (name, ·)) fun a b hab => (Prod.mk.inj hab).2, ← hpath,
    h.paths_definitionsIn]
  refine nodup_paths_iff fun m hm => ?_
  exact hv.distinct m (List.mem_of_mem_filter (List.mem_of_mem_filter hm))

/-- A declared catalog has unique names exactly if blocks of one module declare different datatypes;
nothing in a text that has a catalog prevents that they declare the same. -/
theorem uniqueNames_of_parse_iff {text : String} {ms : List ModuleDecl} {c : Catalog}
    (hms : Renders ms text.toList) (hc : (parse text).outcome = .ok c) :
    c.UniqueNames ↔ (concreteModules ms).Pairwise ModuleDecl.Apart := by
  obtain ⟨hv, hcatalog⟩ := catalogOf_outcome_eq_ok.mp ((parse_of_renders hms).mp hc)
  exact hcatalog.uniqueNames_iff hv

/-- Lights and shades in two blocks of one module. -/
def twoBlocks : String := "module M { datatype Light = On | Off } module M { datatype Shade = Up }"

def twoBlocksModules : List ModuleDecl :=
  [⟨false, ⟨["M"]⟩, [.datatype ⟨"Light", [], false, [⟨"On", none⟩, ⟨"Off", none⟩]⟩]⟩,
    ⟨false, ⟨["M"]⟩, [.datatype ⟨"Shade", [], false, [⟨"Up", none⟩]⟩]⟩]

theorem uniqueNames_twoBlocks :
    ∃ c, Renders twoBlocksModules twoBlocks.toList ∧ (parse twoBlocks).outcome = .ok c ∧
      (c.UniqueNames ↔ (concreteModules twoBlocksModules).Pairwise ModuleDecl.Apart) := by
  have hms : Renders twoBlocksModules twoBlocks.toList := read_eq_ok_iff.mp (by decide +kernel)
  have hc : (parse twoBlocks).outcome =
      .ok ⟨[⟨"M", "Light", [⟨"On", []⟩, ⟨"Off", []⟩], []⟩,
        ⟨"M", "Shade", [⟨"Up", []⟩], []⟩], []⟩ := by
    decide +kernel
  exact ⟨_, hms, hc, uniqueNames_of_parse_iff hms hc⟩

/-- A datatype that is declared again in another block of its module is in the catalog twice. -/
theorem not_uniqueNames_reopened :
    ∃ c, (parse "module M { datatype D = A } module M { datatype D = B }").outcome = .ok c ∧
      ¬ c.UniqueNames := by
  refine ⟨⟨[⟨"M", "D", [⟨"A", []⟩], []⟩, ⟨"M", "D", [⟨"B", []⟩], []⟩], []⟩, ?_, ?_⟩
  · decide +kernel
  · decide

end Marshal.Declaration
