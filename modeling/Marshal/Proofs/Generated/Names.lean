import Marshal.Options
import Marshal.Proofs.Closure.Members

/-!
# The names of a generation set

The definitions of a generation set are definitions of the catalog with reachable names, and every
reachable name that has a definition at all has one in the set. So the set is closed under
references as soon as everything that is referred to is defined.
-/

namespace Marshal.Catalog
set_option autoImplicit false

variable {c : Catalog} {o : Options} {set : GenerationSet}

def domainDefinitions (c : Catalog) (o : Options) : List Definition :=
  c.definitionsIn (c.domainModule o)

def generationNames (c : Catalog) (o : Options) : List String :=
  c.reachable (c.domainDefinitions o) (c.functionsIn o.appCoreModule)

theorem mem_of_generationSet (h : (c.generationSet o).outcome = .ok set) {d : Definition}
    (hd : d ∈ set.definitions) : d ∈ c.definitions ∧ d.name ∈ c.generationNames o :=
  mem_of_resolve h hd

theorem generated_of_generationNames (h : (c.generationSet o).outcome = .ok set) {n : String}
    (hn : n ∈ c.generationNames o) (hd : c.Defines n) : ∃ d ∈ set.definitions, d.name = n :=
  exists_of_reachable h hn hd

theorem generated_of_field (hc : c.NamesDefined) (h : (c.generationSet o).outcome = .ok set)
    {d : Definition} (hd : d ∈ set.definitions) {f : Field} (hf : f ∈ d.fields) {r : String}
    (hr : r ∈ f.type.references) : ∃ e ∈ set.definitions, e.name = r := by
  obtain ⟨hmem, hname⟩ := mem_of_generationSet h hd
  have hreferences : r ∈ c.referencesOf d.name := by
    refine List.mem_flatMap.mpr ⟨d, by simp [lookup, hmem], ?_⟩
    exact List.mem_flatMap.mpr ⟨f.type, List.mem_map.mpr ⟨f, hf, rfl⟩, hr⟩
  exact generated_of_generationNames h (mem_reachable_of_referencesOf hname hreferences)
    (hc.fields d hmem f hf r hr)

theorem generated_of_function (hc : c.NamesDefined) (h : (c.generationSet o).outcome = .ok set)
    {s : Signature} (hs : s ∈ c.functionsIn o.appCoreModule) {r : String}
    (hr : r ∈ s.references) : ∃ e ∈ set.definitions, e.name = r := by
  refine generated_of_generationNames h ?_ (hc.functions s (List.mem_of_mem_filter hs) r hr)
  exact mem_reachable_of_startNames (mem_startNames.mpr (.inl ⟨s, hs, hr⟩))

end Marshal.Catalog
