import Marshal.Proofs.Catalog.References
import Marshal.Proofs.Closure.GenerationSet

/-!
# The definitions of a generation set

If the roots are the definitions of the root module, a generation set is made of definitions of the
catalog with reachable names, and every reachable name that has a definition at all has one in it.
-/

namespace Marshal.Catalog
set_option autoImplicit false

variable {c : Catalog} {m n : String} {signatures : List Signature} {set : GenerationSet}
  {d : Definition}

theorem mem_lookup : d ∈ c.lookup n ↔ d ∈ c.definitions ∧ d.name = n := by
  simp [lookup]

theorem mem_definitionsIn : d ∈ c.definitionsIn m ↔ d ∈ c.definitions ∧ d.moduleName = m := by
  simp [definitionsIn]

theorem mem_candidates :
    d ∈ c.candidates m n ↔ (d ∈ c.definitions ∧ d.name = n) ∧ d.moduleName ≠ m := by
  rw [candidates, List.mem_filter, mem_lookup]
  simp

theorem added?_eq_some {roots : List Definition} (h : c.added? m roots n = some d) :
    d ∈ c.candidates m n := by
  rw [added?] at h
  split at h
  · cases h
  · exact List.mem_of_mem_head? h

theorem filter_definitionsIn (c : Catalog) (m : String) :
    (c.definitionsIn m).filter (·.moduleName == m) = c.definitionsIn m := by
  simp [definitionsIn]

/-- The definitions of the root module, and what the reachable names add to them. -/
theorem resolve_definitions
    (h : (c.resolve (c.definitionsIn m) signatures (some m)).outcome = .ok set) :
    set.definitions = c.definitionsIn m ++
      (c.reachable (c.definitionsIn m) signatures).filterMap (c.added? m (c.definitionsIn m)) := by
  have hout := resolveFrom_outcome c m (c.definitionsIn m) signatures
  simp only [filter_definitionsIn] at hout
  have hset : (c.resolveFrom m (c.definitionsIn m) signatures).outcome = .ok set := h
  rw [hset] at hout
  split at hout
  · cases hout
  · cases hout
    rfl

theorem mem_of_resolve
    (h : (c.resolve (c.definitionsIn m) signatures (some m)).outcome = .ok set)
    (hd : d ∈ set.definitions) :
    d ∈ c.definitions ∧ d.name ∈ c.reachable (c.definitionsIn m) signatures := by
  rw [resolve_definitions h] at hd
  rcases List.mem_append.mp hd with hd | hd
  · refine ⟨List.mem_of_mem_filter hd, ?_⟩
    exact mem_reachable_of_startNames (mem_startNames.mpr (.inr ⟨d, hd, rfl⟩))
  · obtain ⟨n, hn, hadded⟩ := List.mem_filterMap.mp hd
    obtain ⟨⟨hmem, rfl⟩, -⟩ := mem_candidates.mp (added?_eq_some hadded)
    exact ⟨hmem, hn⟩

theorem exists_of_reachable
    (h : (c.resolve (c.definitionsIn m) signatures (some m)).outcome = .ok set)
    (hn : n ∈ c.reachable (c.definitionsIn m) signatures) (hd : c.Defines n) :
    ∃ d ∈ set.definitions, d.name = n := by
  rw [resolve_definitions h]
  cases hroot : rootNamed? (c.definitionsIn m) n with
  | some d =>
    obtain ⟨hmem, hname⟩ := List.mem_filter.mp (List.mem_of_getLast? hroot)
    exact ⟨d, List.mem_append_left _ hmem, by simpa using hname⟩
  | none =>
    obtain ⟨e, he, rfl⟩ := hd
    -- no root has the name, so none of its definitions is in the root module
    have hmodule : e.moduleName ≠ m := by
      intro hm
      have hroots : e ∈ (c.definitionsIn m).filter (·.name == e.name) := by
        simp [definitionsIn, he, hm]
      rw [rootNamed?, List.getLast?_eq_none_iff] at hroot
      rw [hroot] at hroots
      exact absurd hroots List.not_mem_nil
    have hcandidate := mem_candidates.mpr ⟨⟨he, rfl⟩, hmodule⟩
    cases hhead : (c.candidates m e.name).head? with
    | none =>
      rw [List.head?_eq_none_iff.mp hhead] at hcandidate
      exact absurd hcandidate List.not_mem_nil
    | some d =>
      have hadded : c.added? m (c.definitionsIn m) e.name = some d := by
        rw [added?, hroot]
        exact hhead
      refine ⟨d, List.mem_append_right _ (List.mem_filterMap.mpr ⟨e.name, hn, hadded⟩), ?_⟩
      exact (mem_candidates.mp (added?_eq_some hadded)).1.2

/-- The root module keeps its definitions, and nothing is added to it. -/
theorem filter_of_resolve
    (h : (c.resolve (c.definitionsIn m) signatures (some m)).outcome = .ok set) :
    set.definitions.filter (·.moduleName == m) = c.definitionsIn m := by
  have hadded : ((c.reachable (c.definitionsIn m) signatures).filterMap
      (c.added? m (c.definitionsIn m))).filter (·.moduleName == m) = [] := by
    refine List.filter_eq_nil_iff.mpr fun d hd => ?_
    obtain ⟨n, -, hn⟩ := List.mem_filterMap.mp hd
    simpa using (mem_candidates.mp (added?_eq_some hn)).2
  rw [resolve_definitions h, List.filter_append, filter_definitionsIn, hadded, List.append_nil]

theorem rootModule_of_resolve
    (h : (c.resolve (c.definitionsIn m) signatures (some m)).outcome = .ok set) :
    set.rootModule = m := by
  have hout := resolveFrom_outcome c m (c.definitionsIn m) signatures
  have hset : (c.resolveFrom m (c.definitionsIn m) signatures).outcome = .ok set := h
  simp only at hout
  rw [hset] at hout
  split at hout
  · cases hout
  · cases hout
    rfl

theorem name_of_added? {roots : List Definition} (h : c.added? m roots n = some d) :
    d.name = n ∧ ∀ r ∈ roots, r.name ≠ n := by
  refine ⟨(mem_candidates.mp (added?_eq_some h)).1.2, fun r hr hname => ?_⟩
  rw [added?] at h
  split at h
  · cases h
  · rename_i hnone
    rw [rootNamed?, List.getLast?_eq_none_iff, List.filter_eq_nil_iff] at hnone
    exact hnone r hr (beq_iff_eq.mpr hname)

/-- Resolution keeps bare names apart, except for those of the root module. -/
theorem nodup_names_of_resolve
    (h : (c.resolve (c.definitionsIn m) signatures (some m)).outcome = .ok set) :
    set.names.Nodup ↔ ((c.definitionsIn m).map (·.name)).Nodup := by
  have hadded {ns : List String} (hns : ns.Nodup) :
      ((ns.filterMap (c.added? m (c.definitionsIn m))).map (·.name)).Nodup := by
    rw [List.map_filterMap]
    refine hns.filterMap fun n n' a hn hn' => ?_
    obtain ⟨d, hd, rfl⟩ := Option.map_eq_some_iff.mp hn
    obtain ⟨d', hd', hname⟩ := Option.map_eq_some_iff.mp hn'
    rw [← (name_of_added? hd).1, ← (name_of_added? hd').1, hname]
  rw [GenerationSet.names, resolve_definitions h, List.map_append, List.nodup_append]
  constructor
  · exact fun h => h.1
  · intro hroots
    refine ⟨hroots, hadded nodup_reachable, fun a ha b hb => ?_⟩
    obtain ⟨d, hd, rfl⟩ := List.mem_map.mp hb
    obtain ⟨n, -, hn⟩ := List.mem_filterMap.mp hd
    obtain ⟨r, hr, rfl⟩ := List.mem_map.mp ha
    rw [(name_of_added? hn).1]
    exact (name_of_added? hn).2 r hr

end Marshal.Catalog
