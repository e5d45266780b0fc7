import Marshal.Proofs.Catalog.Collection

/-!
# Names that are reachable

The names that are found start with those of the signatures and roots and are closed under
references: the bound on the search is never what ends it. Nothing else is found, and no name is
found twice.
-/

namespace Marshal
set_option autoImplicit false

namespace Catalog
variable {c : Catalog} {done pending : List String} {n : String}

/-- One step of the search: what is new goes to the end of what is pending. -/
theorem follow_step (c : Catalog) (done : List String) (n : String) (pending : List String) :
    ∃ extra, extendFresh (done ++ n :: pending) (c.referencesOf n) =
        (done ++ [n]) ++ (pending ++ extra) ∧
      (extendFresh (done ++ n :: pending) (c.referencesOf n)).drop (done.length + 1) =
        pending ++ extra := by
  obtain ⟨extra, h⟩ := extendFresh_eq_append (done ++ n :: pending) (c.referencesOf n)
  have hfound : done ++ n :: pending ++ extra = (done ++ [n]) ++ (pending ++ extra) := by simp
  have hlength : done.length + 1 = (done ++ [n]).length := by simp
  refine ⟨extra, h.trans hfound, ?_⟩
  rw [h, hfound, hlength, List.drop_left]

theorem follow_nodup (fuel : Nat) (h : (done ++ pending).Nodup) :
    (c.follow done fuel pending).Nodup := by
  induction fuel generalizing done pending with
  | zero => exact h
  | succ fuel ih =>
    cases pending with
    | nil => simpa [follow] using h
    | cons n pending =>
      obtain ⟨extra, hfound, hdrop⟩ := follow_step c done n pending
      rw [follow, hdrop]
      exact ih (hfound ▸ nodup_extendFresh h)

theorem follow_subset (fuel : Nat) {k : String} (h : k ∈ done ++ pending) :
    k ∈ c.follow done fuel pending := by
  induction fuel generalizing done pending with
  | zero => exact h
  | succ fuel ih =>
    cases pending with
    | nil => simpa [follow] using h
    | cons n pending =>
      obtain ⟨extra, hfound, hdrop⟩ := follow_step c done n pending
      rw [follow, hdrop]
      exact ih (hfound ▸ mem_extendFresh.mpr (.inl h))

/-- Everything that some names refer to is among others. -/
def Refers (c : Catalog) (names others : List String) : Prop :=
  ∀ n ∈ names, ∀ k ∈ c.referencesOf n, k ∈ others

theorem mem_of_referencesOf {k : String} (h : k ∈ c.referencesOf n) :
    k ∈ c.definitions.flatMap (·.references) := by
  obtain ⟨d, hd, hk⟩ := List.mem_flatMap.mp h
  exact List.mem_flatMap.mpr ⟨d, List.mem_of_mem_filter hd, hk⟩

/-- Names that are at most as many as those searched leave nothing pending. -/
theorem pending_eq_nil {names : List String} (h : (done ++ pending).Nodup)
    (hs : done ++ pending ⊆ names) (hl : names.length ≤ done.length) : pending = [] := by
  have hle := (h.subperm hs).length_le
  rw [List.length_append] at hle
  exact List.length_eq_zero_iff.mp (by omega)

/-- If the names to be found are no more than the search allows, what it finds is closed. -/
theorem follow_closed {names : List String}
    (hnames : ∀ k ∈ c.definitions.flatMap (·.references), k ∈ names) (fuel : Nat)
    (h : (done ++ pending).Nodup) (hs : done ++ pending ⊆ names)
    (hd : c.Refers done (done ++ pending)) (hl : names.length ≤ fuel + done.length) :
    c.Refers (c.follow done fuel pending) (c.follow done fuel pending) := by
  induction fuel generalizing done pending with
  | zero =>
    obtain rfl := pending_eq_nil h hs (by omega)
    simpa [follow] using hd
  | succ fuel ih =>
    cases pending with
    | nil => simpa [follow] using hd
    | cons n pending =>
      obtain ⟨extra, hfound, hdrop⟩ := follow_step c done n pending
      rw [follow, hdrop]
      refine ih (hfound ▸ nodup_extendFresh h) ?_ ?_ ?_
      · rw [← hfound]
        intro k hk
        rcases mem_extendFresh.mp hk with hk | hk
        · exact hs hk
        · exact hnames k (mem_of_referencesOf hk)
      · rw [← hfound]
        intro m hm k hk
        rcases List.mem_append.mp hm with hm | hm
        · exact mem_extendFresh.mpr (.inl (hd m hm k hk))
        · exact mem_extendFresh.mpr (.inr (List.mem_singleton.mp hm ▸ hk))
      · rw [List.length_append, List.length_singleton]
        omega

variable {roots : List Definition} {signatures : List Signature}

/-- The names that are started with are those that signatures mention, then those of the roots. -/
theorem startNames_eq (roots : List Definition) (signatures : List Signature) :
    startNames roots signatures =
      extendFresh [] (signatures.flatMap (·.references) ++ roots.map (·.name)) := by
  have hnames : TypeDescriptor.namesOfList .datatype (signatures.flatMap (·.types)) =
      signatures.flatMap (·.references) := by
    rw [TypeDescriptor.namesOfList_eq_flatMap, List.flatMap_assoc]
    rfl
  rw [startNames, TypeDescriptor.collectEach_eq, hnames, extendFresh_append]

theorem mem_startNames {k : String} :
    k ∈ startNames roots signatures ↔
      (∃ s ∈ signatures, k ∈ s.references) ∨ ∃ d ∈ roots, d.name = k := by
  simp [startNames_eq, mem_extendFresh]

theorem nodup_startNames : (startNames roots signatures).Nodup := by
  rw [startNames_eq]
  exact nodup_extendFresh List.nodup_nil

/-- No name is found twice. -/
theorem nodup_reachable : (c.reachable roots signatures).Nodup :=
  follow_nodup _ nodup_startNames

theorem mem_reachable_of_startNames {k : String} (h : k ∈ startNames roots signatures) :
    k ∈ c.reachable roots signatures := follow_subset _ h

theorem mem_reachable_of_referencesOf {k : String} (hn : n ∈ c.reachable roots signatures)
    (hk : k ∈ c.referencesOf n) : k ∈ c.reachable roots signatures := by
  have hclosed : c.Refers (c.reachable roots signatures) (c.reachable roots signatures) := by
    have hnames : ∀ k ∈ c.definitions.flatMap (·.references),
        k ∈ startNames roots signatures ++ c.definitions.flatMap (·.references) :=
      fun k hk => List.mem_append_right _ hk
    refine follow_closed hnames _ nodup_startNames ?_ ?_ ?_
    · exact List.subset_append_left _ _
    · exact fun m hm => absurd hm List.not_mem_nil
    · rw [List.length_append, followBound]
      exact Nat.le_refl _
  exact hclosed n hn k hk

/-- The names that references lead to, from those of the signatures and roots on. -/
inductive Reaches (c : Catalog) (roots : List Definition) (signatures : List Signature) :
    String → Prop where
  | start {n : String} : n ∈ startNames roots signatures → Reaches c roots signatures n
  | reference {n k : String} : Reaches c roots signatures n → k ∈ c.referencesOf n →
      Reaches c roots signatures k

/-- What holds of the names to search and passes along references holds of all that is found. -/
theorem forall_follow {P : String → Prop} (hP : ∀ n, P n → ∀ k ∈ c.referencesOf n, P k)
    (fuel : Nat) (h : ∀ k ∈ done ++ pending, P k) : ∀ k ∈ c.follow done fuel pending, P k := by
  induction fuel generalizing done pending with
  | zero => exact h
  | succ fuel ih =>
    cases pending with
    | nil => simpa [follow] using h
    | cons n pending =>
      obtain ⟨extra, hfound, hdrop⟩ := follow_step c done n pending
      rw [follow, hdrop]
      apply ih
      rw [← hfound]
      intro k hk
      rcases mem_extendFresh.mp hk with hk | hk
      · exact h k hk
      · exact hP n (h n (List.mem_append_right _ List.mem_cons_self)) k hk

/-- The search finds exactly the names that references lead to. -/
theorem mem_reachable_iff :
    n ∈ c.reachable roots signatures ↔ c.Reaches roots signatures n := by
  constructor
  · exact forall_follow (fun n hn k hk => .reference hn hk) _ (fun k hk => .start hk) n
  · intro h
    induction h with
    | start h => exact mem_reachable_of_startNames h
    | reference _ hk ih => exact mem_reachable_of_referencesOf ih hk

end Catalog

end Marshal
