import Marshal.Proofs.Catalog.References
import Marshal.Proofs.Closure.Reachable
import Mathlib.Logic.Relation
import Mathlib.Order.Bounds.Defs

/-!
# Discovery as a worklist

The names that are reachable are found by a worklist: a name is taken from its front, its definitions
are looked up, and what their fields mention for the first time goes to its end. Every name is
searched once, so the worklist runs empty; then the names found are the least set that is closed
under what signatures, roots and fields mention, in the order in which it is mentioned.
-/

namespace Marshal
set_option autoImplicit false

/-- The names in the fields of the definitions that are looked up for a name. -/
def mentionedBy (lookup : String → List Definition) (n : String) : List String :=
  (lookup n).flatMap (·.references)

/-- A worklist: the names found so far, those still to be searched, and those searched. -/
structure Search where
  found : List String
  pending : List String
  searched : List String

namespace Search
variable {lookup : String → List Definition} {roots : List Definition}
  {signatures : List Signature} {s t : Search} {n : String} {rest : List String}

def start (roots : List Definition) (signatures : List Signature) : Search :=
  ⟨Catalog.startNames roots signatures, Catalog.startNames roots signatures, []⟩

def note (s : Search) (n : String) : Search :=
  if n ∈ s.found then s else { s with found := s.found ++ [n], pending := s.pending ++ [n] }

/-- Takes one name from the worklist; none is left at the end. -/
def step? (lookup : String → List Definition) (s : Search) : Option Search :=
  match s.pending with
  | [] => none
  | n :: rest =>
    if n ∈ s.searched then some { s with pending := rest }
    else some ((mentionedBy lookup n).foldl note ⟨s.found, rest, s.searched ++ [n]⟩)

def Runs (lookup : String → List Definition) : Search → Search → Prop :=
  Relation.ReflTransGen fun s t => s.step? lookup = some t

theorem foldl_note (s : Search) (ns : List String) :
    ∃ extra, extendFresh s.found ns = s.found ++ extra ∧
      ns.foldl note s = ⟨s.found ++ extra, s.pending ++ extra, s.searched⟩ := by
  induction ns generalizing s with
  | nil => exact ⟨[], by simp [extendFresh], by simp⟩
  | cons n ns ih =>
    obtain ⟨extra, hfound, hfold⟩ := ih (s.note n)
    rw [extendFresh, List.foldl_cons, hfold]
    unfold note at hfound ⊢
    split at hfound
    · rename_i hn
      exact ⟨extra, by rw [if_pos hn, hfound], by rw [if_pos hn]⟩
    · rename_i hn
      refine ⟨n :: extra, ?_, ?_⟩
      · rw [if_neg hn, hfound, List.append_assoc, List.singleton_append]
      · simp [if_neg hn]

/--
What holds before every step: the names found are those searched, then those pending, none of them
twice, in the order in which the start and the fields of what was searched mention them; and no
closed set is without one of them.
-/
structure Sound (lookup : String → List Definition) (start : List String) (s : Search) :
    Prop where
  split : s.found = s.searched ++ s.pending
  nodup : s.found.Nodup
  order : s.found = extendFresh start (s.searched.flatMap (mentionedBy lookup))
  minimal : ∀ S : Set String, (∀ k ∈ start, k ∈ S) →
    (∀ n ∈ S, ∀ k ∈ mentionedBy lookup n, k ∈ S) → ∀ k ∈ s.found, k ∈ S

theorem Sound.start : (start roots signatures).Sound lookup
    (Catalog.startNames roots signatures) where
  split := rfl
  nodup := Catalog.nodup_startNames
  order := rfl
  minimal _ hstart _ := hstart

/-- A name that is pending was not searched, so that every step searches one. -/
theorem Sound.step_eq {start : List String} (h : s.Sound lookup start)
    (hs : s.pending = n :: rest) :
    ∃ extra, extendFresh s.found (mentionedBy lookup n) = s.found ++ extra ∧
      s.step? lookup = some ⟨s.found ++ extra, rest ++ extra, s.searched ++ [n]⟩ := by
  have hnodup : (s.searched ++ n :: rest).Nodup := hs ▸ h.split ▸ h.nodup
  have hn : n ∉ s.searched := fun hmem =>
    (List.nodup_append.mp hnodup).2.2 n hmem n List.mem_cons_self rfl
  obtain ⟨extra, hfound, hfold⟩ :=
    foldl_note ⟨s.found, rest, s.searched ++ [n]⟩ (mentionedBy lookup n)
  refine ⟨extra, hfound, ?_⟩
  unfold step?
  rw [hs]
  exact (if_neg hn).trans (congrArg some hfold)

theorem Sound.step {start : List String} (h : s.Sound lookup start)
    (hst : s.step? lookup = some t) : t.Sound lookup start := by
  cases hs : s.pending with
  | nil => simp [step?, hs] at hst
  | cons n rest =>
    obtain ⟨extra, hfound, hstep⟩ := h.step_eq hs
    obtain rfl := Option.some_inj.mp (hstep.symm.trans hst)
    refine ⟨?_, ?_, ?_, ?_⟩
    · show s.found ++ extra = (s.searched ++ [n]) ++ (rest ++ extra)
      rw [h.split, hs]
      simp
    · show (s.found ++ extra).Nodup
      rw [← hfound]
      exact nodup_extendFresh h.nodup
    · show s.found ++ extra = extendFresh start ((s.searched ++ [n]).flatMap (mentionedBy lookup))
      rw [List.flatMap_append, List.flatMap_singleton, extendFresh_append, ← h.order, hfound]
    · intro S hstart hclosed k hk
      rw [← hfound] at hk
      have hfoundS := h.minimal S hstart hclosed
      rcases mem_extendFresh.mp hk with hk | hk
      · exact hfoundS k hk
      · apply hclosed n (hfoundS n _) k hk
        rw [h.split, hs]
        exact List.mem_append_right _ List.mem_cons_self

theorem Sound.runs {start : List String} (h : s.Sound lookup start) (hst : Runs lookup s t) :
    t.Sound lookup start := by
  induction hst with
  | refl => exact h
  | tail _ hstep ih => exact ih.step hstep

variable {c : Catalog}

/-- All names that can be found: those of the start, and those in the fields of any definition. -/
def candidates (c : Catalog) (start : List String) : List String :=
  start ++ c.definitions.flatMap (·.references)

theorem Sound.found_subset {start : List String} (hlookup : ∀ n, lookup n ⊆ c.definitions)
    (h : s.Sound lookup start) : s.found ⊆ candidates c start := by
  intro k hk
  rw [h.order] at hk
  apply List.mem_append.mpr
  rcases mem_extendFresh.mp hk with hk | hk
  · exact .inl hk
  · obtain ⟨n, _, hk⟩ := List.mem_flatMap.mp hk
    obtain ⟨d, hd, hk⟩ := List.mem_flatMap.mp hk
    exact .inr (List.mem_flatMap.mpr ⟨d, hlookup n hd, hk⟩)

/-- Nothing is pending once as many names are searched as can be found. -/
theorem Sound.pending_eq_nil {start : List String} (hlookup : ∀ n, lookup n ⊆ c.definitions)
    (h : s.Sound lookup start) (hl : (candidates c start).length ≤ s.searched.length) :
    s.pending = [] :=
  Catalog.pending_eq_nil (h.split ▸ h.nodup) (h.split ▸ h.found_subset hlookup) hl

theorem Sound.ends {start : List String} (hlookup : ∀ n, lookup n ⊆ c.definitions) (fuel : Nat)
    (h : s.Sound lookup start) (hl : (candidates c start).length ≤ fuel + s.searched.length) :
    ∃ t, Runs lookup s t ∧ t.pending = [] := by
  induction fuel generalizing s with
  | zero => exact ⟨s, .refl, h.pending_eq_nil hlookup (by omega)⟩
  | succ fuel ih =>
    cases hs : s.pending with
    | nil => exact ⟨s, .refl, hs⟩
    | cons n rest =>
      obtain ⟨extra, _, hstep⟩ := h.step_eq hs
      obtain ⟨t, ht, hend⟩ := ih (h.step hstep) (by
        show _ ≤ fuel + (s.searched ++ [n]).length
        rw [List.length_append, List.length_singleton]
        omega)
      exact ⟨t, .head hstep ht, hend⟩

/-- The bounded search of a catalog ends where the worklist does. -/
theorem Sound.follow_eq {start : List String} (h : s.Sound c.lookup start) (fuel : Nat)
    (hl : (candidates c start).length ≤ fuel + s.searched.length) (hst : Runs c.lookup s t)
    (hend : t.pending = []) : c.follow s.searched fuel s.pending = t.found := by
  have hlookup : ∀ n, c.lookup n ⊆ c.definitions := fun n => List.filter_subset_self _
  induction hst using Relation.ReflTransGen.head_induction_on generalizing fuel with
  | refl =>
    rw [h.split, hend]
    cases fuel <;> simp [Catalog.follow]
  | head hstep hrest ih =>
    rename_i s s'
    cases hs : s.pending with
    | nil => simp [step?, hs] at hstep
    | cons n rest =>
      cases fuel with
      | zero =>
        have hnil := h.pending_eq_nil hlookup (by omega)
        simp [hs] at hnil
      | succ fuel =>
        obtain ⟨extra, hfound, heq⟩ := h.step_eq hs
        obtain rfl := Option.some_inj.mp (heq.symm.trans hstep)
        obtain ⟨more, hmore, hdrop⟩ := Catalog.follow_step c s.searched n rest
        have hsplit : s.found = s.searched ++ n :: rest := hs ▸ h.split
        have hsame : extra = more := by
          have hlist : s.found ++ extra = (s.searched ++ [n]) ++ (rest ++ more) :=
            hfound.symm.trans (hsplit ▸ hmore)
          rw [hsplit] at hlist
          simpa using hlist
        subst hsame
        rw [Catalog.follow, hdrop]
        apply ih (h.step hstep)
        show _ ≤ fuel + (s.searched ++ [n]).length
        rw [List.length_append, List.length_singleton]
        omega

end Search

/-- A type mentions a datatype if it is inside the type, at any depth. -/
def TypeDescriptor.Mentions (t : TypeDescriptor) (n : String) : Prop :=
  ∃ u, t.Within u ∧ u.kind = .datatype ∧ u.name = n

theorem TypeDescriptor.mem_references_iff {t : TypeDescriptor} {n : String} :
    n ∈ t.references ↔ t.Mentions n := mem_namesOf_iff

/-- A set of names that has what signatures and roots mention, and what the fields of its own do. -/
structure ClosedUnder (lookup : String → List Definition) (roots : List Definition)
    (signatures : List Signature) (S : Set String) : Prop where
  parameter : ∀ g ∈ signatures, ∀ p ∈ g.parameters, ∀ n, p.type.Mentions n → n ∈ S
  result : ∀ g ∈ signatures, ∀ n, g.result.Mentions n → n ∈ S
  root : ∀ d ∈ roots, d.name ∈ S
  field : ∀ n ∈ S, ∀ d ∈ lookup n, ∀ v ∈ d.variants, ∀ f ∈ v.fields, ∀ k,
    f.type.Mentions k → k ∈ S

section Closed
variable {lookup : String → List Definition} {roots : List Definition}
  {signatures : List Signature} {S : Set String}

theorem Signature.mem_references_iff {g : Signature} {n : String} :
    n ∈ g.references ↔ (∃ p ∈ g.parameters, p.type.Mentions n) ∨ g.result.Mentions n := by
  simp [references, types, TypeDescriptor.mem_references_iff, or_comm]

theorem mem_mentionedBy_iff {n k : String} :
    k ∈ mentionedBy lookup n ↔
      ∃ d ∈ lookup n, ∃ v ∈ d.variants, ∃ f ∈ v.fields, f.type.Mentions k := by
  simp only [mentionedBy, Definition.references, Definition.fieldTypes, Definition.fields,
    List.mem_flatMap, List.mem_map, TypeDescriptor.mem_references_iff]
  constructor
  · rintro ⟨d, hd, _, ⟨f, ⟨v, hv, hf⟩, rfl⟩, hk⟩
    exact ⟨d, hd, v, hv, f, hf, hk⟩
  · rintro ⟨d, hd, v, hv, f, hf, hk⟩
    exact ⟨d, hd, f.type, ⟨f, ⟨v, hv, hf⟩, rfl⟩, hk⟩

theorem closedUnder_iff :
    ClosedUnder lookup roots signatures S ↔
      (∀ n ∈ Catalog.startNames roots signatures, n ∈ S) ∧
        ∀ n ∈ S, ∀ k ∈ mentionedBy lookup n, k ∈ S := by
  constructor
  · intro h
    refine ⟨?_, ?_⟩
    · intro n hn
      rcases Catalog.mem_startNames.mp hn with ⟨g, hg, hn⟩ | ⟨d, hd, rfl⟩
      · rcases Signature.mem_references_iff.mp hn with ⟨p, hp, hn⟩ | hn
        · exact h.parameter g hg p hp n hn
        · exact h.result g hg n hn
      · exact h.root d hd
    · intro n hn k hk
      obtain ⟨d, hd, v, hv, f, hf, hk⟩ := mem_mentionedBy_iff.mp hk
      exact h.field n hn d hd v hv f hf k hk
  · rintro ⟨hstart, hstep⟩
    refine ⟨?_, ?_, ?_, ?_⟩
    · intro g hg p hp n hn
      apply hstart n
      exact Catalog.mem_startNames.mpr
        (.inl ⟨g, hg, Signature.mem_references_iff.mpr (.inl ⟨p, hp, hn⟩)⟩)
    · intro g hg n hn
      apply hstart n
      exact Catalog.mem_startNames.mpr
        (.inl ⟨g, hg, Signature.mem_references_iff.mpr (.inr hn)⟩)
    · intro d hd
      exact hstart d.name (Catalog.mem_startNames.mpr (.inr ⟨d, hd, rfl⟩))
    · intro n hn d hd v hv f hf k hk
      exact hstep n hn k (mem_mentionedBy_iff.mpr ⟨d, hd, v, hv, f, hf, hk⟩)

end Closed

namespace Search
variable {lookup : String → List Definition} {roots : List Definition}
  {signatures : List Signature} {s t : Search}

theorem step?_eq_none_iff : s.step? lookup = none ↔ s.pending = [] := by
  unfold step?
  cases s.pending with
  | nil => simp
  | cons n rest =>
    simp only [reduceCtorEq, iff_false]
    split <;> simp

/-- Steps are determined, so that every run can go on to the end of another one. -/
theorem Runs.to_end {start : Search} (hs : Runs lookup start s) (hend : s.step? lookup = none)
    (ht : Runs lookup start t) : Runs lookup t s := by
  have hunique : Relator.RightUnique fun s t : Search => s.step? lookup = some t := by
    intro a b b' hb hb'
    exact Option.some_inj.mp (hb.symm.trans hb')
  rcases Relation.ReflTransGen.total_of_right_unique hunique hs ht with hst | hts
  · rcases Relation.ReflTransGen.cases_head hst with rfl | ⟨u, hu, _⟩
    · exact .refl
    · rw [hend] at hu
      cases hu
  · exact hts

section Ended
variable (h : s.Sound lookup (Catalog.startNames roots signatures)) (hend : s.pending = [])
include h hend

theorem Sound.found_eq_searched : s.found = s.searched := by
  rw [h.split, hend, List.append_nil]

theorem Sound.isLeast :
    IsLeast {S | ClosedUnder lookup roots signatures S} {n | n ∈ s.found} := by
  refine ⟨?_, ?_⟩
  · apply closedUnder_iff.mpr
    refine ⟨?_, ?_⟩
    · intro n hn
      show n ∈ s.found
      rw [h.order]
      exact mem_extendFresh.mpr (.inl hn)
    · intro n hn k hk
      have hsearched : n ∈ s.searched := h.found_eq_searched hend ▸ hn
      show k ∈ s.found
      rw [h.order]
      exact mem_extendFresh.mpr (.inr (List.mem_flatMap.mpr ⟨n, hsearched, hk⟩))
  · intro S hS
    obtain ⟨hstart, hclosed⟩ := closedUnder_iff.mp hS
    exact h.minimal S hstart hclosed

/-- The names found are the first occurrences of those that are mentioned in turn. -/
theorem Sound.found_eq_eraseDups :
    s.found = (signatures.flatMap (fun g =>
        g.parameters.flatMap (·.type.references) ++ g.result.references) ++
      roots.map (·.name) ++ s.found.flatMap (mentionedBy lookup)).eraseDups := by
  have hsignatures : signatures.flatMap (·.references) = signatures.flatMap fun g =>
      g.parameters.flatMap (·.type.references) ++ g.result.references := by
    apply List.flatMap_congr
    intro g _
    simp [Signature.references, Signature.types, List.flatMap_map]
  have horder : s.found = extendFresh [] (signatures.flatMap (·.references) ++
      roots.map (·.name) ++ s.found.flatMap (mentionedBy lookup)) := by
    rw [extendFresh_append, ← Catalog.startNames_eq]
    nth_rewrite 2 [h.found_eq_searched hend]
    exact h.order
  rw [← hsignatures]
  nth_rewrite 1 [horder]
  rw [extendFresh_eq_eraseDups]
  simp

end Ended

/--
Whatever definitions a lookup gives, if they are from a finite catalog, the worklist runs empty. The
names found by then are distinct and the least closed set. They are the first occurrences of
the names in the parameters and the result of each signature, then of the names of the roots, then
of the names that are mentioned by the names found, in their order. With the lookup of the catalog,
they are the names that are reachable in it.
-/
theorem discovers (c : Catalog) (lookup : String → List Definition)
    (hlookup : ∀ n, lookup n ⊆ c.definitions) (roots : List Definition)
    (signatures : List Signature) :
    ∃ s, Runs lookup (start roots signatures) s ∧ s.step? lookup = none ∧
      (∀ t, Runs lookup (start roots signatures) t → Runs lookup t s) ∧
      s.found.Nodup ∧
      IsLeast {S | ClosedUnder lookup roots signatures S} {n | n ∈ s.found} ∧
      s.found = (signatures.flatMap (fun g =>
          g.parameters.flatMap (·.type.references) ++ g.result.references) ++
        roots.map (·.name) ++
        s.found.flatMap (fun n => (lookup n).flatMap (·.references))).eraseDups ∧
      (lookup = c.lookup → s.found = c.reachable roots signatures) := by
  have hstart : (start roots signatures).Sound lookup (Catalog.startNames roots signatures) :=
    Sound.start
  have hbound : (candidates c (Catalog.startNames roots signatures)).length ≤
      c.followBound (Catalog.startNames roots signatures) + ([] : List String).length := by
    rw [candidates, Catalog.followBound, List.length_append]
    exact Nat.le_refl _
  obtain ⟨s, hs, hend⟩ := hstart.ends hlookup _ hbound
  have hsound := hstart.runs hs
  have hnone : s.step? lookup = none := step?_eq_none_iff.mpr hend
  refine ⟨s, hs, hnone, fun t ht => hs.to_end hnone ht, hsound.nodup, hsound.isLeast hend,
    hsound.found_eq_eraseDups hend, ?_⟩
  rintro rfl
  exact (hstart.follow_eq _ hbound hs hend).symm

/-- Trees that a forest is made of, and a forest that points to another one. -/
def forest : Catalog :=
  ⟨[⟨"Domain", "Forest",
      [⟨"Forest", [⟨"trees", .seq (.datatype "Tree" [])⟩, ⟨"parent", .datatype "Forest" []⟩]⟩], []⟩,
    ⟨"Domain", "Tree", [⟨"Leaf", []⟩, ⟨"Node", [⟨"left", .datatype "Tree" []⟩]⟩], []⟩], []⟩

/-- Datatypes that mention themselves are searched once. -/
theorem discovers_forest :
    (∀ n, forest.lookup n ⊆ forest.definitions) ∧
      ∃ s, Runs forest.lookup (start (forest.lookup "Forest") []) s ∧
        s.step? forest.lookup = none ∧ s.found = ["Forest", "Tree"] := by
  have hlookup : ∀ n, forest.lookup n ⊆ forest.definitions := fun n => List.filter_subset_self _
  obtain ⟨s, hs, hend, -, -, -, -, hfound⟩ :=
    discovers forest forest.lookup hlookup (forest.lookup "Forest") []
  have hreachable : forest.reachable (forest.lookup "Forest") [] = ["Forest", "Tree"] := by decide
  exact ⟨hlookup, s, hs, hend, (hfound rfl).trans hreachable⟩

end Search

end Marshal
