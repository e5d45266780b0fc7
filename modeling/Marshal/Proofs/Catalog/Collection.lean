import Marshal.Proofs.Catalog.References
import Mathlib.Data.List.Perm.Subperm

/-!
# Collecting names

Names are collected while types are gone through: what has been found is handed from one node to the
next, and a name is added at the node that shows it first. What is collected in the end depends on
the names in preorder only: their first occurrences stand behind what was found before.
-/

namespace Marshal
set_option autoImplicit false

/-- The names that are new among others, each once, in the order in which they occur first. -/
structure FirstUses (found names fresh : List String) : Prop where
  mem : ∀ n, n ∈ fresh ↔ n ∈ names ∧ n ∉ found
  order : fresh.Pairwise fun m n => names.idxOf m < names.idxOf n

namespace FirstUses
variable {found names fresh other : List String} {n : String}

theorem nodup (h : FirstUses found names fresh) : fresh.Nodup := by
  refine h.order.imp ?_
  rintro m _ hlt rfl
  exact Nat.lt_irrefl _ hlt

theorem unique (h : FirstUses found names fresh) (h' : FirstUses found names other) :
    fresh = other := by
  have hperm : fresh.Perm other :=
    (List.perm_ext_iff_of_nodup h.nodup h'.nodup).mpr fun n => (h.mem n).trans (h'.mem n).symm
  exact hperm.eq_of_pairwise (fun m n _ _ hmn hnm => absurd hnm (Nat.lt_asymm hmn)) h.order h'.order

/-- In front of a list of names, a name moves the first occurrences of all others by one. -/
theorem order_cons (h : FirstUses found names fresh) (hn : n ∉ fresh) :
    fresh.Pairwise fun k m => (n :: names).idxOf k < (n :: names).idxOf m := by
  have hne {k : String} (hk : k ∈ fresh) : n ≠ k := fun heq => hn (heq ▸ hk)
  refine h.order.imp_of_mem fun hk hm hlt => ?_
  rw [List.idxOf_cons_ne _ (hne hk), List.idxOf_cons_ne _ (hne hm)]
  exact Nat.succ_lt_succ hlt

theorem cons_of_mem (h : FirstUses found names fresh) (hn : n ∈ found) :
    FirstUses found (n :: names) fresh := by
  refine ⟨fun k => ?_, h.order_cons fun hmem => ((h.mem n).mp hmem).2 hn⟩
  rw [h.mem, List.mem_cons]
  constructor
  · rintro ⟨hk, hnew⟩
    exact ⟨.inr hk, hnew⟩
  · rintro ⟨rfl | hk, hnew⟩
    · exact absurd hn hnew
    · exact ⟨hk, hnew⟩

theorem cons_of_not_mem (h : FirstUses (found ++ [n]) names fresh) (hn : n ∉ found) :
    FirstUses found (n :: names) (n :: fresh) := by
  have hbehind : ∀ k ∈ fresh, k ≠ n := by
    rintro k hk rfl
    exact ((h.mem k).mp hk).2 (List.mem_append_right found List.mem_cons_self)
  refine ⟨fun k => ?_, List.pairwise_cons.mpr ⟨fun k hk => ?_, ?_⟩⟩
  · by_cases hk : k = n
    · subst hk
      simp [hn]
    · simp [h.mem, hk]
  · rw [List.idxOf_cons_self, List.idxOf_cons_ne _ (hbehind k hk).symm]
    exact Nat.succ_pos _
  · exact h.order_cons fun hmem => hbehind n hmem rfl

end FirstUses

theorem extendFresh_firstUses (found ns : List String) :
    ∃ fresh, extendFresh found ns = found ++ fresh ∧ FirstUses found ns fresh := by
  induction ns generalizing found with
  | nil => exact ⟨[], (List.append_nil found).symm, by simp, .nil⟩
  | cons n ns ih =>
    rw [extendFresh]
    split
    · rename_i hn
      obtain ⟨fresh, heq, h⟩ := ih found
      exact ⟨fresh, heq, h.cons_of_mem hn⟩
    · rename_i hn
      obtain ⟨fresh, heq, h⟩ := ih (found ++ [n])
      refine ⟨n :: fresh, ?_, h.cons_of_not_mem hn⟩
      rw [heq, List.append_assoc, List.singleton_append]

/-- What is added are the first occurrences of what is new, and nothing else could be. -/
theorem extendFresh_eq_iff {found ns out : List String} :
    extendFresh found ns = out ↔ ∃ fresh, out = found ++ fresh ∧ FirstUses found ns fresh := by
  obtain ⟨fresh, heq, h⟩ := extendFresh_firstUses found ns
  constructor
  · rintro rfl
    exact ⟨fresh, heq, h⟩
  · rintro ⟨other, rfl, hother⟩
    rw [heq, h.unique hother]

theorem extendFresh_eq_append (found ns : List String) :
    ∃ extra, extendFresh found ns = found ++ extra := by
  obtain ⟨extra, heq, -⟩ := extendFresh_firstUses found ns
  exact ⟨extra, heq⟩

theorem mem_extendFresh {k : String} {found ns : List String} :
    k ∈ extendFresh found ns ↔ k ∈ found ∨ k ∈ ns := by
  obtain ⟨fresh, heq, h⟩ := extendFresh_firstUses found ns
  rw [heq, List.mem_append, h.mem]
  by_cases hk : k ∈ found <;> simp [hk]

theorem nodup_extendFresh {found ns : List String} (h : found.Nodup) :
    (extendFresh found ns).Nodup := by
  obtain ⟨fresh, heq, hfresh⟩ := extendFresh_firstUses found ns
  rw [heq, List.nodup_append]
  refine ⟨h, hfresh.nodup, ?_⟩
  rintro k hk _ hmem rfl
  exact ((hfresh.mem k).mp hmem).2 hk

theorem extendFresh_eq_append_of_nodup {found ns : List String} (h : (found ++ ns).Nodup) :
    extendFresh found ns = found ++ ns := by
  induction ns generalizing found with
  | nil => exact (List.append_nil found).symm
  | cons n ns ih =>
    have hn : n ∉ found := fun hmem =>
      (List.nodup_append.mp h).2.2 n hmem n List.mem_cons_self rfl
    rw [extendFresh, if_neg hn, ih (by simpa using h), List.append_assoc, List.singleton_append]

theorem extendFresh_of_nodup {ns : List String} (h : ns.Nodup) : extendFresh [] ns = ns :=
  @extendFresh_eq_append_of_nodup [] ns h

/-- Nothing is left out exactly if nothing is repeated. -/
theorem length_extendFresh_iff {ns : List String} :
    (extendFresh [] ns).length = ns.length ↔ ns.Nodup := by
  constructor
  · intro h
    have hfresh : (extendFresh [] ns).Nodup := nodup_extendFresh List.nodup_nil
    have hsub : extendFresh [] ns ⊆ ns := fun n hn =>
      (mem_extendFresh.mp hn).resolve_left List.not_mem_nil
    have hperm := (hfresh.subperm hsub).perm_of_length_le (Nat.le_of_eq h.symm)
    exact hperm.nodup_iff.mp hfresh
  · intro h
    rw [extendFresh_of_nodup h]

theorem extendFresh_append (found ns ms : List String) :
    extendFresh found (ns ++ ms) = extendFresh (extendFresh found ns) ms := by
  induction ns generalizing found with
  | nil => rfl
  | cons n ns ih => exact ih _

theorem extendFresh_eq_eraseDups (found ns : List String) :
    extendFresh found ns = found ++ (ns.filter (· ∉ found)).eraseDups := by
  induction ns generalizing found with
  | nil => simp [extendFresh]
  | cons n ns ih =>
    rw [extendFresh, ih]
    split
    · rename_i hn
      rw [List.filter_cons_of_neg (by simpa using hn)]
    · rename_i hn
      -- what differs from all of `found` and from `n` is filtered in one step or in two
      have hboth : ns.filter (· ∉ found ++ [n]) =
          (ns.filter (· ∉ found)).filter (fun m => !m == n) := by
        rw [List.filter_filter]
        apply List.filter_congr
        intro m _
        by_cases hm : m = n <;> simp [hm]
      rw [List.filter_cons_of_pos (by simpa using hn), List.eraseDups_cons, hboth,
        List.append_assoc, List.singleton_append]

namespace TypeDescriptor
variable {kind : TypeKind}

theorem noted_eq (k : TypeKind) (name : String) (found : List String) :
    (if k = kind ∧ name ∉ found then found ++ [name] else found) =
      extendFresh found (if k = kind then [name] else []) := by
  by_cases hk : k = kind
  · rw [if_pos hk, extendFresh, extendFresh]
    by_cases hname : name ∈ found
    · rw [if_neg fun h => h.2 hname, if_pos hname]
    · rw [if_pos ⟨hk, hname⟩, if_neg hname]
  · rw [if_neg fun h => hk h.1, if_neg hk, extendFresh]

theorem collectEach_eq_of_forall {ts : List TypeDescriptor}
    (h : ∀ t ∈ ts, ∀ found, t.collect kind found = extendFresh found (t.namesOf kind))
    (found : List String) :
    collectEach kind ts found = extendFresh found (namesOfList kind ts) := by
  induction ts generalizing found with
  | nil => rfl
  | cons t ts ih =>
    obtain ⟨ht, hts⟩ := List.forall_mem_cons.mp h
    rw [collectEach, ht, ih hts, namesOfList, extendFresh_append]

/-- Going through a type adds the first occurrences of its names, as if they were listed before. -/
theorem collect_eq (t : TypeDescriptor) (found : List String) :
    t.collect kind found = extendFresh found (t.namesOf kind) := by
  -- for any names found before, as the arguments start with what the node itself has added
  induction t using TypeDescriptor.induction generalizing found with
  | step k name args ih =>
    rw [collect, noted_eq, collectEach_eq_of_forall ih, namesOf, extendFresh_append]

theorem collectEach_eq (ts : List TypeDescriptor) (found : List String) :
    collectEach kind ts found = extendFresh found (namesOfList kind ts) :=
  collectEach_eq_of_forall (fun t _ => collect_eq t) found

end TypeDescriptor

namespace Definition
variable {d : Definition}

theorem genericParams_eq (h : d.typeParams = []) :
    d.genericParams = extendFresh [] (TypeDescriptor.namesOfList .typeParam d.fieldTypes) := by
  rw [genericParams, h, List.isEmpty_nil, if_pos rfl, TypeDescriptor.collectEach_eq]

theorem namesOfList_fieldTypes (kind : TypeKind) (d : Definition) :
    TypeDescriptor.namesOfList kind d.fieldTypes = d.fields.flatMap (·.type.namesOf kind) := by
  rw [TypeDescriptor.namesOfList_eq_flatMap, fieldTypes, List.flatMap_map]

end Definition

/--
Whatever has been found before, going through a type leaves it in place and puts behind it the names
of one kind that are new, in the order in which the preorder of the type shows them first. So a
definition that declares no type parameters has those that its fields use at any depth, each once,
in the order in which they are used first.
-/
theorem collect_first_uses :
    (∀ (kind : TypeKind) (t : TypeDescriptor) (found out : List String),
      t.collect kind found = out ↔
        ∃ fresh, out = found ++ fresh ∧ FirstUses found (t.namesOf kind) fresh) ∧
    ∀ d : Definition, d.typeParams = [] →
      d.genericParams.Nodup ∧
      (∀ p, p ∈ d.genericParams ↔
        ∃ f ∈ d.fields, ∃ u, f.type.Within u ∧ u.kind = .typeParam ∧ u.name = p) ∧
      FirstUses [] (d.fields.flatMap (·.type.namesOf .typeParam)) d.genericParams := by
  refine ⟨?_, ?_⟩
  · intro kind t found out
    rw [TypeDescriptor.collect_eq, extendFresh_eq_iff]
  · intro d hd
    obtain ⟨fresh, heq, h⟩ :=
      extendFresh_firstUses [] (TypeDescriptor.namesOfList .typeParam d.fieldTypes)
    rw [← Definition.genericParams_eq hd, List.nil_append] at heq
    rw [Definition.namesOfList_fieldTypes, ← heq] at h
    refine ⟨h.nodup, fun p => ?_, h⟩
    simp only [h.mem, List.not_mem_nil, not_false_eq_true, and_true, List.mem_flatMap,
      TypeDescriptor.mem_namesOf_iff]

/-- Roads from city to city, with a toll for each. -/
def routes : TypeDescriptor :=
  .map (.datatype "City" [])
    (.datatype "Road" [.datatype "City" [], .typeParam "T", .datatype "Toll" [.typeParam "U"]])

/-- A definition with routes in it that declares none of its parameters. -/
def journey : Definition :=
  ⟨"Domain", "Journey", [⟨"Stay", [⟨"cost", .typeParam "U"⟩]⟩, ⟨"Travel", [⟨"by", routes⟩]⟩], []⟩

theorem collect_first_uses_journey :
    (∃ fresh, ["Road", "City", "Toll"] = ["Road"] ++ fresh ∧
      FirstUses ["Road"] ["City", "Road", "City", "Toll"] fresh) ∧
    journey.typeParams = [] ∧ journey.genericParams = ["U", "T"] ∧
      FirstUses [] ["U", "T", "U"] journey.genericParams := by
  obtain ⟨hcollect, hparams⟩ := collect_first_uses
  have hroutes : routes.collect .datatype ["Road"] = ["Road", "City", "Toll"] := by decide
  obtain ⟨-, -, hjourney⟩ := hparams journey rfl
  exact ⟨(hcollect .datatype routes ["Road"] _).mp hroutes, rfl, by decide, hjourney⟩

end Marshal
