import Marshal.Assoc
import Marshal.Proofs.Matching
import Mathlib.Data.List.Basic

/-!
# Looking up what was put

The value found for a key is the one that was put last for an equal key, and the keys are the first
of equal ones in the order in which they were put. This takes a comparison that is an equivalence
among the keys; keys that are compared as they are can be any.
-/

namespace Marshal.Assoc
set_option autoImplicit false

variable {α β : Type}

/-- A comparison is an equivalence among the things with a property. -/
structure EquivalenceOn (eq : α → α → Bool) (S : α → Prop) : Prop where
  refl : ∀ {a}, S a → eq a a
  symm : ∀ {a b}, S a → S b → eq a b → eq b a
  trans : ∀ {a b c}, S a → S b → S c → eq a b → eq b c → eq a c

/-- The value that the last of the entries with an equal key has. -/
def last? (eq : α → α → Bool) (key : α) (entries : List (α × β)) : Option β :=
  (entries.filter fun e => eq e.1 key).getLast?.map (·.2)

/-- The members of a list that no earlier one equals. -/
def firsts (eq : α → α → Bool) : List α → List α
  | [] => []
  | x :: xs => x :: (firsts eq xs).filter fun y => !eq x y

variable {eq : α → α → Bool} {S : α → Prop}

namespace EquivalenceOn

variable (hS : EquivalenceOn eq S) {a b c : α}
include hS

theorem comm (ha : S a) (hb : S b) : eq a b = eq b a :=
  Bool.eq_iff_iff.mpr ⟨hS.symm ha hb, hS.symm hb ha⟩

theorem congr_left (ha : S a) (hb : S b) (hc : S c) (h : eq a b) : eq a c = eq b c :=
  Bool.eq_iff_iff.mpr ⟨hS.trans hb ha hc (hS.symm ha hb h), hS.trans ha hb hc h⟩

theorem congr_right (ha : S a) (hb : S b) (hc : S c) (h : eq a b) : eq c a = eq c b := by
  rw [hS.comm hc ha, hS.comm hc hb, hS.congr_left ha hb hc h]

variable {xs ys : List α} (hxs : ∀ x ∈ xs, S x) (hys : ∀ y ∈ ys, S y)
include hxs hys

/-- Where no member of a list equals a later one, no two equal one and the same thing. -/
theorem pairwise_apart (h : xs.Pairwise fun x x' => ¬ eq x x') :
    xs.Pairwise fun x x' => ∀ y ∈ ys, eq x y → ¬ eq x' y := by
  refine List.Pairwise.imp_of_mem (fun {x x'} hx hx' hne y hy hxy hxy' => ?_) h
  have hyx := hS.symm (hxs x' hx') (hys y hy) hxy'
  exact hne (hS.trans (hxs x hx) (hys y hy) (hxs x' hx') hxy hyx)

theorem length_le_length (h : xs.Pairwise fun x x' => ¬ eq x x')
    (hfound : ∀ x ∈ xs, ∃ y ∈ ys, eq x y) : xs.length ≤ ys.length := by
  obtain ⟨found, hsub, hmatch⟩ := exists_subperm_forall₂ (hS.pairwise_apart hxs hys h) hfound
  exact hmatch.length_eq ▸ hsub.length_le

end EquivalenceOn

theorem equivalenceOn_beq [BEq α] [LawfulBEq α] :
    EquivalenceOn (fun a b : α => a == b) fun _ => True where
  refl _ := BEq.rfl
  symm _ _ h := BEq.symm h
  trans _ _ _ h h' := BEq.trans h h'

theorem forall_mem_put {key : α} {value : β} {entries : List (α × β)} {P : α × β → Prop}
    (hnew : P (key, value)) (hreplaced : ∀ e ∈ entries, P (e.1, value))
    (h : ∀ e ∈ entries, P e) : ∀ e ∈ put eq key value entries, P e := by
  induction entries with
  | nil => simpa using hnew
  | cons e es ih =>
    obtain ⟨hr, hreplaced⟩ := List.forall_mem_cons.mp hreplaced
    obtain ⟨he, hes⟩ := List.forall_mem_cons.mp h
    rw [put]
    split
    · exact List.forall_mem_cons.mpr ⟨hr, hes⟩
    · exact List.forall_mem_cons.mpr ⟨he, ih hreplaced hes⟩

/-- The keys are those that were there, and the new one. -/
theorem forall_key_put {key : α} {value : β} {entries : List (α × β)} {P : α → Prop}
    (hkey : P key) (h : ∀ e ∈ entries, P e.1) : ∀ e ∈ put eq key value entries, P e.1 :=
  forall_mem_put hkey h h

theorem last?_cons (key : α) (e : α × β) (entries : List (α × β)) :
    last? eq key (e :: entries) =
      (last? eq key entries).or (if eq e.1 key then some e.2 else none) := by
  rw [last?, last?, List.filter_cons]
  split
  · rw [List.getLast?_cons]
    cases (entries.filter fun e => eq e.1 key).getLast? <;> rfl
  · rw [Option.or_none]

section Equivalence
variable (hS : EquivalenceOn eq S) {key key' : α} (hkey : S key)
include hS hkey

theorem find?_put (hkey' : S key') {entries : List (α × β)} (h : ∀ e ∈ entries, S e.1) (value : β) :
    find? eq key (put eq key' value entries) =
      if eq key' key then some value else find? eq key entries := by
  induction entries with
  | nil => rfl
  | cons e es ih =>
    obtain ⟨k, v⟩ := e
    obtain ⟨hk, hes⟩ := List.forall_mem_cons.mp h
    by_cases hput : eq k key'
    · -- the key that is replaced equals the one that is looked up if and only if the new one does
      rw [put, if_pos hput, find?, find?, hS.congr_left hk hkey' hkey hput]
      split <;> rfl
    · rw [put, if_neg hput, find?, find?, ih hes]
      by_cases hfound : eq k key
      · have hne : ¬ eq key' key := fun h =>
          hput (hS.trans hk hkey hkey' hfound (hS.symm hkey' hkey h))
        rw [if_pos hfound, if_neg hne, if_pos hfound]
      · rw [if_neg hfound, if_neg hfound]

/-- Of the entries that were put for a key, the last one counts. -/
theorem find?_putAll_of_equivalence {entries new : List (α × β)} (h : ∀ e ∈ entries, S e.1)
    (hnew : ∀ e ∈ new, S e.1) :
    find? eq key (putAll eq entries new) = (last? eq key new).or (find? eq key entries) := by
  induction new generalizing entries with
  | nil => rfl
  | cons e new ih =>
    obtain ⟨he, hnew⟩ := List.forall_mem_cons.mp hnew
    rw [putAll_cons, ih (forall_key_put he h) hnew, find?_put hS hkey he h, last?_cons,
      Option.or_assoc]
    split <;> rfl

theorem find?_congr_key (hkey' : S key') (heq : eq key key') {entries : List (α × β)}
    (h : ∀ e ∈ entries, S e.1) : find? eq key entries = find? eq key' entries := by
  induction entries with
  | nil => rfl
  | cons e es ih =>
    obtain ⟨hk, hes⟩ := List.forall_mem_cons.mp h
    rw [find?, find?, hS.congr_right hkey hkey' hk heq, ih hes]

end Equivalence

section Equivalence
variable (hS : EquivalenceOn eq S) {key key' : α} (hkey : S key) (hkey' : S key')
include hS hkey hkey'

/-- Where keys are replaced by equal ones, and values by related ones, what is found is related. -/
theorem rel_find?_of_forall₂ {R : β → β → Prop} (heq : eq key key') {entries entries' : List (α × β)}
    (h : ∀ e ∈ entries, S e.1) (h' : ∀ e ∈ entries', S e.1)
    (hall : List.Forall₂ (fun e e' => eq e.1 e'.1 ∧ R e.2 e'.2) entries entries') :
    Option.Rel R (find? eq key entries) (find? eq key' entries') := by
  induction hall with
  | nil => exact .none
  | @cons e e' es es' hfirst _ ih =>
    obtain ⟨he, hes⟩ := List.forall_mem_cons.mp h
    obtain ⟨he', hes'⟩ := List.forall_mem_cons.mp h'
    have hfound : eq e.1 key = eq e'.1 key' := by
      rw [hS.congr_left he he' hkey hfirst.1, hS.congr_right hkey hkey' he' heq]
    rw [find?, find?, hfound]
    split
    · exact .some hfirst.2
    · exact ih hes hes'

end Equivalence

theorem find?_eq_map_find? (key : α) (entries : List (α × β)) :
    find? eq key entries = (entries.find? fun e => eq e.1 key).map (·.2) := by
  induction entries with
  | nil => rfl
  | cons e es ih =>
    rw [find?, List.find?_cons, ih]
    cases eq e.1 key <;> rfl

/-- A value is put at the place of the first equal key, or else behind the others. -/
theorem put_eq_modify (key : α) (value : β) (entries : List (α × β)) :
    put eq key value entries =
      match entries.findIdx? fun e => eq e.1 key with
      | some i => entries.modify i fun e => (e.1, value)
      | none => entries ++ [(key, value)] := by
  induction entries with
  | nil => rfl
  | cons e es ih =>
    rw [put, List.findIdx?_cons, ih]
    by_cases h : eq e.1 key
    · simp [h]
    · rw [if_neg h, if_neg h]
      cases es.findIdx? fun e => eq e.1 key <;> rfl

theorem mem_of_mem_firsts {x : α} {xs : List α} (h : x ∈ firsts eq xs) : x ∈ xs := by
  induction xs with
  | nil => exact h
  | cons y ys ih =>
    rcases List.mem_cons.mp h with rfl | h
    · exact List.mem_cons_self
    · exact List.mem_cons_of_mem y (ih (List.mem_of_mem_filter h))

theorem pairwise_firsts (xs : List α) : (firsts eq xs).Pairwise fun x y => ¬ eq x y := by
  induction xs with
  | nil => exact .nil
  | cons x xs ih =>
    refine .cons (fun y hy => ?_) (ih.filter _)
    simpa using (List.mem_filter.mp hy).2

section Equivalence
variable (hS : EquivalenceOn eq S) {xs : List α} (hxs : ∀ x ∈ xs, S x)
include hS hxs

/-- Every member equals one that no earlier one equals. -/
theorem exists_mem_firsts : ∀ x ∈ xs, ∃ y ∈ firsts eq xs, eq y x := by
  induction xs with
  | nil => exact nofun
  | cons x xs ih =>
    obtain ⟨hx, hxs⟩ := List.forall_mem_cons.mp hxs
    refine List.forall_mem_cons.mpr ⟨⟨x, List.mem_cons_self, hS.refl hx⟩, fun y hy => ?_⟩
    obtain ⟨z, hz, hzy⟩ := ih hxs y hy
    have hzS := hxs z (mem_of_mem_firsts hz)
    by_cases hxz : eq x z
    · exact ⟨x, List.mem_cons_self, hS.trans hx hzS (hxs y hy) hxz hzy⟩
    · exact ⟨z, List.mem_cons_of_mem x (List.mem_filter.mpr ⟨hz, by simpa using hxz⟩), hzy⟩

theorem foldl_eq_append_firsts {seen : List α} (hseen : ∀ x ∈ seen, S x) :
    xs.foldl (fun seen x => if seen.any (eq · x) then seen else seen ++ [x]) seen =
      seen ++ (firsts eq xs).filter fun x => !seen.any (eq · x) := by
  induction xs generalizing seen with
  | nil => simp [firsts]
  | cons x xs ih =>
    obtain ⟨hx, hxs⟩ := List.forall_mem_cons.mp hxs
    rw [List.foldl_cons, firsts]
    by_cases hknown : seen.any (eq · x)
    · rw [if_pos hknown, ih hxs hseen, List.filter_cons_of_neg (by simpa using hknown),
        List.filter_filter]
      congr 1
      refine List.filter_congr fun y hy => ?_
      -- what equals the new member equals the one that was seen already
      obtain ⟨z, hz, hzx⟩ := List.any_eq_true.mp hknown
      have hy := hxs y (mem_of_mem_firsts hy)
      cases hxy : eq x y with
      | false => simp
      | true =>
        have hzy := hS.trans (hseen z hz) hx hy hzx hxy
        simpa using ⟨z, hz, hzy⟩
    · have hseen' : ∀ y ∈ seen ++ [x], S y :=
        List.forall_mem_append.mpr ⟨hseen, List.forall_mem_singleton.mpr hx⟩
      rw [if_neg hknown, ih hxs hseen', List.filter_cons_of_pos (by simpa using hknown),
        List.filter_filter]
      simp

theorem distinct_eq_firsts : distinct eq xs = firsts eq xs := by
  have hnone : (firsts eq xs).filter (fun _ => true) = firsts eq xs := List.filter_true _
  exact (foldl_eq_append_firsts hS hxs (List.forall_mem_nil S)).trans hnone

end Equivalence

theorem map_fst_put (key : α) (value : β) (entries : List (α × β)) :
    (put eq key value entries).map (·.1) =
      if (entries.map (·.1)).any (eq · key) then entries.map (·.1)
      else entries.map (·.1) ++ [key] := by
  induction entries with
  | nil => rfl
  | cons e es ih =>
    obtain ⟨k, v⟩ := e
    rw [put]
    by_cases h : eq k key
    · simp [h]
    · rw [if_neg h, List.map_cons, ih]
      by_cases hany : (es.map (·.1)).any (eq · key)
      · rw [if_pos hany, if_pos (by rw [List.map_cons, List.any_cons, hany, Bool.or_true])]
        rfl
      · rw [if_neg hany, if_neg]
        · rfl
        · rw [List.map_cons, List.any_cons]
          simp [h, hany]

/-- The keys of entries that were put are the first of equal ones. -/
theorem map_fst_putAll (new : List (α × β)) :
    (putAll eq [] new).map (·.1) = distinct eq (new.map (·.1)) := by
  have hfold (entries : List (α × β)) : (putAll eq entries new).map (·.1) =
      (new.map (·.1)).foldl (fun seen x => if seen.any (eq · x) then seen else seen ++ [x])
        (entries.map (·.1)) := by
    induction new generalizing entries with
    | nil => rfl
    | cons e new ih => rw [putAll_cons, ih, map_fst_put, List.map_cons, List.foldl_cons]
  exact hfold []

/-- Entries whose keys have a property, with no two equal ones. -/
structure Proper (eq : α → α → Bool) (S : α → Prop) (entries : List (α × β)) : Prop where
  keys : ∀ e ∈ entries, S e.1
  apart : entries.Pairwise fun a b => ¬ eq a.1 b.1

theorem find?_eq_none_iff {key : α} {entries : List (α × β)} :
    find? eq key entries = none ↔ ∀ e ∈ entries, ¬ eq e.1 key := by
  induction entries with
  | nil => simp
  | cons e es ih =>
    obtain ⟨k, v⟩ := e
    rw [find?, List.forall_mem_cons, ← ih]
    by_cases h : eq k key <;> simp [h]

theorem exists_of_find?_eq_some {key : α} {value : β} {entries : List (α × β)}
    (h : find? eq key entries = some value) : ∃ e ∈ entries, eq e.1 key ∧ e.2 = value := by
  induction entries with
  | nil => cases h
  | cons e es ih =>
    obtain ⟨k, v⟩ := e
    rw [find?] at h
    split at h
    case isTrue hk => exact ⟨(k, v), List.mem_cons_self, hk, Option.some.inj h⟩
    case isFalse =>
      obtain ⟨e, he, hfound⟩ := ih h
      exact ⟨e, List.mem_cons_of_mem _ he, hfound⟩

theorem rel_flip {R : β → β → Prop} {x y : Option β} (h : Option.Rel R x y) :
    Option.Rel (flip R) y x := by
  cases h with
  | some h => exact .some h
  | none => exact .none

theorem isSome_eq_of_rel {R : β → β → Prop} {x y : Option β} (h : Option.Rel R x y) :
    x.isSome = y.isSome := by
  cases h <;> rfl

namespace Proper

theorem nil : Proper eq S ([] : List (α × β)) := ⟨nofun, .nil⟩

variable {entries entries' : List (α × β)} {key : α}

theorem put (h : Proper eq S entries) (hkey : S key) (value : β) :
    Proper eq S (put eq key value entries) := by
  refine ⟨forall_key_put hkey h.keys, ?_⟩
  have hapart : (entries.map (·.1)).Pairwise fun a b => ¬ eq a b := List.pairwise_map.mpr h.apart
  rw [← List.pairwise_map (f := fun e : α × β => e.1) (R := fun a b => ¬ eq a b), map_fst_put]
  split
  · exact hapart
  · rename_i hnew
    refine List.pairwise_append.mpr ⟨hapart, List.pairwise_singleton _ _, fun a ha b hb => ?_⟩
    obtain rfl := List.mem_singleton.mp hb
    exact fun hab => hnew (List.any_eq_true.mpr ⟨a, ha, hab⟩)

theorem putAll (h : Proper eq S entries) {new : List (α × β)} (hnew : ∀ e ∈ new, S e.1) :
    Proper eq S (putAll eq entries new) := by
  induction new generalizing entries with
  | nil => exact h
  | cons e new ih =>
    obtain ⟨he, hnew⟩ := List.forall_mem_cons.mp hnew
    exact ih (h.put he e.2) hnew

variable (hS : EquivalenceOn eq S)
include hS

theorem eq_of_eq (h : Proper eq S entries) {a b : α × β} (ha : a ∈ entries) (hb : b ∈ entries)
    (hab : eq a.1 b.1) : a = b := by
  induction entries with
  | nil => cases ha
  | cons e es ih =>
    obtain ⟨hfirst, hrest⟩ := List.pairwise_cons.mp h.apart
    have hba := hS.symm (h.keys a ha) (h.keys b hb) hab
    rcases List.mem_cons.mp ha with rfl | ha' <;> rcases List.mem_cons.mp hb with rfl | hb'
    · rfl
    · exact absurd hab (hfirst b hb')
    · exact absurd hba (hfirst a ha')
    · exact ih ⟨fun e he => h.keys e (List.mem_cons_of_mem _ he), hrest⟩ ha' hb'

theorem find?_of_eq (h : Proper eq S entries) (hkey : S key) {e : α × β} (he : e ∈ entries)
    (hfound : eq e.1 key) : find? eq key entries = some e.2 := by
  cases hfind : find? eq key entries with
  | none => exact absurd hfound (find?_eq_none_iff.mp hfind e he)
  | some value =>
    obtain ⟨e', he', hfound', rfl⟩ := exists_of_find?_eq_some hfind
    have hsymm := hS.symm (h.keys e he) hkey hfound
    have hsame := hS.trans (h.keys e' he') hkey (h.keys e he) hfound' hsymm
    rw [h.eq_of_eq hS he' he hsame]

/-- No two keys equal one and the same key of other entries. -/
theorem pairwise_apart (h : Proper eq S entries) (hkeys : ∀ e ∈ entries', S e.1) :
    entries.Pairwise fun a a' => ∀ b ∈ entries', eq a.1 b.1 → ¬ eq a'.1 b.1 := by
  have happart := hS.pairwise_apart (List.forall_mem_map.mpr h.keys) (List.forall_mem_map.mpr hkeys)
    (List.pairwise_map.mpr h.apart)
  refine (List.pairwise_map.mp happart).imp fun {a a'} hne b hb => ?_
  exact hne b.1 (List.mem_map.mpr ⟨b, hb, rfl⟩)

theorem length_le_length (h : Proper eq S entries) (hkeys : ∀ e ∈ entries', S e.1)
    (hfound : ∀ a ∈ entries, ∃ b ∈ entries', eq a.1 b.1) : entries.length ≤ entries'.length := by
  obtain ⟨found, hsub, hmatch⟩ := exists_subperm_forall₂ (h.pairwise_apart hS hkeys) hfound
  exact hmatch.length_eq ▸ hsub.length_le

theorem exists_of_rel {R : β → β → Prop} (h : Proper eq S entries) (h' : Proper eq S entries')
    (hrel : ∀ key, S key → Option.Rel R (find? eq key entries) (find? eq key entries')) :
    ∀ a ∈ entries, ∃ b ∈ entries', eq a.1 b.1 ∧ R a.2 b.2 := by
  intro a ha
  have hkey := h.keys a ha
  have hrel := hrel a.1 hkey
  rw [h.find?_of_eq hS hkey ha (hS.refl hkey)] at hrel
  cases hfind : find? eq a.1 entries' with
  | none =>
    rw [hfind] at hrel
    cases hrel
  | some value =>
    obtain ⟨b, hb, hfound, rfl⟩ := exists_of_find?_eq_some hfind
    rw [hfind] at hrel
    cases hrel with
    | some hvalue => exact ⟨b, hb, hS.symm (h'.keys b hb) hkey hfound, hvalue⟩

/-- The same is found at every key if and only if the entries match, in whatever order. -/
theorem rel_find?_iff {R : β → β → Prop} (h : Proper eq S entries) (h' : Proper eq S entries') :
    (∀ key, S key → Option.Rel R (find? eq key entries) (find? eq key entries')) ↔
      entries.length = entries'.length ∧ ∀ a ∈ entries, ∃ b ∈ entries', eq a.1 b.1 ∧ R a.2 b.2 := by
  constructor
  · intro hrel
    have hfound := h.exists_of_rel hS h' hrel
    have hfound' := h'.exists_of_rel hS h fun key hkey => rel_flip (hrel key hkey)
    refine ⟨Nat.le_antisymm ?_ ?_, hfound⟩
    · exact h.length_le_length hS h'.keys fun a ha => (hfound a ha).imp fun _ hb => ⟨hb.1, hb.2.1⟩
    · exact h'.length_le_length hS h.keys fun a ha => (hfound' a ha).imp fun _ hb => ⟨hb.1, hb.2.1⟩
  · rintro ⟨hlength, hfound⟩ key hkey
    cases hfind : find? eq key entries with
    | some value =>
      obtain ⟨a, ha, hak, rfl⟩ := exists_of_find?_eq_some hfind
      obtain ⟨b, hb, hab, hvalue⟩ := hfound a ha
      have hba := hS.symm (h.keys a ha) (h'.keys b hb) hab
      rw [h'.find?_of_eq hS hkey hb (hS.trans (h'.keys b hb) (h.keys a ha) hkey hba hak)]
      exact .some hvalue
    | none =>
      -- an entry that was found here would have one that matches it there
      have happart := h.pairwise_apart hS h'.keys
      obtain ⟨found, hperm, hmatch⟩ := exists_perm_forall₂ happart hlength fun a ha =>
        (hfound a ha).imp fun _ hb => ⟨hb.1, hb.2.1⟩
      have hnone : find? eq key entries' = none := by
        refine find?_eq_none_iff.mpr fun b hb hbk => ?_
        obtain ⟨a, ha, hab⟩ := exists_of_mem_right hmatch (hperm.mem_iff.mpr hb)
        have hak := hS.trans (h.keys a ha) (h'.keys b hb) hkey hab hbk
        exact find?_eq_none_iff.mp hfind a ha hak
      rw [hnone]
      exact .none

end Proper

variable [BEq α] [LawfulBEq α]

theorem find?_put_self (key : α) (value : β) (entries : List (α × β)) :
    find? (· == ·) key (put (· == ·) key value entries) = some value := by
  rw [find?_put equivalenceOn_beq trivial trivial fun _ _ => trivial, if_pos BEq.rfl]

theorem find?_put_of_ne {key key' : α} (h : key' ≠ key) (value : β) (entries : List (α × β)) :
    find? (· == ·) key (put (· == ·) key' value entries) = find? (· == ·) key entries := by
  rw [find?_put equivalenceOn_beq trivial trivial fun _ _ => trivial, if_neg (by simpa using h)]

theorem find?_putAll (key : α) (entries new : List (α × β)) :
    find? (· == ·) key (putAll (· == ·) entries new) =
      (((new.filter (·.1 == key)).getLast?.map (·.2)).or (find? (· == ·) key entries)) :=
  find?_putAll_of_equivalence equivalenceOn_beq trivial (fun _ _ => trivial) fun _ _ => trivial

theorem put_of_not_mem {key : α} {entries : List (α × β)} (h : key ∉ entries.map (·.1))
    (value : β) : put (· == ·) key value entries = entries ++ [(key, value)] := by
  induction entries with
  | nil => rfl
  | cons e es ih =>
    obtain ⟨k, v⟩ := e
    rw [List.map_cons, List.mem_cons, not_or] at h
    rw [put, if_neg (by simpa using Ne.symm h.1), ih h.2, List.cons_append]

theorem putAll_of_nodup {entries new : List (α × β)} (h : ((entries ++ new).map (·.1)).Nodup) :
    putAll (· == ·) entries new = entries ++ new := by
  induction new generalizing entries with
  | nil => simp
  | cons e new ih =>
    have hsplit : entries ++ e :: new = (entries ++ [e]) ++ new := by simp
    have hkey : e.1 ∉ entries.map (·.1) := by
      intro hmem
      rw [List.map_append, List.map_cons] at h
      exact (List.nodup_append.mp h).2.2 e.1 hmem e.1 List.mem_cons_self rfl
    rw [putAll_cons, put_of_not_mem hkey, ih (hsplit ▸ h), hsplit]

/-- Where the keys are distinct every entry is found. -/
theorem find?_of_mem {key : α} {value : β} {entries : List (α × β)}
    (h : (entries.map (·.1)).Nodup) (hmem : (key, value) ∈ entries) :
    find? (· == ·) key entries = some value := by
  induction entries with
  | nil => exact absurd hmem List.not_mem_nil
  | cons e es ih =>
    obtain ⟨k, v⟩ := e
    obtain ⟨hk, hes⟩ := List.nodup_cons.mp h
    rw [find?]
    rcases List.mem_cons.mp hmem with he | hmem
    · cases he
      rw [if_pos (by simp)]
    · have hne : k ≠ key := by
        rintro rfl
        exact hk (List.mem_map.mpr ⟨_, hmem, rfl⟩)
      rw [if_neg (by simpa using hne), ih hes hmem]

end Marshal.Assoc
