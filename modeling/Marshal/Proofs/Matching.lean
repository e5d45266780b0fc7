import Mathlib.Data.List.Forall2
import Mathlib.Data.List.Perm.Subperm

/-!
# Lists whose items are related

Where the items of two lists are related one by one, what holds of the items of one list carries
over to those of the other. Where each item of one list is related to some item of another, and no
two to the same one, the items can be brought in an order in which they are related one by one.
-/

namespace Marshal
set_option autoImplicit false

variable {α β : Type} {R : α → β → Prop} {xs : List α} {ys : List β}

theorem exists_of_mem_left (h : List.Forall₂ R xs ys) {x : α} (hx : x ∈ xs) :
    ∃ y ∈ ys, R x y := by
  induction h with
  | nil => cases hx
  | cons hxy _ ih =>
    rcases List.mem_cons.mp hx with rfl | hx
    · exact ⟨_, List.mem_cons_self, hxy⟩
    · obtain ⟨y, hy, h⟩ := ih hx
      exact ⟨y, List.mem_cons_of_mem _ hy, h⟩

theorem exists_of_mem_right (h : List.Forall₂ R xs ys) {y : β} (hy : y ∈ ys) :
    ∃ x ∈ xs, R x y := exists_of_mem_left h.flip hy

theorem forall₂_imp_of_mem {Q : α → β → Prop} (h : List.Forall₂ R xs ys)
    (himp : ∀ x ∈ xs, ∀ y ∈ ys, R x y → Q x y) : List.Forall₂ Q xs ys := by
  induction h with
  | nil => exact .nil
  | cons hxy _ ih =>
    refine .cons (himp _ List.mem_cons_self _ List.mem_cons_self hxy) (ih fun x hx y hy => ?_)
    exact himp x (List.mem_cons_of_mem _ hx) y (List.mem_cons_of_mem _ hy)

/-- Lists whose items are related one by one have the same images, if related items do. -/
theorem forall₂_map_eq {γ : Type} {f : α → γ} {g : β → γ} (hfg : ∀ x y, R x y → f x = g y)
    (h : List.Forall₂ R xs ys) : xs.map f = ys.map g := by
  rw [← List.forall₂_eq_eq_eq, List.forall₂_map_left_iff, List.forall₂_map_right_iff]
  exact h.imp hfg

/-- What holds between any two items of a list holds between those that they are related to. -/
theorem pairwise_of_forall₂ (h : List.Forall₂ R xs ys) {P : α → α → Prop} {Q : β → β → Prop}
    (hq : ∀ {x x' y y'}, R x y → R x' y' → P x x' → Q y y') (hp : xs.Pairwise P) :
    ys.Pairwise Q := by
  induction h with
  | nil => exact .nil
  | cons hxy hrest ih =>
    obtain ⟨hfirst, hp⟩ := List.pairwise_cons.mp hp
    refine .cons (fun y' hy' => ?_) (ih hp)
    obtain ⟨x', hx', hxy'⟩ := exists_of_mem_right hrest hy'
    exact hq hxy hxy' (hfirst x' hx')

/-- Where no two items of a list are related to one item of another, and every one is related to
some, they are related one by one to different items. -/
theorem exists_subperm_forall₂ (happart : xs.Pairwise fun x x' => ∀ y ∈ ys, R x y → ¬ R x' y)
    (hfound : ∀ x ∈ xs, ∃ y ∈ ys, R x y) : ∃ ys', ys'.Subperm ys ∧ List.Forall₂ R xs ys' := by
  induction xs generalizing ys with
  | nil => exact ⟨[], List.nil_subperm, .nil⟩
  | cons x xs ih =>
    obtain ⟨hx, happart⟩ := List.pairwise_cons.mp happart
    obtain ⟨⟨y, hy, hxy⟩, hfound⟩ := List.forall_mem_cons.mp hfound
    obtain ⟨front, back, rfl⟩ := List.append_of_mem hy
    -- the others are related to items that are left when the first one is taken away
    have hleft : ∀ x' ∈ xs, ∃ y' ∈ front ++ back, R x' y' := by
      intro x' hx'
      obtain ⟨y', hy', hxy'⟩ := hfound x' hx'
      have hne : y' ≠ y := by
        rintro rfl
        exact hx x' hx' y' hy' hxy hxy'
      refine ⟨y', ?_, hxy'⟩
      simpa [hne] using hy'
    have hsub : front ++ back ⊆ front ++ y :: back := by
      intro y' hy'
      rcases List.mem_append.mp hy' with hy' | hy'
      · exact List.mem_append_left _ hy'
      · exact List.mem_append_right _ (List.mem_cons_of_mem y hy')
    obtain ⟨ys', hperm, hrelated⟩ := ih (happart.imp fun h y' hy' => h y' (hsub hy')) hleft
    exact ⟨y :: ys', ((List.subperm_cons y).mpr hperm).trans List.perm_middle.symm.subperm,
      .cons hxy hrelated⟩

theorem exists_perm_forall₂ (happart : xs.Pairwise fun x x' => ∀ y ∈ ys, R x y → ¬ R x' y)
    (hlength : xs.length = ys.length) (hfound : ∀ x ∈ xs, ∃ y ∈ ys, R x y) :
    ∃ ys', ys'.Perm ys ∧ List.Forall₂ R xs ys' := by
  obtain ⟨ys', hperm, hrelated⟩ := exists_subperm_forall₂ happart hfound
  have hle : ys.length ≤ ys'.length := Nat.le_of_eq (hlength.symm.trans hrelated.length_eq)
  exact ⟨ys', hperm.perm_of_length_le hle, hrelated⟩

end Marshal
