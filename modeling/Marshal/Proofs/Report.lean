import Marshal.Event
import Mathlib.Data.List.Forall2

/-!
# Outcomes of reports

Reports are a lawful monad, and a traversal comes to a list of values exactly if each of its steps
comes to the value at its place. It fails with what the first of its steps that fails does.
-/

namespace Marshal.Report
set_option autoImplicit false

variable {ε ε' α β : Type}

instance : LawfulMonad (Report ε) := by
  refine LawfulMonad.mk' (Report ε) ?_ ?_ ?_
  · rintro α ⟨es, _ | _⟩ <;> simp [Functor.map]
  · intro α β a f
    simp [bind, pure]
  · rintro α β γ ⟨es, _ | a⟩ f g
    · rfl
    · simp only [bind]
      cases (f a).outcome <;> simp

theorem bind_outcome_eq_ok {r : Report ε α} {f : α → Report ε β} {b : β} :
    (r >>= f).outcome = .ok b ↔ ∃ a, r.outcome = .ok a ∧ (f a).outcome = .ok b := by
  rw [outcome_bind]
  cases r.outcome with
  | error e => simp [bind, Except.bind]
  | ok a => simp [bind, Except.bind]

theorem mapError_outcome_eq_ok {r : Report ε α} {f : ε → ε'} {a : α} :
    (r.mapError f).outcome = .ok a ↔ r.outcome = .ok a := by
  rcases r with ⟨es, _ | b⟩ <;> simp [mapError, Except.mapError]

/-- A handler that fails in every case changes failures only. -/
theorem rescue_outcome_eq_ok {r : Report ε α} {handler : ε → Report ε' α} {a : α}
    (h : ∀ e, ∃ e', (handler e).outcome = .error e') :
    (r.rescue handler).outcome = .ok a ↔ r.outcome = .ok a := by
  rcases r with ⟨es, e | b⟩
  · obtain ⟨e', he'⟩ := h e
    simp [rescue, he']
  · simp [rescue]

/-- Steps that come to the values of a relation make a traversal that relates the lists. -/
theorem mapM_outcome_eq_ok {f : α → Report ε β} {R : α → β → Prop}
    (h : ∀ x y, (f x).outcome = .ok y ↔ R x y) {xs : List α} {ys : List β} :
    (xs.mapM f).outcome = .ok ys ↔ List.Forall₂ R xs ys := by
  induction xs generalizing ys with
  | nil => cases ys <;> simp
  | cons x xs ih =>
    rw [List.mapM_cons, bind_outcome_eq_ok]
    constructor
    · rintro ⟨y, hy, hys⟩
      obtain ⟨zs, hzs, hys⟩ := bind_outcome_eq_ok.mp hys
      cases hys
      exact .cons ((h x y).mp hy) (ih.mp hzs)
    · rintro (_ | ⟨hy, hys⟩)
      exact ⟨_, (h x _).mpr hy, bind_outcome_eq_ok.mpr ⟨_, ih.mpr hys, rfl⟩⟩

def failure? (r : Report ε α) : Option ε :=
  match r.outcome with
  | .error e => some e
  | .ok _ => none

theorem failure?_eq_some_iff {r : Report ε α} {e : ε} :
    r.failure? = some e ↔ r.outcome = .error e := by
  unfold failure?
  cases r.outcome <;> simp

theorem failure?_bind {r : Report ε α} {f : α → Report ε β} {o : Option ε}
    (h : ∀ a, (f a).failure? = o) : (r >>= f).failure? = r.failure?.or o := by
  unfold failure? at h ⊢
  rw [outcome_bind]
  cases r.outcome with
  | error e => rfl
  | ok a => exact h a

theorem failure?_bind_pure {r : Report ε α} {g : α → β} :
    (r >>= fun a => pure (g a)).failure? = r.failure? := by
  rw [failure?_bind (o := none) fun a => rfl, Option.or_none]

/-- A traversal fails with what the first of its steps that fails does. -/
theorem failure?_mapM {f : α → Report ε β} {xs : List α} :
    (xs.mapM f).failure? = xs.findSome? fun x => (f x).failure? := by
  induction xs with
  | nil => rfl
  | cons x xs ih =>
    have hrest : ∀ y, (do
        let ys ← xs.mapM f
        pure (y :: ys) : Report ε (List β)).failure? = xs.findSome? fun x => (f x).failure? := by
      intro y
      rw [failure?_bind_pure, ih]
    rw [List.mapM_cons, failure?_bind hrest, List.findSome?_cons]
    cases (f x).failure? <;> rfl

theorem failure?_mapM_eq_none {f : α → Report ε β} {xs : List α}
    (h : ∀ x, (f x).failure? = none) : (xs.mapM f).failure? = none := by
  rw [failure?_mapM, List.findSome?_eq_none_iff]
  exact fun x _ => h x

end Marshal.Report
