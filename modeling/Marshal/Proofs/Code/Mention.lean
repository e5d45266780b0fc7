import Marshal.Code.Function
import Mathlib.Data.List.Basic

/-!
# Names that code mentions

The names that expressions and statements use as values. A name directly in front of a dot is none
of them: it selects a module or a runtime. The global names of a function are those that it neither
takes nor assigns.
-/

namespace Marshal.Code
set_option autoImplicit false

namespace Expr

mutual
/-- The names that an expression uses as values. -/
def mentions : Expr → List String
  | .name n => [n]
  | .str _ => []
  | .attr (.name _) _ => []
  | .attr e _ => e.mentions
  | .item e _ => e.mentions
  | .call f args => f.mentions ++ mentionsEach args
  | .orList e => e.mentions
  | .orDict e => e.mentions
  | .group e => e.mentions
  | .list es => mentionsEach es
  | .dict es => mentionsEntries es
  | .listFor b _ s => b.mentions ++ s.mentions
  | .dictFor k v _ s => k.mentions ++ v.mentions ++ s.mentions
  | .function _ b => b.mentions
  | .equal a b => a.mentions ++ b.mentions
  | .present e => e.mentions

def mentionsEach : List Expr → List String
  | [] => []
  | e :: es => e.mentions ++ mentionsEach es

def mentionsEntries : List (String × Expr) → List String
  | [] => []
  | (_, e) :: es => e.mentions ++ mentionsEntries es
end

/-- Every name that an expression uses has a property. -/
def Only (P : String → Prop) (e : Expr) : Prop := ∀ n ∈ e.mentions, P n

variable {P : String → Prop}

theorem Only.mono {Q : String → Prop} {e : Expr} (h : e.Only P) (hq : ∀ n, P n → Q n) :
    e.Only Q := fun n hn => hq n (h n hn)

theorem mentionsEach_eq_flatMap (es : List Expr) : mentionsEach es = es.flatMap mentions := by
  induction es with
  | nil => rfl
  | cons e es ih => rw [mentionsEach, ih, List.flatMap_cons]

theorem mentionsEntries_eq_flatMap (es : List (String × Expr)) :
    mentionsEntries es = es.flatMap fun e => e.2.mentions := by
  induction es with
  | nil => rfl
  | cons e es ih => rw [mentionsEntries, ih, List.flatMap_cons]

theorem forall_mentionsEach {es : List Expr} :
    (∀ n ∈ mentionsEach es, P n) ↔ ∀ e ∈ es, e.Only P := by
  rw [mentionsEach_eq_flatMap]
  simp only [List.mem_flatMap, Only]
  constructor
  · exact fun h e he n hn => h n ⟨e, he, hn⟩
  · rintro h n ⟨e, he, hn⟩
    exact h e he n hn

theorem forall_mentionsEntries {es : List (String × Expr)} :
    (∀ n ∈ mentionsEntries es, P n) ↔ ∀ e ∈ es, e.2.Only P := by
  rw [mentionsEntries_eq_flatMap]
  simp only [List.mem_flatMap, Only]
  constructor
  · exact fun h e he n hn => h n ⟨e, he, hn⟩
  · rintro h n ⟨e, he, hn⟩
    exact h e he n hn

@[simp] theorem only_name {n : String} : (Expr.name n).Only P ↔ P n := List.forall_mem_singleton

@[simp] theorem only_str {s : String} : (Expr.str s).Only P := fun _ hn => nomatch hn

@[simp] theorem only_member {n a : String} : (Expr.attr (.name n) a).Only P :=
  fun _ hn => nomatch hn

theorem Only.attr {e : Expr} (h : e.Only P) (a : String) : (Expr.attr e a).Only P := by
  cases e <;> first | exact only_member | exact h

@[simp] theorem only_item {e : Expr} {i : Nat} : (Expr.item e i).Only P ↔ e.Only P := Iff.rfl

@[simp] theorem only_call {f : Expr} {args : List Expr} :
    (Expr.call f args).Only P ↔ f.Only P ∧ ∀ e ∈ args, e.Only P :=
  List.forall_mem_append.trans (and_congr_right' forall_mentionsEach)

@[simp] theorem only_orList {e : Expr} : (Expr.orList e).Only P ↔ e.Only P := Iff.rfl

@[simp] theorem only_orDict {e : Expr} : (Expr.orDict e).Only P ↔ e.Only P := Iff.rfl

@[simp] theorem only_group {e : Expr} : (Expr.group e).Only P ↔ e.Only P := Iff.rfl

@[simp] theorem only_list {es : List Expr} : (Expr.list es).Only P ↔ ∀ e ∈ es, e.Only P :=
  forall_mentionsEach

@[simp] theorem only_dict {es : List (String × Expr)} :
    (Expr.dict es).Only P ↔ ∀ e ∈ es, e.2.Only P := forall_mentionsEntries

@[simp] theorem only_listFor {b s : Expr} {x : String} :
    (Expr.listFor b x s).Only P ↔ b.Only P ∧ s.Only P := List.forall_mem_append

@[simp] theorem only_dictFor {k v s : Expr} {x : String} :
    (Expr.dictFor k v x s).Only P ↔ (k.Only P ∧ v.Only P) ∧ s.Only P :=
  List.forall_mem_append.trans (and_congr_left' List.forall_mem_append)

@[simp] theorem only_function {b : Expr} {x : String} :
    (Expr.function x b).Only P ↔ b.Only P := Iff.rfl

@[simp] theorem only_equal {a b : Expr} : (Expr.equal a b).Only P ↔ a.Only P ∧ b.Only P :=
  List.forall_mem_append

@[simp] theorem only_present {e : Expr} : (Expr.present e).Only P ↔ e.Only P := Iff.rfl

theorem Only.callAttr {e : Expr} {args : List Expr} (h : e.Only P) (hargs : ∀ a ∈ args, a.Only P)
    (member : String) : (Expr.callAttr e member args).Only P :=
  only_call.mpr ⟨h.attr member, hargs⟩

end Expr

namespace Stmt

mutual
/-- The names that a statement uses as values. -/
def mentions : Stmt → List String
  | .assign _ e => e.mentions
  | .assignItem x k e => x :: (k.mentions ++ e.mentions)
  | .forEach _ e body => e.mentions ++ mentionsEach body
  | .when e body => e.mentions ++ mentionsEach body
  | .ret e => e.mentions
  | .retCall f args => f.mentions ++ Expr.mentionsEach args
  | .retDict es => Expr.mentionsEntries es
  | .raise e => e.mentions

def mentionsEach : List Stmt → List String
  | [] => []
  | s :: ss => s.mentions ++ mentionsEach ss
end

mutual
/-- The names that a statement gives a value to. -/
def assigns : Stmt → List String
  | .assign x _ => [x]
  | .forEach xs _ body => xs ++ assignsEach body
  | .when _ body => assignsEach body
  | .assignItem .. | .ret _ | .retCall .. | .retDict _ | .raise _ => []

def assignsEach : List Stmt → List String
  | [] => []
  | s :: ss => s.assigns ++ assignsEach ss
end

theorem mentionsEach_append (ss ts : List Stmt) :
    mentionsEach (ss ++ ts) = mentionsEach ss ++ mentionsEach ts := by
  induction ss with
  | nil => rfl
  | cons s ss ih => rw [List.cons_append, mentionsEach, mentionsEach, ih, List.append_assoc]

theorem assignsEach_append (ss ts : List Stmt) :
    assignsEach (ss ++ ts) = assignsEach ss ++ assignsEach ts := by
  induction ss with
  | nil => rfl
  | cons s ss ih => rw [List.cons_append, assignsEach, assignsEach, ih, List.append_assoc]

/-- Every name that a block uses has a property, unless it is given or the block assigns it. -/
def Closed (given : List String) (P : String → Prop) (ss : List Stmt) : Prop :=
  ∀ n ∈ mentionsEach ss, n ∈ given ∨ n ∈ assignsEach ss ∨ P n

variable {given : List String} {P : String → Prop} {ss ts : List Stmt}

/-- The names that an expression may use after some were given. -/
def Allows (given : List String) (P : String → Prop) (n : String) : Prop := n ∈ given ∨ P n

theorem Closed.nil : Closed given P [] := fun _ hn => absurd hn List.not_mem_nil

theorem Closed.append (hs : Closed given P ss) (ht : Closed (given ++ assignsEach ss) P ts) :
    Closed given P (ss ++ ts) := by
  intro n hn
  rw [assignsEach_append, List.mem_append]
  rw [mentionsEach_append, List.mem_append] at hn
  rcases hn with hn | hn
  · rcases hs n hn with h | h | h
    · exact .inl h
    · exact .inr (.inl (.inl h))
    · exact .inr (.inr h)
  · rcases ht n hn with h | h | h
    · rcases List.mem_append.mp h with h | h
      · exact .inl h
      · exact .inr (.inl (.inl h))
    · exact .inr (.inl (.inr h))
    · exact .inr (.inr h)

theorem Closed.mono {given' : List String} (h : Closed given P ss) (hg : given ⊆ given') :
    Closed given' P ss := by
  intro n hn
  rcases h n hn with h | h
  · exact .inl (hg h)
  · exact .inr h

theorem Closed.flatMap {α : Type} {xs : List α} {f : α → List Stmt}
    (h : ∀ x ∈ xs, Closed given P (f x)) : Closed given P (xs.flatMap f) := by
  induction xs with
  | nil => exact .nil
  | cons x xs ih =>
    rw [List.flatMap_cons]
    refine (h x List.mem_cons_self).append ?_
    exact (ih fun y hy => h y (List.mem_cons_of_mem x hy)).mono (List.subset_append_left _ _)

theorem mem_assignsEach_flatMap {α : Type} {xs : List α} {f : α → List Stmt} {x : α} {n : String}
    (hx : x ∈ xs) (hn : n ∈ assignsEach (f x)) : n ∈ assignsEach (xs.flatMap f) := by
  induction xs with
  | nil => exact absurd hx List.not_mem_nil
  | cons y xs ih =>
    rw [List.flatMap_cons, assignsEach_append, List.mem_append]
    rcases List.mem_cons.mp hx with rfl | hx
    · exact .inl hn
    · exact .inr (ih hx)

theorem Allows.mono {given' : List String} (hg : given ⊆ given') {n : String}
    (h : Allows given P n) : Allows given' P n :=
  h.imp_left (@hg n)

theorem Allows.only {given' : List String} {e : Expr} (h : e.Only (Allows given P))
    (hg : given ⊆ given') : e.Only (Allows given' P) :=
  Expr.Only.mono h fun _ hn => hn.mono hg

theorem closed_singleton {s : Stmt} :
    Closed given P [s] ↔ ∀ n ∈ s.mentions, n ∈ given ∨ n ∈ s.assigns ∨ P n := by
  simp [Closed, mentionsEach, assignsEach]

/-- A statement that only uses what is allowed before it, and what follows. -/
theorem Closed.cons {s : Stmt} (hs : ∀ n ∈ s.mentions, Allows given P n)
    (ht : Closed (given ++ s.assigns) P ss) : Closed given P (s :: ss) := by
  have hone : Closed given P [s] := by
    refine closed_singleton.mpr fun n hn => ?_
    rcases hs n hn with h | h
    · exact .inl h
    · exact .inr (.inr h)
  have hassigns : assignsEach [s] = s.assigns := by simp [assignsEach]
  exact hone.append (by rwa [hassigns])

theorem Closed.single {s : Stmt} (hs : ∀ n ∈ s.mentions, Allows given P n) :
    Closed given P [s] := .cons hs .nil

theorem Closed.when {e : Expr} {body : List Stmt} (he : e.Only (Allows given P))
    (hb : Closed given P body) : Closed given P [.when e body] := by
  refine closed_singleton.mpr fun n hn => ?_
  rcases List.mem_append.mp hn with hn | hn
  · exact (he n hn).imp_right .inr
  · exact hb n hn

theorem Closed.forEach {xs : List String} {e : Expr} {body : List Stmt}
    (he : e.Only (Allows given P)) (hb : Closed (given ++ xs) P body) :
    Closed given P [.forEach xs e body] := by
  refine closed_singleton.mpr fun n hn => ?_
  rw [assigns, List.mem_append]
  rcases List.mem_append.mp hn with hn | hn
  · exact (he n hn).imp_right .inr
  · rcases hb n hn with h | h | h
    · rcases List.mem_append.mp h with h | h
      · exact .inl h
      · exact .inr (.inl (.inl h))
    · exact .inr (.inl (.inr h))
    · exact .inr (.inr h)

end Stmt

/-- The names that a function uses and neither takes nor assigns. -/
def Function.globals (f : Function) : List String :=
  (Stmt.mentionsEach f.body).filter fun n =>
    n ∉ f.params.map (·.name) ∧ n ∉ Stmt.assignsEach f.body

theorem Function.globals_of_closed {f : Function} {P : String → Prop}
    (h : Stmt.Closed (f.params.map (·.name)) P f.body) : ∀ n ∈ f.globals, P n := by
  intro n hn
  obtain ⟨hn, hlocal⟩ := List.mem_filter.mp hn
  obtain ⟨hparam, hassigned⟩ := of_decide_eq_true hlocal
  rcases h n hn with h | h | h
  · exact absurd h hparam
  · exact absurd h hassigned
  · exact h

end Marshal.Code
