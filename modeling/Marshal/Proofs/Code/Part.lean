import Marshal.Code.Function
import Mathlib.Data.List.Basic

/-!
# Expressions inside code

The expressions of a piece of code are those it is written with and those inside them, at any depth.
A return that is spread over several lines returns an expression like any other. What is inside an
expression has a shorter text than the whole.
-/

namespace Marshal.Code
set_option autoImplicit false

namespace Expr

mutual
/-- The expressions inside an expression, at any depth. -/
def inner : Expr → List Expr
  | .name _ | .str _ => []
  | .attr e _ | .item e _ | .orList e | .orDict e | .group e | .present e => e :: e.inner
  | .call f args => (f :: f.inner) ++ partsEach args
  | .list es => partsEach es
  | .dict es => partsEntries es
  | .listFor b _ s => (b :: b.inner) ++ (s :: s.inner)
  | .dictFor k v _ s => (k :: k.inner) ++ ((v :: v.inner) ++ (s :: s.inner))
  | .function _ b => b :: b.inner
  | .equal a b => (a :: a.inner) ++ (b :: b.inner)

def partsEach : List Expr → List Expr
  | [] => []
  | e :: es => (e :: e.inner) ++ partsEach es

def partsEntries : List (String × Expr) → List Expr
  | [] => []
  | (_, e) :: es => (e :: e.inner) ++ partsEntries es
end

def parts (e : Expr) : List Expr := e :: e.inner

def EachPart (P : Expr → Prop) (e : Expr) : Prop := ∀ x ∈ e.parts, P x

variable {P Q : Expr → Prop}

theorem forall_partsEach {es : List Expr} :
    (∀ x ∈ partsEach es, P x) ↔ ∀ e ∈ es, e.EachPart P := by
  induction es with
  | nil => exact iff_of_true (List.forall_mem_nil _) (List.forall_mem_nil _)
  | cons e es ih =>
    rw [List.forall_mem_cons, ← ih]
    exact List.forall_mem_append

theorem forall_partsEntries {es : List (String × Expr)} :
    (∀ x ∈ partsEntries es, P x) ↔ ∀ e ∈ es, e.2.EachPart P := by
  induction es with
  | nil => exact iff_of_true (List.forall_mem_nil _) (List.forall_mem_nil _)
  | cons e es ih =>
    rw [List.forall_mem_cons, ← ih]
    exact List.forall_mem_append

@[simp] theorem eachPart_name {n : String} : (Expr.name n).EachPart P ↔ P (.name n) :=
  List.forall_mem_singleton

@[simp] theorem eachPart_str {s : String} : (Expr.str s).EachPart P ↔ P (.str s) :=
  List.forall_mem_singleton

@[simp] theorem eachPart_attr {e : Expr} {a : String} :
    (Expr.attr e a).EachPart P ↔ P (.attr e a) ∧ e.EachPart P := List.forall_mem_cons

@[simp] theorem eachPart_item {e : Expr} {i : Nat} :
    (Expr.item e i).EachPart P ↔ P (.item e i) ∧ e.EachPart P := List.forall_mem_cons

@[simp] theorem eachPart_orList {e : Expr} :
    (Expr.orList e).EachPart P ↔ P (.orList e) ∧ e.EachPart P := List.forall_mem_cons

@[simp] theorem eachPart_orDict {e : Expr} :
    (Expr.orDict e).EachPart P ↔ P (.orDict e) ∧ e.EachPart P := List.forall_mem_cons

@[simp] theorem eachPart_group {e : Expr} :
    (Expr.group e).EachPart P ↔ P (.group e) ∧ e.EachPart P := List.forall_mem_cons

@[simp] theorem eachPart_present {e : Expr} :
    (Expr.present e).EachPart P ↔ P (.present e) ∧ e.EachPart P := List.forall_mem_cons

@[simp] theorem eachPart_function {b : Expr} {x : String} :
    (Expr.function x b).EachPart P ↔ P (.function x b) ∧ b.EachPart P := List.forall_mem_cons

@[simp] theorem eachPart_call {f : Expr} {args : List Expr} :
    (Expr.call f args).EachPart P ↔
      P (.call f args) ∧ f.EachPart P ∧ ∀ e ∈ args, e.EachPart P := by
  rw [← forall_partsEach, EachPart, parts, List.forall_mem_cons, inner, List.forall_mem_append]
  rfl

@[simp] theorem eachPart_list {es : List Expr} :
    (Expr.list es).EachPart P ↔ P (.list es) ∧ ∀ e ∈ es, e.EachPart P :=
  List.forall_mem_cons.trans (and_congr_right' forall_partsEach)

@[simp] theorem eachPart_dict {es : List (String × Expr)} :
    (Expr.dict es).EachPart P ↔ P (.dict es) ∧ ∀ e ∈ es, e.2.EachPart P :=
  List.forall_mem_cons.trans (and_congr_right' forall_partsEntries)

@[simp] theorem eachPart_equal {a b : Expr} :
    (Expr.equal a b).EachPart P ↔ P (.equal a b) ∧ a.EachPart P ∧ b.EachPart P :=
  List.forall_mem_cons.trans (and_congr_right' List.forall_mem_append)

@[simp] theorem eachPart_listFor {b s : Expr} {x : String} :
    (Expr.listFor b x s).EachPart P ↔ P (.listFor b x s) ∧ b.EachPart P ∧ s.EachPart P :=
  List.forall_mem_cons.trans (and_congr_right' List.forall_mem_append)

@[simp] theorem eachPart_dictFor {k v s : Expr} {x : String} :
    (Expr.dictFor k v x s).EachPart P ↔
      P (.dictFor k v x s) ∧ k.EachPart P ∧ v.EachPart P ∧ s.EachPart P := by
  refine List.forall_mem_cons.trans (and_congr_right' ?_)
  exact List.forall_mem_append.trans (and_congr_right' List.forall_mem_append)

theorem length_le_intercalate (sep : String) {t : String} {ts : List String} (h : t ∈ ts) :
    t.toList.length ≤ (sep.intercalate ts).toList.length := by
  induction ts with
  | nil => cases h
  | cons u us ih =>
    cases us with
    | nil =>
      exact Nat.le_of_eq (by rw [List.mem_singleton.mp h, String.intercalate_singleton])
    | cons v vs =>
      rw [String.intercalate_cons_cons, String.toList_append, String.toList_append,
        List.length_append, List.length_append]
      rcases List.mem_cons.mp h with rfl | h
      · omega
      · have hle := ih h
        omega

theorem length_le_of_mem_parts {d e : Expr}
    (ih : d ∈ e.inner → d.text.toList.length < e.text.toList.length) (h : d ∈ e.parts) :
    d.text.toList.length ≤ e.text.toList.length := by
  rcases List.mem_cons.mp h with rfl | h
  · exact Nat.le_refl _
  · exact Nat.le_of_lt (ih h)

mutual
theorem length_chars_lt {d : Expr} (e : Expr) (h : d ∈ e.inner) :
    d.text.toList.length < e.text.toList.length := by
  cases e with
  | name _ | str _ => cases h
  | attr e _ | item e _ | orList e | orDict e | group e | present e | function _ e =>
    have hle := length_le_of_mem_parts (length_chars_lt e) h
    simp only [text, String.toList_append, String.reduceToList, List.length_append,
      List.length_cons]
    omega
  | call f args =>
    simp only [text, String.toList_append, String.reduceToList, List.length_append,
      List.length_cons]
    rcases List.mem_append.mp h with h | h
    · have hle := length_le_of_mem_parts (length_chars_lt f) h
      omega
    · obtain ⟨t, ht, hle⟩ := exists_text_of_mem_partsEach args h
      have hwhole := length_le_intercalate ", " ht
      omega
  | list es =>
    obtain ⟨t, ht, hle⟩ := exists_text_of_mem_partsEach es h
    have hwhole := length_le_intercalate ", " ht
    simp only [text, String.toList_append, String.reduceToList, List.length_append,
      List.length_cons]
    omega
  | dict es =>
    obtain ⟨t, ht, hle⟩ := exists_text_of_mem_partsEntries es h
    have hwhole := length_le_intercalate ", " ht
    simp only [text, String.toList_append, String.reduceToList, List.length_append,
      List.length_cons]
    omega
  | listFor a _ b | equal a b =>
    simp only [text, String.toList_append, String.reduceToList, List.length_append,
      List.length_cons]
    rcases List.mem_append.mp h with h | h
    · have hle := length_le_of_mem_parts (length_chars_lt a) h
      omega
    · have hle := length_le_of_mem_parts (length_chars_lt b) h
      omega
  | dictFor a b _ c =>
    simp only [text, String.toList_append, String.reduceToList, List.length_append,
      List.length_cons]
    rcases List.mem_append.mp h with h | h
    · have hle := length_le_of_mem_parts (length_chars_lt a) h
      omega
    rcases List.mem_append.mp h with h | h
    · have hle := length_le_of_mem_parts (length_chars_lt b) h
      omega
    · have hle := length_le_of_mem_parts (length_chars_lt c) h
      omega

theorem exists_text_of_mem_partsEach {d : Expr} (es : List Expr) (h : d ∈ partsEach es) :
    ∃ t ∈ texts es, d.text.toList.length ≤ t.toList.length := by
  cases es with
  | nil => cases h
  | cons e es =>
    rcases List.mem_append.mp h with h | h
    · exact ⟨e.text, List.mem_cons_self, length_le_of_mem_parts (length_chars_lt e) h⟩
    · obtain ⟨t, ht, hle⟩ := exists_text_of_mem_partsEach es h
      exact ⟨t, List.mem_cons_of_mem _ ht, hle⟩

theorem exists_text_of_mem_partsEntries {d : Expr} (es : List (String × Expr))
    (h : d ∈ partsEntries es) : ∃ t ∈ entryTexts es, d.text.toList.length ≤ t.toList.length := by
  cases es with
  | nil => cases h
  | cons e es =>
    obtain ⟨k, e⟩ := e
    rcases List.mem_append.mp h with h | h
    · have hle := length_le_of_mem_parts (length_chars_lt e) h
      refine ⟨_, List.mem_cons_self, ?_⟩
      rw [String.toList_append, List.length_append]
      omega
    · obtain ⟨t, ht, hle⟩ := exists_text_of_mem_partsEntries es h
      exact ⟨t, List.mem_cons_of_mem _ ht, hle⟩
end

theorem length_chars_call (f e : Expr) :
    (Expr.call f [e]).text.toList.length = f.text.toList.length + e.text.toList.length + 2 := by
  simp only [text, texts, String.intercalate_singleton, String.toList_append, String.reduceToList,
    List.length_append, List.length_cons, List.length_nil]
  omega

theorem length_chars_listFor (body source : Expr) (x : String) :
    (Expr.listFor body x source).text.toList.length =
      body.text.toList.length + x.toList.length + source.text.toList.length + 11 := by
  simp only [text, String.toList_append, String.reduceToList, List.length_append, List.length_cons,
    List.length_nil]
  omega

/-- What is inside an expression is shorter. -/
theorem length_lt_of_mem_inner {d e : Expr} (h : d ∈ e.inner) : d.text.length < e.text.length := by
  rw [← String.length_toList, ← String.length_toList]
  exact length_chars_lt e h

end Expr

namespace Stmt

mutual
/-- The expressions that a statement is written with. -/
def exprs : Stmt → List Expr
  | .assign _ e | .ret e | .raise e => [e]
  | .assignItem _ k e => [k, e]
  | .forEach _ e body | .when e body => e :: exprsEach body
  | .retCall f args => [.call f args]
  | .retDict es => [.dict es]

def exprsEach : List Stmt → List Expr
  | [] => []
  | s :: ss => s.exprs ++ exprsEach ss
end

/-- Every part of the expressions of a block has a property. -/
def EachPart (P : Expr → Prop) (ss : List Stmt) : Prop := ∀ e ∈ exprsEach ss, e.EachPart P

variable {P Q : Expr → Prop} {s : Stmt} {ss ts : List Stmt}

@[simp] theorem eachPart_nil : EachPart P [] := List.forall_mem_nil _

theorem eachPart_cons :
    EachPart P (s :: ss) ↔ (∀ e ∈ s.exprs, e.EachPart P) ∧ EachPart P ss :=
  List.forall_mem_append

@[simp] theorem eachPart_append : EachPart P (ss ++ ts) ↔ EachPart P ss ∧ EachPart P ts := by
  induction ss with
  | nil => exact (and_iff_right eachPart_nil).symm
  | cons s ss ih => rw [List.cons_append, eachPart_cons, eachPart_cons, ih, and_assoc]

theorem eachPart_flatMap {α : Type} {f : α → List Stmt} {xs : List α} :
    EachPart P (xs.flatMap f) ↔ ∀ x ∈ xs, EachPart P (f x) := by
  induction xs with
  | nil => exact iff_of_true (List.forall_mem_nil _) (List.forall_mem_nil _)
  | cons x xs ih => rw [List.flatMap_cons, eachPart_append, List.forall_mem_cons, ih]

@[simp] theorem eachPart_assign {x : String} {e : Expr} :
    EachPart P (.assign x e :: ss) ↔ e.EachPart P ∧ EachPart P ss := List.forall_mem_cons

@[simp] theorem eachPart_ret {e : Expr} :
    EachPart P (.ret e :: ss) ↔ e.EachPart P ∧ EachPart P ss := List.forall_mem_cons

@[simp] theorem eachPart_raise {e : Expr} :
    EachPart P (.raise e :: ss) ↔ e.EachPart P ∧ EachPart P ss := List.forall_mem_cons

@[simp] theorem eachPart_retCall {f : Expr} {args : List Expr} :
    EachPart P (.retCall f args :: ss) ↔ (Expr.call f args).EachPart P ∧ EachPart P ss :=
  List.forall_mem_cons

@[simp] theorem eachPart_retDict {es : List (String × Expr)} :
    EachPart P (.retDict es :: ss) ↔ (Expr.dict es).EachPart P ∧ EachPart P ss :=
  List.forall_mem_cons

@[simp] theorem eachPart_assignItem {x : String} {k e : Expr} :
    EachPart P (.assignItem x k e :: ss) ↔ k.EachPart P ∧ e.EachPart P ∧ EachPart P ss :=
  List.forall_mem_cons.trans (and_congr_right' List.forall_mem_cons)

@[simp] theorem eachPart_forEach {xs : List String} {e : Expr} {body : List Stmt} :
    EachPart P (.forEach xs e body :: ss) ↔
      (e.EachPart P ∧ EachPart P body) ∧ EachPart P ss :=
  eachPart_cons.trans (and_congr_left' List.forall_mem_cons)

@[simp] theorem eachPart_when {e : Expr} {body : List Stmt} :
    EachPart P (.when e body :: ss) ↔ (e.EachPart P ∧ EachPart P body) ∧ EachPart P ss :=
  eachPart_cons.trans (and_congr_left' List.forall_mem_cons)

theorem eachPart_map_when {α : Type} {guard : α → Expr} {branch : α → List Stmt} {xs : List α} :
    EachPart P (xs.map fun x => .when (guard x) (branch x)) ↔
      ∀ x ∈ xs, (guard x).EachPart P ∧ EachPart P (branch x) := by
  induction xs with
  | nil => exact iff_of_true (List.forall_mem_nil _) (List.forall_mem_nil _)
  | cons x xs ih => rw [List.map_cons, eachPart_when, List.forall_mem_cons, ih]

end Stmt

def Function.parts (f : Function) : List Expr := (Stmt.exprsEach f.body).flatMap (·.parts)

theorem Function.forall_parts {P : Expr → Prop} {f : Function} :
    (∀ x ∈ f.parts, P x) ↔ Stmt.EachPart P f.body := by
  rw [parts, List.forall_mem_flatMap]
  rfl

end Marshal.Code
