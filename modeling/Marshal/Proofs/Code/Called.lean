import Marshal.Code.Function
import Mathlib.Data.List.Basic

/-!
# Functions that code calls

The functions of all calls in a piece of code, at any depth: those of the arguments of a call as
well as those that its function is made with.
-/

namespace Marshal.Code
set_option autoImplicit false

namespace Expr

mutual
def called : Expr → List Expr
  | .name _ | .str _ => []
  | .attr e _ | .item e _ | .orList e | .orDict e | .group e | .present e => e.called
  | .call f args => f :: (f.called ++ calledEach args)
  | .list es => calledEach es
  | .dict es => calledEntries es
  | .listFor b _ s => b.called ++ s.called
  | .dictFor k v _ s => k.called ++ v.called ++ s.called
  | .function _ b => b.called
  | .equal a b => a.called ++ b.called

def calledEach : List Expr → List Expr
  | [] => []
  | e :: es => e.called ++ calledEach es

def calledEntries : List (String × Expr) → List Expr
  | [] => []
  | (_, e) :: es => e.called ++ calledEntries es
end

/-- Every function that an expression calls has a property. -/
def Calls (P : Expr → Prop) (e : Expr) : Prop := ∀ f ∈ e.called, P f

variable {P Q : Expr → Prop}

theorem Calls.mono {e : Expr} (h : e.Calls P) (hq : ∀ f, P f → Q f) : e.Calls Q :=
  fun f hf => hq f (h f hf)

theorem forall_calledEach {es : List Expr} : (∀ f ∈ calledEach es, P f) ↔ ∀ e ∈ es, e.Calls P := by
  induction es with
  | nil => exact iff_of_true nofun nofun
  | cons e es ih => rw [calledEach, List.forall_mem_append, List.forall_mem_cons, ih, Calls]

theorem forall_calledEntries {es : List (String × Expr)} :
    (∀ f ∈ calledEntries es, P f) ↔ ∀ e ∈ es, e.2.Calls P := by
  induction es with
  | nil => exact iff_of_true nofun nofun
  | cons e es ih => rw [calledEntries, List.forall_mem_append, List.forall_mem_cons, ih, Calls]

@[simp] theorem calls_name {n : String} : (Expr.name n).Calls P := nofun

@[simp] theorem calls_str {s : String} : (Expr.str s).Calls P := nofun

@[simp] theorem calls_attr {e : Expr} {a : String} : (Expr.attr e a).Calls P ↔ e.Calls P := Iff.rfl

@[simp] theorem calls_item {e : Expr} {i : Nat} : (Expr.item e i).Calls P ↔ e.Calls P := Iff.rfl

@[simp] theorem calls_call {f : Expr} {args : List Expr} :
    (Expr.call f args).Calls P ↔ P f ∧ f.Calls P ∧ ∀ e ∈ args, e.Calls P := by
  rw [Calls, called, List.forall_mem_cons, List.forall_mem_append, forall_calledEach, Calls]

@[simp] theorem calls_orList {e : Expr} : (Expr.orList e).Calls P ↔ e.Calls P := Iff.rfl

@[simp] theorem calls_orDict {e : Expr} : (Expr.orDict e).Calls P ↔ e.Calls P := Iff.rfl

@[simp] theorem calls_group {e : Expr} : (Expr.group e).Calls P ↔ e.Calls P := Iff.rfl

@[simp] theorem calls_list {es : List Expr} : (Expr.list es).Calls P ↔ ∀ e ∈ es, e.Calls P :=
  forall_calledEach

@[simp] theorem calls_dict {es : List (String × Expr)} :
    (Expr.dict es).Calls P ↔ ∀ e ∈ es, e.2.Calls P := forall_calledEntries

@[simp] theorem calls_listFor {b s : Expr} {x : String} :
    (Expr.listFor b x s).Calls P ↔ b.Calls P ∧ s.Calls P := List.forall_mem_append

@[simp] theorem calls_dictFor {k v s : Expr} {x : String} :
    (Expr.dictFor k v x s).Calls P ↔ (k.Calls P ∧ v.Calls P) ∧ s.Calls P :=
  List.forall_mem_append.trans (and_congr_left' List.forall_mem_append)

@[simp] theorem calls_function {b : Expr} {x : String} :
    (Expr.function x b).Calls P ↔ b.Calls P := Iff.rfl

@[simp] theorem calls_equal {a b : Expr} : (Expr.equal a b).Calls P ↔ a.Calls P ∧ b.Calls P :=
  List.forall_mem_append

@[simp] theorem calls_present {e : Expr} : (Expr.present e).Calls P ↔ e.Calls P := Iff.rfl

@[simp] theorem calls_callAttr {e : Expr} {a : String} {args : List Expr} :
    (Expr.callAttr e a args).Calls P ↔ P (.attr e a) ∧ e.Calls P ∧ ∀ x ∈ args, x.Calls P :=
  calls_call

end Expr

namespace Stmt

mutual
def called : Stmt → List Expr
  | .assign _ e => e.called
  | .assignItem _ k e => k.called ++ e.called
  | .forEach _ e body => e.called ++ calledEach body
  | .when e body => e.called ++ calledEach body
  | .ret e => e.called
  | .retCall f args => f :: (f.called ++ Expr.calledEach args)
  | .retDict es => Expr.calledEntries es
  | .raise e => e.called

def calledEach : List Stmt → List Expr
  | [] => []
  | s :: ss => s.called ++ calledEach ss
end

/-- Every function that a block calls has a property. -/
def CallsEach (P : Expr → Prop) (ss : List Stmt) : Prop := ∀ f ∈ calledEach ss, P f

variable {P Q : Expr → Prop} {s : Stmt} {ss ts : List Stmt}

theorem CallsEach.mono (h : CallsEach P ss) (hq : ∀ f, P f → Q f) : CallsEach Q ss :=
  fun f hf => hq f (h f hf)

@[simp] theorem callsEach_nil : CallsEach P [] := nofun

theorem callsEach_cons : CallsEach P (s :: ss) ↔ (∀ f ∈ s.called, P f) ∧ CallsEach P ss :=
  List.forall_mem_append

@[simp] theorem callsEach_append : CallsEach P (ss ++ ts) ↔ CallsEach P ss ∧ CallsEach P ts := by
  induction ss with
  | nil => exact (and_iff_right callsEach_nil).symm
  | cons s ss ih => rw [List.cons_append, callsEach_cons, callsEach_cons, ih, and_assoc]

theorem callsEach_flatMap {α : Type} {f : α → List Stmt} {xs : List α} :
    CallsEach P (xs.flatMap f) ↔ ∀ x ∈ xs, CallsEach P (f x) := by
  induction xs with
  | nil => exact iff_of_true nofun nofun
  | cons x xs ih => rw [List.flatMap_cons, callsEach_append, List.forall_mem_cons, ih]

@[simp] theorem callsEach_assign {x : String} {e : Expr} :
    CallsEach P (.assign x e :: ss) ↔ e.Calls P ∧ CallsEach P ss := callsEach_cons

@[simp] theorem callsEach_assignItem {x : String} {k e : Expr} :
    CallsEach P (.assignItem x k e :: ss) ↔ (k.Calls P ∧ e.Calls P) ∧ CallsEach P ss :=
  callsEach_cons.trans (and_congr_left' List.forall_mem_append)

@[simp] theorem callsEach_forEach {xs : List String} {e : Expr} {body : List Stmt} :
    CallsEach P (.forEach xs e body :: ss) ↔ (e.Calls P ∧ CallsEach P body) ∧ CallsEach P ss :=
  callsEach_cons.trans (and_congr_left' List.forall_mem_append)

@[simp] theorem callsEach_when {e : Expr} {body : List Stmt} :
    CallsEach P (.when e body :: ss) ↔ (e.Calls P ∧ CallsEach P body) ∧ CallsEach P ss :=
  callsEach_cons.trans (and_congr_left' List.forall_mem_append)

@[simp] theorem callsEach_ret {e : Expr} :
    CallsEach P (.ret e :: ss) ↔ e.Calls P ∧ CallsEach P ss := callsEach_cons

theorem callsEach_single_ret {e : Expr} (h : e.Calls P) : CallsEach P [.ret e] :=
  callsEach_ret.mpr ⟨h, callsEach_nil⟩

/-- A call that is spread over several lines is a call all the same. -/
@[simp] theorem callsEach_retCall {f : Expr} {args : List Expr} :
    CallsEach P (.retCall f args :: ss) ↔ (Expr.call f args).Calls P ∧ CallsEach P ss :=
  callsEach_cons

@[simp] theorem callsEach_retDict {es : List (String × Expr)} :
    CallsEach P (.retDict es :: ss) ↔ (∀ e ∈ es, e.2.Calls P) ∧ CallsEach P ss :=
  callsEach_cons.trans (and_congr_left' Expr.forall_calledEntries)

@[simp] theorem callsEach_raise {e : Expr} :
    CallsEach P (.raise e :: ss) ↔ e.Calls P ∧ CallsEach P ss := callsEach_cons

theorem callsEach_map_when {α : Type} {guard : α → Expr} {branch : α → List Stmt} {xs : List α} :
    CallsEach P (xs.map fun x => .when (guard x) (branch x)) ↔
      ∀ x ∈ xs, (guard x).Calls P ∧ CallsEach P (branch x) := by
  induction xs with
  | nil => exact iff_of_true nofun nofun
  | cons x xs ih => rw [List.map_cons, callsEach_when, List.forall_mem_cons, ih]

end Stmt

def Function.called (f : Function) : List Expr := Stmt.calledEach f.body

end Marshal.Code
