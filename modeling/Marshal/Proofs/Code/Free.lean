import Marshal.Code.Expr
import Mathlib.Data.List.Basic

/-!
# Free names

The names that an expression uses outside the scope of a variable of that name. The variable of a
comprehension is bound in what it collects, not in what it runs over.
-/

namespace Marshal.Code.Expr
set_option autoImplicit false

mutual
/-- The names that occur free in an expression; a text that stands for an expression is one name. -/
def free : Expr → List String
  | .name n => [n]
  | .str _ => []
  | .attr e _ | .item e _ | .orList e | .orDict e | .group e | .present e => e.free
  | .call f args => f.free ++ freeEach args
  | .list es => freeEach es
  | .dict es => freeEntries es
  | .listFor b x s => b.free.filter (· != x) ++ s.free
  | .dictFor k v x s => (k.free ++ v.free).filter (· != x) ++ s.free
  | .function x b => b.free.filter (· != x)
  | .equal a b => a.free ++ b.free

def freeEach : List Expr → List String
  | [] => []
  | e :: es => e.free ++ freeEach es

def freeEntries : List (String × Expr) → List String
  | [] => []
  | (_, e) :: es => e.free ++ freeEntries es
end

theorem freeEach_eq_flatMap (es : List Expr) : freeEach es = es.flatMap free := by
  induction es with
  | nil => rfl
  | cons e es ih => rw [freeEach, ih, List.flatMap_cons]

theorem mem_freeEach {n : String} {es : List Expr} : n ∈ freeEach es ↔ ∃ e ∈ es, n ∈ e.free := by
  rw [freeEach_eq_flatMap, List.mem_flatMap]

end Marshal.Code.Expr
