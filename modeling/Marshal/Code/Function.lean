import Marshal.Code.TypeHint
import Marshal.Code.Stmt

/-!
# Functions of generated code

A function carries the annotations of its parameters and of its result; they are written in the
typed profile only.
-/

namespace Marshal.Code
set_option autoImplicit false

structure Param where
  name : String
  hint : TypeHint
deriving Repr, Inhabited

def Param.text (typed : Bool) (p : Param) : String :=
  if typed then p.name ++ ": " ++ p.hint.text else p.name

structure Function where
  name : String
  params : List Param
  result : TypeHint
  body : List Stmt
deriving Repr, Inhabited

namespace Function

def header (typed : Bool) (f : Function) : String :=
  "def " ++ f.name ++ "(" ++ ", ".intercalate (f.params.map (·.text typed)) ++ ")" ++
    (if typed then " -> " ++ f.result.text else "") ++ ":"

def lines (typed : Bool) (margin : String) (f : Function) : List String :=
  (margin ++ f.header typed) :: Stmt.blockLines (margin ++ indent) f.body

end Function

end Marshal.Code
