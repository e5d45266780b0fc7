import Marshal.Argument.Reading

/-!
# Values of arguments

Arguments are plain values: numbers, with a sign or with an imaginary part, texts, truth values,
tuples, sets and maps. Members of sets and keys of maps may hold no set and no map.
-/

namespace Marshal.Argument
set_option autoImplicit false

/-- The value of an expression, as far as it matters where it may stand. -/
inductive Datum where
  /-- A number or anything else without parts. -/
  | plain
  | tuple (items : List Datum)
  | set
  | dict
deriving Repr, Inhabited

/-- Why an expression has no value of its own. -/
inductive DatumFault where
  /-- It is not made of plain values. -/
  | malformed
  /-- It takes the entries of a map. -/
  | spread
  /-- A set or a map stands where it cannot be found again. -/
  | unhashable (kind : String)
deriving DecidableEq, Repr, Inhabited

def DatumFault.message : DatumFault → String
  | .malformed => "malformed node or string"
  | .spread => "malformed node or string: None"
  | .unhashable kind => "unhashable type: '" ++ kind ++ "'"

mutual
/-- Fails if a value cannot be a member of a set or a key of a map. -/
def Datum.checkHashable : Datum → Except DatumFault Unit
  | .plain => .ok ()
  | .tuple items => checkAllHashable items
  | .set => .error (.unhashable "set")
  | .dict => .error (.unhashable "dict")

/-- Fails if a value of a list cannot be a member of a set. -/
def checkAllHashable : List Datum → Except DatumFault Unit
  | [] => .ok ()
  | v :: vs => do
    v.checkHashable
    checkAllHashable vs
end

namespace Node

/-- Whether an expression is a number without a sign. -/
def isNumber : Node → Bool
  | node .number _ => true
  | _ => false

/-- Whether an expression is an imaginary number without a sign. -/
def isImaginary : Node → Bool
  | node .number [leaf t] => t.text.toList.getLast?.any fun c => c == 'j' || c == 'J'
  | _ => false

/-- Whether an operator adds or subtracts. -/
def isAdditive (op : Node) : Bool := op.text == "+" || op.text == "-"

/-- Whether an expression is a number, with a sign or not. -/
def isSigned : Node → Bool
  | node .unary [op, e] => op.isAdditive && e.isNumber
  | e => e.isNumber

/-- Whether an expression is an imaginary number, with a sign or not. -/
def isSignedImaginary : Node → Bool
  | node .unary [_, e] => e.isImaginary
  | e => e.isImaginary

mutual
def datum : Node → Except DatumFault Datum
  | node .text parts => if (node .text parts).hasGaps then .error .malformed else .ok .plain
  | node .number _ | node .nothing _ | node .yes _ | node .no _ | node .dots _ => .ok .plain
  | node .tuple items => do return .tuple (← data items)
  | node .set members => do
    checkMembers members
    return .set
  | node .call [f] => if f.name? == some "set" then .ok .set else .error .malformed
  | node .dict entries => do
    checkEntries entries
    return .dict
  | node .binary [a, op, b] =>
    if op.isAdditive && a.isSigned && !a.isSignedImaginary && b.isImaginary then .ok .plain
    else .error .malformed
  | e => if e.isSigned then .ok .plain else .error .malformed

def data : List Node → Except DatumFault (List Datum)
  | [] => .ok []
  | e :: es => do return (← datum e) :: (← data es)

/-- Fails if an expression of a list is no member of a set. -/
def checkMembers : List Node → Except DatumFault Unit
  | [] => .ok ()
  | e :: es => do
    (← datum e).checkHashable
    checkMembers es

/-- Fails if an expression of a list is no entry of a map. -/
def checkEntries : List Node → Except DatumFault Unit
  | [] => .ok ()
  | node .entry [k, v] :: es => do
    let key ← datum k
    let _ ← datum v
    key.checkHashable
    checkEntries es
  | node .spread _ :: _ => .error .spread
  | _ :: _ => .error .malformed
end

end Node

end Marshal.Argument
