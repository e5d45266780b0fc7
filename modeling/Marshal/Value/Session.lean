import Marshal.Value.Call

/-!
# Sessions

A session keeps values in variables. A value that is kept is told apart from all others from then
on, also from those that are equal to it, and so are the values inside it: when the variant of a
datatype value is overwritten, this shows wherever the value is, but not in values that were merely
alike. When that of a class is overwritten, all its values show it, and no more are made.
-/

namespace Marshal
set_option autoImplicit false

namespace Identity

/-- An object as it is kept: a new one gets the next number. -/
def keep (next : Nat) : Identity → Identity × Nat
  | .fresh => (.number next, next + 1)
  | id => (id, next)

end Identity

namespace Value

mutual
/-- A value with numbers for the new objects in it, and the number that comes next. -/
def keep (next : Nat) : Value → Value × Nat
  | .list vs =>
    let (vs, next) := keepAll next vs
    (.list vs, next)
  | .dict es =>
    let (es, next) := keepEntries next es
    (.dict es, next)
  | .tuple vs =>
    let (vs, next) := keepAll next vs
    (.tuple vs, next)
  | .seq id vs isString =>
    let (id, next) := id.keep next
    let (vs, next) := keepAll next vs
    (.seq id vs isString, next)
  | .set id vs =>
    let (id, next) := id.keep next
    let (vs, next) := keepAll next vs
    (.set id vs, next)
  | .frozen vs =>
    let (vs, next) := keepAll next vs
    (.frozen vs, next)
  | .map id es =>
    let (id, next) := id.keep next
    let (es, next) := keepEntries next es
    (.map id es, next)
  | .data id c variant vs =>
    let (id, next) := id.keep next
    let (vs, next) := keepAll next vs
    (.data id c variant vs, next)
  | .tupleBuilder id name arity =>
    let (id, next) := id.keep next
    let (arity, next) := keep next arity
    (.tupleBuilder id name arity, next)
  | .method owner m =>
    let (owner, next) := keep next owner
    (.method owner m, next)
  | .common owner name =>
    let (owner, next) := keep next owner
    (.common owner name, next)
  | .moved filed v =>
    let (v, next) := keep next v
    (.moved filed v, next)
  | v => (v, next)

/-- Values with numbers for the new objects in them. -/
def keepAll (next : Nat) : List Value → List Value × Nat
  | [] => ([], next)
  | v :: vs =>
    let (v, next) := keep next v
    let (vs, next) := keepAll next vs
    (v :: vs, next)

/-- Entries with numbers for the new objects in them. -/
def keepEntries (next : Nat) : List (Value × Value) → List (Value × Value) × Nat
  | [] => ([], next)
  | (k, v) :: es =>
    let (k, next) := keep next k
    let (v, next) := keep next v
    let (es, next) := keepEntries next es
    ((k, v) :: es, next)
end

/-- Whose variant is overwritten: that of one object or that of a class. -/
inductive Target where
  | object (id : Identity)
  | dataClass (serial : Nat)
deriving DecidableEq, Repr, Inhabited

namespace Target

/-- Whether a value of a class shows what is written. -/
def covers (t : Target) (id : Identity) (c : DataClass) : Bool :=
  match t with
  | .object i => id = i
  | .dataClass n => c.serial = n

/-- A class after the variant of a target was overwritten. -/
def onClass (t : Target) (variant : String) (c : DataClass) : DataClass :=
  if t = .dataClass c.serial then { c with shadow := some variant } else c

end Target

/-- A member of a set or a key of a map after it was changed. -/
def settle (filed v : Value) : Value := if same filed v.filing then v else .moved filed v

mutual
def overwrite (t : Target) (variant : String) : Value → Value
  | .list vs => .list (overwriteAll t variant vs)
  | .dict es => .dict (overwriteEntries t variant es)
  | .tuple vs => .tuple (overwriteAll t variant vs)
  | .seq id vs isString => .seq id (overwriteAll t variant vs) isString
  | .set id vs => .set id (overwriteMembers t variant vs)
  | .frozen vs => .frozen (overwriteMembers t variant vs)
  | .map id es => .map id (overwriteEntries t variant es)
  | .data id c old vs =>
    .data id (t.onClass variant c) (if t.covers id c then variant else old)
      (overwriteAll t variant vs)
  | .dataClass c => .dataClass (t.onClass variant c)
  | .tupleBuilder id name arity => .tupleBuilder id name (overwrite t variant arity)
  | .method owner m => .method (overwrite t variant owner) m
  | .common owner name => .common (overwrite t variant owner) name
  | .accessor c member => .accessor (t.onClass variant c) member
  | .moved filed v => .moved filed (overwrite t variant v)
  | v => v

/-- Values after the variant of a target was overwritten. -/
def overwriteAll (t : Target) (variant : String) : List Value → List Value
  | [] => []
  | v :: vs => overwrite t variant v :: overwriteAll t variant vs

/-- The members of a set after the variant of a target was overwritten. -/
def overwriteMembers (t : Target) (variant : String) : List Value → List Value
  | [] => []
  | v :: vs =>
    settle v.filing (overwrite t variant v).current :: overwriteMembers t variant vs

/-- The entries of a map after the variant of a target was overwritten. -/
def overwriteEntries (t : Target) (variant : String) :
    List (Value × Value) → List (Value × Value)
  | [] => []
  | (k, v) :: es =>
    (settle k.filing (overwrite t variant k).current, overwrite t variant v) ::
      overwriteEntries t variant es
end

end Value

/-- The variables of a session with their values, the latest first. -/
structure Session where
  bindings : List (String × Value)
  /-- The number of the next object. -/
  next : Nat
deriving Inhabited

namespace Session

def empty : Session := ⟨[], 0⟩

def get? (s : Session) (name : String) : Option Value := s.bindings.lookup name

/-- The session after a variable was set. -/
def set (s : Session) (name : String) (v : Value) : Session :=
  let (v, next) := v.keep s.next
  ⟨(name, v) :: s.bindings, next⟩

def overwriteTarget (s : Session) (t : Value.Target) (variant : String) : Session :=
  { s with bindings := s.bindings.map fun e => (e.1, e.2.overwrite t variant) }

/-- The session after the variant of a value was overwritten. Datatype values and their classes have
one; what other classes and functions are given shows nowhere. -/
def overwrite (s : Session) (v : Value) (variant : String) : Except Fault Session :=
  match v with
  | .data id c .. =>
    if c.shadow.isSome then .error (.readOnly c.name "_variant")
    else if id = .fresh then .ok s
    else .ok (s.overwriteTarget (.object id) variant)
  | .dataClass c => .ok (s.overwriteTarget (.dataClass c.serial) variant)
  | .libraryClass _ | .function _ | .tupleBuilder .. | .unbound _ => .ok s
  | _ => .error (.noMember v.typeName "_variant")

end Session

end Marshal
