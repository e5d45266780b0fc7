import Marshal.Value.DataClass

/-!
# Values

The values that generated code works on: numbers, texts, lists, plain objects, tuples, sequences,
sets, maps and datatype values, beside the classes and functions that build them. Values are equal by content: a
truth value equals the number it stands for, a sequence of characters any sequence of the same
items, and sets and maps those with as many members or entries, each of which they have too. Only
classes, functions and methods are told apart by what they are, not by what they do.
-/

namespace Marshal
set_option autoImplicit false

/-- The classes that the library itself offers. -/
inductive LibraryClass where
  | seq
  | set
  | map
  | datatype
  | unknownVariant
deriving DecidableEq, Repr, Inhabited

/-- Tells apart objects that are alike. -/
inductive Identity where
  /-- An object that has just been made. -/
  | fresh
  /-- The empty map that the library offers. -/
  | empty
  /-- An object that has got a number. -/
  | number (n : Nat)
deriving DecidableEq, Repr, Inhabited

inductive LibraryFunction where
  /-- Finds the function that builds tuples by its name. -/
  | member
  /-- Gives the function that builds tuples of an arity. -/
  | tupleConstructor
  /-- Declares a class of datatype values. -/
  | datatype
deriving DecidableEq, Repr, Inhabited

/-- The methods with names of their own that stand for an operation on values. -/
inductive Operation where
  /-- Fills an object that is being made. -/
  | init
  /-- Goes through the items. -/
  | iterate
  | size
  | item
  | contains
  | equal
  | hash
  /-- Displays the object as an expression. -/
  | display
deriving DecidableEq, Repr, Inhabited

/-- The methods of sequences, sets, maps and classes. -/
inductive Method where
  | verbatim
  | setContains
  | update
  | get
  | mapContains
  | fromString
  /-- Builds a variant of a datatype. -/
  | create (variant : String)
  /-- An operation as a class of the library carries it out. -/
  | operation (home : LibraryClass) (o : Operation)
deriving DecidableEq, Repr, Inhabited

inductive Value where
  | null
  | bool (b : Bool)
  | int (n : Int)
  | text (s : String)
  | list (items : List Value)
  /-- A plain object, as external forms have them. -/
  | dict (entries : List (Value × Value))
  | tuple (items : List Value)
  | seq (id : Identity) (items : List Value) (isString : Bool)
  | set (id : Identity) (members : List Value)
  /-- The bare members of a set. -/
  | frozen (members : List Value)
  | map (id : Identity) (entries : List (Value × Value))
  | data (id : Identity) (dataClass : DataClass) (variant : String) (values : List Value)
  | dataClass (c : DataClass)
  | libraryClass (c : LibraryClass)
  | function (f : LibraryFunction)
  /-- A function that builds tuples of an arity; a new one is made whenever it is asked for. -/
  | tupleBuilder (id : Identity) (name : String) (arity : Value)
  | method (owner : Value) (m : Method)
  /-- A method as its class has it; the owner is the first argument. -/
  | unbound (m : Method)
  /-- A method that all objects have; the owner may be a class. -/
  | common (owner : Value) (name : String)
  /-- A class that is there without the library. -/
  | plainClass (name : String)
  /-- The answer of a comparison that an object leaves to the other one. -/
  | undecided
  /-- What reads a member of the values of a class. -/
  | accessor (c : DataClass) (member : String)
  /-- A member of a set or a key of a map that was changed after it had been put there. It is filed
  under what it was then, and so found only by one that was changed likewise. -/
  | moved (filed now : Value)
deriving Inhabited

def LibraryClass.name : LibraryClass → String
  | .seq => "Seq"
  | .set => "Set"
  | .map => "Map"
  | .datatype => "Datatype"
  | .unknownVariant => "UnknownVariantError"

def LibraryClass.home : LibraryClass → String
  | .datatype => "adtjson.runtime.datatypes"
  | _ => "adtjson.runtime.values"

def LibraryFunction.name : LibraryFunction → String
  | .member => "__getattr__"
  | .tupleConstructor => "tuple_constructor"
  | .datatype => "datatype"

def Operation.name : Operation → String
  | .init => "__init__"
  | .iterate => "__iter__"
  | .size => "__len__"
  | .item => "__getitem__"
  | .contains => "__contains__"
  | .equal => "__eq__"
  | .hash => "__hash__"
  | .display => "__repr__"

/-- The operations that a class of the library carries out by itself. -/
def LibraryClass.operations : LibraryClass → List Operation
  | .seq => [.init, .iterate, .size, .item, .equal, .hash, .display]
  | .set => [.init, .iterate, .size, .contains, .equal, .hash, .display]
  | .map => [.init, .size, .contains, .equal, .hash, .display]
  | .datatype => [.init, .equal, .hash, .display]
  | .unknownVariant => [.init]

def LibraryClass.operation? (c : LibraryClass) (member : String) : Option Operation :=
  c.operations.find? (·.name == member)

def Method.name : Method → String
  | .verbatim => "VerbatimString"
  | .setContains | .mapContains => "contains"
  | .update => "update"
  | .get => "get"
  | .fromString => "from_string"
  | .create _ => "create"
  | .operation _ o => o.name

def Method.title : Method → String
  | .verbatim => "Seq.VerbatimString"
  | .setContains => "Set.contains"
  | .update => "Map.update"
  | .get => "Map.get"
  | .mapContains => "Map.contains"
  | .fromString => "Seq.from_string"
  | .create _ => "_constructor.<locals>.create"
  | .operation home o => home.name ++ "." ++ o.name

namespace Value

def identity : Value → Identity
  | .seq id .. | .set id _ | .map id _ | .data id .. => id
  | _ => .fresh

/-- Whether a member or a key was changed after it had been put where it is. -/
def isMoved : Value → Bool
  | .moved .. => true
  | _ => false

/-- A member or a key as it is now. -/
def current : Value → Value
  | .moved _ v => v
  | v => v

/-- A member or a key as it was when it was put where it is. -/
def filed : Value → Value
  | .moved f _ => f
  | v => v

def number (b : Bool) : Int := if b then 1 else 0

/-- Whether two values are one object. -/
def isOne (v w : Value) : Bool := v.identity != .fresh && v.identity == w.identity

mutual
def same : Value → Value → Bool
  | .null, .null => true
  | .bool a, .bool b => a == b
  | .bool a, .int b => number a == b
  | .int a, .bool b => a == number b
  | .int a, .int b => a == b
  | .text a, .text b => a == b
  | .list as, .list bs => sameItems as bs
  | .dict as, .dict bs => as.length == bs.length && entriesWithin as bs
  | .tuple as, .tuple bs => sameItems as bs
  | .seq _ as _, .seq _ bs _ => sameItems as bs
  | .set _ as, .set _ bs => as.length == bs.length && within as bs
  | .frozen as, .frozen bs => as.length == bs.length && within as bs
  | .map _ as, .map _ bs => as.length == bs.length && entriesWithin as bs
  | .data _ c v as, .data _ d w bs => c.serial == d.serial && v == w && sameItems as bs
  | .dataClass c, .dataClass d => c.serial == d.serial
  | .libraryClass a, .libraryClass b => a == b
  | .function f, .function g => f == g
  | .tupleBuilder i _ _, .tupleBuilder j _ _ => i == j
  | .method a m, .method b n => m == n && a.identity == b.identity && same a b
  | .unbound m, .unbound n => m == n
  | .common a m, .common b n => m == n && a.identity == b.identity && same a b
  | .plainClass a, .plainClass b => a == b
  | .undecided, .undecided => true
  | .accessor c m, .accessor d n => c.serial == d.serial && m == n
  | _, _ => false
termination_by structural v => v

/-- Whether two lists have equal items at equal places; what is one object is not compared. -/
def sameItems : List Value → List Value → Bool
  | [], [] => true
  | a :: as, b :: bs => (isOne a b || same a b) && sameItems as bs
  | _, _ => false
termination_by structural as => as

/-- Whether every member of a list equals one of another, now and as it is filed. -/
def within : List Value → List Value → Bool
  | [], _ => true
  | a :: as, bs =>
    (match a with
      | .moved f a =>
        bs.any fun b => b.isMoved && same f b.filed && (isOne a b.current || same a b.current)
      | a => bs.any fun b => !b.isMoved && (isOne a b || same a b)) &&
      within as bs
termination_by structural as => as

/-- Whether the keys of all entries of a list are found in another, each with an equal value. -/
def entriesWithin : List (Value × Value) → List (Value × Value) → Bool
  | [], _ => true
  | (k, v) :: es, bs =>
    let found :=
      match k with
      | .moved f k =>
        bs.find? fun (b : Value × Value) =>
          b.1.isMoved && same f b.1.filed && (isOne k b.1.current || same k b.1.current)
      | k => bs.find? fun (b : Value × Value) => !b.1.isMoved && (isOne k b.1 || same k b.1)
    (match found with
      | some b => isOne v b.2 || same v b.2
      | none => false) && entriesWithin es bs
termination_by structural es => es
end

mutual
/-- The type of the first part of a value that keeps it from being a member of a set or a key of a
map: a list or a plain object. -/
def unhashable? : Value → Option String
  | .list _ => some "list"
  | .dict _ => some "dict"
  | .tuple vs | .seq _ vs _ | .data _ _ _ vs => firstUnhashable? vs
  | .map _ es => unhashableInEntries? es
  | _ => none

/-- The type of the first such part of the items of a list. -/
def firstUnhashable? : List Value → Option String
  | [] => none
  | v :: vs => (unhashable? v).orElse fun _ => firstUnhashable? vs

/-- The type of the first such part of the keys and values of entries. -/
def unhashableInEntries? : List (Value × Value) → Option String
  | [] => none
  | (k, v) :: es =>
    ((unhashable? k).orElse fun _ => unhashable? v).orElse fun _ => unhashableInEntries? es
end

def typeName : Value → String
  | .null => "NoneType"
  | .bool _ => "bool"
  | .int _ => "int"
  | .text _ => "str"
  | .list _ => "list"
  | .dict _ => "dict"
  | .tuple _ => "tuple"
  | .seq .. => "Seq"
  | .set .. => "Set"
  | .frozen _ => "frozenset"
  | .map .. => "Map"
  | .data _ c .. => c.name
  | .dataClass _ | .libraryClass _ | .plainClass _ => "type"
  | .function _ | .tupleBuilder .. | .unbound _ => "function"
  | .method .. => "method"
  | .common .. => "method-wrapper"
  | .undecided => "NotImplementedType"
  | .accessor .. => "property"
  | .moved _ v => v.typeName

/-- The name that a function, a method or a class goes by. -/
def givenName? : Value → Option String
  | .dataClass c => some c.name
  | .libraryClass c => some c.name
  | .plainClass name | .common _ name => some name
  | .function f => some f.name
  | .tupleBuilder _ name _ => some name
  | .method _ m | .unbound m => some m.name
  | _ => none

/-- Whether a value counts as true: nothing, zero and whatever is empty do not. -/
def truthy : Value → Bool
  | .null => false
  | .bool b => b
  | .int n => n != 0
  | .text s => !s.isEmpty
  | .list vs | .tuple vs | .seq _ vs _ | .set _ vs | .frozen vs => !vs.isEmpty
  | .dict es | .map _ es => !es.isEmpty
  | _ => true

mutual
/-- What a value is filed under, which is no object that could be changed: a sequence counts as the
tuple of its items, a map as the set of its entries, and a set by what its members are filed
under. -/
def filing : Value → Value
  | .list vs => .list (filingAll vs)
  | .tuple vs => .tuple (filingAll vs)
  | .seq _ vs _ => .tuple (filingAll vs)
  | .set _ vs | .frozen vs => .frozen (filingAll vs)
  | .map _ es => .frozen (filingEntries es)
  | .data _ c variant vs => .data .fresh c variant (filingAll vs)
  | .moved filed _ => filed
  | v => v

def filingAll : List Value → List Value
  | [] => []
  | v :: vs => filing v :: filingAll vs

/-- What entries are filed under: keys and values as they are now. -/
def filingEntries : List (Value × Value) → List Value
  | [] => []
  | (k, v) :: es =>
    let key := match k with
      | .moved _ k => filing k
      | k => filing k
    .tuple [key, filing v] :: filingEntries es
end

/-- Whether a member of a set or a key of a map is found as a value. One that was changed is filed
under what nothing is now that equals it. -/
def equals (member v : Value) : Bool :=
  !member.isMoved && (isOne member v || same member v)

def characters (s : String) : List Value := s.toList.map fun c => .text (String.singleton c)

end Value

end Marshal
