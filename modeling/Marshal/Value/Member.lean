import Marshal.Value.Collection

/-!
# Members

What is reached by name: the members of values and classes, and what the library offers.
-/

namespace Marshal
set_option autoImplicit false

namespace Value

def seqMember? (id : Identity) (vs : List Value) (isString : Bool) (member : String) :
    Option Value :=
  match member with
  | "is_string" => some (.bool isString)
  | "Elements" | "_items" => some (.tuple vs)
  | "VerbatimString" => some (.method (.seq id vs isString) .verbatim)
  | "from_string" => some (.method (.libraryClass .seq) .fromString)
  | _ => none

def setMember? (id : Identity) (vs : List Value) (member : String) : Option Value :=
  match member with
  | "Elements" | "_items" => some (.frozen vs)
  | "contains" => some (.method (.set id vs) .setContains)
  | _ => none

def mapMember? (id : Identity) (es : List (Value × Value)) (member : String) : Option Value :=
  match member with
  | "Keys" => some (.set .fresh (Assoc.distinct same (es.map (·.1.current))))
  | "Values" => some (.list (es.map (·.2)))
  | "Items" => some (.list (es.map fun e => .tuple [e.1.current, e.2]))
  | "Empty" => some emptyMap
  | "update" => some (.method (.map id es) .update)
  | "get" => some (.method (.map id es) .get)
  | "contains" => some (.method (.map id es) .mapContains)
  | _ => none

def fieldOf (c : DataClass) (variant : String) (vs : List Value) (field : String) :
    Except Fault Value :=
  match c.fields? variant with
  | none => .error (.missingKey (Text.literal variant))
  | some fields =>
    match fields.findIdx? (· == field) with
    | none => .error (.noField c.name variant field)
    | some i =>
      match vs[i]? with
      | some v => .ok v
      | none => .error (.outOfRange "tuple")

def dataMember (c : DataClass) (variant : String) (vs : List Value) (member : String) :
    Except Fault Value :=
  match c.built? member, c.flagged? member, c.held? member with
  | some v, _, _ => .ok (.method (.dataClass c) (.create v))
  | none, some v, _ => .ok (.bool (variant == v))
  | none, none, some f => fieldOf c variant vs f
  | none, none, none =>
    match member with
    | "variant" | "_variant" => .ok (.text variant)
    | "_values" => .ok (.tuple vs)
    | "_type_name" => .ok (.text c.name)
    | _ => .error (.noMember c.name member)

def dataClassMember (c : DataClass) (member : String) : Except Fault Value :=
  match c.built? member, c.flagged? member, c.held? member with
  | some v, _, _ => .ok (.method (.dataClass c) (.create v))
  | none, none, none =>
    match member, c.shadow with
    | "_type_name", _ => .ok (.text c.name)
    | "variant", _ => .ok (.accessor c member)
    | "_variant", some v => .ok (.text v)
    | _, _ => .error (.noClassMember c.name member)
  | none, _, _ => .ok (.accessor c member)

def libraryClassMember (c : LibraryClass) (member : String) : Except Fault Value :=
  match c, member with
  | .seq, "from_string" => .ok (.method (.libraryClass .seq) .fromString)
  | .seq, "VerbatimString" => .ok (.unbound .verbatim)
  | .set, "contains" => .ok (.unbound .setContains)
  | .map, "Empty" => .ok emptyMap
  | .map, "update" => .ok (.unbound .update)
  | .map, "get" => .ok (.unbound .get)
  | .map, "contains" => .ok (.unbound .mapContains)
  | .datatype, "_type_name" => .ok (.text c.name)
  | _, _ => .error (.noClassMember c.name member)

end Value

def LibraryClass.summary : LibraryClass → String
  | .seq => "An immutable sequence. Strings are sequences of characters."
  | .set => "An immutable, unordered set exposing its members as `Elements`."
  | .map => "An immutable mapping, grown one entry at a time with `update`."
  | .datatype => "Base class of every class built by `datatype`."
  | .unknownVariant => "Raised by generated code when a value matches no variant of its type."

/-- The names under which the objects of a class keep what they hold. -/
def LibraryClass.slots? : LibraryClass → Option (List String)
  | .seq => some ["_items", "is_string"]
  | .set | .map => some ["_items"]
  | .datatype => some ["_variant", "_values"]
  | .unknownVariant => none

/-- The names of the classes above a class, the nearest first. -/
def LibraryClass.ancestors : LibraryClass → List String
  | .unknownVariant => ["ValueError", "Exception", "BaseException", "object"]
  | _ => ["object"]

def LibraryFunction.summary? : LibraryFunction → Option String
  | .member => none
  | .tupleConstructor => some "Return the constructor for tuples of the given arity."
  | .datatype =>
    some <| "Build a datatype class.\n\n    Args:\n" ++
      "        name: The datatype name, used in reprs and errors.\n" ++
      "        variants: Variant names mapped to their field names, in declaration order.\n" ++
      "        mangle: Applied to variant and field names when naming members, so the\n" ++
      "            class matches a generator configured with the same mangling.\n\n" ++
      "    Returns:\n        A new `Datatype` subclass.\n    "

def LibraryFunction.home : LibraryFunction → String
  | .member => "adtjson.runtime"
  | .tupleConstructor => "adtjson.runtime.values"
  | .datatype => "adtjson.runtime.datatypes"

def Method.summary? : Method → Option String
  | .verbatim => some "Join the characters back into a string, quoted when `asliteral`."
  | .update => some "Return a new map with `key` bound to `value`."
  | _ => none

/-- The part of the library that a method belongs to. -/
def Method.home : Method → String
  | .create _ => "adtjson.runtime.datatypes"
  | .operation c _ => c.home
  | _ => "adtjson.runtime.values"

namespace Value

def classOf : Value → Value
  | .seq .. => .libraryClass .seq
  | .set .. => .libraryClass .set
  | .map .. => .libraryClass .map
  | .data _ c .. => .dataClass c
  | v => .plainClass v.typeName

def libraryClass? : Value → Option LibraryClass
  | .seq .. => some .seq
  | .set .. => some .set
  | .map .. => some .map
  | .data .. | .dataClass _ => some .datatype
  | .libraryClass c => some c
  | _ => none

def isClass : Value → Bool
  | .dataClass _ | .libraryClass _ | .plainClass _ => true
  | _ => false

def ofText? (s : Option String) : Value := (s.map Value.text).getD .null

def summary? : Value → Option Value
  | .data .. | .dataClass _ | .tupleBuilder .. => some .null
  | .function f => some (ofText? f.summary?)
  | .method _ m | .unbound m => some (ofText? m.summary?)
  | v => v.libraryClass?.map fun c => .text c.summary

def home? : Value → Option String
  | .function f => some f.home
  | .tupleBuilder .. => some "adtjson.runtime.values"
  | .method _ m | .unbound m => some m.home
  | .plainClass _ => some "builtins"
  | v => v.libraryClass?.map (·.home)

/-- The name that a function, a method or a class goes by, with that of its home. -/
def title? : Value → Option String
  | .tupleBuilder .. => some "tuple_constructor.<locals>.construct"
  | .method _ m | .unbound m => some m.title
  | v => v.givenName?

/-- The names under which objects keep what they hold. -/
def slots? : Value → Option (List String)
  | .data .. | .dataClass _ => some []
  | v => v.libraryClass?.bind (·.slots?)

/-- The classes above a class, the nearest first. -/
def ancestors? : Value → Option (List Value)
  | .dataClass _ => some [.libraryClass .datatype, .plainClass "object"]
  | .libraryClass c => some (c.ancestors.map .plainClass)
  | _ => none

def reflected? (v : Value) (member : String) : Option Value :=
  match member, v with
  | "__class__", _ => some v.classOf
  | "__name__", _ => v.givenName?.map .text
  | "__qualname__", _ => v.title?.map .text
  | "__doc__", _ => v.summary?
  | "__module__", _ => v.home?.map .text
  | "__slots__", _ => v.slots?.map fun names => .tuple (names.map .text)
  | "__bases__", _ => v.ancestors?.map fun above => .tuple (above.take 1)
  | "__base__", _ => v.ancestors?.bind (·.head?)
  | "__mro__", _ => v.ancestors?.map fun above => .tuple (v :: above)
  | "__self__", .method owner _ => some owner
  | "__func__", .method _ m => some (.unbound m)
  | _, _ => none

/-- The methods that all objects have. -/
def commonNames : List String :=
  ["__delattr__", "__dir__", "__eq__", "__format__", "__ge__", "__getattribute__", "__getstate__",
   "__gt__", "__hash__", "__init__", "__init_subclass__", "__le__", "__lt__", "__ne__", "__new__",
   "__reduce__", "__reduce_ex__", "__repr__", "__setattr__", "__sizeof__", "__str__",
   "__subclasshook__"]

def classNames : List String :=
  ["__call__", "__instancecheck__", "__or__", "__prepare__", "__ror__", "__subclasscheck__",
   "__subclasses__", "mro"]

/-- The further methods that plain values, functions and methods have. -/
def furtherNames : Value → List String
  | .text _ | .list _ | .dict _ | .tuple _ => ["__contains__", "__getitem__", "__iter__", "__len__"]
  | .frozen _ => ["__contains__", "__iter__", "__len__"]
  | .function _ | .tupleBuilder .. | .unbound _ | .method .. => ["__call__", "__get__"]
  | .common .. => ["__call__"]
  | v => if v.isClass then classNames else []

/-- A method that is not the library's own or stands for an operation. -/
def special? (v : Value) (member : String) : Option Value :=
  match v.libraryClass?.bind (·.operation? member), v.libraryClass? with
  | some o, some home =>
    some (if v.isClass then .unbound (.operation home o) else .method v (.operation home o))
  | _, _ =>
    if commonNames.contains member || v.furtherNames.contains member then some (.common v member)
    else none

def member (v : Value) (name : String) : Except Fault Value :=
  let found (m : Option Value) : Except Fault Value :=
    match m with
    | some x => .ok x
    | none => .error (.noMember v.typeName name)
  match (v.reflected? name).orElse fun _ => v.special? name with
  | some x => .ok x
  | none =>
    match v with
    | .seq id vs isString => found (seqMember? id vs isString name)
    | .set id vs => found (setMember? id vs name)
    | .map id es => found (mapMember? id es name)
    | .data _ c variant vs => dataMember c variant vs name
    | .dataClass c => dataClassMember c name
    | .libraryClass c => libraryClassMember c name
    | _ => found none

/-- The fault of asking a value for a member that it does not have. -/
def without (v : Value) (name : String) : Fault :=
  match v.member name with
  | .error fault => fault
  | .ok _ => .noMember v.typeName name

end Value

namespace Library

def tupleDigits? (name : String) : Option (List Char) :=
  if "Tuple".toList.isPrefixOf name.toList then
    let digits := name.toList.drop 5
    if !digits.isEmpty && digits.all Text.isAnyDigit then some digits else none
  else none

/-- The function that builds tuples under a name. -/
def tupleNamed (name : String) : Except Fault Value :=
  match tupleDigits? name with
  | some digits => do
    let arity ← (Text.readNumeral digits).mapError .numeral
    return .tupleBuilder .fresh ("Tuple" ++ toString arity) (.int arity)
  | none => .error (.noLibraryMember name)

def summary : String :=
  "Typed-value runtime for code generated by adtjson.\n\n" ++
    "Tuple constructors are resolved on attribute access: `Tuple2(a, b)`,\n" ++
    "`Tuple3(a, b, c)` and so on.\n"

def named (name : String) : Except Fault Value :=
  match name with
  | "__name__" | "__package__" => .ok (.text "adtjson.runtime")
  | "__doc__" => .ok (.text summary)
  | "__getattr__" => .ok (.function .member)
  | "Seq" => .ok (.libraryClass .seq)
  | "Set" => .ok (.libraryClass .set)
  | "Map" => .ok (.libraryClass .map)
  | "Datatype" => .ok (.libraryClass .datatype)
  | "UnknownVariantError" => .ok (.libraryClass .unknownVariant)
  | "datatype" => .ok (.function .datatype)
  | "tuple_constructor" => .ok (.function .tupleConstructor)
  | _ => tupleNamed name

end Library

end Marshal
