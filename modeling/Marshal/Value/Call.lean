import Marshal.Value.Member

/-!
# Calls

What the functions, methods and classes of the library do with their arguments.
-/

namespace Marshal
set_option autoImplicit false

/-- How a function is called: with its receiver, if any, what it requires, and perhaps more. -/
structure CallForm where
  title : String
  receivers : Nat
  required : List String
  optional : Nat
deriving DecidableEq, Repr, Inhabited

namespace CallForm

/-- How a method is called as its class has it: its receiver is one of the required arguments. -/
def unbound (s : CallForm) : CallForm := ⟨s.title, 0, "self" :: s.required, s.optional⟩

/-- Fails unless the number of given arguments, without the receiver, fits. -/
def check (s : CallForm) (given : Nat) : Except Fault Unit :=
  let least := s.receivers + s.required.length
  let most := least + s.optional
  if most < s.receivers + given then
    .error (.surplusArguments s.title least most (s.receivers + given))
  else if given < s.required.length then
    .error (.missingArguments s.title (s.required.drop given))
  else .ok ()

end CallForm

/-- How a class of the library is called, which fills a new object of it. -/
def LibraryClass.callForm : LibraryClass → CallForm
  | .seq => ⟨"Seq.__init__", 1, [], 1⟩
  | .set => ⟨"Set.__init__", 1, [], 1⟩
  | .map => ⟨"Map.__init__", 1, [], 1⟩
  | .datatype => ⟨"Datatype.__init__", 1, ["variant", "values"], 0⟩
  | .unknownVariant => ⟨"UnknownVariantError.__init__", 1, ["type_name", "value"], 0⟩

def LibraryClass.operationForm (c : LibraryClass) (o : Operation) : CallForm :=
  let required :=
    match o, c with
    | .item, _ => ["index"]
    | .contains, .map => ["key"]
    | .contains, _ => ["item"]
    | .equal, _ => ["other"]
    | _, _ => []
  if o = .init then c.callForm else ⟨c.name ++ "." ++ o.name, 1, required, 0⟩

/-- How a method is called; the constructors of variants take any number of values. -/
def Method.callForm? : Method → Option CallForm
  | .verbatim => some ⟨Method.verbatim.title, 1, ["asliteral"], 0⟩
  | .setContains => some ⟨Method.setContains.title, 1, ["item"], 0⟩
  | .update => some ⟨Method.update.title, 1, ["key", "value"], 0⟩
  | .get => some ⟨Method.get.title, 1, ["key"], 0⟩
  | .mapContains => some ⟨Method.mapContains.title, 1, ["key"], 0⟩
  | .fromString => some ⟨Method.fromString.title, 1, ["text"], 0⟩
  | .create _ => none
  | .operation home o => some (home.operationForm o)
def LibraryFunction.callForm : LibraryFunction → CallForm
  | .member => ⟨"__getattr__", 0, ["name"], 0⟩
  | .tupleConstructor => ⟨"tuple_constructor", 0, ["arity"], 0⟩
  | .datatype => ⟨"datatype", 0, ["name", "variants"], 1⟩

/-- A value that belongs to no variant of the type it was given for. -/
structure UnknownVariant where
  typeName : Value
  value : Value
deriving Inhabited

def UnknownVariant.message (u : UnknownVariant) : Except Fault String := do
  return "Unknown " ++ (← u.typeName.plain) ++ " variant: " ++ (← u.value.display)

namespace Value

def construct (c : DataClass) (variant : String) (vs : List Value) : Except Fault Value :=
  match c.fields? variant with
  | none => .error (.missingKey (Text.literal variant))
  | some fields =>
    if vs.length = fields.length then
      if c.shadow.isNone then .ok (.data .fresh c variant vs)
      else .error (.readOnly c.name "_variant")
    else .error (.valueCount c.name variant fields.length vs.length)

def ofClass (c : DataClass) : Except Fault Value :=
  if c.name.toList.contains '\x00' then .error .zeroInName else .ok (.dataClass c)

def tupleBuilderOf (arity : Value) : Except Fault Value := do
  return .tupleBuilder .fresh ("Tuple" ++ (← arity.plain)) arity

def tupleOf (arity : Value) (vs : List Value) : Except Fault Value := do
  if same (.int vs.length) arity then return .tuple vs
  else throw (.itemCount (← arity.plain) vs.length)

/-- The first two arguments; missing ones are nothing. -/
def twoArguments (args : List Value) : Value × Value := (args.getD 0 .null, args.getD 1 .null)

/-- The items, the members or the keys that a collection of the library holds. -/
def held : Value → Except Fault (List Value)
  | .seq _ vs _ => .ok vs
  | .set _ vs => .ok (vs.map current)
  | .map _ es => .ok (es.map (·.1.current))
  | v => .error (v.without "_items")

def belongsTo (v : Value) (c : LibraryClass) : Bool := !v.isClass && v.libraryClass? == some c

/-- Whether two values are equal, if the first one can tell. -/
def decided? (v other : Value) : Option Bool :=
  let known :=
    match v, other with
    | .data _ c .., .data _ d .. => c.serial == d.serial
    | .int _, .bool _ => true
    | _, _ => v.typeName == other.typeName
  if known then some (same v other) else none

def answer (decided : Option Bool) : Value := (decided.map Value.bool).getD .undecided

/-- A value as an expression of a class; the items of one class can be displayed as another does. -/
def displayAs (c : LibraryClass) (v : Value) : Except Fault Value := do
  match c, v with
  | .seq, .set .. | .seq, .map .. => throw (v.without "is_string")
  | .set, .seq .. | .set, .map .. => do return .text (← (← setOfMembers (← v.held)).display)
  | .map, .seq .. => do return .text ("Map(" ++ (← (Value.tuple (← v.held)).display) ++ ")")
  | .map, .set _ vs => do return .text ("Map(" ++ (← (Value.frozen vs).display) ++ ")")
  | .datatype, .data .. => do return .text (← v.display)
  | .datatype, _ => throw (v.without "_variants")
  | _, _ => do
    let _ ← v.held
    return .text (← v.display)

/-- Checks the arguments for an object of a class, whose parts are given. -/
def checkParts (c : LibraryClass) (owner : Value) (args : List Value) : Except Fault Unit := do
  let (first, second) := twoArguments args
  match c, owner with
  | .seq, _ => if !args.isEmpty then let _ ← first.seqOf false
  | .set, _ => if !args.isEmpty then let _ ← first.setOf
  | .map, _ => let _ ← mapOf first
  | .datatype, .data _ d .. =>
    match first with
    | .text variant => let _ ← construct d variant (← second.items)
    | v => do
      v.requireHashable
      throw v.missing
  | .datatype, _ => throw (owner.without "_variants")
  | .unknownVariant, _ => let _ ← UnknownVariant.message ⟨first, second⟩

def fileNumber (v : Value) : Except Fault Value := do
  v.requireHashable
  match v.filingNumber? with
  | some n => return .int n.toInt64.toInt
  | none => return .undecided

/-- What an operation of a class does. An object that is there is not filled again. -/
def operate (c : LibraryClass) (o : Operation) (owner : Value) (args : List Value) :
    Except Fault Value := do
  let (first, _) := twoArguments args
  match o with
  | .init => do
    checkParts c owner args
    return .null
  | .iterate => return .tuple (← owner.held)
  | .size => return .int (← owner.held).length
  | .item =>
    match owner with
    | .map _ es => lookup es first
    | .set .. => throw (.notIndexable "frozenset")
    | _ => do
      let _ ← owner.held
      owner.item first
  | .contains => do
    let _ ← owner.held
    return .bool (← owner.contains first)
  | .equal =>
    match c, owner with
    | .datatype, .data .. => return answer (decided? owner first)
    | .datatype, _ =>
      if owner.typeName = first.typeName then throw (owner.without "_variant")
      return .undecided
    | _, _ =>
      if first.belongsTo c then
        let _ ← owner.held
        return .bool (same owner first)
      return .undecided
  | .hash => do
    match c, owner with
    | .datatype, .data .. => pure ()
    | .datatype, _ => throw (owner.without "_type_name")
    | _, _ => let _ ← owner.held
    owner.fileNumber
  | .display => displayAs c owner

/-- What a method does, given as many arguments as it takes. The methods of collections do with each
collection what they can do with its items. -/
def perform (m : Method) (owner : Value) (args : List Value) : Except Fault Value := do
  let (first, second) := twoArguments args
  match m, owner with
  | .verbatim, _ => do
    let joined ← join (← owner.held)
    return .text (if first.truthy then Text.literal joined else joined)
  | .setContains, _ | .mapContains, _ => operate .set .contains owner args
  | .update, .map _ es => do return .map .fresh (← updated es first second)
  | .update, _ => do
    return .map .fresh (← updated (← entriesOf [] 0 (← owner.held)) first second)
  | .get, _ => operate .seq .item owner args
  | .fromString, _ => stringOf first
  | .create variant, .dataClass c => construct c variant args
  | .create _, _ => throw (.notCallable owner.typeName)
  | .operation c o, _ => operate c o owner args

def callMethod (owner : Value) (m : Method) (args : List Value) : Except Fault Value := do
  match m.callForm? with
  | some s => s.check args.length
  | none => pure ()
  perform m owner args

def callUnbound (m : Method) (args : List Value) : Except Fault Value := do
  match m.callForm? with
  | some s => s.unbound.check args.length
  | none => pure ()
  perform m (args.getD 0 .null) (args.drop 1)

/-- Fails unless the number of arguments of a method that all objects have fits. -/
def requireArguments (expected : Nat) (args : List Value) : Except Fault Unit :=
  if args.length = expected then .ok () else .error (.argumentCount expected args.length)

/-- Calls a method that all objects have. -/
def callCommon (owner : Value) (name : String) (args : List Value) : Except Fault Value := do
  let (first, _) := twoArguments args
  match name with
  | "__str__" => do
    requireArguments 0 args
    return .text (← owner.plain)
  | "__repr__" => do
    requireArguments 0 args
    return .text (← owner.display)
  | "__len__" => do
    requireArguments 0 args
    return .int (← owner.size)
  | "__hash__" => do
    requireArguments 0 args
    owner.fileNumber
  | "__eq__" => do
    requireArguments 1 args
    return answer (decided? owner first)
  | "__ne__" => do
    requireArguments 1 args
    return answer ((decided? owner first).map (!·))
  | "__contains__" => do
    requireArguments 1 args
    return .bool (← owner.contains first)
  | "__getitem__" => do
    requireArguments 1 args
    owner.item first
  | _ => return .undecided

/-- Calls a class of the library. The class of datatypes has no variants of its own, and an error
about an unknown variant is given by its message. -/
def callClass (c : LibraryClass) (args : List Value) : Except Fault Value := do
  c.callForm.check args.length
  let (first, second) := twoArguments args
  match c with
  | .seq => if args.isEmpty then return .seq .fresh [] false else first.seqOf false
  | .set => if args.isEmpty then return .set .fresh [] else first.setOf
  | .map => mapOf first
  | .datatype => do
    first.requireHashable
    throw first.missing
  | .unknownVariant => do
    let message ← UnknownVariant.message ⟨first, second⟩
    return .text message

def callFunction (f : LibraryFunction) (args : List Value) : Except Fault Value := do
  f.callForm.check args.length
  let (first, second) := twoArguments args
  match f with
  | .member =>
    match first with
    | .text name => Library.tupleNamed name
    | v => throw (v.without "removeprefix")
  | .tupleConstructor => tupleBuilderOf first
  | .datatype => throw (second.without "items")

def apply (f : Value) (args : List Value) : Except Fault Value :=
  match f with
  | .common owner "__call__" => apply owner args
  | .common owner name => callCommon owner name args
  | .function g => callFunction g args
  | .tupleBuilder _ _ arity => tupleOf arity args
  | .method owner m => callMethod owner m args
  | .unbound m => callUnbound m args
  | .libraryClass c => callClass c args
  | .dataClass c => do
    (CallForm.mk "Datatype.__init__" 1 ["variant", "values"] 0).check args.length
    let (first, second) := twoArguments args
    match first with
    | .text variant => construct c variant (← second.items)
    | v => do
      v.requireHashable
      throw v.missing
  | v => .error (.notCallable v.typeName)

end Value

end Marshal
