import Marshal.Assoc
import Marshal.Catalog.Basic
import Marshal.Json.Real
import Marshal.Text.Literal

/-!
# Descriptor documents

A catalog as a JSON document. Every part is an object; lists that may be empty can be left out,
unknown keys are ignored, and the last of several equal keys counts. A name that is a number or a
list is the text of its value. The entries of an object are read in a fixed order, so of several
faults always the same one is reported.

Nulls in the place of names and lists and names with a broken pair are no faults of a document. They
are found where a catalog is needed, and there is none.
-/

namespace Marshal
set_option autoImplicit false

/-- Why a JSON value is no descriptor document. -/
inductive DocumentError where
  /-- An object lacks an entry. -/
  | missingKey (key : String)
  /-- A type is of no known kind. -/
  | unknownKind (kind : Json)
  /-- Something other than an object stands where one is needed. -/
  | notObject (found : Json)
  /-- Something without members stands where a list is needed. -/
  | notList (found : Json)
deriving Repr, Inhabited

namespace Document

/-- What the kind of a JSON value is called in messages. -/
def typeWord : Json → String
  | .null => "NoneType"
  | .bool _ => "bool"
  | .int _ => "int"
  | .real _ => "float"
  | .str _ => "str"
  | .arr _ => "list"
  | .obj _ => "dict"

mutual
def shown : Json → String
  | .null => "None"
  | .bool b => if b then "True" else "False"
  | .int n => toString n
  | .real t => Json.realText t
  | .str s => s.literal
  | .arr js => "[" ++ ", ".intercalate (shownItems js) ++ "]"
  | .obj es =>
    let entries := Assoc.putAll (· == ·) [] (shownEntries es)
    "\x7b" ++ ", ".intercalate (entries.map fun e => e.1.literal ++ ": " ++ e.2) ++ "\x7d"

/-- The items of an array as messages show them. -/
def shownItems : List Json → List String
  | [] => []
  | j :: js => shown j :: shownItems js

/-- The entries of an object with their values as messages show them. -/
def shownEntries : List (Text.Wide × Json) → List (Text.Wide × String)
  | [] => []
  | (k, j) :: es => (k, shown j) :: shownEntries es
end

end Document

def DocumentError.message : DocumentError → String
  | .missingKey k => Text.literal k
  | .unknownKind j => Document.shown j ++ " is not a valid TypeKind"
  | .notObject j => "'" ++ Document.typeWord j ++ "' object has no attribute 'items'"
  | .notList j => "'" ++ Document.typeWord j ++ "' object is not iterable"

namespace Document

/--
How a part of a document is read. It may come to nothing: what no catalog can hold, but is taken
over all the same, is no fault.
-/
abbrev Reader (α : Type) := Json → Except DocumentError (Option α)

def entries : Json → Except DocumentError (List (Text.Wide × Json))
  | .obj es => .ok es
  | j => .error (.notObject j)

/-- An entry that an object must have. -/
def required (es : List (Text.Wide × Json)) (key : String) : Except DocumentError Json :=
  match Json.field? es key with
  | some j => .ok j
  | none => .error (.missingKey key)

/-- The name that a value stands for; nulls and broken texts are none. -/
def nameOf : Json → Option String
  | .str (.text s) => some s
  | .str (.broken ..) | .null => none
  | j => some (shown j)

/-- The parameter that a value stands for; here a null is a text, too. -/
def paramOf : Json → Option String
  | .str (.text s) => some s
  | .str (.broken ..) => none
  | j => some (shown j)

/-- A part in whose place a null can stand. -/
def orNull {α : Type} (read : Reader α) : Reader α
  | .null => .ok none
  | j => read j

/-- The members of a list; a string and an object stand for the list of their letters or keys. -/
def members : Reader (List Json)
  | .null => .ok none
  | .arr js => .ok (some js)
  | .str s => .ok (some (s.points.map fun p => .str (.ofPoints [p])))
  | .obj es => .ok (some ((Json.keys es).map .str))
  | j => .error (.notList j)

def listOf {α : Type} (read : Reader α) : Reader (List α) := fun j => do
  match ← members j with
  | none => return none
  | some js => return (← js.mapM read).mapM id

/-- What the members of a list stand for that may be left out. -/
def optionalList {α : Type} (read : Reader α) (es : List (Text.Wide × Json)) (key : String) :
    Except DocumentError (Option (List α)) :=
  match Json.field? es key with
  | some j => listOf read j
  | none => .ok (some [])

def kind : Reader TypeKind
  | .null => .ok none
  | .str (.text w) =>
    match TypeKind.ofWord? w with
    | some k => .ok (some k)
    | none => .error (.unknownKind (.str (.text w)))
  | j => .error (.unknownKind j)

mutual
def typeOf : Json → Except DocumentError (Option TypeDescriptor)
  | .obj es => do
    let kind ← kind (← required es "kind")
    let name := nameOf (← required es "name")
    let args ← typeArgsOf es
    return do return ⟨← kind, ← name, ← args⟩
  | j => .error (.notObject j)

/-- The types in the last entry for type arguments; there are none without such an entry. -/
def typeArgsOf : List (Text.Wide × Json) → Except DocumentError (Option (List TypeDescriptor))
  | [] => .ok (some [])
  | (key, j) :: es =>
    if key = .text "type_args" && (Json.field? es "type_args").isNone then typeListOf j
    else typeArgsOf es

/-- The types in a list of types; the letters and keys of other values are no types. -/
def typeListOf : Json → Except DocumentError (Option (List TypeDescriptor))
  | .arr js => typesOf js
  | j => do
    match ← members j with
    | none => return none
    | some [] => return some []
    | some (found :: _) => .error (.notObject found)

def typesOf : List Json → Except DocumentError (Option (List TypeDescriptor))
  | [] => .ok (some [])
  | j :: js => do
    let t ← typeOf j
    let ts ← typesOf js
    return do return (← t) :: (← ts)
end

def fieldOf : Reader Field := fun j => do
  let es ← entries j
  let name := nameOf (← required es "name")
  let type ← orNull typeOf (← required es "type")
  return do return ⟨← name, ← type⟩

def variantOf : Reader Variant := fun j => do
  let es ← entries j
  let name := nameOf (← required es "name")
  let fields ← optionalList fieldOf es "fields"
  return do return ⟨← name, ← fields⟩

def definitionOf : Reader Definition := fun j => do
  let es ← entries j
  let moduleName := nameOf (← required es "module_name")
  let ownName := nameOf (← required es "name")
  let variants ← listOf variantOf (← required es "variants")
  let typeParams ← optionalList (fun p => .ok (paramOf p)) es "type_params"
  return do return ⟨← moduleName, ← ownName, ← variants, ← typeParams⟩

def signatureOf : Reader Signature := fun j => do
  let es ← entries j
  let moduleName := nameOf (← required es "module_name")
  let ownName := nameOf (← required es "name")
  let parameters ← listOf fieldOf (← required es "parameters")
  let result ← orNull typeOf (← required es "return_type")
  return do return ⟨← moduleName, ← ownName, ← parameters, ← result⟩

def catalogOf : Reader Catalog := fun j => do
  let es ← entries j
  let definitions ← optionalList definitionOf es "definitions"
  let functions ← optionalList signatureOf es "functions"
  return do return ⟨← definitions, ← functions⟩

mutual
def ofType : TypeDescriptor → Json
  | ⟨kind, name, args⟩ =>
    .obj [("kind", .str kind.word), ("name", .str name), ("type_args", .arr (ofTypes args))]

def ofTypes : List TypeDescriptor → List Json
  | [] => []
  | t :: ts => ofType t :: ofTypes ts
end

def ofField (f : Field) : Json := .obj [("name", .str f.name), ("type", ofType f.type)]

def ofVariant (v : Variant) : Json :=
  .obj [("name", .str v.name), ("fields", .arr (v.fields.map ofField))]

def ofDefinition (d : Definition) : Json :=
  .obj [("module_name", .str d.moduleName), ("name", .str d.name),
    ("variants", .arr (d.variants.map ofVariant)),
    ("type_params", .arr (d.typeParams.map fun p => .str (.text p)))]

def ofSignature (s : Signature) : Json :=
  .obj [("module_name", .str s.moduleName), ("name", .str s.name),
    ("parameters", .arr (s.parameters.map ofField)), ("return_type", ofType s.result)]

def ofCatalog (c : Catalog) : Json :=
  .obj [("definitions", .arr (c.definitions.map ofDefinition)),
    ("functions", .arr (c.functions.map ofSignature))]

end Document

end Marshal
