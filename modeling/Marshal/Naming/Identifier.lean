import Marshal.Text.Uppercase

/-!
# Identifiers

How names of declarations become names in generated code.
-/

namespace Marshal.Naming
set_option autoImplicit false

def isIdentifierChar (c : Char) : Bool :=
  ('0' ≤ c && c ≤ '9') || ('A' ≤ c && c ≤ 'Z') || ('a' ≤ c && c ≤ 'z') || c == '_'

/-- An underscore in place of every character that an identifier may not hold. -/
def sanitize (name : String) : String :=
  String.ofList (name.toList.map fun c => if isIdentifierChar c then c else '_')

def lowerLetter (c : Char) : Char := if 'A' ≤ c && c ≤ 'Z' then Char.ofNat (c.toNat + 32) else c

/-- A type name in the form that converter names begin with. -/
def lowerName (typeName : String) : String :=
  String.ofList ((sanitize typeName).toList.map lowerLetter)

/-- The name of the converter from the external form. -/
def fromJsonName (typeName : String) : String := lowerName typeName ++ "FromJson"

def toJsonName (typeName : String) : String := lowerName typeName ++ "ToJson"

/-- The name of the declared external form of a type. -/
def jsonTypeName (typeName : String) : String := sanitize typeName ++ "Json"

/-- The name of the declared runtime form of a type. -/
def valueTypeName (typeName : String) : String := sanitize typeName ++ "Value"

def reservedWords : List String :=
  ["False", "None", "True", "and", "as", "assert", "async", "await", "break", "class", "continue",
    "def", "del", "elif", "else", "except", "finally", "for", "from", "global", "if", "import",
    "in", "is", "lambda", "nonlocal", "not", "or", "pass", "raise", "return", "try", "while",
    "with", "yield"]

/-- An underscore in front of a leading digit. -/
def guardDigit (name : String) : String :=
  match name.toList with
  | c :: _ => if '0' ≤ c && c ≤ '9' then "_" ++ name else name
  | [] => name

def identifier (name : String) : String :=
  let guarded := guardDigit (sanitize name)
  if guarded ∈ reservedWords then guarded ++ "_" else guarded

/-- The name of the accessor of a field: its first character is written in upper case. -/
def accessorName (fieldName : String) : String :=
  match fieldName.toList with
  | c :: cs => "Get" ++ String.ofList (Text.upperChar c ++ cs)
  | [] => "Get"

end Marshal.Naming
