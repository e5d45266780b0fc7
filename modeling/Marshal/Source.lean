import Marshal.Catalog.Document
import Marshal.Declaration.Meaning
import Marshal.Json.Reader
import Marshal.Text.Split
import Marshal.Text.Utf8

/-!
# Source files

A catalog comes from a file of declarations or from a descriptor document; the name of the file
tells which.
-/

namespace Marshal
set_option autoImplicit false

/-- Why a file has no catalog. -/
inductive SourceError where
  | undecodable (fault : Text.Utf8Fault)
  | json (error : Json.SyntaxError)
  | document (error : DocumentError)
  /-- A document has no fault, but there is no catalog of it. -/
  | untyped (document : Json)
  | declarations (error : Declaration.ParseError)
deriving Repr, Inhabited

namespace Source

/-- The last component of a path; empty and `.` components do not count. -/
def fileName (path : String) : String :=
  ((Text.split '/' path).filter fun p => p != "" && p != ".").getLastD ""

/-- The end of a file name from its last dot on, unless it begins or ends the name. -/
def suffix (name : String) : String :=
  let cs := name.toList
  let after := cs.reverse.takeWhile (· != '.')
  if after.isEmpty || cs.length ≤ after.length + 1 then ""
  else String.ofList ('.' :: after.reverse)

/-- The catalog of a document, in which `depth` arrays and objects may be in one another. -/
def parseDocument (depth : Nat) (text : String) : Except SourceError Catalog :=
  match Json.parse depth text with
  | .error e => .error (.json e)
  | .ok j =>
    match Document.catalogOf j with
    | .error e => .error (.document e)
    | .ok none => .error (.untyped j)
    | .ok (some c) => .ok c

def parse (depth : Nat) (path text : String) : Report SourceError Catalog :=
  if suffix (fileName path) == ".json" then .ofExcept (parseDocument depth text)
  else (Declaration.parse text).mapError .declarations

def load (depth : Nat) (path : String) (bytes : List Nat) : Report SourceError Catalog :=
  match Text.decodeUtf8 bytes with
  | .error fault => .fail (.undecodable fault)
  | .ok chars => parse depth path (String.ofList (Text.normalizeNewlines chars))

end Source

end Marshal
