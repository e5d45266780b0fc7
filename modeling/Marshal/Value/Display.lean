import Marshal.Value.Basic
import Marshal.Value.Fault

/-!
# Displaying values

A value as an expression of the generated language that builds it. A sequence that is marked as a
string is displayed as one, which fails if an item is no text.
-/

namespace Marshal.Value
set_option autoImplicit false

/-- Texts joined into one, `place` being the place of the first item. -/
def joinFrom (place : Nat) : List Value → Except Fault String
  | [] => .ok ""
  | .text s :: vs => do return s ++ (← joinFrom (place + 1) vs)
  | v :: _ => .error (.badPart place v.typeName)

def join (vs : List Value) : Except Fault String := joinFrom 0 vs

def commas (items : List String) : String := ", ".intercalate items

def braces (items : List String) : String := "\x7b" ++ commas items ++ "\x7d"

/-- The items of a tuple; a single item gets a comma. -/
def tupleText : List String → String
  | [item] => "(" ++ item ++ ",)"
  | items => "(" ++ commas items ++ ")"

def libraryClassText (c : LibraryClass) : String :=
  "<class '" ++ c.home ++ "." ++ c.name ++ "'>"

mutual
def display : Value → Except Fault String
  | .null => .ok "None"
  | .bool b => .ok (if b then "True" else "False")
  | .int n => .ok (toString n)
  | .text s => .ok (Text.literal s)
  | .list vs => do return "[" ++ commas (← displayAll vs) ++ "]"
  | .dict es => do return braces (← displayEntries es)
  | .tuple vs => do return tupleText (← displayAll vs)
  | .seq _ vs true => do return "Seq.from_string(" ++ Text.literal (← join vs) ++ ")"
  | .seq _ vs false => do return "Seq([" ++ commas (← displayAll vs) ++ "])"
  | .set _ vs => do
    let items ← displayAll vs
    return "Set(" ++ (if items.isEmpty then "set()" else braces items) ++ ")"
  | .frozen vs => do
    let items ← displayAll vs
    return "frozenset(" ++ (if items.isEmpty then "" else braces items) ++ ")"
  | .map _ es => do return "Map(" ++ braces (← displayEntries es) ++ ")"
  | .data _ c v vs => do
    let fields ← displayFields ((c.fields? v).getD []) vs
    return c.name ++ "." ++ v ++ "(" ++ commas fields ++ ")"
  | .dataClass c => .ok ("<class 'adtjson.runtime.datatypes." ++ c.name ++ "'>")
  | .libraryClass c => .ok (libraryClassText c)
  | .function f => .ok ("<function " ++ f.name ++ ">")
  | .tupleBuilder _ name _ => .ok ("<function " ++ name ++ ">")
  | .method v m => do
    return "<bound method " ++ m.title ++ " of " ++ (← v.display) ++ ">"
  | .unbound m => .ok ("<function " ++ m.title ++ ">")
  | .common v name => .ok ("<method-wrapper '" ++ name ++ "' of " ++ v.typeName ++ " object>")
  | .plainClass name => .ok ("<class '" ++ name ++ "'>")
  | .undecided => .ok "NotImplemented"
  | .accessor .. => .ok "<property object>"
  | .moved _ v => v.display

def displayAll : List Value → Except Fault (List String)
  | [] => .ok []
  | v :: vs => do
    let item ← v.display
    return item :: (← displayAll vs)

def displayEntries : List (Value × Value) → Except Fault (List String)
  | [] => .ok []
  | (k, v) :: es => do
    let key ← k.display
    let value ← v.display
    return (key ++ ": " ++ value) :: (← displayEntries es)

/-- Values behind the names of their fields, as far as there are names. -/
def displayFields (fields : List String) : List Value → Except Fault (List String)
  | [] => .ok []
  | v :: vs =>
    match fields with
    | [] => .ok []
    | f :: fs => do
      let value ← v.display
      return (f ++ "=" ++ value) :: (← displayFields fs vs)
end

/-- A value in a text: a text as it is, all else as an expression. -/
def plain : Value → Except Fault String
  | .text s => .ok s
  | v => v.display

end Marshal.Value
