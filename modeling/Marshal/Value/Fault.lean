import Marshal.Text.Numeral
import Marshal.Text.Utf8

/-!
# Faults

Why an operation on values fails. Long names of types are cut in the wording.
-/

namespace Marshal
set_option autoImplicit false

/-- A cause of failure. Types are given by their names. -/
inductive Fault where
  /-- A list or a plain object is no member of a set and no key of a map. -/
  | unhashable (type : String)
  | notIterable (type : String)
  | notSearchable (type : String)
  | unsized (type : String)
  | notIndexable (type : String)
  | classNotIndexable (name : String)
  /-- An index of a tuple or a list is no number. -/
  | badIndex (container type : String)
  /-- An index of a text is no number. -/
  | badTextIndex (type : String)
  | outOfRange (container : String)
  /-- An index exceeds every possible size. -/
  | hugeIndex
  | zeroStep
  | badBound
  /-- A map has no such key. -/
  | missingKey (shown : String)
  /-- A map has no such key, and the key cannot be displayed, for the given reason. -/
  | undisplayedKey (reason : String)
  /-- An item that is to be joined into a text is no text. -/
  | badPart (place : Nat) (type : String)
  /-- Something else than a text is searched for in a text. -/
  | notText (type : String)
  | noMember (type member : String)
  | noClassMember (name member : String)
  /-- A member is given by the class and cannot be set. -/
  | readOnly (type member : String)
  | noLibraryMember (name : String)
  /-- A field belongs to other variants only. -/
  | noField (className variant field : String)
  /-- A constructor of a variant gets too few or too many values. -/
  | valueCount (className variant : String) (expected given : Nat)
  /-- A constructor of tuples gets too few or too many items. -/
  | itemCount (arity : String) (given : Nat)
  | numeral (fault : Text.NumeralFault)
  /-- The name of a class holds the character that ends it. -/
  | zeroInName
  | notCallable (type : String)
  /-- Arguments without which a function cannot be called are missing. -/
  | missingArguments (title : String) (names : List String)
  /-- A function that takes `least` to `most` arguments gets more. -/
  | surplusArguments (title : String) (least most given : Nat)
  /-- A method that all objects have gets another number of arguments than it takes. -/
  | argumentCount (expected given : Nat)
  /-- An entry for a map is no list of items. -/
  | entryType (place : Nat)
  /-- An entry for a map does not have two items. -/
  | entrySize (place size : Nat)
deriving DecidableEq, Repr, Inhabited

namespace Fault

/-- Names between single quotes, with commas and an `and` between them. -/
def listing : List String → String
  | [] => ""
  | [a] => "'" ++ a ++ "'"
  | [a, b] => "'" ++ a ++ "' and '" ++ b ++ "'"
  | [a, b, c] => "'" ++ a ++ "', '" ++ b ++ "', and '" ++ c ++ "'"
  | a :: rest => "'" ++ a ++ "', " ++ listing rest

/-- A word, with an `s` unless it stands for one thing. -/
def plural (count : Nat) (word : String) : String := if count = 1 then word else word ++ "s"

/-- The name of a type as far as it has room. -/
def cut (room : Nat) (name : String) : String := String.ofList (Text.clip room name.toList)

def message : Fault → String
  | .unhashable t => "unhashable type: '" ++ cut 200 t ++ "'"
  | .notIterable t => "'" ++ cut 200 t ++ "' object is not iterable"
  | .notSearchable t => "argument of type '" ++ cut 200 t ++ "' is not iterable"
  | .unsized t => "object of type '" ++ cut 200 t ++ "' has no len()"
  | .notIndexable t => "'" ++ cut 200 t ++ "' object is not subscriptable"
  | .classNotIndexable n => "type '" ++ cut 200 n ++ "' is not subscriptable"
  | .badIndex c t => c ++ " indices must be integers or slices, not " ++ cut 200 t
  | .badTextIndex t => "string indices must be integers, not '" ++ cut 200 t ++ "'"
  | .outOfRange c => c ++ " index out of range"
  | .hugeIndex => "cannot fit 'int' into an index-sized integer"
  | .zeroStep => "slice step cannot be zero"
  | .badBound => "slice indices must be integers or None or have an __index__ method"
  | .missingKey k => k
  | .undisplayedKey reason => reason
  | .badPart i t =>
    "sequence item " ++ toString i ++ ": expected str instance, " ++ cut 80 t ++ " found"
  | .notText t => "'in <string>' requires string as left operand, not " ++ cut 100 t
  | .noMember t m => "'" ++ cut 50 t ++ "' object has no attribute '" ++ m ++ "'"
  | .noClassMember n m => "type object '" ++ cut 50 n ++ "' has no attribute '" ++ m ++ "'"
  | .readOnly t m => "'" ++ cut 50 t ++ "' object attribute '" ++ m ++ "' is read-only"
  | .noLibraryMember n => "module 'adtjson.runtime' has no attribute " ++ Text.literal n
  | .noField c v f => c ++ "." ++ v ++ " has no field '" ++ f ++ "'"
  | .valueCount c v n k =>
    c ++ "." ++ v ++ " takes " ++ toString n ++ " values, got " ++ toString k
  | .itemCount n k =>
    "Tuple" ++ n ++ " takes " ++ n ++ " items, got " ++ toString k
  | .numeral fault => fault.message
  | .zeroInName => "type name must not contain null characters"
  | .notCallable t => "'" ++ cut 200 t ++ "' object is not callable"
  | .missingArguments f ns =>
    f ++ "() missing " ++ toString ns.length ++ " required positional " ++
      plural ns.length "argument" ++ ": " ++ listing ns
  | .surplusArguments f least most n =>
    let range := if least = most then toString most
      else "from " ++ toString least ++ " to " ++ toString most
    f ++ "() takes " ++ range ++ " positional " ++ plural most "argument" ++ " but " ++
      toString n ++ (if n = 1 then " was" else " were") ++ " given"
  | .argumentCount n k =>
    "expected " ++ toString n ++ " " ++ plural n "argument" ++ ", got " ++ toString k
  | .entryType i =>
    "cannot convert dictionary update sequence element #" ++ toString i ++ " to a sequence"
  | .entrySize i n =>
    "dictionary update sequence element #" ++ toString i ++ " has length " ++ toString n ++
      "; 2 is required"

/-- Whether a key was not there, be it displayed or not. -/
def isMissingKey : Fault → Bool
  | .missingKey _ | .undisplayedKey _ => true
  | _ => false

end Fault

end Marshal
