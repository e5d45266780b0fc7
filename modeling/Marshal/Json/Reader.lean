import Marshal.Json.Basic
import Marshal.Text.Hex
import Marshal.Text.Numeral

/-!
# Reading JSON

The reader goes from left to right and reports the first place where a text stops being JSON. Inside
the reader a place is the number of characters that are left there; `SyntaxError` counts from the
front.
-/

namespace Marshal.Json
set_option autoImplicit false

inductive Problem where
  | byteOrderMark
  | expectedValue
  | expectedKey
  | expectedColon
  | expectedComma
  | unterminatedString
  | controlCharacter
  | badEscape
  | badUnitEscape
  | extraData
  /-- A whole number has too many digits. -/
  | longNumber (fault : Text.NumeralFault)
  /-- Too many arrays and objects are in one another. -/
  | deepArray
  | deepObject
deriving DecidableEq, Repr, Inhabited

/-- Whether a problem is one of the grammar, which is reported with its place. -/
def Problem.isSyntactic : Problem → Bool
  | .longNumber _ | .deepArray | .deepObject => false
  | _ => true

def Problem.message : Problem → String
  | .byteOrderMark => "Unexpected UTF-8 BOM (decode using utf-8-sig)"
  | .expectedValue => "Expecting value"
  | .expectedKey => "Expecting property name enclosed in double quotes"
  | .expectedColon => "Expecting ':' delimiter"
  | .expectedComma => "Expecting ',' delimiter"
  | .unterminatedString => "Unterminated string starting at"
  | .controlCharacter => "Invalid control character at"
  | .badEscape => "Invalid \\escape"
  | .badUnitEscape => "Invalid \\uXXXX escape"
  | .extraData => "Extra data"
  | .longNumber fault => fault.message
  | .deepArray =>
    "maximum recursion depth exceeded while decoding a JSON array from a unicode string"
  | .deepObject =>
    "maximum recursion depth exceeded while decoding a JSON object from a unicode string"

/-- A problem and the number of characters left at its place. -/
structure Fault where
  problem : Problem
  left : Nat
deriving DecidableEq, Repr, Inhabited

/-- White space between the parts of a value. -/
def isBlank (c : Char) : Bool := c == ' ' || c == '\t' || c == '\n' || c == '\r'

/-- A text after the white space at its front. -/
def skip (cs : List Char) : List Char := cs.dropWhile isBlank

/-- Four hexadecimal digits that do not end the text. -/
def unit? : List Char → Option (Nat × List Char)
  | a :: b :: c :: d :: e :: rest => do
    let a ← Text.hexValue? a
    let b ← Text.hexValue? b
    let c ← Text.hexValue? c
    let d ← Text.hexValue? d
    some (((a * 16 + b) * 16 + c) * 16 + d, e :: rest)
  | _ => none

/-- Whether a unit is the first of a pair. -/
def isHigh (unit : Nat) : Bool := 0xd800 ≤ unit && unit < 0xdc00

/-- Whether a unit is the second of a pair. -/
def isLow (unit : Nat) : Bool := 0xdc00 ≤ unit && unit < 0xe000

def pairPoint (high low : Nat) : Nat := 0x10000 + (high - 0xd800) * 0x400 + (low - 0xdc00)

/--
The code point of an escape of units, after its backslash and letter. A unit that is half of a pair
and has no other half behind it stays as it is.
-/
def unitEscape (cs : List Char) : Except Fault (Nat × List Char) :=
  match unit? cs with
  | none => .error ⟨.badUnitEscape, cs.length + 1⟩
  | some (unit, rest) =>
    match isHigh unit, rest with
    | true, '\\' :: 'u' :: next =>
      if next.length < 5 then .ok (unit, rest)
      else
        match unit? next with
        | none => .error ⟨.badUnitEscape, next.length + 1⟩
        | some (second, rest') =>
          if isLow second then .ok (pairPoint unit second, rest') else .ok (unit, rest)
    | _, _ => .ok (unit, rest)

/-- The character that a letter stands for after a backslash. -/
def shortEscape? (c : Char) : Option Char :=
  if c = '"' || c = '\\' || c = '/' then some c
  else if c = 'b' then some '\x08'
  else if c = 'f' then some '\x0c'
  else if c = 'n' then some '\n'
  else if c = 'r' then some '\r'
  else if c = 't' then some '\t'
  else none

/-- The code point of an escape after its backslash. -/
def escapedPoint (start : Nat) : List Char → Except Fault (Nat × List Char)
  | [] => .error ⟨.unterminatedString, start⟩
  | 'u' :: rest => unitEscape rest
  | c :: rest =>
    match shortEscape? c with
    | some c' => .ok (c'.toNat, rest)
    | none => .error ⟨.badEscape, rest.length + 2⟩

/-- The next code point of a string whose opening quote was read with `start` characters left. -/
def stringPoint (start : Nat) : List Char → Except Fault (Nat × List Char)
  | [] => .error ⟨.unterminatedString, start⟩
  | c :: rest =>
    if c = '\\' then escapedPoint start rest
    else if c < ' ' then .error ⟨.controlCharacter, rest.length + 1⟩
    else .ok (c.toNat, rest)

/-- The code points up to the closing quote; `fuel` bounds their number. -/
def stringPoints (start : Nat) : Nat → List Char → Except Fault (List Nat × List Char)
  | _, '"' :: rest => .ok ([], rest)
  | 0, _ => .error ⟨.unterminatedString, start⟩
  | fuel + 1, cs => do
    let (p, rest) ← stringPoint start cs
    let (more, rest) ← stringPoints start fuel rest
    return (p :: more, rest)

def string (cs : List Char) : Except Fault (Text.Wide × List Char) := do
  let (points, rest) ← stringPoints (cs.length + 1) cs.length cs
  return (.ofPoints points, rest)

def isDigit (c : Char) : Bool := '0' ≤ c && c ≤ '9'

def digitsValue (ds : List Char) : Nat := ds.foldl (fun n d => n * 10 + (d.toNat - 48)) 0

/-- A whole number without sign and without leading zeros. -/
def wholeDigits? : List Char → Option (List Char × List Char)
  | '0' :: rest => some (['0'], rest)
  | c :: rest =>
    if isDigit c then some (c :: rest.takeWhile isDigit, rest.dropWhile isDigit) else none
  | [] => none

/-- A fraction with its point; empty if there is none. -/
def fraction : List Char → List Char × List Char
  | '.' :: d :: rest =>
    if isDigit d then ('.' :: d :: rest.takeWhile isDigit, rest.dropWhile isDigit)
    else ([], '.' :: d :: rest)
  | cs => ([], cs)

/-- The sign of an exponent; empty if there is none. -/
def exponentSign : List Char → List Char × List Char
  | '+' :: rest => (['+'], rest)
  | '-' :: rest => (['-'], rest)
  | cs => ([], cs)

/-- An exponent with its letter; empty if there is none. -/
def exponent : List Char → List Char × List Char
  | [] => ([], [])
  | e :: rest =>
    let (sign, digits) := exponentSign rest
    if (e = 'e' || e = 'E') && (digits.head?.any isDigit) then
      (e :: sign ++ digits.takeWhile isDigit, digits.dropWhile isDigit)
    else ([], e :: rest)

/-- The number at the front of a text, after its sign. -/
def unsigned? (negative : Bool) (cs : List Char) :
    Option (Except Text.NumeralFault Json × List Char) := do
  let (digits, rest) ← wholeDigits? cs
  let (frac, rest) := fraction rest
  let (exp, rest) := exponent rest
  if frac.isEmpty && exp.isEmpty then
    let n : Int := digitsValue digits
    some ((Text.checkDigits digits.length).map fun _ => .int (if negative then -n else n), rest)
  else
    let sign := if negative then ['-'] else []
    some (.ok (.real (String.ofList (sign ++ digits ++ frac ++ exp))), rest)

def number? : List Char → Option (Except Text.NumeralFault Json × List Char)
  | '-' :: rest => unsigned? true rest
  | cs => unsigned? false cs

/-- The rest of a text after a given beginning. -/
def after? : List Char → List Char → Option (List Char)
  | [], cs => some cs
  | _ :: _, [] => none
  | w :: ws, c :: cs => if w = c then after? ws cs else none

def literals : List (String × Json) :=
  [("null", .null), ("true", .bool true), ("false", .bool false), ("NaN", .real "NaN"),
    ("Infinity", .real "Infinity"), ("-Infinity", .real "-Infinity")]

/-- A value that holds no other values and is not a string. -/
def scalar (cs : List Char) : Except Fault (Json × List Char) :=
  match literals.findSome? fun (w, j) => (after? w.toList cs).map (j, ·) with
  | some found => .ok found
  | none =>
    match number? cs with
    | some (.ok j, rest) => .ok (j, rest)
    | some (.error fault, _) => .error ⟨.longNumber fault, cs.length⟩
    | none => .error ⟨.expectedValue, cs.length⟩

mutual
/-- The value at the front of a text, in which `depth` arrays and objects may be in one another;
`fuel` bounds the length. -/
def value (depth : Nat) : Nat → List Char → Except Fault (Json × List Char)
  | 0, cs => .error ⟨.expectedValue, cs.length⟩
  | fuel + 1, cs =>
    match cs with
    | '"' :: rest => do
      let (s, rest) ← string rest
      return (.str s, rest)
    | '[' :: rest =>
      match depth with
      | 0 => .error ⟨.deepArray, cs.length⟩
      | depth + 1 =>
        match skip rest with
        | ']' :: rest => .ok (.arr [], rest)
        | rest => do
          let (items, rest) ← items depth fuel rest
          return (.arr items, rest)
    | '\x7b' :: rest =>
      match depth with
      | 0 => .error ⟨.deepObject, cs.length⟩
      | depth + 1 =>
        match skip rest with
        | '\x7d' :: rest => .ok (.obj [], rest)
        | rest => do
          let (entries, rest) ← entries depth fuel rest
          return (.obj entries, rest)
    | cs => scalar cs

/-- The items of an array up to its closing bracket. -/
def items (depth : Nat) : Nat → List Char → Except Fault (List Json × List Char)
  | 0, cs => .error ⟨.expectedValue, cs.length⟩
  | fuel + 1, cs => do
    let (j, rest) ← value depth fuel cs
    match skip rest with
    | ']' :: rest => return ([j], rest)
    | ',' :: rest =>
      let (more, rest) ← items depth fuel (skip rest)
      return (j :: more, rest)
    | rest => .error ⟨.expectedComma, rest.length⟩

/-- The entries of an object up to its closing brace. -/
def entries (depth : Nat) : Nat → List Char → Except Fault (List (Text.Wide × Json) × List Char)
  | 0, cs => .error ⟨.expectedKey, cs.length⟩
  | fuel + 1, cs =>
    match cs with
    | '"' :: rest => do
      let (key, rest) ← string rest
      match skip rest with
      | ':' :: rest =>
        let (j, rest) ← value depth fuel (skip rest)
        match skip rest with
        | '\x7d' :: rest => return ([(key, j)], rest)
        | ',' :: rest =>
          let (more, rest) ← entries depth fuel (skip rest)
          return ((key, j) :: more, rest)
        | rest => .error ⟨.expectedComma, rest.length⟩
      | rest => .error ⟨.expectedColon, rest.length⟩
    | cs => .error ⟨.expectedKey, cs.length⟩
end

/-- What is wrong with a text, and where. -/
structure SyntaxError where
  problem : Problem
  line : Nat
  column : Nat
  position : Nat
deriving DecidableEq, Repr, Inhabited

def SyntaxError.message (e : SyntaxError) : String :=
  if !e.problem.isSyntactic then e.problem.message
  else e.problem.message ++ ": line " ++ toString e.line ++ " column " ++ toString e.column ++
    " (char " ++ toString e.position ++ ")"

/-- A fault in a text, with its place counted from the front. -/
def Fault.inText (f : Fault) (text : List Char) : SyntaxError :=
  let position := text.length - f.left
  let before := text.take position
  ⟨f.problem, before.count '\n' + 1, (before.reverse.takeWhile (· != '\n')).length + 1, position⟩

/-- The value that a whole text stands for, in which `depth` arrays and objects may be in one
another. -/
def document (depth : Nat) (cs : List Char) : Except Fault Json :=
  match cs with
  | '\ufeff' :: _ => .error ⟨.byteOrderMark, cs.length⟩
  | _ => do
    let (j, rest) ← value depth (2 * cs.length + 2) (skip cs)
    match skip rest with
    | [] => return j
    | rest => .error ⟨.extraData, rest.length⟩

def parse (depth : Nat) (text : String) : Except SyntaxError Json :=
  (document depth text.toList).mapError (·.inText text.toList)

end Marshal.Json
