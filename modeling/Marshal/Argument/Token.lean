import Marshal.Text.Printable

/-!
# Tokens of arguments

What the arguments of an event are written with: names, numbers, texts, marks (operators, brackets
and reserved words) and line ends.
-/

namespace Marshal.Argument
set_option autoImplicit false

inductive Kind where
  | name
  | number
  | text
  /-- An operator, a bracket or a reserved word. -/
  | mark
  | lineEnd
  /-- A line begins farther to the right than the one before. -/
  | indent
  | finish
deriving DecidableEq, Repr, Inhabited

structure Token where
  kind : Kind
  text : String
  /-- The line that it begins in. -/
  line : Nat
  /-- The number of brackets that are open behind it. -/
  depth : Nat
  /-- Whether the text was seen to end behind it; nothing is looked at behind a quoted text. -/
  last : Bool
deriving DecidableEq, Repr, Inhabited

/-- The ways to write a number. -/
inductive Base where
  | binary
  | octal
  | decimal
  | hexadecimal
  | imaginary
deriving DecidableEq, Repr, Inhabited

/-- What a way to write a number is called. -/
def Base.name : Base → String
  | .binary => "binary"
  | .octal => "octal"
  | .decimal => "decimal"
  | .hexadecimal => "hexadecimal"
  | .imaginary => "imaginary"

/-- Why no token can be read. -/
inductive TokenFault where
  /-- A character that stands in no token. -/
  | character (c : Char)
  | number (base : Base)
  | digit (c : Char) (base : Base)
  | leadingZeros
  /-- A text has no end; the line is the one where it would have been at the latest. -/
  | openText (line : Nat)
  | openLongText (line : Nat)
  /-- Something stands in a line behind a backslash. -/
  | continuation
  | tooManyBrackets
  | unmatched (bracket : Char)
  /-- A bracket closes another one than it should, which is in a line of its own. -/
  | mismatched (bracket opened : Char) (line : Option Nat)
  | neverClosed (bracket : Char)
  /-- A line begins where none of those did that it could belong to. -/
  | dedent
deriving DecidableEq, Repr, Inhabited

namespace TokenFault

/-- Whether a fault outdoes everything else that is wrong with a text, even in front of it. -/
def isFirm : TokenFault → Bool
  | .continuation | .neverClosed _ | .dedent => false
  | _ => true

/-- A number in upper case hexadecimal digits, at least four. -/
def codePoint (n : Nat) : String :=
  let digits := (Nat.toDigits 16 n).map Char.toUpper
  String.ofList (List.replicate (4 - digits.length) '0' ++ digits)

def message : TokenFault → String
  | .character c =>
    if Text.isPrintable c then
      "invalid character '" ++ c.toString ++ "' (U+" ++ codePoint c.toNat ++ ")"
    else "invalid non-printable character U+" ++ codePoint c.toNat
  | .number base => "invalid " ++ base.name ++ " literal"
  | .digit c base => "invalid digit '" ++ c.toString ++ "' in " ++ base.name ++ " literal"
  | .leadingZeros =>
    "leading zeros in decimal integer literals are not permitted; " ++
      "use an 0o prefix for octal integers"
  | .openText line =>
    "unterminated string literal (detected at line " ++ toString line ++ ")"
  | .openLongText line =>
    "unterminated triple-quoted string literal (detected at line " ++ toString line ++ ")"
  | .continuation => "unexpected character after line continuation character"
  | .tooManyBrackets => "too many nested parentheses"
  | .unmatched c => "unmatched '" ++ c.toString ++ "'"
  | .mismatched c opened line =>
    "closing parenthesis '" ++ c.toString ++ "' does not match opening parenthesis '" ++
      opened.toString ++ "'" ++
      match line with
      | some n => " on line " ++ toString n
      | none => ""
  | .neverClosed c => "'" ++ c.toString ++ "' was never closed"
  | .dedent => "unindent does not match any outer indentation level"

end TokenFault

end Marshal.Argument
