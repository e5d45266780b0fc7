import Marshal.Argument.Token
import Marshal.Text.Hex

/-!
# Quoted texts of arguments

A text stands between quotes, behind letters that say how it is meant: `b` for bytes, `r` for a text
without escapes, `f` for one with gaps to be filled. Bytes are ASCII, and escapes have to be
complete. The places that messages name count a character beyond ASCII as its escape in eight
digits, and a backslash in front of one as an escape in four.
-/

namespace Marshal.Argument
set_option autoImplicit false

/-- Why an escape stands for no character. -/
inductive EscapeFault where
  /-- Fewer hexadecimal digits than the letter of the escape asks for. -/
  | truncated (letter : Char) (digits : Nat)
  /-- A number beyond the last character. -/
  | tooLarge
  /-- A name without braces around it. -/
  | unnamed
  | unknownName
deriving DecidableEq, Repr, Inhabited

def EscapeFault.message : EscapeFault → String
  | .truncated letter digits =>
    "truncated \\" ++ letter.toString ++ String.ofList (List.replicate digits 'X') ++ " escape"
  | .tooLarge => "illegal Unicode character"
  | .unnamed => "malformed \\N character escape"
  | .unknownName => "unknown Unicode character name"

/-- Why quoted texts stand for no value. -/
inductive QuoteFault where
  | beyondAscii
  /-- Texts and bytes stand side by side. -/
  | mixed
  /-- An escape in a text, from a place up to another one. -/
  | escape (fault : EscapeFault) (start stop : Nat)
  /-- An escape in bytes. -/
  | byte (start : Nat)
deriving DecidableEq, Repr, Inhabited

def QuoteFault.message : QuoteFault → String
  | .beyondAscii => "bytes can only contain ASCII literal characters"
  | .mixed => "cannot mix bytes and nonbytes literals"
  | .escape fault start stop =>
    "(unicode error) 'unicodeescape' codec can't decode bytes in position " ++ toString start ++
      "-" ++ toString (stop - 1) ++ ": " ++ fault.message
  | .byte start => "(value error) invalid \\x escape at position " ++ toString start

/-- A quoted text: the letters in front of it, in lower case, and what is between the quotes. -/
structure Quote where
  marks : List Char
  body : List Char
deriving DecidableEq, Repr, Inhabited

namespace Quote

def ofToken (t : Token) : Quote :=
  let isQuote (c : Char) : Bool := c == '\'' || c == '"'
  let cs := t.text.toList
  let quoted := cs.dropWhile (!isQuote ·)
  let quotes := quoted.take 3
  let size := if 6 ≤ quoted.length && quotes.all (some · == quoted.head?) then 3 else 1
  ⟨(cs.takeWhile (!isQuote ·)).map Char.toLower, (quoted.drop size).dropLast.take
    (quoted.length - 2 * size)⟩

def isBytes (q : Quote) : Bool := q.marks.contains 'b'

def hasGaps (q : Quote) : Bool := q.marks.contains 'f'

/-- The number of places that a character takes. -/
def width (c : Char) : Nat := if c.toNat < 128 then 1 else 10

/-- The number of places that a backslash takes in front of a text. -/
def backslashWidth (cs : List Char) : Nat := if cs.head?.any (128 ≤ ·.toNat) then 6 else 1

/-- The number of hexadecimal digits behind the letter of an escape. -/
def digitCount? : Char → Option Nat
  | 'x' => some 2
  | 'u' => some 4
  | 'U' => some 8
  | _ => none

def lastCodePoint : Nat := 0x10ffff

/-- Fails if the escape at the front of a text, which begins with its letter, is none. Names are not
looked up. -/
def checkEscape (place : Nat) : List Char → Except QuoteFault Unit
  | [] => .ok ()
  | 'N' :: '{' :: cs =>
    let name := cs.takeWhile (· != '}')
    let stop := name.foldl (fun n c => n + width c) (place + 3)
    if name.length = cs.length then .error (.escape .unnamed place stop)
    else if name.isEmpty then .error (.escape .unnamed place stop)
    else if name.all fun c => c.isAlphanum || c == ' ' || c == '-' then .ok ()
    else .error (.escape .unknownName place (stop + 1))
  | 'N' :: _ => .error (.escape .unnamed place (place + 2))
  | c :: cs =>
    match digitCount? c with
    | none => .ok ()
    | some n =>
      let digits := (cs.take n).takeWhile fun c => (Text.hexValue? c).isSome
      let stop := place + 2 + digits.length
      let value := digits.foldl (fun v c => v * 16 + (Text.hexValue? c).getD 0) 0
      if digits.length < n then .error (.escape (.truncated c n) place stop)
      else if lastCodePoint < value then .error (.escape .tooLarge place stop)
      else .ok ()

/-- Fails if an escape in a text from a place on is none. -/
def checkEscapes (place : Nat) : List Char → Except QuoteFault Unit
  | [] => .ok ()
  | '\\' :: cs => do
    checkEscape place cs
    match cs with
    | '\\' :: cs => checkEscapes (place + 2) cs
    | cs => checkEscapes (place + backslashWidth cs) cs
  | c :: cs => checkEscapes (place + width c) cs

/-- Fails if an escape in bytes from a place on is none. -/
def checkBytes (place : Nat) : List Char → Except QuoteFault Unit
  | [] => .ok ()
  | '\\' :: 'x' :: cs =>
    if (cs.take 2).length = 2 && (cs.take 2).all fun c => (Text.hexValue? c).isSome then
      checkBytes (place + 2) cs
    else .error (.byte place)
  | '\\' :: _ :: cs => checkBytes (place + 2) cs
  | _ :: cs => checkBytes (place + 1) cs

/-- Fails if a text stands for nothing. A text with gaps is not looked into. -/
def check (q : Quote) : Except QuoteFault Unit := do
  if q.isBytes && q.body.any (128 ≤ ·.toNat) then throw .beyondAscii
  if q.marks.contains 'r' || q.hasGaps then return ()
  if q.isBytes then checkBytes 0 q.body else checkEscapes 0 q.body

end Quote

end Marshal.Argument
