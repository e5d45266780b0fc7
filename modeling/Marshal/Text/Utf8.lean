import Marshal.Text.Hex

/-!
# UTF-8, strictly

Bytes are decoded without repair: overlong forms, surrogates, code points that do not exist and
sequences that are cut short are faults. A fault names the bytes that cannot begin a character. A
text can be cut to the room of a number of bytes.
-/

namespace Marshal.Text
set_option autoImplicit false

/-- What is wrong with a byte sequence. -/
inductive Utf8Problem where
  | invalidStart
  | invalidContinuation
  | unexpectedEnd
deriving DecidableEq, Repr, Inhabited

def Utf8Problem.message : Utf8Problem → String
  | .invalidStart => "invalid start byte"
  | .invalidContinuation => "invalid continuation byte"
  | .unexpectedEnd => "unexpected end of data"

/-- A problem, the bytes it lies in and the first of them. -/
structure Utf8Fault where
  problem : Utf8Problem
  first : Nat
  start : Nat
  length : Nat
deriving DecidableEq, Repr, Inhabited

def Utf8Fault.message (f : Utf8Fault) : String :=
  let place :=
    if f.length = 1 then
      "byte 0x" ++ String.ofList (hexDigits 2 f.first) ++ " in position " ++ toString f.start
    else
      "bytes in position " ++ toString f.start ++ "-" ++ toString (f.start + f.length - 1)
  "'utf-8' codec can't decode " ++ place ++ ": " ++ f.problem.message

/-- How many bytes follow a first byte, if a character can begin with it. -/
def followers? (b : Nat) : Option Nat :=
  if b < 0x80 then some 0
  else if b < 0xc2 then none
  else if b < 0xe0 then some 1
  else if b < 0xf0 then some 2
  else if b < 0xf5 then some 3
  else none

/-- Whether a byte goes on with a character. -/
def isContinuation (b : Nat) : Bool := 0x80 ≤ b && b < 0xc0

/--
Whether a byte can follow the first byte of a longer sequence: the shortest form must be used, and
neither surrogates nor code points past the last one have a form.
-/
def isSecond (first b : Nat) : Bool :=
  isContinuation b &&
    (if first = 0xe0 then 0xa0 ≤ b
      else if first = 0xed then b < 0xa0
      else if first = 0xf0 then 0x90 ≤ b
      else if first = 0xf4 then b < 0x90
      else true)

/-- The number in the lower bits of a first byte. -/
def leadBits (followers b : Nat) : Nat :=
  match followers with
  | 0 => b
  | 1 => b % 0x20
  | 2 => b % 0x10
  | _ => b % 0x08

/--
The value of a sequence after its first byte: `count` more bytes are needed, `taken` have been
read, and `ok` tells which byte may come next. A failure carries the length of the faulty part.
-/
def continueWith (ok : Nat → Bool) (taken value : Nat) :
    Nat → List Nat → Except (Utf8Problem × Nat) (Nat × List Nat)
  | 0, bs => .ok (value, bs)
  | _ + 1, [] => .error (.unexpectedEnd, taken)
  | count + 1, b :: bs =>
    if ok b then continueWith isContinuation (taken + 1) (value * 0x40 + b % 0x40) count bs
    else .error (.invalidContinuation, taken)

/-- The characters of a byte sequence that begins at a position; `fuel` bounds their number. -/
def decodeFrom (position : Nat) : Nat → List Nat → Except Utf8Fault (List Char)
  | _, [] => .ok []
  | 0, b :: _ => .error ⟨.unexpectedEnd, b, position, 1⟩
  | fuel + 1, b :: bs =>
    match followers? b with
    | none => .error ⟨.invalidStart, b, position, 1⟩
    | some n =>
      match continueWith (isSecond b) 1 (leadBits n b) n bs with
      | .error (problem, length) => .error ⟨problem, b, position, length⟩
      | .ok (value, rest) =>
        (decodeFrom (position + n + 1) fuel rest).map (Char.ofNat value :: ·)

def decodeUtf8 (bytes : List Nat) : Except Utf8Fault (List Char) :=
  decodeFrom 0 bytes.length bytes

/-- As many characters as have room in the given number of bytes; one of which only some bytes have
room is replaced by a mark. -/
def clip (room : Nat) : List Char → List Char
  | [] => []
  | c :: cs =>
    if c.utf8Size ≤ room then c :: clip (room - c.utf8Size) cs
    else if room = 0 then [] else ['\ufffd']

end Marshal.Text
