/-!
# Numbers for texts

Texts are filed under 64-bit numbers: SipHash under the key of zeros, with one round for every word
of eight bytes and three rounds at the end. All characters of a text are written with as many bytes
as its largest character needs.
-/

namespace Marshal.Text
set_option autoImplicit false

/-- The four words that are mixed. -/
structure SipState where
  a : UInt64
  b : UInt64
  c : UInt64
  d : UInt64
deriving DecidableEq, Repr, Inhabited

namespace SipState

/-- The bits of a word moved to the left, those that fall out put back at the right. -/
def rotate (x n : UInt64) : UInt64 := x <<< n ||| x >>> (64 - n)

def start : SipState :=
  ⟨0x736f6d6570736575, 0x646f72616e646f6d, 0x6c7967656e657261, 0x7465646279746573⟩

def round (s : SipState) : SipState :=
  let a := s.a + s.b
  let c := s.c + s.d
  let b := rotate s.b 13 ^^^ a
  let d := rotate s.d 16 ^^^ c
  let a := rotate a 32
  let c := c + b
  let a := a + d
  let b := rotate b 17 ^^^ c
  let d := rotate d 21 ^^^ a
  ⟨a, b, rotate c 32, d⟩

def absorb (s : SipState) (word : UInt64) : SipState :=
  let s := round { s with d := s.d ^^^ word }
  { s with a := s.a ^^^ word }

def finish (s : SipState) : UInt64 :=
  let s := { s with c := s.c ^^^ 0xff }.round.round.round
  (s.a ^^^ s.b) ^^^ (s.c ^^^ s.d)

end SipState

def wordOf (bytes : List UInt8) : UInt64 :=
  bytes.foldr (fun byte word => word <<< 8 ||| byte.toUInt64) 0

/-- The state after bytes of which `length` were to be absorbed in all. -/
def SipState.absorbAll (length : Nat) (s : SipState) : List UInt8 → SipState
  | a :: b :: c :: d :: e :: f :: g :: h :: rest =>
    absorbAll length (s.absorb (wordOf [a, b, c, d, e, f, g, h])) rest
  | rest => s.absorb (UInt64.ofNat length <<< 56 ||| wordOf rest)

def sipHash (bytes : List UInt8) : UInt64 :=
  (SipState.start.absorbAll bytes.length bytes).finish

/-- A number written with as many bytes, the lowest first. -/
def bytesOf : Nat → Nat → List UInt8
  | 0, _ => []
  | size + 1, n => UInt8.ofNat n :: bytesOf size (n / 256)

/-- The number of bytes that the largest of characters needs. -/
def charSize (cs : List Char) : Nat :=
  let largest := (cs.map Char.toNat).foldl max 0
  if largest < 0x100 then 1 else if largest < 0x10000 then 2 else 4

/-- The number of a text; that of the empty one is zero. -/
def filingNumber (s : String) : UInt64 :=
  let cs := s.toList
  if cs.isEmpty then 0 else sipHash (cs.flatMap fun c => bytesOf (charSize cs) c.toNat)

end Marshal.Text
