import Marshal.Decimal.Binary

/-!
# Shortest decimals

The decimal with the fewest digits that stands for a given binary number, and of those the nearest
one.
-/

namespace Marshal.Decimal
set_option autoImplicit false

structure Number where
  digits : Nat
  exponent : Int
deriving DecidableEq, Repr, Inhabited

namespace Number

def fraction (d : Number) : Fraction := Fraction.scaled d.digits 10 d.exponent

def digitsOf (n : Nat) : List Char := Nat.toDigits 10 n

/-- The number of digits in front of the decimal point; negative if the fraction begins with
zeros. -/
def pointPlace (f : Fraction) : Int := (digitsOf (f.scale 10 400).whole).length - 400

/-- The decimal with the digits at or above a place that a binary number has, or the next greater
one: whichever stands for the number, and of both the nearer one. -/
def atPlace? (b : Binary) (place : Int) : Option Number :=
  let f := b.fraction
  let scaled := f.scale 10 (-place)
  let below : Number := ⟨scaled.whole, place⟩
  let above : Number := ⟨scaled.whole + 1, place⟩
  match b.readsBack below.fraction, b.readsBack above.fraction with
  | true, true => some ⟨roundDiv scaled.numerator scaled.denominator, place⟩
  | true, false => some below
  | false, true => some above
  | false, false => none

def mostDigits : Nat := 17

def shortest (b : Binary) : Number :=
  let point := pointPlace b.fraction
  ((List.range mostDigits).findSome? fun n => atPlace? b (point - (n + 1 : Nat))).getD
    ⟨b.fraction.whole, 0⟩

/-- The digits of a decimal without zeros at the end, and how many of them stand in front of the
decimal point. -/
def significant (d : Number) : List Char × Int :=
  let all := digitsOf d.digits
  ((all.reverse.dropWhile (· == '0')).reverse, all.length + d.exponent)

end Number

end Marshal.Decimal
