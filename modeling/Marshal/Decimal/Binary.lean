import Marshal.Decimal.Rounding

/-!
# Binary numbers of limited precision

A number is kept as a mantissa of at most fifty-three binary digits and a power of two. A fraction
stands for the nearest such number; of two that are equally near, the one with an even mantissa.
-/

namespace Marshal.Decimal
set_option autoImplicit false

/-- A fraction; the denominator is not zero. -/
structure Fraction where
  numerator : Nat
  denominator : Nat
deriving DecidableEq, Repr, Inhabited

namespace Fraction

def scaled (n base : Nat) (exponent : Int) : Fraction :=
  if 0 ≤ exponent then ⟨n * Nat.pow base exponent.toNat, 1⟩
  else ⟨n, Nat.pow base (-exponent).toNat⟩

/-- A fraction times a power of another number. -/
def scale (f : Fraction) (base : Nat) (exponent : Int) : Fraction :=
  let s := scaled f.numerator base exponent
  ⟨s.numerator, f.denominator * s.denominator⟩

def less (a b : Fraction) : Bool := a.numerator * b.denominator < b.numerator * a.denominator

def whole (f : Fraction) : Nat := f.numerator / f.denominator

end Fraction

/-- The number `mantissa * 2 ^ exponent`. -/
structure Binary where
  mantissa : Nat
  exponent : Int
deriving DecidableEq, Repr, Inhabited

namespace Binary

def precision : Nat := 53

/-- The number above all mantissas. -/
def mantissaLimit : Nat := Nat.pow 2 precision

def leastExponent : Int := -1074

/-- The greatest exponent; whatever needs a greater one counts as infinite. -/
def greatestExponent : Int := 971

/-- The exponent with which the mantissa for a fraction has as many digits as it may have. -/
def exponentFor (f : Fraction) : Int :=
  let guess : Int := (Nat.log2 f.numerator : Int) - Nat.log2 f.denominator - precision
  let e := max guess leastExponent
  if mantissaLimit ≤ (f.scale 2 (-e)).whole then e + 1 else e

/-- The number nearest to a fraction, unless it is infinite. -/
def nearest? (f : Fraction) : Option Binary :=
  let e := exponentFor f
  let s := f.scale 2 (-e)
  let m := roundDiv s.numerator s.denominator
  let b : Binary := if m = mantissaLimit then ⟨mantissaLimit / 2, e + 1⟩ else ⟨m, e⟩
  if greatestExponent < b.exponent then none else some b

def fraction (b : Binary) : Fraction := Fraction.scaled b.mantissa 2 b.exponent

/-- The fractions halfway to the numbers below and above. -/
def halfways (b : Binary) : Fraction × Fraction :=
  let narrow := b.mantissa = mantissaLimit / 2 ∧ leastExponent < b.exponent
  (Fraction.scaled (4 * b.mantissa - if narrow then 1 else 2) 2 (b.exponent - 2),
    Fraction.scaled (4 * b.mantissa + 2) 2 (b.exponent - 2))

/-- Whether a number is the nearest one to a fraction; halfway an even mantissa wins. -/
def readsBack (b : Binary) (f : Fraction) : Bool :=
  let (low, high) := b.halfways
  if b.mantissa % 2 = 0 then !f.less low && !high.less f else low.less f && f.less high

end Binary

end Marshal.Decimal
