/-!
# Rounding quotients

The whole number nearest to a quotient; of two that are equally near, the even one.
-/

namespace Marshal.Decimal
set_option autoImplicit false

/-- The whole number nearest to `n / d`. -/
def roundDiv (n d : Nat) : Nat :=
  let q := n / d
  let r := 2 * (n % d)
  if r < d then q
  else if d < r then q + 1
  else q + q % 2

end Marshal.Decimal
