/-!
# Runs of cased letters

Most cased letters stand in regular runs: the other case of every letter of a run lies at the same
distance.
-/

namespace Marshal.Text
set_option autoImplicit false

/-- Every `step`-th code point from `first` to `last` has its other case at a fixed distance. -/
structure CaseRun where
  first : Nat
  last : Nat
  step : Nat
  distance : Int
deriving Repr

namespace CaseRun

/-- Whether a run holds a code point. -/
def holds (r : CaseRun) (n : Nat) : Bool :=
  r.first ≤ n && n ≤ r.last && (n - r.first) % r.step == 0

/-- The other case of a character; one that no run holds has none but itself. -/
def change (runs : List CaseRun) (c : Char) : Char :=
  match runs.find? (·.holds c.toNat) with
  | some r => Char.ofNat (c.toNat + r.distance).toNat
  | none => c

end CaseRun

end Marshal.Text
