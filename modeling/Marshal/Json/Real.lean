import Marshal.Decimal.Shortest
import Marshal.Json.Reader

/-!
# Numbers with a fraction or an exponent

Such a number is shown with the fewest digits that stand for the same binary number: with a decimal
point if the point is near the digits, with an exponent otherwise.
-/

namespace Marshal.Json
set_option autoImplicit false

open Decimal

def zeros (n : Int) : List Char := List.replicate n.toNat '0'

/-- An exponent with its sign and at least two digits. -/
def exponentText (e : Int) : List Char :=
  let digits := Number.digitsOf e.natAbs
  (if e < 0 then '-' else '+') :: (List.replicate (2 - digits.length) '0' ++ digits)

/-- Digits, `point` of which stand in front of the decimal point. -/
def pointed (digits : List Char) (point : Int) : List Char :=
  if -4 < point ∧ point ≤ 16 then
    if point ≤ 0 then '0' :: '.' :: (zeros (-point) ++ digits)
    else
      let behind := digits.drop point.toNat
      digits.take point.toNat ++ zeros (point - digits.length) ++
        '.' :: (if behind.isEmpty then ['0'] else behind)
  else
    let mantissa := match digits with
      | first :: rest => if rest.isEmpty then [first] else first :: '.' :: rest
      | [] => []
    mantissa ++ 'e' :: exponentText (point - 1)

/-- The places beyond which a number is infinite or zero. -/
def magnitudeLimit : Int := 400

def magnitudeText (digits : Nat) (exponent : Int) : List Char :=
  let point := (Number.digitsOf digits).length + exponent
  if digits = 0 ∨ point < -magnitudeLimit then "0.0".toList
  else if magnitudeLimit < point then "inf".toList
  else
    match Binary.nearest? (Fraction.scaled digits 10 exponent) with
    | none => "inf".toList
    | some b =>
      if b.mantissa = 0 then "0.0".toList
      else
        let (digits, point) := (Number.shortest b).significant
        pointed digits point

/-- The number that an exponent with its sign stands for. -/
def signedValue : List Char → Int
  | '-' :: digits => -digitsValue digits
  | '+' :: digits => digitsValue digits
  | digits => digitsValue digits

/-- A numeral without its sign as it is shown. -/
def unsignedText (cs : List Char) : List Char :=
  let isMark (c : Char) : Bool := c == 'e' || c == 'E'
  let mantissa := cs.takeWhile fun c => !isMark c
  let exponent := signedValue ((cs.dropWhile fun c => !isMark c).drop 1)
  let whole := mantissa.takeWhile (· != '.')
  let fraction := (mantissa.dropWhile (· != '.')).drop 1
  magnitudeText (digitsValue (whole ++ fraction)) (exponent - fraction.length)

/-- A number as it is shown, given as it is written. -/
def realText (text : String) : String :=
  match text with
  | "NaN" => "nan"
  | "Infinity" => "inf"
  | "-Infinity" => "-inf"
  | _ =>
    match text.toList with
    | '-' :: cs => String.ofList ('-' :: unsignedText cs)
    | cs => String.ofList (unsignedText cs)

end Marshal.Json
