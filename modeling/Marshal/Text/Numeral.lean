import Marshal.Text.Digit
import Marshal.Text.Literal

/-!
# Decimal numerals

Numbers written with the decimal digits of any scripts. Numerals beyond a limit are not read, which
is found out before a character behind the digits is looked at.
-/

namespace Marshal.Text
set_option autoImplicit false

/-- Why a numeral stands for no number. -/
inductive NumeralFault where
  | malformed (text : List Char)
  | tooLong (digits : Nat)
deriving DecidableEq, Repr, Inhabited

namespace NumeralFault

/-- The number of characters that a message quotes at most. -/
def quoteLimit : Nat := 200

def message : NumeralFault → String
  | .malformed text =>
    "invalid literal for int() with base 10: " ++
      String.ofList ((literal (String.ofList text)).toList.take quoteLimit)
  | .tooLong n =>
    "Exceeds the limit (4300 digits) for integer string conversion: value has " ++ toString n ++
      " digits; use sys.set_int_max_str_digits() to increase the limit"

end NumeralFault

/-- The number of digits that a numeral may have. -/
def numeralLimit : Nat := 4300

/-- Fails if a numeral has too many digits. -/
def checkDigits (digits : Nat) : Except NumeralFault Unit :=
  if numeralLimit < digits then .error (.tooLong digits) else .ok ()

def readNumeral (cs : List Char) : Except NumeralFault Nat := do
  checkDigits (cs.takeWhile isDecimal).length
  match decimalNumber? cs with
  | some n => return n
  | none => throw (.malformed cs)

end Marshal.Text
