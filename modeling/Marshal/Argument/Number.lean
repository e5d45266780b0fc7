import Marshal.Argument.Token
import Marshal.Text.Hex

/-!
# Numbers of arguments

Where a number ends that a text begins with. Digits may be joined by single underscores. No letter,
digit or underscore may follow directly, unless it begins one of a few words.
-/

namespace Marshal.Argument
set_option autoImplicit false

/-- Whether a character can stand in a word; beyond the first 128 characters every one does, until
the word is looked at more closely. -/
def isWordChar (c : Char) : Bool := c.isAlphanum || c == '_' || 128 ≤ c.toNat

namespace Number

/-- What is behind digits of a kind that single underscores join; if there is no digit behind an
underscore, what there is instead. -/
def afterDigits (p : Char → Bool) : List Char → Except (List Char) (List Char)
  | [] => .ok []
  | '_' :: c :: cs => if p c then afterDigits p cs else .error (c :: cs)
  | ['_'] => .error []
  | c :: cs => if p c then afterDigits p cs else .ok (c :: cs)

/-- Whether a text begins with a word that may follow a number directly. -/
def beginsFollower : List Char → Bool
  | 'i' :: c :: _ => c == 'f' || c == 'n' || c == 's'
  | cs =>
    ["and", "else", "for", "not", "or"].any fun (w : String) =>
      w.toList.isPrefixOf cs && !((cs.drop w.length).head?.any isWordChar)

/-- Fails if a number cannot end in front of a text. -/
def checkEnd (base : Base) (cs : List Char) : Except TokenFault Unit :=
  if cs.head?.any (fun c => c.toNat < 128 && isWordChar c) && !beginsFollower cs then
    .error (.number base)
  else .ok ()

def digitFault (base : Base) (cs : List Char) : TokenFault :=
  match cs.head? with
  | some c => if c.isDigit then .digit c base else .number base
  | none => .number base

/-- What is behind the digits of a number that begins with its base. -/
def afterBase (base : Base) (p : Char → Bool) (cs : List Char) :
    Except TokenFault (List Char) := do
  let digits := if cs.head? == some '_' then cs.drop 1 else cs
  if !digits.head?.any p then throw (digitFault base digits)
  let rest ← (afterDigits p digits).mapError (digitFault base)
  if rest.head?.any Char.isDigit then throw (digitFault base rest)
  checkEnd base rest
  return rest

def afterDecimal (cs : List Char) : Except TokenFault (List Char) :=
  (afterDigits Char.isDigit cs).mapError fun _ => .number .decimal

/-- What is behind a number, from where it may turn out to be imaginary. -/
def afterUnit : List Char → Except TokenFault (List Char)
  | 'j' :: cs | 'J' :: cs => do
    checkEnd .imaginary cs
    return cs
  | cs => do
    checkEnd .decimal cs
    return cs

def beginsExponent (c : Char) : Bool := c == 'e' || c == 'E'

/-- What is behind a number, from where its exponent may begin. -/
def afterExponent : List Char → Except TokenFault (List Char)
  | e :: cs =>
    if beginsExponent e then do
      let isSigned := cs.head? == some '+' || cs.head? == some '-'
      let digits := if isSigned then cs.drop 1 else cs
      if digits.head?.any Char.isDigit then afterUnit (← afterDecimal digits)
      else if isSigned then throw (.number .decimal)
      else
        checkEnd .decimal (e :: cs)
        return e :: cs
    else afterUnit (e :: cs)
  | [] => afterUnit []

/-- What is behind a number, from behind its decimal point. -/
def afterFraction (cs : List Char) : Except TokenFault (List Char) := do
  if cs.head?.any Char.isDigit then afterExponent (← afterDecimal cs) else afterExponent cs

/-- What is behind a number that begins with a decimal digit. -/
def afterWhole (cs : List Char) : Except TokenFault (List Char) := do
  let rest ← afterDecimal cs
  match rest with
  | '.' :: rest => afterFraction rest
  | c :: _ =>
    if beginsExponent c then afterExponent rest
    else if c == 'j' || c == 'J' then afterUnit rest
    else whole rest
  | [] => whole rest
where
  /-- What is behind a whole number, in front of `rest`. -/
  whole (rest : List Char) : Except TokenFault (List Char) := do
    let digits := cs.take (cs.length - rest.length)
    if cs.head? == some '0' && digits.any (fun c => c != '0' && c != '_') then
      throw .leadingZeros
    checkEnd .decimal rest
    return rest

/-- What is behind a number that begins with a digit. -/
def rest : List Char → Except TokenFault (List Char)
  | '0' :: 'x' :: cs | '0' :: 'X' :: cs =>
    afterBase .hexadecimal (fun c => (Text.hexValue? c).isSome) cs
  | '0' :: 'o' :: cs | '0' :: 'O' :: cs => afterBase .octal (fun c => '0' ≤ c && c ≤ '7') cs
  | '0' :: 'b' :: cs | '0' :: 'B' :: cs => afterBase .binary (fun c => c == '0' || c == '1') cs
  | cs => afterWhole cs

end Number

end Marshal.Argument
