import Marshal.Text.Hex
import Marshal.Text.Printable

/-!
# Strings between quotes

A literal of the generated language is in single quotes, or in double quotes if the string holds a
single quote and no double one. The quote, backslashes and unprintable characters are escaped, the
latter with as many hexadecimal digits as their code point needs (two, four or eight).

Quoted text is in double quotes, and every character outside printable ASCII is escaped: the usual
short escapes, `\u` and four digits for the rest, and two such escapes (a surrogate pair) for a
character beyond the basic plane.
-/

namespace Marshal.Text
set_option autoImplicit false

def literalQuote (cs : List Char) : Char :=
  if cs.contains '\'' && !cs.contains '"' then '"' else '\''

/-- A character as it stands in a literal with the given quote. -/
def literalChar (quote c : Char) : List Char :=
  if c = quote || c = '\\' then ['\\', c]
  else if c = '\n' then ['\\', 'n']
  else if c = '\r' then ['\\', 'r']
  else if c = '\t' then ['\\', 't']
  else if isPrintable c then [c]
  else if c.toNat < 0x100 then '\\' :: 'x' :: hexDigits 2 c.toNat
  else if c.toNat < 0x10000 then '\\' :: 'u' :: hexDigits 4 c.toNat
  else '\\' :: 'U' :: hexDigits 8 c.toNat

def literal (s : String) : String :=
  let quote := literalQuote s.toList
  String.ofList (quote :: (s.toList.flatMap (literalChar quote) ++ [quote]))

/-- One sixteen-bit unit, written as an escape. -/
def unitEscape (unit : Nat) : List Char := '\\' :: 'u' :: hexDigits 4 unit

/-- The first unit of the pair for a character beyond the basic plane. -/
def highSurrogate (n : Nat) : Nat := 0xd800 + (n - 0x10000) / 0x400

/-- The second unit of the pair for a character beyond the basic plane. -/
def lowSurrogate (n : Nat) : Nat := 0xdc00 + (n - 0x10000) % 0x400

/-- A character as it stands between quotes. -/
def quoteChar (c : Char) : List Char :=
  if c = '"' then ['\\', '"']
  else if c = '\\' then ['\\', '\\']
  else if c = '\n' then ['\\', 'n']
  else if c = '\r' then ['\\', 'r']
  else if c = '\t' then ['\\', 't']
  else if c = '\x08' then ['\\', 'b']
  else if c = '\x0c' then ['\\', 'f']
  else if ' ' ≤ c && c ≤ '~' then [c]
  else if c.toNat < 0x10000 then unitEscape c.toNat
  else unitEscape (highSurrogate c.toNat) ++ unitEscape (lowSurrogate c.toNat)

/-- The characters of a string as they stand between quotes. -/
def quoteChars (cs : List Char) : List Char := cs.flatMap quoteChar

def quoted (s : String) : String := String.ofList ('"' :: (quoteChars s.toList ++ ['"']))

end Marshal.Text
