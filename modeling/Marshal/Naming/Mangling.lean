import Marshal.Text.Digit

/-!
# Mangling

How a runtime spells the names of variants, fields and functions: either as they are, or with the
characters that its identifiers cannot hold written as escapes that begin with an underscore.
-/

namespace Marshal.Naming
set_option autoImplicit false

/-- The ways in which runtimes spell names. -/
inductive Mangling where
  | escaping
  | verbatim
deriving DecidableEq, Repr, Inhabited

namespace Mangling

def all : List Mangling := [.escaping, .verbatim]

def word : Mangling → String
  | .escaping => "dafny"
  | .verbatim => "none"

def ofWord? (w : String) : Option Mangling := all.find? (fun m => m.word == w)

end Mangling

def escapeChar (c : Char) : List Char :=
  if c = '\'' then ['_', 'k']
  else if c = '_' then ['_', '_']
  else if c = '?' then ['_', 'q']
  else if c = '#' then ['_', 'h']
  else [c]

/-- An escaped name; a name that begins with a digit only gets an underscore in front. -/
def escapeName (name : String) : String :=
  match name.toList with
  | [] => ""
  | c :: cs =>
    if Text.isAnyDigit c then String.ofList ('_' :: c :: cs)
    else String.ofList ((c :: cs).flatMap escapeChar)

def Mangling.apply : Mangling → String → String
  | .escaping, name => escapeName name
  | .verbatim, name => name

end Marshal.Naming
