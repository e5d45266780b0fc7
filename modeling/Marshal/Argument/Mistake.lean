import Marshal.Argument.Gap
import Marshal.Argument.Node
import Marshal.Text.Numeral

/-!
# Mistakes in arguments

What can be wrong with arguments whose tokens are all right.
-/

namespace Marshal.Argument
set_option autoImplicit false

/-- Why tokens are no expression. -/
inductive Mistake where
  /-- Nothing more is known. -/
  | unknown
  | indented
  | text (fault : GapFault)
  /-- A number has too many digits. -/
  | numeral (fault : Text.NumeralFault)
  | missingComma
  | missingElse
  /-- A name is used as if it were a command. -/
  | command (name : String)
  /-- A value gets a name that is none. -/
  | badName (title : String)
  | equalsSign
  /-- Something is assigned to a value. -/
  | assigned (title : String)
  /-- Something is assigned to a value where an expression stands. -/
  | assignedHere (title : String)
  | assignedArgument
  | starredSource
  | unbracketedTarget
  | spreadSource
  | starred
  | spread
  | starredEntry
  | missingValue
  | missingColon
  | starredAfterSpread
  | unbracketedGenerator
  | positionalAfterSpread
  | positionalAfterNamed
  | missingDefault
  | defaultFirst
  | bracketedParameters
  | slashFirst
  | secondSlash
  | slashAfterStar
  | slashStar
  | bareStar
  | starDefault
  | secondStar
  | spreadDefault
  | afterSpread
deriving DecidableEq, Repr, Inhabited

def Mistake.message : Mistake → String
  | .unknown => "invalid syntax"
  | .indented => "unexpected indent"
  | .text fault => fault.message
  | .numeral fault =>
    fault.message ++
      " - Consider hexadecimal for huge integer literals to avoid decimal conversion limits."
  | .missingComma => "invalid syntax. Perhaps you forgot a comma?"
  | .missingElse => "expected 'else' after 'if' expression"
  | .command name =>
    "Missing parentheses in call to '" ++ name ++ "'. Did you mean " ++ name ++ "(...)?"
  | .badName title => "cannot use assignment expressions with " ++ title
  | .equalsSign => "invalid syntax. Maybe you meant '==' or ':=' instead of '='?"
  | .assigned title => "cannot assign to " ++ title
  | .assignedHere title =>
    "cannot assign to " ++ title ++ " here. Maybe you meant '==' instead of '='?"
  | .assignedArgument => "expression cannot contain assignment, perhaps you meant \"==\"?"
  | .starredSource => "iterable unpacking cannot be used in comprehension"
  | .unbracketedTarget => "did you forget parentheses around the comprehension target?"
  | .spreadSource => "dict unpacking cannot be used in dict comprehension"
  | .starred => "cannot use starred expression here"
  | .spread => "cannot use double starred expression here"
  | .starredEntry => "cannot use a starred expression in a dictionary value"
  | .missingValue => "expression expected after dictionary key and ':'"
  | .missingColon => "':' expected after dictionary key"
  | .starredAfterSpread => "iterable argument unpacking follows keyword argument unpacking"
  | .unbracketedGenerator => "Generator expression must be parenthesized"
  | .positionalAfterSpread => "positional argument follows keyword argument unpacking"
  | .positionalAfterNamed => "positional argument follows keyword argument"
  | .missingDefault => "expected default value expression"
  | .defaultFirst => "non-default argument follows default argument"
  | .bracketedParameters => "Lambda expression parameters cannot be parenthesized"
  | .slashFirst => "at least one argument must precede /"
  | .secondSlash => "/ may appear only once"
  | .slashAfterStar => "/ must be ahead of *"
  | .slashStar => "expected comma between / and *"
  | .bareStar => "named arguments must follow bare *"
  | .starDefault => "var-positional argument cannot have default value"
  | .secondStar => "* argument may appear only once"
  | .spreadDefault => "var-keyword argument cannot have default value"
  | .afterSpread => "arguments cannot follow var-keyword argument"

end Marshal.Argument
