import Marshal.Argument.Datum
import Marshal.Text.Blank
import Marshal.Text.Literal

/-!
# Handlers of events

An event goes to a handler: a name, with dots in it or not, and its arguments between brackets. If
there is nothing behind the name there are no arguments, and if there is anything else there is no
name.
-/

namespace Marshal.Argument
set_option autoImplicit false

/-- Why no arguments can be made of what an event is given. -/
inductive HandlerFault where
  /-- The arguments are no expression. -/
  | unreadable (arguments given : List Char) (r : Refusal)
  /-- The expression has no value. -/
  | noValue (given : List Char) (f : DatumFault)
  /-- There is a null character in the arguments. -/
  | null (given : List Char)
deriving DecidableEq, Repr, Inhabited

def HandlerFault.message : HandlerFault → String
  | .unreadable arguments given r =>
    "error parsing " ++ Text.literal (String.ofList arguments) ++ " in " ++
      Text.literal (String.ofList given) ++ "; " ++ r.message
  | .noValue given f =>
    "error parsing " ++ Text.literal (String.ofList given) ++ "; " ++ f.message
  | .null given =>
    "error parsing " ++ Text.literal (String.ofList given) ++
      "; source code string cannot contain null bytes"

namespace Handler

/-- The arguments in what an event is given. They are in one line if there is a name. -/
def arguments (given : List Char) : List Char :=
  let cs := Text.trim given
  match cs.dropWhile fun c => Text.isWordChar c || c == '.' with
  | [] => ['(', ')']
  | rest =>
    if rest.head? == some '(' && rest.getLast? == some ')' && !rest.contains '\n' then rest else cs

/-- Fails if no arguments can be made of what an event is given. -/
def check (given : List Char) : Except HandlerFault Unit := do
  let cs := arguments given
  if cs.contains '\x00' then throw (.null given)
  let e ← (readExpression cs).mapError (.unreadable cs given)
  let _ ← e.datum.mapError (.noValue given)
  return ()

end Handler

end Marshal.Argument
