/-!
# Switches

What stands on a command line: switches by their long names behind two dashes or their letters
behind one, their values attached or in the next argument, and operands. Two dashes alone end the
switches.
-/

namespace Marshal.Command
set_option autoImplicit false

inductive Arity where
  /-- Nothing. -/
  | alone
  | value
  /-- A value, or else the stated one if the end or another switch follows. -/
  | valueOr (fallback : String)
deriving DecidableEq, Repr, Inhabited

structure Switch where
  name : String
  letter : Option Char
  arity : Arity
deriving DecidableEq, Repr, Inhabited

/-- Why a command line cannot be followed. -/
inductive UsageError where
  | unknownSwitch (text : String)
  | missingValue (name : String)
  | surplusValue (name : String)
  | badChoice (name text : String) (choices : List String)
  | missingSwitch (name : String)
  | surplusOperand (text : String)
  | missingCommand
  | unknownCommand (text : String)
deriving DecidableEq, Repr, Inhabited

def UsageError.message : UsageError → String
  | .unknownSwitch t => "No such option: " ++ t
  | .missingValue n => "Option '--" ++ n ++ "' requires an argument."
  | .surplusValue n => "Option '--" ++ n ++ "' does not take a value."
  | .badChoice n t cs =>
    "Invalid value for '--" ++ n ++ "': '" ++ t ++ "' is not one of " ++
      ", ".intercalate (cs.map fun c => "'" ++ c ++ "'") ++ "."
  | .missingSwitch n => "Missing option '--" ++ n ++ "'."
  | .surplusOperand t => "Got unexpected extra argument (" ++ t ++ ")"
  | .missingCommand => "Missing command."
  | .unknownCommand t => "No such command '" ++ t ++ "'."

/-- The switches that were given, with their values, and the other arguments. -/
structure Reading where
  given : List (String × String)
  others : List String
deriving DecidableEq, Repr, Inhabited

namespace Reading

def has (r : Reading) (name : String) : Bool := r.given.any (·.1 == name)

/-- The last value that a switch was given. -/
def value? (r : Reading) (name : String) : Option String :=
  (r.given.reverse.find? (·.1 == name)).map (·.2)

/-- One of several values; the stated one if the switch was not given. -/
def choice {α : Type} (r : Reading) (name : String) (choices : List String)
    (ofWord? : String → Option α) (fallback : α) : Except UsageError α :=
  match r.value? name with
  | none => .ok fallback
  | some text =>
    match ofWord? text with
    | some a => .ok a
    | none => .error (.badChoice name text choices)

end Reading

abbrev Words := List (List Char)

/-- A measure that gets smaller as arguments are read. -/
def weight : Words → Nat
  | [] => 0
  | a :: args => a.length + 1 + weight args

@[simp] theorem weight_cons (a : List Char) (args : Words) :
    weight (a :: args) = a.length + 1 + weight args := rfl

/-- Whether an argument looks like a switch. -/
def isDashed : List Char → Bool
  | '-' :: _ :: _ => true
  | _ => false

/-- The text before the first equals sign, and the text after it if there is one. -/
def splitValue : List Char → List Char × Option (List Char)
  | [] => ([], none)
  | c :: cs =>
    if c = '=' then ([], some cs)
    else (c :: (splitValue cs).1, (splitValue cs).2)

/-- An attached value is shorter than what it is attached to. -/
theorem elim_splitValue (cs : List Char) :
    (splitValue cs).2.elim 0 (·.length + 1) ≤ cs.length := by
  induction cs with
  | nil => simp [splitValue]
  | cons c cs ih =>
    by_cases hc : c = '='
    · simp [splitValue, hc]
    · simp only [splitValue, hc, if_false, List.length_cons]
      omega

/-- Arguments that are left, no more than the given ones. -/
abbrev Left (limit : Nat) := { args : Words // weight args ≤ limit }

/-- The value of a switch from the arguments that follow it, the attached value first. -/
def takeValue (s : Switch) (args : Words) : Except UsageError (String × Left (weight args)) :=
  match args with
  | [] =>
    match s.arity with
    | .valueOr fallback => .ok (fallback, ⟨[], Nat.le_refl _⟩)
    | _ => .error (.missingValue s.name)
  | a :: rest =>
    match s.arity, isDashed a with
    | .valueOr fallback, true => .ok (fallback, ⟨a :: rest, Nat.le_refl _⟩)
    | _, _ => .ok (String.ofList a, ⟨rest, by simp⟩)

/-- Reads letters behind one dash; a letter that takes a value takes the letters after it. -/
def readLetters (switches : List Switch) :
    (letters : List Char) → (args : Words) →
      Except UsageError (List (String × String) × Left (letters.length + weight args))
  | [], args => .ok ([], ⟨args, by simp⟩)
  | c :: cs, args =>
    match switches.find? (·.letter == some c) with
    | none => .error (.unknownSwitch (String.ofList ['-', c]))
    | some s =>
      if s.arity = .alone then do
        let (more, left) ← readLetters switches cs args
        return ((s.name, "") :: more, ⟨left.1, by
          have := left.2
          simp only [List.length_cons]
          omega⟩)
      else if cs.isEmpty then do
        let (value, left) ← takeValue s args
        return ([(s.name, value)], ⟨left.1, by
          have := left.2
          omega⟩)
      else do
        let (value, left) ← takeValue s (cs :: args)
        return ([(s.name, value)], ⟨left.1, by
          have := left.2
          simp only [weight_cons] at this
          simp only [List.length_cons]
          omega⟩)

/-- Reads a switch that is written with its long name, with the value attached to it, if any. -/
def readNamed (s : Switch) (attached : Option (List Char)) (args : Words) :
    Except UsageError
      (List (String × String) × Left (attached.elim 0 (·.length + 1) + weight args)) :=
  match attached with
  | some value =>
    if s.arity = .alone then .error (.surplusValue s.name)
    else do
      let (text, left) ← takeValue s (value :: args)
      return ([(s.name, text)], ⟨left.1, by
        have := left.2
        simp only [weight_cons] at this
        simp only [Option.elim_some]
        omega⟩)
  | none =>
    if s.arity = .alone then .ok ([(s.name, "")], ⟨args, by simp⟩)
    else do
      let (text, left) ← takeValue s args
      return ([(s.name, text)], ⟨left.1, by
        have := left.2
        simp only [Option.elim_none]
        omega⟩)

/-- Reads an argument behind a dash. -/
def readSwitch (switches : List Switch) (body : List Char) (args : Words) :
    Except UsageError (List (String × String) × Left (body.length + weight args)) :=
  match switches.find? fun s => (splitValue body).1 == '-' :: s.name.toList with
  | some s => do
    let (entries, left) ← readNamed s (splitValue body).2 args
    return (entries, ⟨left.1, by
      have := left.2
      have := elim_splitValue body
      omega⟩)
  | none =>
    if body.head? = some '-' then
      .error (.unknownSwitch (String.ofList ('-' :: (splitValue body).1)))
    else readLetters switches body args

/-- Reads arguments. Unless `mixed` is true, the first argument that is no switch ends the
switches. -/
def readWords (switches : List Switch) (mixed : Bool) (args : Words) :
    Except UsageError Reading :=
  match args with
  | [] => .ok ⟨[], []⟩
  | ['-', '-'] :: rest => .ok ⟨[], rest.map String.ofList⟩
  | ('-' :: c :: body) :: rest => do
    let (entries, left) ← readSwitch switches (c :: body) rest
    let r ← readWords switches mixed left.1
    return ⟨entries ++ r.given, r.others⟩
  | a :: rest =>
    if mixed then do
      let r ← readWords switches mixed rest
      return ⟨r.given, String.ofList a :: r.others⟩
    else .ok ⟨[], (a :: rest).map String.ofList⟩
termination_by weight args
decreasing_by
  · have := left.2
    simp only [weight_cons, List.length_cons] at *
    omega
  · simp only [weight_cons]
    omega

def read (switches : List Switch) (mixed : Bool) (args : List String) :
    Except UsageError Reading :=
  readWords switches mixed (args.map String.toList)

end Marshal.Command
