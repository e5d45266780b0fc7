import Marshal.Declaration.Reading

/-!
# Reading a text of declarations

The text is read from left to right: text that is skipped leaves the reading as it is, a lexeme
that is expected takes it one step on. Reading stops at the first place where neither is found.

Stretches to skip are looked for at every character, also inside of other stretches, and a text is
refused only where none of them is open any more. That is where reading stopped, unless something
like a comment begins inside of a comment and ends behind it; at a later place nothing is expected.
-/

namespace Marshal.Declaration
set_option autoImplicit false

/-- Why a text is not a list of declarations. -/
inductive SyntaxError where
  /-- At a line and column, both counted from one, a character is not expected. -/
  | unexpected (line column : Nat) (char : Char) (expected : List Terminal)
  /-- The text ends too early. -/
  | ended (expected : List Terminal)
deriving DecidableEq, Repr, Inhabited

/-- The terminals that could have been read instead. -/
def SyntaxError.expected : SyntaxError → List Terminal
  | .unexpected _ _ _ ts => ts
  | .ended ts => ts

def SyntaxError.title : SyntaxError → String
  | .unexpected .. => "UnexpectedCharacters"
  | .ended _ => "UnexpectedEOF"

/-- Where reading stopped: the text that is left, and the reading that had no use for it. -/
structure Stop where
  left : List Char
  reading : Reading

/-- The reading after the lexeme at the front of a text, and the rest of the text. -/
def Reading.advance? (r : Reading) (cs : List Char) : Option (Reading × List Char) :=
  match nextLexeme? r.expected cs with
  | none => none
  | some (l, rest) => (r.step l).map fun r' => (r', rest)

theorem Reading.advance?_length {r r' : Reading} {cs rest : List Char}
    (h : r.advance? cs = some (r', rest)) : rest.length < cs.length := by
  unfold Reading.advance? at h
  split at h
  · contradiction
  · rename_i hn
    obtain ⟨_, _, he⟩ := Option.map_eq_some_iff.1 h
    cases he
    exact nextLexeme?_length hn

def Reading.run (r : Reading) (cs : List Char) : Stop :=
  match _hs : afterSkipped? cs with
  | some rest => r.run rest
  | none =>
    match _ha : r.advance? cs with
    | some (r', rest) => r'.run rest
    | none => ⟨cs, r⟩
termination_by cs.length
decreasing_by
  · exact afterSkipped?_length _hs
  · exact Reading.advance?_length _ha

/-- Where a text is refused of which `left` characters were left when reading stopped: the rest of
the text from there on. The text has `size` characters, and a stretch to skip was open until
`openTo` characters were left. -/
def refusal (left openTo size : Nat) : List Char → List Char
  | [] => []
  | c :: cs =>
    let openTo := match afterSkipped? (c :: cs) with
      | some rest => min openTo rest.length
      | none => openTo
    if size ≤ left && size ≤ openTo + 1 then c :: cs else refusal left openTo (size - 1) cs

/-- The line and the column at the end of a text, both counted from one. -/
def lineColumn (before : List Char) : Nat × Nat :=
  (before.count '\n' + 1, (before.reverse.takeWhile (· != '\n')).length + 1)

/-- The error of a text that was refused where `rest` is left of it. -/
def refused (text rest : List Char) (expected : List Terminal) : SyntaxError :=
  let (line, column) := lineColumn (text.take (text.length - rest.length))
  .unexpected line column (rest.headD ' ') (Terminal.sorted expected)

def read (text : List Char) : Except SyntaxError (List ModuleDecl) :=
  let stop := (Reading.top []).run text
  let expected := stop.reading.expected
  match stop.left, stop.reading.complete? with
  | [], some ms => .ok ms
  | [], none => .error (.ended (Terminal.sorted expected))
  | left, _ =>
    let rest := refusal left.length text.length text.length text
    .error (refused text rest (if rest.length < left.length then [] else expected))

end Marshal.Declaration
