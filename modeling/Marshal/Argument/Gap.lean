import Marshal.Argument.Quote

/-!
# Texts with gaps

In a text with gaps an expression between braces stands for its value. A conversion may follow it
behind an exclamation mark, and behind a colon a format, which is a text with gaps itself. Braces
that make no gap are doubled, except in formats.
-/

namespace Marshal.Argument
set_option autoImplicit false

/-- Why a text with gaps stands for no value. -/
inductive GapFault where
  | quote (fault : QuoteFault)
  /-- A brace closes no gap. -/
  | strayBrace
  /-- A gap in the format of a gap in a format. -/
  | tooDeep
  | backslash
  | comment
  | tooManyBrackets
  | unmatched (bracket : Char)
  | mismatched (bracket opened : Char)
  /-- A quoted text within a gap has no end. -/
  | openText
  /-- A gap has no end. -/
  | openGap
  | emptyGap
  /-- There is no expression in front of what goes with one. -/
  | missingExpression (mark : Char)
  | conversion
  /-- The expression of a gap is none; the words for that are given. -/
  | expression (message : String)
deriving DecidableEq, Repr, Inhabited

def GapFault.message : GapFault → String
  | .quote fault => fault.message
  | .strayBrace => "f-string: single '\x7d' is not allowed"
  | .tooDeep => "f-string: expressions nested too deeply"
  | .backslash => "f-string expression part cannot include a backslash"
  | .comment => "f-string expression part cannot include '#'"
  | .tooManyBrackets => "f-string: too many nested parenthesis"
  | .unmatched c => "f-string: unmatched '" ++ c.toString ++ "'"
  | .mismatched c opened =>
    "f-string: closing parenthesis '" ++ c.toString ++
      "' does not match opening parenthesis '" ++ opened.toString ++ "'"
  | .openText => "f-string: unterminated string"
  | .openGap => "f-string: expecting '\x7d'"
  | .emptyGap => "f-string: empty expression not allowed"
  | .missingExpression c => "f-string: expression required before '" ++ c.toString ++ "'"
  | .conversion => "f-string: invalid conversion character: expected 's', 'r', or 'a'"
  | .expression message => message

namespace Gap

/-- What ends a part of a text that is outside of gaps. -/
inductive End where
  /-- A gap, the end of the format, or that of the text. -/
  | plain
  /-- A doubled brace, which stands for one. -/
  | doubled
  | stray
deriving DecidableEq, Repr, Inhabited

def withFront (front : List Char) (part : List Char × End × List Char) :
    List Char × End × List Char :=
  (front ++ part.1, part.2)

/-- Cuts a text in front of its first gap: the part in front, what ends it, and what is behind. -/
def cut (raw inFormat : Bool) : List Char → List Char × End × List Char
  | [] => ([], .plain, [])
  | c :: cs =>
    if c = '{' || c = '}' then brace c cs
    else if raw || c != '\\' then withFront [c] (cut raw inFormat cs)
    else
      match cs with
      | 'N' :: '{' :: cs =>
        let n := (cs.takeWhile (· != '}')).length + 1
        withFront ('\\' :: 'N' :: '{' :: cs.take n) (cut raw inFormat (cs.drop n))
      | 'N' :: c :: cs => withFront ['\\', 'N', c] (cut raw inFormat cs)
      | c :: cs =>
        if c = '{' || c = '}' then withFront ['\\'] (brace c cs)
        else withFront ['\\', c] (cut raw inFormat cs)
      | [] => (['\\'], .plain, [])
termination_by cs => cs.length
decreasing_by all_goals simp only [List.length_drop, List.length_cons]; omega
where
  /-- The cut in front of a text that begins with a brace. -/
  brace (c : Char) (cs : List Char) : List Char × End × List Char :=
    if inFormat then ([], .plain, c :: cs)
    else if cs.head? == some c then ([c], .doubled, cs.drop 1)
    else if c = '}' then ([], .stray, c :: cs)
    else ([], .plain, c :: cs)

structure Scan where
  /-- The open brackets, the innermost one first. -/
  opened : List Char
  /-- The quote of the text that is being read, and whether it is threefold. -/
  quote? : Option (Char × Bool)
deriving DecidableEq, Repr, Inhabited

def withExpression (front : List Char) (e : List Char × List Char) : List Char × List Char :=
  (front ++ e.1, e.2)

def opening (c : Char) : Char := if c = ')' then '(' else if c = ']' then '[' else '{'

/-- The number of brackets that may be open at once. -/
def bracketLimit : Nat := 200

def expression : Nat → Scan → List Char → Except GapFault (List Char × List Char)
  | 0, _, _ => .error .openGap
  | _, s, [] =>
    if s.quote?.isSome then .error .openText
    else
      match s.opened with
      | c :: _ => .error (.unmatched c)
      | [] => .error .openGap
  | fuel + 1, s, c :: cs =>
    if c = '\\' then .error .backslash
    else
      match s.quote? with
      | some (q, isLong) =>
        if c != q then (expression fuel s cs).map (withExpression [c])
        else if !isLong then
          (expression fuel { s with quote? := none } cs).map (withExpression [c])
        else if cs.take 2 == [q, q] then
          (expression fuel { s with quote? := none } (cs.drop 2)).map (withExpression [q, q, q])
        else (expression fuel s cs).map (withExpression [c])
      | none =>
        if c = '\'' || c = '"' then
          if cs.take 2 == [c, c] then
            (expression fuel { s with quote? := some (c, true) } (cs.drop 2)).map
              (withExpression [c, c, c])
          else
            (expression fuel { s with quote? := some (c, false) } cs).map (withExpression [c])
        else if c = '(' || c = '[' || c = '{' then
          if bracketLimit ≤ s.opened.length then .error .tooManyBrackets
          else
            (expression fuel { s with opened := c :: s.opened } cs).map (withExpression [c])
        else if c = '#' then .error .comment
        else if s.opened.isEmpty && "!:\x7d=<>".contains c then
          if "!=<>".contains c && cs.head? == some '=' then
            (expression fuel s (cs.drop 1)).map (withExpression [c, '='])
          else if c = '<' || c = '>' then
            (expression fuel s cs).map (withExpression [c])
          else .ok ([], c :: cs)
        else if c = ')' || c = ']' || c = '}' then
          match s.opened with
          | [] => .error (.unmatched c)
          | o :: opened =>
            if o = opening c then
              (expression fuel { s with opened := opened } cs).map (withExpression [c])
            else .error (.mismatched c o)
        else (expression fuel s cs).map (withExpression [c])

/-- Whether a character is a blank between tokens. -/
def isBlank (c : Char) : Bool := c == ' ' || c == '\t' || c == '\n' || c == '\x0c'

/-- Whether a character may stand between an equals sign and the end of a gap. -/
def isSpace (c : Char) : Bool := isBlank c || c == '\x0b' || c == '\r'

def afterConversion : List Char → Except GapFault (List Char)
  | ['!'] => .error .openGap
  | '!' :: c :: cs =>
    if c = 's' || c = 'r' || c = 'a' then .ok cs else .error .conversion
  | cs => .ok cs

/-- What is behind the equals sign of a gap, if it has one. -/
def afterEquals : List Char → Except GapFault (List Char)
  | '=' :: cs =>
    match cs.dropWhile isSpace with
    | [] => .error .openGap
    | cs => .ok cs
  | cs => .ok cs

def depthLimit : Nat := 2

/-- Fails if a part of a text, in which escapes may stand, has one that is none. -/
def checkPart (raw : Bool) (part : List Char) : Except GapFault Unit :=
  if raw then .ok () else (Quote.checkEscapes 0 part).mapError .quote

/-- Fails if there is no expression in front of what ends it. -/
def checkPresent (e rest : List Char) : Except GapFault Unit :=
  if e.all isBlank then
    match rest.head? with
    | some c => .error (if c = '}' then .emptyGap else .missingExpression c)
    | none => .error .emptyGap
  else .ok ()

/-- Fails if a text with gaps, or the format of a gap at a depth, stands for nothing; otherwise what
is behind it. An expression is tested in front of the text from its gap on. -/
def check (test : List Char → List Char → Except String Unit) (raw : Bool) :
    Nat → Nat → List Char → Except GapFault (List Char)
  | 0, _, _ => .error .openGap
  | fuel + 1, depth, cs => do
    let (part, ending, rest) := cut raw (depth != 0) cs
    if ending = .stray then throw .strayBrace
    checkPart raw part
    if ending = .doubled then return ← check test raw fuel depth rest
    match rest with
    | [] => if depth = 0 then return [] else throw .openGap
    | '}' :: _ => return rest
    | c :: gap =>
      if depthLimit ≤ depth then throw .tooDeep
      let (e, behind) ← expression (gap.length + 1) ⟨[], none⟩ gap
      checkPresent e behind
      (test e (c :: gap)).mapError .expression
      let behind ← afterConversion (← afterEquals behind)
      let behind ←
        match behind with
        | [':'] => throw .openGap
        | ':' :: format => check test raw fuel (depth + 1) format
        | behind => pure behind
      match behind with
      | '}' :: rest => check test raw fuel depth rest
      | _ => throw .openGap

/-- Fails if texts that stand side by side make no value. An expression is tested in the line where
its gap begins. -/
def checkAll (test : Nat → List Char → Except String Unit) (ts : List Token) :
    Except GapFault Unit := do
  for t in ts do
    let q := Quote.ofToken t
    q.check.mapError .quote
    if ts.head?.any fun first => (Quote.ofToken first).isBytes != q.isBytes then
      throw (.quote .mixed)
    if q.hasGaps then
      let last := t.line + q.body.count '\n'
      let test (e rest : List Char) := test (last - rest.count '\n') e
      let _ ← check test (q.marks.contains 'r') (q.body.length + 1) 0 q.body

end Gap

end Marshal.Argument
