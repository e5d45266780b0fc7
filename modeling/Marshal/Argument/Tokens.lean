import Marshal.Argument.Number
import Marshal.Naming.Identifier
import Marshal.Text.Letter

/-!
# From texts to tokens

A text is cut into tokens from its front on, each as long as possible, up to its end or the first
place where no token can be read. Blanks and comments separate tokens. A line end is a token outside
of brackets unless its line is blank, and so is a greater indentation than that of the line before.
-/

namespace Marshal.Argument
set_option autoImplicit false

structure Tokens where
  tokens : List Token
  /-- Why there are no more of them, unless the text is at its end. -/
  fault? : Option TokenFault
  /-- The innermost bracket that is open behind them, and the line of it. -/
  open? : Option (Char × Nat)
deriving DecidableEq, Repr, Inhabited

structure Place where
  line : Nat
  /-- The open brackets and their lines, the innermost one first. -/
  opened : List (Char × Nat)
  /-- The indentations that lines may go back to, the greatest one first. -/
  indents : List Nat
  /-- Whether nothing but blanks has been read of the line. -/
  atStart : Bool
deriving DecidableEq, Repr, Inhabited

namespace Tokens

/-- The number of brackets that may be open at once. -/
def bracketLimit : Nat := 200

/-- Whether a character is a blank within a line. -/
def isBlank (c : Char) : Bool := c == ' ' || c == '\t' || c == '\x0c'

/-- The column of what a line begins with, the number of line ends in front of it and the text from
there on. A tabulator leads to the next multiple of eight, a form feed back to the beginning. Behind
a backslash the line goes on in the next one, where only the first blanks of all count. -/
def margin (n lines : Nat) : List Char → Nat × Nat × List Char
  | ' ' :: cs => margin (n + 1) lines cs
  | '\t' :: cs => margin ((n / 8 + 1) * 8) lines cs
  | '\x0c' :: cs => margin 0 lines cs
  | '\\' :: '\n' :: cs =>
    let (m, lines, rest) := margin n (lines + 1) cs
    (if n = 0 then m else n, lines, rest)
  | cs => (n, lines, cs)

/-- What is behind a text between single quotes; if it has no end, the number of line ends in it. -/
def afterText (quote : Char) (lines : Nat) : List Char → Except Nat (List Char)
  | [] | '\n' :: _ | ['\\'] => .error lines
  | '\\' :: c :: cs => afterText quote (if c = '\n' then lines + 1 else lines) cs
  | c :: cs => if c = quote then .ok cs else afterText quote lines cs

/-- What is behind a text between threefold quotes; if it has no end, the number of line ends. -/
def afterLongText (quote : Char) (lines : Nat) : List Char → Except Nat (List Char)
  | [] | ['\\'] => .error lines
  | '\\' :: c :: cs => afterLongText quote (if c = '\n' then lines + 1 else lines) cs
  | c :: cs =>
    if c = quote && cs.take 2 == [quote, quote] then .ok (cs.drop 2)
    else afterLongText quote (if c = '\n' then lines + 1 else lines) cs

/-- What is behind a quoted text that begins with the given quote in a line. -/
def afterQuote (line : Nat) (quote : Char) (cs : List Char) : Except TokenFault (List Char) :=
  if cs.take 2 == [quote, quote] then
    (afterLongText quote 0 (cs.drop 2)).mapError fun n => .openLongText (line + n)
  else (afterText quote 0 cs).mapError fun n => .openText (line + n)

/-- What may stand in front of the quote of a text, in lower case. -/
def textMarks : List String := ["b", "br", "f", "fr", "r", "rb", "rf", "u"]

/-- The marks of more than one character, the longer ones first. -/
def longMarks : List String :=
  ["...", "**=", "//=", ">>=", "<<=", "!=", "%=", "&=", "**", "*=", "+=", "-=", "->", "//", "/=",
    ":=", "<<", "<=", "<>", "==", ">=", ">>", "@=", "^=", "|="]

def markOf (c : Char) (cs : List Char) : String :=
  (longMarks.find? fun m => m.toList.isPrefixOf (c :: cs)).getD c.toString

def opening? : Char → Option Char
  | ')' => some '('
  | ']' => some '['
  | '}' => some '{'
  | _ => none

/-- The open brackets behind a character. -/
def brackets (p : Place) (c : Char) : Except TokenFault (List (Char × Nat)) :=
  if c = '(' || c = '[' || c = '{' then
    if bracketLimit ≤ p.opened.length then .error .tooManyBrackets
    else .ok ((c, p.line) :: p.opened)
  else
    match opening? c, p.opened with
    | none, _ => .ok p.opened
    | some _, [] => .error (.unmatched c)
    | some o, (b, line) :: opened =>
      if b = o then .ok opened
      else .error (.mismatched c b (if line = p.line then none else some line))

/-- The first character that cannot stand in a name where it stands. -/
def misplaced? : List Char → Option Char
  | [] => none
  | c :: cs => if Text.beginsName c then cs.find? (!Text.continuesName ·) else some c

/-- The tokens from a place on, where a text begins with no blank and no line end: the kind of the
first one, what is behind it, and the brackets that are open there. -/
def first (p : Place) (c : Char) (cs : List Char) :
    Except TokenFault (Kind × List Char × List (Char × Nat)) := do
  if c.isDigit then return (.number, ← Number.rest (c :: cs), p.opened)
  if c = '.' && cs.head?.any Char.isDigit then
    return (.number, ← Number.afterFraction cs, p.opened)
  if c = '\'' || c = '"' then return (.text, ← afterQuote p.line c cs, p.opened)
  if isWordChar c then
    let word := (c :: cs).takeWhile isWordChar
    let rest := (c :: cs).dropWhile isWordChar
    if textMarks.contains (String.ofList (word.map Char.toLower)) then
      if let some quote := rest.head? then
        if quote = '\'' || quote = '"' then
          return (.text, ← afterQuote p.line quote (rest.drop 1), p.opened)
    if let some c := misplaced? word then throw (.character c)
    let kind := if Naming.reservedWords.contains (String.ofList word) then .mark else .name
    return (kind, rest, p.opened)
  let opened ← brackets p c
  if !Text.isPrintable c then throw (.character c)
  return (.mark, cs.drop ((markOf c cs).length - 1), opened)

def innermost? (p : Place) : Option (Char × Nat) := p.opened.head?

def finish (p : Place) : Tokens :=
  match innermost? p with
  | some b => ⟨[], some (.neverClosed b.1), some b⟩
  | none => ⟨[⟨.finish, "", p.line, 0, true⟩], none, none⟩

/-- The tokens from a place on, where none can be read. -/
def stop (p : Place) (f : TokenFault) : Tokens := ⟨[], some f, innermost? p⟩

def withFirst (t : Token) (ts : Tokens) : Tokens := { ts with tokens := t :: ts.tokens }

/-- The tokens at the beginning of a line, where the text goes on in a column, and the indentations
that lines may go back to. -/
def indentation (p : Place) (n : Nat) : Except TokenFault (List Token × List Nat) :=
  if p.indents.head?.any (· < n) then
    .ok ([⟨.indent, "", p.line, 0, false⟩], n :: p.indents)
  else
    let indents := p.indents.dropWhile (n < ·)
    if indents.head? == some n then .ok ([], indents) else .error .dedent

/-- The tokens from a place on. Every step reads a character, so that fuel for as many steps as the
text has characters, and one more, is enough. -/
def read : Nat → Place → List Char → Tokens
  | 0, p, _ => finish p
  | fuel + 1, p, cs =>
    let (column, lines, text) := if p.atStart then margin 0 0 cs else (0, 0, cs.dropWhile isBlank)
    let p := { p with line := p.line + lines }
    match text with
    | [] => finish p
    | '#' :: rest => read fuel p (rest.dropWhile (· != '\n'))
    | '\n' :: rest =>
      let next := read fuel { p with line := p.line + 1, atStart := true } rest
      if p.atStart || !p.opened.isEmpty then next
      else withFirst ⟨.lineEnd, "", p.line, 0, false⟩ next
    | '\\' :: '\n' :: rest => read fuel { p with line := p.line + 1 } rest
    | '\\' :: _ => stop p .continuation
    | c :: rest =>
      match if p.atStart && p.opened.isEmpty then indentation p column else .ok ([], p.indents) with
      | .error f => stop p f
      | .ok (front, indents) =>
        let p := { p with indents := indents, atStart := false }
        let behind :=
          match first p c rest with
          | .error f => stop p f
          | .ok (kind, behind, opened) =>
            let token := text.take (text.length - behind.length)
            withFirst
              ⟨kind, String.ofList token, p.line, opened.length, kind != .text && behind.isEmpty⟩
              (read fuel { p with line := p.line + token.count '\n', opened := opened } behind)
        front.foldr withFirst behind

end Tokens

def Tokens.ofLine (line : Nat) (cs : List Char) : Tokens :=
  Tokens.read (cs.length + 1) ⟨line, [], [0], true⟩ cs

end Marshal.Argument
