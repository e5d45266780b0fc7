import Marshal.Text.Marked

/-!
# Wrapped texts

A text in lines of at most a given width. Lines are broken in front of words; a word that is wider
than a line gets one of its own, which is cut short, or is itself spread over lines.
-/

namespace Marshal.Text
set_option autoImplicit false

/-- What becomes of a word that is wider than a line. -/
inductive Overflow where
  /-- It is spread over lines. -/
  | fold
  /-- Its end is left out, for which dots are shown. -/
  | ellipsis
deriving DecidableEq, Repr, Inhabited

/-- A text that fits into a width; of one that does not, the end is left out. -/
def Overflow.abridge (overflow : Overflow) (size : Nat) (cs : List Char) : List Char :=
  if width cs ≤ size then cs
  else
    match overflow with
    | .fold => resize size cs
    | .ellipsis => resize (size - 1) cs ++ ['…']

def tabDistance : Nat := 8

def tabLengths : List (List Char) → List Nat
  | [] => []
  | [last] => if last.isEmpty then [] else [last.length]
  | part :: rest => (part.length + 1) :: tabLengths rest

namespace Marked

/-- A stretch from a place on, with blanks up to the next tab stop if a tab ends it, and the place
that is reached. -/
def spread (place : Nat) (m : Marked) : Marked × Nat :=
  if m.text.getLast? = some '\t' then
    let m := { m with text := m.text.dropLast ++ [' '] }
    let reached := place + width m.text
    let missing := (tabDistance - reached % tabDistance) % tabDistance
    (m.pad missing, reached + missing)
  else (m, place + width m.text)

/-- Stretches from a place on, with blanks for their tabs. -/
def spreadAll (place : Nat) : List Marked → List Marked
  | [] => []
  | m :: ms =>
    let (m, place) := m.spread place
    m :: spreadAll place ms

def withoutTabs (m : Marked) : Marked :=
  if m.text.contains '\t' then
    join (spreadAll 0 (m.slices 0 0 (tabLengths (between (· == '\t') m.text))))
  else m

end Marked

/-- The words of a line with the blanks behind them, the first one also with those in front of it. A
line of blanks has none. -/
def spacedWords (line : List Char) : List (List Char) :=
  match line.splitBy fun a b => !isBlank a || isBlank b with
  | [] => []
  | first :: rest =>
    if first.all isBlank then
      match rest with
      | [] => []
      | second :: rest => (first ++ second) :: rest
    else first :: rest

structure Lines where
  /-- The lengths of the finished lines, the last one first. -/
  finished : List Nat
  /-- The length of the line under way. -/
  current : Nat
  /-- The width that the words of the line under way take. -/
  used : Nat
deriving DecidableEq, Repr, Inhabited

namespace Lines

/-- The lines with the next one begun; the first line cannot be empty. -/
def next (l : Lines) : Lines :=
  if l.finished.isEmpty ∧ l.current = 0 then l else ⟨l.current :: l.finished, 0, 0⟩

/-- The lines with a word put on the next line. -/
def begin (l : Lines) (word : List Char) : Lines :=
  { l.next with current := word.length, used := width word }

def add (overflow : Overflow) (size : Nat) (l : Lines) (word : List Char) : Lines :=
  let w := width (trimRight word)
  if l.used + w ≤ size then
    { l with current := l.current + word.length, used := l.used + width word }
  else if size < w ∧ overflow = .fold then (fold size word).foldl begin l
  else l.begin word

def toList (l : Lines) : List Nat := (l.current :: l.finished).reverse

end Lines

/-- The lengths of the lines into which a line is broken in front of words. -/
def lineLengths (overflow : Overflow) (size : Nat) (line : List Char) : List Nat :=
  match spacedWords line with
  | [] => [line.length]
  | ws => (ws.foldl (Lines.add overflow size) ⟨[], 0, 0⟩).toList

namespace Marked

/-- A line broken in front of words. -/
def broken (overflow : Overflow) (size : Nat) (m : Marked) : List Marked :=
  m.divide 0 (lineLengths overflow size m.text)

/-- A line without blanks at its end, as far as it has more characters than fit. -/
def withoutSurplus (size : Nat) (m : Marked) : Marked :=
  let blank := m.text.length - (trimRight m.text).length
  m.withText (m.text.take (m.text.length - min (m.text.length - size) blank))

/-- A line that fits into a width. -/
def abridged (overflow : Overflow) (size : Nat) (m : Marked) : Marked :=
  m.withText (overflow.abridge size m.text)

/-- A line that fits into a width, with blanks behind it, which are not marked. -/
def justified (overflow : Overflow) (size : Nat) (m : Marked) : Marked :=
  if width m.text < size then { m with text := resize size m.text } else m.abridged overflow size

/-- The lines of a text, which may still be too wide. -/
def wrap (overflow : Overflow) (size : Nat) (m : Marked) : List Marked :=
  m.lines.flatMap fun line =>
    (line.withoutTabs.broken overflow size).map (withoutSurplus size)

end Marked

end Marshal.Text
