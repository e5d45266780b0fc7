import Marshal.Text.Blank
import Marshal.Text.Cluster
import Marshal.Text.Style

/-!
# Marked texts

A text with spans, which are stretches that are set in a style or belong to an event. Where a text
is divided, its spans are divided with it, and of those nothing is left that is empty.
-/

namespace Marshal.Text
set_option autoImplicit false

inductive Mark where
  /-- A description of a style, which need not have a meaning. -/
  | style (description : String)
  | event (name : String)
deriving DecidableEq, Repr, Inhabited

/-- Fails if the numbers of a style cannot be read; a description without a meaning does not. -/
def Mark.check : Mark → Except NumeralFault Unit
  | .style description =>
    match Style.read description.toList with
    | .error (.numeral fault) => .error fault
    | _ => .ok ()
  | .event _ => .ok ()

/-- A marked stretch, from its first character to the one behind it. -/
structure Span where
  start : Nat
  stop : Nat
  mark : Mark
deriving DecidableEq, Repr, Inhabited

namespace Span

/-- The part of a span between two places, counted from the first. -/
def between? (first last : Nat) (s : Span) : Option Span :=
  let start := s.start - first
  let stop := min s.stop last - first
  if start < stop then some ⟨start, stop, s.mark⟩ else none

/-- A span of a text that now has fewer characters. -/
def within? (length : Nat) (s : Span) : Option Span :=
  if s.start < length then some { s with stop := min length s.stop } else none

/-- A span of a text that now stands behind as many characters. -/
def shift (n : Nat) (s : Span) : Span := ⟨s.start + n, s.stop + n, s.mark⟩

end Span

structure Marked where
  text : List Char
  spans : List Span
deriving DecidableEq, Repr, Inhabited

namespace Marked

def empty : Marked := ⟨[], []⟩

def append (a b : Marked) : Marked :=
  ⟨a.text ++ b.text, a.spans ++ b.spans.map (Span.shift a.text.length)⟩

def join (ms : List Marked) : Marked := ms.foldr append empty

/-- The characters between two places. -/
def slice (m : Marked) (first last : Nat) : Marked :=
  ⟨(m.text.drop first).take (last - first), m.spans.filterMap (Span.between? first last)⟩

/-- Pieces of the given lengths from a place on, with as many characters left out between them. -/
def slices (m : Marked) (gap place : Nat) : List Nat → List Marked
  | [] => []
  | n :: ns => m.slice place (place + n) :: slices m gap (place + n + gap) ns

/-- A text in pieces; one that is a single piece is not divided, and keeps its empty spans. -/
def divide (m : Marked) (gap : Nat) (lengths : List Nat) : List Marked :=
  match lengths with
  | [_] => [m]
  | _ => m.slices gap 0 lengths

def lines (m : Marked) : List Marked :=
  m.divide 1 ((between (· == '\n') m.text).map List.length)

/-- Other characters for a text; if there are fewer, the spans end with them. -/
def withText (m : Marked) (cs : List Char) : Marked :=
  if cs.length < m.text.length then ⟨cs, m.spans.filterMap (Span.within? cs.length)⟩
  else ⟨cs, m.spans⟩

/-- A text with blanks behind it, which are marked as its end is. -/
def pad (m : Marked) (n : Nat) : Marked :=
  ⟨m.text ++ blanks n,
    m.spans.map fun s => if m.text.length ≤ s.stop then { s with stop := s.stop + n } else s⟩

def cutAt (place : Nat) : List Nat → List Char → List (List Char)
  | [], cs => [cs]
  | p :: ps, cs => cs.take (p - place) :: cutAt p ps (cs.drop (p - place))

/-- The stretches in which no span begins or ends. -/
def runs (m : Marked) : List (List Char) :=
  cutAt 0 (m.spans.flatMap fun s => [s.start, s.stop]).mergeSort m.text

/-- Fails if a number in a style cannot be read. -/
def check (m : Marked) : Except NumeralFault Unit := m.spans.forM (·.mark.check)

end Marked

end Marshal.Text
