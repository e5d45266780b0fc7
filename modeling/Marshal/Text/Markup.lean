import Marshal.Argument.Handler
import Marshal.Text.Marked
import Marshal.Text.Picture

/-!
# Marked-up texts

A tag between brackets begins a style, a tag with a slash ends the latest one of its name, or the
latest one of all. A tag behind a backslash is text, as are brackets around anything else. What is
left is the text without its tags, with pictures for their names and without control characters.
-/

namespace Marshal.Text
set_option autoImplicit false

/-- Why a marked-up text has no meaning. -/
inductive MarkupFault where
  /-- A tag ends a style that none has begun. -/
  | unmatched (tag : List Char) (place : Nat)
  /-- A tag ends a style where there is none. -/
  | nothingToClose (place : Nat)
  /-- A part of a colour is no number. -/
  | numeral (fault : NumeralFault)
  /-- An event cannot be handled. -/
  | handler (fault : Argument.HandlerFault)
deriving DecidableEq, Repr, Inhabited

def MarkupFault.message : MarkupFault → String
  | .unmatched tag place =>
    "closing tag '[" ++ String.ofList tag ++ "]' at position " ++ toString place ++
      " doesn't match any open tag"
  | .nothingToClose place =>
    "closing tag '[/]' at position " ++ toString place ++ " has nothing to close"
  | .numeral fault => fault.message
  | .handler fault => fault.message

namespace Markup

inductive Piece where
  | plain (text : List Char)
  /-- A tag, without its brackets, and the place of the first of them. -/
  | tag (text : List Char) (place : Nat)
deriving DecidableEq, Repr, Inhabited

/-- Whether a character can begin a tag. -/
def beginsTag (c : Char) : Bool := ('a' ≤ c && c ≤ 'z') || c == '#' || c == '/' || c == '@'

/-- The number of characters up to a closing bracket, if no opening one is in front of it. -/
def lengthToBracket? : List Char → Option Nat
  | [] => none
  | c :: cs =>
    if c = ']' then some 0
    else if c = '[' then none
    else (lengthToBracket? cs).map (· + 1)

/-- The length of the tag that begins a text behind an opening bracket. -/
def tagLength? : List Char → Option Nat
  | [] => none
  | c :: cs => if beginsTag c then (lengthToBracket? cs).map (· + 1) else none

/-- The pieces of a text from a place on, behind `seen`, the text since the last tag, and
backslashes, the last character first. Half of the backslashes in front of a tag are text; an odd
one makes a text of the tag. -/
def pieces (place : Nat) (seen : List Char) (slashes : Nat) : List Char → List Piece
  | [] => [.plain (List.replicate slashes '\\' ++ seen).reverse]
  | c :: cs =>
    if c = '\\' then pieces (place + 1) seen (slashes + 1) cs
    else
      match if c = '[' then tagLength? cs else none with
      | some n =>
        let tag := cs.take n
        [.plain seen.reverse, .plain (List.replicate (slashes / 2) '\\'),
          if slashes % 2 = 0 then .tag tag place else .plain ('[' :: (tag ++ [']']))] ++
          pieces (place + n + 2) [] 0 (cs.drop (n + 1))
      | none => pieces (place + 1) (c :: (List.replicate slashes '\\' ++ seen)) 0 cs
termination_by cs => cs.length
decreasing_by all_goals simp only [List.length_drop, List.length_cons]; omega

/-- A text without the backslashes in front of opening brackets. -/
def withoutEscapes : List Char → List Char
  | [] => []
  | '\\' :: '[' :: cs => '[' :: withoutEscapes cs
  | c :: cs => c :: withoutEscapes cs

/-- The control characters that no text keeps. -/
def dropped : List Char := ['\x07', '\x08', '\x0b', '\x0c', '\x0d']

def shown (text : List Char) : List Char :=
  (withPictures (withoutEscapes text)).filter fun c => !dropped.contains c

structure OpenTag where
  name : String
  /-- What stands behind an equals sign. -/
  parameters : Option String
  /-- The number of characters in front of it. -/
  start : Nat
deriving DecidableEq, Repr, Inhabited

namespace OpenTag

def split (tag : List Char) : List Char × Option (List Char) :=
  match tag.dropWhile (· != '=') with
  | [] => (tag, none)
  | _ :: parameters => (tag.takeWhile (· != '='), some parameters)

def isEvent (t : OpenTag) : Bool := t.name.startsWith "@"

def description (t : OpenTag) : String :=
  match t.parameters with
  | some p => t.name ++ " " ++ p
  | none => t.name

/-- Fails if a tag for an event is given what makes no arguments. -/
def check (t : OpenTag) : Except MarkupFault Unit :=
  match t.parameters with
  | some given =>
    if t.isEvent && !given.isEmpty then (Argument.Handler.check given.toList).mapError .handler
    else .ok ()
  | none => .ok ()

def span (t : OpenTag) (stop : Nat) : Span :=
  ⟨t.start, stop, if t.isEvent then .event t.name else .style t.description⟩

end OpenTag

/-- A text under way: its characters, the open tags and the spans of closed ones, the latest ones
first. -/
structure State where
  text : List Char
  opened : List OpenTag
  closed : List Span
deriving DecidableEq, Repr, Inhabited

/-- The state after a tag is closed. What an event is given is not looked at before. -/
def State.close (s : State) (t : OpenTag) : Except MarkupFault State := do
  t.check
  return { s with opened := s.opened.erase t, closed := t.span s.text.length :: s.closed }

def State.partner (s : State) (tag name : List Char) (place : Nat) :
    Except MarkupFault OpenTag := do
  if name.isEmpty then
    match s.opened.head? with
    | some t => return t
    | none => throw (.nothingToClose place)
  let wanted ← (Style.normalize name).mapError .numeral
  match s.opened.find? (·.name == wanted) with
  | some t => return t
  | none => throw (.unmatched tag place)

def State.step (s : State) : Piece → Except MarkupFault State
  | .plain text => .ok { s with text := s.text ++ shown text }
  | .tag tag place =>
    match OpenTag.split tag with
    | ('/' :: name, _) => do s.close (← s.partner tag (trim name) place)
    | (name, parameters) => do
      let name ← (Style.normalize name).mapError .numeral
      let t := ⟨name, parameters.map String.ofList, s.text.length⟩
      return { s with opened := t :: s.opened }

/-- The text with its spans in the order of their beginnings; of spans with one beginning the one
that was closed last comes first. Tags that are still open are closed at the end. -/
def State.toMarked (s : State) : Marked :=
  let closed := s.opened.foldl (fun spans t => t.span s.text.length :: spans) s.closed
  ⟨s.text, closed.mergeSort fun a b => a.start ≤ b.start⟩

def read (cs : List Char) : Except MarkupFault Marked := do
  return ((← (pieces 0 [] 0 cs).foldlM State.step ⟨[], [], []⟩)).toMarked

end Markup

end Marshal.Text
