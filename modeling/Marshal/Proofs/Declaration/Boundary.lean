import Marshal.Declaration.Reader
import Marshal.Proofs.Declaration.Lexing
import Mathlib.Order.Bounds.Defs

/-!
# Where a text stops being one of declarations

A text is cut into lexemes and ignored stretches, each of them what is found at its place in the
whole text. A place is a boundary if some cut of the text in front of it can be completed: put in
place of the rest, some other text makes it a text of declarations. Nothing here mentions reading.

The greatest boundary is where a text goes wrong. A text is not always refused just there: ignored
stretches are looked for at every character, inside of other stretches too, and while one of them is
open the text is read on.
-/

namespace Marshal.Declaration
set_option autoImplicit false

/-- A field as the grammar has it; its name may hide the word for ghosts. -/
def FieldDecl.Written (f : FieldDecl) : Prop := IsName f.name ∧ f.type.Formed

def VariantDecl.Written (v : VariantDecl) : Prop := IsName v.name ∧ ∀ f ∈ v.fieldList, f.Written

def DatatypeDecl.Written (d : DatatypeDecl) : Prop :=
  IsName d.name ∧ (∀ p ∈ d.typeParams, IsName p) ∧ d.variants ≠ [] ∧ ∀ v ∈ d.variants, v.Written

def FunctionDecl.Written (f : FunctionDecl) : Prop :=
  IsName f.name ∧ (∀ p ∈ f.typeParams, IsName p) ∧ (∀ p ∈ f.params, p.Written) ∧
    ∀ t ∈ f.result, t.Formed

def Member.Written : Member → Prop
  | .datatype d => d.Written
  | .function f => f.Written

def ModuleDecl.Written (m : ModuleDecl) : Prop := m.name.Formed ∧ ∀ x ∈ m.members, x.Written

def IsSentence (ls : List Lexeme) : Prop :=
  ∃ ms : List ModuleDecl, (∀ m ∈ ms, m.Written) ∧ ls = ms.flatMap (·.lexemes)

/-- White space or a comment, as long as it can be in front of what follows. -/
inductive Ignored : List Char → List Char → Prop where
  | blanks {c : Char} {body rest : List Char} :
      (∀ d ∈ c :: body, isBlank d) → (∀ d ∈ rest.head?, isBlank d = false) →
        Ignored (c :: body) rest
  | line {body rest : List Char} :
      '\n' ∉ body → (∀ d ∈ rest.head?, d = '\n') → Ignored ('/' :: '/' :: body) rest
  | block {body rest : List Char} :
      ¬ ['*', '/'] <:+: body → Ignored ('/' :: '*' :: (body ++ ['*', '/'])) rest

theorem Ignored.chars_cons {cs rest : List Char} (h : Ignored cs rest) :
    ∃ c tail, cs = c :: tail ∧ isNameChar c = false := by
  cases h with
  | blanks hb _ => exact ⟨_, _, rfl, isNameChar_of_isBlank (hb _ List.mem_cons_self)⟩
  | line _ _ => exact ⟨_, _, rfl, by decide⟩
  | block _ => exact ⟨_, _, rfl, by decide⟩

inductive Piece where
  | lexeme (l : Lexeme)
  | ignored (cs : List Char)

namespace Piece

def chars : Piece → List Char
  | .lexeme l => l.chars
  | .ignored cs => cs

def lexeme? : Piece → Option Lexeme
  | .lexeme l => some l
  | .ignored _ => none

/-- The piece is found in front of what follows: a name or an ignored stretch is no longer. -/
def Fits : Piece → List Char → Prop
  | .lexeme l, rest => l.Fits rest
  | .ignored cs, rest => Ignored cs rest

end Piece

def textOf (ps : List Piece) : List Char := ps.flatMap (·.chars)

def lexemesOf (ps : List Piece) : List Lexeme := ps.filterMap (·.lexeme?)

@[simp] theorem textOf_cons (p : Piece) (ps : List Piece) :
    textOf (p :: ps) = p.chars ++ textOf ps := rfl

@[simp] theorem lexemesOf_lexeme (l : Lexeme) (ps : List Piece) :
    lexemesOf (.lexeme l :: ps) = l :: lexemesOf ps := rfl

@[simp] theorem lexemesOf_ignored (cs : List Char) (ps : List Piece) :
    lexemesOf (.ignored cs :: ps) = lexemesOf ps := rfl

/-- Some pieces are found one after the other, in front of the rest of a text. -/
def Fit : List Piece → List Char → Prop
  | [], _ => True
  | p :: ps, rest => p.Fits (textOf ps ++ rest) ∧ Fit ps rest

/-- The pieces are a cut of the text in front of a place. -/
structure IsCut (text : List Char) (p : Nat) (ps : List Piece) : Prop where
  le : p ≤ text.length
  take : text.take p = textOf ps
  fit : Fit ps (text.drop p)

/-- A text completes a cut: behind the same pieces it brings the given lexemes, and the whole is a
text of declarations. -/
structure Completes (ps : List Piece) (ls : List Lexeme) (k : List Char) : Prop where
  fit : Fit ps k
  laid : Laid ls k
  sentence : IsSentence (lexemesOf ps ++ ls)
  accepted : ∃ ms, Renders ms (textOf ps ++ k)

/-- Some cut of the text in front of a place can be completed. -/
def IsBoundary (text : List Char) (p : Nat) : Prop :=
  ∃ ps ls k, IsCut text p ps ∧ Completes ps ls k

/-- A terminal can come next at a place: some cut up to there can be completed by it. -/
def CanFollow (text : List Char) (p : Nat) (t : Terminal) : Prop :=
  ∃ ps l ls k, IsCut text p ps ∧ l.terminal = t ∧ Completes ps (l :: ls) k

/-- Terminals in the order of their titles, without repetitions. -/
def Ascending (ts : List Terminal) : Prop := ts.Pairwise (·.title < ·.title)

/-- The terminals that can come next at a place, in order. -/
def Lists (text : List Char) (p : Nat) (ts : List Terminal) : Prop :=
  Ascending ts ∧ ∀ t, t ∈ ts ↔ CanFollow text p t

/-- At a place a text has neither a lexeme that could come next nor an ignored stretch. -/
def Stuck (text : List Char) (p : Nat) : Prop :=
  (∀ (l : Lexeme) (rest : List Char), CanFollow text p l.terminal → l.Fits rest →
      text.drop p ≠ l.chars ++ rest) ∧
    ∀ cs rest : List Char, Ignored cs rest → text.drop p ≠ cs ++ rest

/-- An ignored stretch that begins at a place or before it, whatever it is inside of, goes on behind
the character at the place. -/
def IsOpen (text : List Char) (q : Nat) : Prop :=
  ∃ before cs rest, text = before ++ cs ++ rest ∧ Ignored cs rest ∧ before.length ≤ q ∧
    q + 1 < (before ++ cs).length

/-- What an error says about a text that goes wrong at `p` and is refused at `q`. -/
def SyntaxError.Describes (text : List Char) (p q : Nat) : SyntaxError → Prop
  | .ended ts => p = text.length ∧ Lists text p ts
  | .unexpected line column char ts =>
    p < text.length ∧ text[q]? = some char ∧ line = 1 + (text.take q).count '\n' ∧
      column = 1 + ((text.take q).reverse.takeWhile (· != '\n')).length ∧
      if q = p then Lists text p ts else ts = []

def ReportsBoundary (text : List Char) (e : SyntaxError) : Prop :=
  ∃ p, IsGreatest {p | IsBoundary text p} p ∧ Stuck text p ∧ e.Describes text p p

/-- The error is reported at the first place from the greatest boundary on where no ignored stretch
is open. -/
def Refuses (text : List Char) (e : SyntaxError) : Prop :=
  ∃ p q, IsGreatest {p | IsBoundary text p} p ∧ Stuck text p ∧
    IsLeast {q | p ≤ q ∧ ¬ IsOpen text q} q ∧ e.Describes text p q

end Marshal.Declaration
