import Marshal.Generated.Module
import Mathlib.Data.List.Basic
import Mathlib.Data.List.Induction

/-!
# Documents

A generated text by its pieces: headers of functions with their annotations, what only typed code
needs, and lines that are what they are. Deleting the types from a document leaves the other pieces
where they stand.
-/

namespace Marshal.Generated
set_option autoImplicit false

open Code (Function Param TypeHint)
open Naming (Mangling)

structure Header where
  margin : String
  name : String
  params : List (String × Option String)
  result : Option String
  /-- Whether there is one parameter a line. -/
  isSpread : Bool

namespace Header

/-- An annotation, if there is one, behind what sets it off. -/
def annotation (mark : String) : Option String → String
  | some a => mark ++ a
  | none => ""

def paramTexts (h : Header) : List String := h.params.map fun p => p.1 ++ annotation ": " p.2

def lines (h : Header) : List String :=
  let result := annotation " -> " h.result ++ ":"
  if h.isSpread then
    (h.margin ++ "def " ++ h.name ++ "(") ::
      (h.paramTexts.map (h.margin ++ Code.indent ++ · ++ ",") ++ [h.margin ++ ")" ++ result])
  else [h.margin ++ "def " ++ h.name ++ "(" ++ ", ".intercalate h.paramTexts ++ ")" ++ result]

def bare (h : Header) : Header :=
  { h with params := h.params.map fun p => (p.1, none), result := none }

end Header

inductive Piece where
  | line (text : String)
  | header (h : Header)
  /-- The import of the names that annotations need. -/
  | typing (names : List String)
  /-- The section of type declarations. -/
  | declarations (lines : List String)

namespace Piece

def lines : Piece → List String
  | .line s => [s]
  | .header h => h.lines
  | .typing names => ["from typing import " ++ ", ".intercalate names]
  | .declarations ls => Module.sectionLines "Type Declarations" ls

/-- What is left of a piece when the types are deleted. -/
def bare? : Piece → Option Piece
  | .line s => some (.line s)
  | .header h => some (.header h.bare)
  | .typing _ | .declarations _ => none

def shown (typed : Bool) (p : Piece) : List String :=
  if typed then p.lines else p.bare?.toList.flatMap lines

end Piece

def linesOf (ps : List Piece) : List String := ps.flatMap Piece.lines

/-- The pieces that are left when the types are deleted. -/
def withoutTypes (ps : List Piece) : List Piece := ps.filterMap Piece.bare?

/-- The lines of some pieces, with or without the types. -/
def shown (typed : Bool) (ps : List Piece) : List String := ps.flatMap (Piece.shown typed)

theorem shown_false (ps : List Piece) : shown false ps = linesOf (withoutTypes ps) := by
  rw [linesOf, withoutTypes, List.filterMap_eq_flatMap_toList, List.flatMap_assoc]
  rfl

section Shown
variable {typed : Bool} {ps qs : List Piece}

@[simp] theorem shown_nil : shown typed [] = [] := rfl

@[simp] theorem shown_cons {p : Piece} : shown typed (p :: ps) = p.shown typed ++ shown typed ps :=
  rfl

@[simp] theorem shown_append : shown typed (ps ++ qs) = shown typed ps ++ shown typed qs :=
  List.flatMap_append

@[simp] theorem shown_flatMap {α : Type} (xs : List α) (f : α → List Piece) :
    shown typed (xs.flatMap f) = xs.flatMap fun x => shown typed (f x) :=
  List.flatMap_assoc

@[simp] theorem Piece.shown_line (s : String) : (Piece.line s).shown typed = [s] := by
  cases typed <;> rfl

@[simp] theorem shown_lines (ls : List String) : shown typed (ls.map .line) = ls := by
  induction ls with
  | nil => rfl
  | cons l ls ih => rw [List.map_cons, shown_cons, ih, Piece.shown_line, List.singleton_append]

theorem shown_intercalate (sep : List Piece) (pss : List (List Piece)) :
    shown typed (sep.intercalate pss) =
      (shown typed sep).intercalate (pss.map (shown typed)) := by
  induction pss with
  | nil => rfl
  | cons ps pss ih =>
    cases pss with
    | nil => simp
    | cons qs pss =>
      rw [List.map_cons] at ih
      rw [List.intercalate_cons_cons, shown_append, shown_append, ih]
      simp only [List.map_cons, List.intercalate_cons_cons]

end Shown

def headerOf (margin name : String) (params : List Param) (result : TypeHint) (isSpread : Bool) :
    Header :=
  ⟨margin, name, params.map fun p => (p.name, some p.hint.text), some result.text, isSpread⟩

/-- The lines of a header, whose annotations stand there if types are shown. -/
theorem shown_headerOf (typed : Bool) (margin name : String) (params : List Param)
    (result : TypeHint) (isSpread : Bool) :
    (Piece.header (headerOf margin name params result isSpread)).shown typed =
      if isSpread then
        (margin ++ "def " ++ name ++ "(") ::
          ((params.map (·.text typed)).map (margin ++ Code.indent ++ · ++ ",") ++
            [margin ++ ")" ++ ((if typed then " -> " ++ result.text else "") ++ ":")])
      else
        [margin ++ "def " ++ name ++ "(" ++ ", ".intercalate (params.map (·.text typed)) ++ ")" ++
          ((if typed then " -> " ++ result.text else "") ++ ":")] := by
  cases typed with
  | true =>
    have hparams : (headerOf margin name params result isSpread).paramTexts =
        params.map (·.text true) := by
      simp [Header.paramTexts, headerOf, Header.annotation, Param.text, String.append_assoc]
    change (headerOf margin name params result isSpread).lines = _
    rw [Header.lines, hparams]
    rfl
  | false =>
    have hparams : (headerOf margin name params result isSpread).bare.paramTexts =
        params.map (·.text false) := by
      simp [Header.paramTexts, headerOf, Header.bare, Header.annotation, Param.text]
    change (headerOf margin name params result isSpread).bare.lines ++ [] = _
    rw [List.append_nil, Header.lines, hparams]
    rfl

def functionPieces (margin : String) (f : Function) : List Piece :=
  .header (headerOf margin f.name f.params f.result false) ::
    (Code.Stmt.blockLines (margin ++ Code.indent) f.body).map .line

theorem lines_function (typed : Bool) (margin : String) (f : Function) :
    f.lines typed margin = shown typed (functionPieces margin f) := by
  rw [functionPieces, shown_cons, shown_lines, shown_headerOf]
  simp [Function.lines, Function.header, String.append_assoc]

def helperPieces (h : Helper) : List Piece :=
  .header (headerOf "" h.name h.params h.result h.isSpread) ::
    (h.body.map (Code.indent ++ ·)).map .line

theorem lines_helper (typed : Bool) (h : Helper) :
    h.lines typed = shown typed (helperPieces h) := by
  rw [helperPieces, shown_cons, shown_lines, shown_headerOf]
  cases hs : h.isSpread <;> simp [Helper.lines, Helper.headerLines, hs, String.append_assoc]

def allHelperPieces (runtime : String) : List Piece :=
  [.line "", .line ""].intercalate ((Helper.all runtime).map helperPieces)

theorem allLines_helper (typed : Bool) (runtime : String) :
    Helper.allLines typed runtime = shown typed (allHelperPieces runtime) := by
  have hlines : Helper.lines typed = shown typed ∘ helperPieces := funext (lines_helper typed)
  rw [Helper.allLines, allHelperPieces, shown_intercalate, List.map_map, ← hlines]
  simp

def pairPieces (mangling : Mangling) (runtime : String) (d : Definition) : List Piece :=
  functionPieces "" (Converter.fromJson mangling runtime d) ++ [.line "", .line ""] ++
    functionPieces "" (Converter.toJson mangling runtime d)

theorem pairLines_eq (typed : Bool) (mangling : Mangling) (runtime : String) (d : Definition) :
    Converter.pairLines typed mangling runtime d = shown typed (pairPieces mangling runtime d) := by
  simp [Converter.pairLines, pairPieces, lines_function]

/-- Lines without the empty ones at the end. -/
def trimmed (ls : List String) : List String := (ls.reverse.dropWhile (·.isEmpty)).reverse

def Piece.isBlank : Piece → Bool
  | .line s => s.isEmpty
  | _ => false

/-- A piece that stands in typed and in bare texts. -/
def Piece.IsCode : Piece → Prop
  | .line _ | .header _ => True
  | .typing _ | .declarations _ => False

/-- Pieces without the empty lines at the end. -/
def trimmedPieces (ps : List Piece) : List Piece := (ps.reverse.dropWhile Piece.isBlank).reverse

theorem trimmed_append (ls : List String) {l : String} (h : l ≠ "") :
    trimmed (ls ++ [l]) = ls ++ [l] := by
  have hl : l.isEmpty = false := by simpa using h
  rw [trimmed, List.reverse_append, List.reverse_singleton, List.singleton_append,
    List.dropWhile_cons_of_neg (by simp [hl])]
  simp

theorem ne_empty_of_colon (s : String) : s ++ ":" ≠ "" := by
  intro h
  have hlen := congrArg String.length h
  simp at hlen

theorem Header.lines_eq (h : Header) : ∃ ls l, h.lines = ls ++ [l] ∧ l ≠ "" := by
  rw [Header.lines]
  split
  · refine ⟨_ :: _, _, rfl, ?_⟩
    rw [← String.append_assoc]
    exact ne_empty_of_colon _
  · refine ⟨[], _, rfl, ?_⟩
    rw [← String.append_assoc]
    exact ne_empty_of_colon _

/-- A piece of code that is no empty line ends with a line that is not empty. -/
theorem Piece.shown_eq (typed : Bool) {p : Piece} (hp : p.IsCode) (hb : p.isBlank = false) :
    ∃ ls l, p.shown typed = ls ++ [l] ∧ l ≠ "" := by
  cases p with
  | line s =>
    refine ⟨[], s, Piece.shown_line s, ?_⟩
    rintro rfl
    cases hb
  | header h =>
    cases typed with
    | true => exact h.lines_eq
    | false =>
      obtain ⟨ls, l, hl, hne⟩ := h.bare.lines_eq
      exact ⟨ls, l, (List.append_nil _).trans hl, hne⟩
  | typing => exact hp.elim
  | declarations => exact hp.elim

theorem Piece.shown_of_isBlank {typed : Bool} {p : Piece} (hb : p.isBlank) :
    p.shown typed = [""] := by
  cases p with
  | line s =>
    obtain rfl : s = "" := by simpa [Piece.isBlank] using hb
    exact Piece.shown_line ""
  | header | typing | declarations => cases hb

theorem trimmed_blank (ls : List String) : trimmed (ls ++ [""]) = trimmed ls := by
  rw [trimmed, List.reverse_append, List.reverse_singleton, List.singleton_append,
    List.dropWhile_cons_of_pos (by decide), trimmed]

/-- The empty lines at the end of code are the same with and without the types. -/
theorem shown_trimmedPieces {typed : Bool} {ps : List Piece} (h : ∀ p ∈ ps, p.IsCode) :
    shown typed (trimmedPieces ps) = trimmed (shown typed ps) := by
  induction ps using List.reverseRecOn with
  | nil => rfl
  | append_singleton ps p ih =>
    obtain ⟨hps, hp⟩ := List.forall_mem_append.mp h
    rw [shown_append, shown_cons, shown_nil, List.append_nil]
    cases hb : p.isBlank with
    | true =>
      rw [Piece.shown_of_isBlank hb, trimmed_blank, ← ih hps, trimmedPieces, List.reverse_append,
        List.reverse_singleton, List.singleton_append, List.dropWhile_cons_of_pos hb, trimmedPieces]
    | false =>
      obtain ⟨ls, l, hl, hne⟩ := Piece.shown_eq typed (hp p List.mem_cons_self) hb
      rw [hl, ← List.append_assoc, trimmed_append _ hne, trimmedPieces, List.reverse_append,
        List.reverse_singleton, List.singleton_append, List.dropWhile_cons_of_neg (by simp [hb])]
      simp [hl]

theorem mem_of_trimmedPieces {ps : List Piece} {p : Piece} (h : p ∈ trimmedPieces ps) : p ∈ ps :=
  List.mem_reverse.mp ((List.dropWhile_sublist _).mem (List.mem_reverse.mp h))

theorem shown_eq_nil {typed : Bool} {ps : List Piece} (h : ∀ p ∈ ps, p.IsCode) :
    shown typed ps = [] ↔ ps = [] := by
  constructor
  · intro hnil
    rw [List.eq_nil_iff_forall_not_mem]
    intro p hp
    have hempty : p.shown typed = [] := List.flatMap_eq_nil_iff.mp hnil p hp
    cases hb : p.isBlank with
    | true =>
      rw [Piece.shown_of_isBlank hb] at hempty
      cases hempty
    | false =>
      obtain ⟨ls, l, hl, -⟩ := Piece.shown_eq typed (h p hp) hb
      rw [hl] at hempty
      exact List.append_ne_nil_of_right_ne_nil ls (List.cons_ne_nil l []) hempty
  · rintro rfl
    rfl

end Marshal.Generated
