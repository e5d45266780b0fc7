import Marshal.Decimal.Rounding
import Marshal.Text.Line
import Marshal.Text.Markup
import Marshal.Text.Wrap

/-!
# Tables

Columns of cells as lines. Every column is as wide as its widest cell, with the same number of
blanks around all cells; if that makes the lines too long, the widest columns are narrowed and their
cells take several lines. The cells are marked-up texts.
-/

namespace Marshal.Text
set_option autoImplicit false

/-- The number of columns that a line may take. -/
def lineWidth : Nat := 4000

/-- The width of the widest line of a text. -/
def measure (cs : List Char) : Nat := ((between endsLine cs).map width).foldl max 0

/-- The columns that are as wide as `widest` narrowed, by no more than `most` each and by `excess`
in all; `among` is the number of those columns. -/
def narrow (widest most : Nat) (excess among : Nat) : List Nat → List Nat
  | [] => []
  | w :: ws =>
    if w = widest ∧ 0 < among then
      let taken := min most (Decimal.roundDiv excess among)
      (w - taken) :: narrow widest most (excess - taken) (among - 1) ws
    else w :: narrow widest most excess among ws

/-- The widths of columns that fit into a line; every round narrows the widest ones, at most to the
next narrower one, so that there are no more rounds than columns. -/
def fitted (size : Nat) : Nat → List Nat → List Nat
  | 0, ws => ws
  | rounds + 1, ws =>
    let excess := ws.sum - size
    if excess = 0 then ws
    else
      let widest := ws.foldl max 0
      let others := (ws.filter (· ≠ widest)).foldl max 0
      let most := min excess (widest - others)
      if most = 0 then ws
      else fitted size rounds (narrow widest most excess (ws.count widest) ws)

structure Block where
  width : Nat
  lines : List Line
deriving DecidableEq, Repr, Inhabited

namespace Block

/-- A block made higher by empty lines. -/
def raise (b : Block) (height : Nat) : List Line :=
  b.lines ++ List.replicate (height - b.lines.length) (Line.blank b.width)

def beside (a b : Block) : Block :=
  let height := max a.lines.length b.lines.length
  ⟨a.width + b.width, List.zipWith Line.append (a.raise height) (b.raise height)⟩

def empty : Block := ⟨0, []⟩

def allLines (b : Block) : List Line := b.raise 1

/-- A text in a cell, with blanks on both sides; without room for it there are no lines. Its styles
are looked at line by line. -/
def cell (left right width : Nat) (m : Marked) : Except MarkupFault Block := do
  let size := width - (left + right)
  if size = 0 then return ⟨width, []⟩
  let lines := (m.wrap .ellipsis size).map fun line =>
    (line.justified .ellipsis size).abridged .ellipsis size
  lines.forM fun line => line.check.mapError .numeral
  return ⟨width, lines.map fun line =>
    let inner := Line.fit size ⟨line.runs⟩
    Line.fit width (Line.fit width ⟨blanks left :: (inner.runs ++ [blanks right])⟩)⟩

def row (left right : Nat) (widths : List Nat) (cells : List Marked) :
    Except MarkupFault Block := do
  let blocks ← (widths.zip cells).mapM fun (w, m) => cell left right w m
  return blocks.foldr beside empty

end Block

def rowsOf {α : Type} : List (List α) → List (List α)
  | [] => []
  | [column] => column.map ([·])
  | column :: rest => List.zipWith List.cons column (rowsOf rest)

def columnWidth (left right : Nat) (cells : List Marked) : Nat :=
  min lineWidth (left + (cells.map fun m => measure m.text).foldl max 0 + right)

/-- The lines of a table. The markup of all cells is read column by column; then their styles are
looked at row by row. -/
def tableLines (left right : Nat) (columns : List (List String)) :
    Except MarkupFault (List String) := do
  let columns ← columns.mapM fun cells => cells.mapM fun c => Markup.read c.toList
  let widths := fitted lineWidth columns.length (columns.map (columnWidth left right))
  let rows ← (rowsOf columns).mapM (Block.row left right widths)
  return (rows.flatMap Block.allLines).map fun line => String.ofList (line.crop lineWidth).chars

def textLines (text : String) : Except MarkupFault (List String) := do
  let lines := ((← Markup.read text.toList).wrap .fold lineWidth).map (·.abridged .fold lineWidth)
  lines.forM fun line => line.check.mapError .numeral
  return lines.map fun line => String.ofList (Line.crop lineWidth ⟨line.runs⟩).chars

end Marshal.Text
