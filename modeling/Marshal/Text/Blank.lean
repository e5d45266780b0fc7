import Marshal.Text.Ranges

/-!
# Blanks of all scripts

Blanks stand between words; some of them also end lines.
-/

namespace Marshal.Text
set_option autoImplicit false

def blankRanges : List (Nat × Nat) :=
  [(0x9, 0xd), (0x1c, 0x20), (0x85, 0x85), (0xa0, 0xa0), (0x1680, 0x1680), (0x2000, 0x200a),
   (0x2028, 0x2029), (0x202f, 0x202f), (0x205f, 0x205f), (0x3000, 0x3000)]

def lineEndRanges : List (Nat × Nat) :=
  [(0xa, 0xd), (0x1c, 0x1e), (0x85, 0x85), (0x2028, 0x2029)]

def isBlank (c : Char) : Bool := inRanges blankRanges c.toNat

def endsLine (c : Char) : Bool := inRanges lineEndRanges c.toNat

/-- Characters without the blanks at their end. -/
def trimRight (cs : List Char) : List Char := (cs.reverse.dropWhile isBlank).reverse

/-- Characters without the blanks at their ends. -/
def trim (cs : List Char) : List Char := trimRight (cs.dropWhile isBlank)

def between (p : Char → Bool) : List Char → List (List Char)
  | [] => [[]]
  | c :: cs =>
    match between p cs with
    | [] => []
    | s :: ss => if p c then [] :: s :: ss else (c :: s) :: ss

def words (cs : List Char) : List (List Char) := (between isBlank cs).filter (!·.isEmpty)

end Marshal.Text
