import Marshal.Text.Cluster

/-!
# Lines of runs

A line that is shown as runs of characters, each set in its own way. The runs are drawn one by one,
so that the width of a line is that of its runs, and nothing joins characters of two of them.
-/

namespace Marshal.Text
set_option autoImplicit false

structure Line where
  runs : List (List Char)
deriving DecidableEq, Repr, Inhabited

namespace Line

def chars (l : Line) : List Char := l.runs.flatten

def width (l : Line) : Nat := l.runs.foldl (fun n r => n + Text.width r) 0

def blank (n : Nat) : Line := ⟨[blanks n]⟩

def append (a b : Line) : Line := ⟨a.runs ++ b.runs⟩

/-- The runs that fill a width, the last of them cut. -/
def fill (size : Nat) : List (List Char) → List (List Char)
  | [] => []
  | r :: rs => if Text.width r < size then r :: fill (size - Text.width r) rs else [resize size r]

def crop (size : Nat) (l : Line) : Line := if size < l.width then ⟨fill size l.runs⟩ else l

/-- A line made as wide as given, with blanks or by cutting it. -/
def fit (size : Nat) (l : Line) : Line :=
  if l.width < size then l.append (blank (size - l.width)) else l.crop size

end Line

end Marshal.Text
