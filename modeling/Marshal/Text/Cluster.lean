import Marshal.Text.Width

/-!
# Clusters

A text in clusters, which are the characters that are drawn in one place. A text is cut to a width
between clusters only.
-/

namespace Marshal.Text
set_option autoImplicit false

def blanks (n : Nat) : List Char := List.replicate n ' '

/-- Characters that are drawn in one place. -/
structure Cluster where
  text : List Char
  width : Nat
deriving DecidableEq, Repr, Inhabited

namespace Cluster

def extend (c : Cluster) (cs : List Char) (columns : Nat) : Cluster :=
  ⟨c.text ++ cs, c.width + columns⟩

/-- A cluster and those behind it; `last` is the last character that took columns. -/
def behind (c : Cluster) (last : Option Char) : List Char → List Cluster
  | [] => [c]
  | x :: xs =>
    if x = joiner then
      match xs with
      | [] => [c.extend [x] 0]
      | y :: rest => behind (c.extend [x, y] 0) last rest
    else if x = pictureSelector then behind (c.extend [x] (selectedWidth last)) none xs
    else if charWidth x = 0 then behind (c.extend [x] 0) last xs
    else c :: behind ⟨[x], charWidth x⟩ (some x) xs

def ofChars : List Char → List Cluster
  | [] => []
  | c :: cs => behind ⟨[c], charWidth c⟩ (if charWidth c = 0 then none else some c) cs

/-- The characters that fill a width; a cluster that would fit by half is left out for blanks. -/
def fill (size : Nat) : List Cluster → List Char
  | [] => []
  | c :: cs =>
    if size = 0 then []
    else if size < c.width then blanks size
    else c.text ++ fill (size - c.width) cs

/-- Clusters spread over lines, behind the characters of the line under way and their width. -/
def spread (size : Nat) (line : List Char) (used : Nat) : List Cluster → List (List Char)
  | [] => if used = 0 then [] else [line]
  | c :: cs =>
    if size < used + c.width then line :: spread size c.text c.width cs
    else spread size (line ++ c.text) (used + c.width) cs

end Cluster

/-- A text made as wide as given, with blanks or by cutting it. -/
def resize (size : Nat) (cs : List Char) : List Char :=
  let w := width cs
  if w ≤ size then cs ++ blanks (size - w) else Cluster.fill size (Cluster.ofChars cs)

/-- The parts of a word, each as long as fits into a line. -/
def fold (size : Nat) (cs : List Char) : List (List Char) :=
  Cluster.spread size [] 0 (Cluster.ofChars cs)

end Marshal.Text
