import Marshal.Text.Split

/-!
# Paths

A path begins at the root of all folders or at the working directory and leads from folder to
folder. In tidy form it has no empty steps and no dots.
-/

namespace Marshal
set_option autoImplicit false

structure Path where
  /-- The slashes that a path from the root of all folders begins with: one, or just two. -/
  root : String
  names : List String
deriving DecidableEq, Repr, Inhabited

namespace Path

/-- The slashes at the beginning of a path; more than two are as good as one. -/
def rootOf (text : String) : String :=
  if text.startsWith "//" && !text.startsWith "///" then "//"
  else if text.startsWith "/" then "/"
  else ""

/-- The steps of a path: all that stands between slashes. -/
def steps (text : String) : List String := (Text.split '/' text).filter (· != "")

def ofText (text : String) : Path := ⟨rootOf text, (steps text).filter (· != ".")⟩

/-- A path as text; a dot stands for no path at all. -/
def text (p : Path) : String :=
  let text := p.root ++ "/".intercalate p.names
  if text.isEmpty then "." else text

def parent (p : Path) : Path := { p with names := p.names.dropLast }

def child (p : Path) (name : String) : Path := { p with names := p.names ++ [name] }

/-- A path that begins in a folder; one that begins at the root stands for itself. -/
def join (folder path : Path) : Path :=
  if path.root.isEmpty then { folder with names := folder.names ++ path.names } else path

end Path

end Marshal
