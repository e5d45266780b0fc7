import Marshal.Json.Basic

/-!
# Writing JSON

One value on one line with blanks after commas and colons, or spread over lines with two blanks per
level. Text is escaped to ASCII.
-/

namespace Marshal.Json
set_option autoImplicit false

mutual
def print : Json → String
  | .null => "null"
  | .bool true => "true"
  | .bool false => "false"
  | .int i => toString i
  | .real t => t
  | .str s => s.quoted
  | .arr items => "[" ++ ", ".intercalate (printItems items) ++ "]"
  | .obj entries => "\x7b" ++ ", ".intercalate (printEntries entries) ++ "\x7d"

def printItems : List Json → List String
  | [] => []
  | j :: js => j.print :: printItems js

def printEntries : List (Text.Wide × Json) → List String
  | [] => []
  | (k, j) :: es => (k.quoted ++ ": " ++ j.print) :: printEntries es
end

/-- Items between brackets, one a line, `margin` in front of the closing bracket. -/
def spread (opening closing margin : String) (items : List String) : String :=
  if items.isEmpty then opening ++ closing
  else
    opening ++ "\n" ++ ",\n".intercalate (items.map fun i => margin ++ "  " ++ i) ++ "\n" ++
      margin ++ closing

mutual
/-- A value over several lines, the lines after the first behind a margin. -/
def printLines (margin : String) : Json → String
  | .arr items => spread "[" "]" margin (printLinesItems (margin ++ "  ") items)
  | .obj entries => spread "\x7b" "\x7d" margin (printLinesEntries (margin ++ "  ") entries)
  | .null => "null"
  | .bool true => "true"
  | .bool false => "false"
  | .int i => toString i
  | .real t => t
  | .str s => s.quoted

/-- The items of an array over several lines. -/
def printLinesItems (margin : String) : List Json → List String
  | [] => []
  | j :: js => j.printLines margin :: printLinesItems margin js

/-- The entries of an object over several lines. -/
def printLinesEntries (margin : String) : List (Text.Wide × Json) → List String
  | [] => []
  | (k, j) :: es => (k.quoted ++ ": " ++ j.printLines margin) :: printLinesEntries margin es
end

end Marshal.Json
