/-!
# Texts in parts

A text cut at a character that separates its parts, and lines made into a text. In texts that are
read from files, a carriage return ends a line, alone or before a line feed.
-/

namespace Marshal.Text
set_option autoImplicit false

/-- The characters between separators, one part more than there are separators. -/
def splitChars (separator : Char) : List Char → List (List Char)
  | [] => [[]]
  | c :: cs =>
    if c = separator then [] :: splitChars separator cs
    else
      match splitChars separator cs with
      | [] => [[c]]
      | part :: parts => (c :: part) :: parts

def split (separator : Char) (text : String) : List String :=
  (splitChars separator text.toList).map String.ofList

/-- Every line end as a line feed. -/
def normalizeNewlines : List Char → List Char
  | [] => []
  | '\r' :: '\n' :: cs => '\n' :: normalizeNewlines cs
  | '\r' :: cs => '\n' :: normalizeNewlines cs
  | c :: cs => c :: normalizeNewlines cs

def joinLines (lines : List String) : String := "\n".intercalate lines

end Marshal.Text
