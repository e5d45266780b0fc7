import Marshal.Code.Function

/-!
# Helper functions

The functions that conversions in generated code call, apart from the runtime. Their bodies are
fixed up to the name under which the runtime is known.
-/

namespace Marshal.Generated
set_option autoImplicit false

open Code (TypeHint Param)

structure Helper where
  name : String
  params : List Param
  result : TypeHint
  /-- Whether the header has one parameter a line. -/
  isSpread : Bool
  body : List String
deriving Repr, Inhabited

namespace Helper

def headerLines (typed : Bool) (h : Helper) : List String :=
  let params := h.params.map (·.text typed)
  let result := if typed then " -> " ++ h.result.text else ""
  if h.isSpread then
    ("def " ++ h.name ++ "(") ::
      (params.map (fun p => Code.indent ++ p ++ ",") ++ [")" ++ result ++ ":"])
  else ["def " ++ h.name ++ "(" ++ ", ".intercalate params ++ ")" ++ result ++ ":"]

def lines (typed : Bool) (h : Helper) : List String :=
  h.headerLines typed ++ h.body.map (Code.indent ++ ·)

def anyValue : TypeHint := .name "Any"

def anyConverter : TypeHint := .name "Callable[[Any], Any]"

/-- A sequence as a list; a missing one is empty. -/
def seqToList : Helper where
  name := "_seq_to_list"
  params := [⟨"seq", anyValue⟩]
  result := .apply "list" [anyValue]
  isSpread := false
  body := ["return list(seq) if seq is not None else []"]

def toNumber : Helper where
  name := "_to_number"
  params := [⟨"n", anyValue⟩]
  result := anyValue
  isSpread := false
  body := ["return int(n) if hasattr(n, \"__index__\") else n"]

/-- A sequence of characters as a string; strings and missing values stay as they are. -/
def stringToJson : Helper where
  name := "_string_to_json"
  params := [⟨"s", anyValue⟩]
  result := .apply "Optional" [.name "str"]
  isSpread := false
  body :=
    ["if s is None or isinstance(s, str):", "    return s", "if hasattr(s, \"VerbatimString\"):",
      "    return s.VerbatimString(False)", "return \"\".join(s)"]

/-- An object as a map with converted keys and values; a missing one is empty. -/
def mapFromJson (runtime : String) : Helper where
  name := "_map_from_json"
  params :=
    [⟨"obj", .apply "Optional" [.apply "dict" [.name "str", anyValue]]⟩,
      ⟨"key_from_json", anyConverter⟩, ⟨"val_from_json", anyConverter⟩]
  result := .name (runtime ++ ".Map")
  isSpread := true
  body :=
    ["result = " ++ runtime ++ ".Map.Empty", "for k, v in (obj or \x7b\x7d).items():",
      "    result = result.update(key_from_json(k), val_from_json(v))", "return result"]

def all (runtime : String) : List Helper :=
  [seqToList, toNumber, stringToJson, mapFromJson runtime]

/-- The lines of all helpers, two blank lines between them. -/
def allLines (typed : Bool) (runtime : String) : List String :=
  ["", ""].intercalate ((all runtime).map (·.lines typed))

end Helper

end Marshal.Generated
