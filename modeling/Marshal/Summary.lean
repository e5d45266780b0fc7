import Marshal.Surface
import Marshal.Text.Table

/-!
# Summaries

A surface as tables for a reader: the datatypes, then the actions and the functions if there are
any, and the definitions that get converters.
-/

namespace Marshal
set_option autoImplicit false

def FieldEntry.cell (fs : List FieldEntry) : String :=
  ", ".intercalate (fs.map fun f => f.name ++ ": " ++ f.type)

def ConstructorEntry.text (c : ConstructorEntry) : String :=
  if c.fields.isEmpty then c.name else c.name ++ "(" ++ FieldEntry.cell c.fields ++ ")"

def DatatypeEntry.columns (ds : List DatatypeEntry) : List (List String) :=
  ["Name" :: ds.map (·.name), "Module" :: ds.map (·.moduleName),
    "Constructors" :: ds.map fun d => ", ".intercalate (d.constructors.map (·.text))]

def ConstructorEntry.columns (cs : List ConstructorEntry) : List (List String) :=
  [cs.map (·.name), cs.map fun c => FieldEntry.cell c.fields]

def FunctionEntry.columns (fs : List FunctionEntry) : List (List String) :=
  ["Name" :: fs.map (·.name), "Parameters" :: fs.map fun f => FieldEntry.cell f.params,
    "Returns" :: fs.map (·.result)]

/-- What is printed, which breaks off where a text has no meaning. -/
structure Summary where
  lines : List String
  fault : Option Text.MarkupFault
deriving DecidableEq, Repr, Inhabited

namespace Summary

/-- Parts one after the other, up to the first that cannot be printed. -/
def ofParts : List (Except Text.MarkupFault (List String)) → Summary
  | [] => ⟨[], none⟩
  | .ok lines :: parts =>
    let rest := ofParts parts
    ⟨lines ++ rest.lines, rest.fault⟩
  | .error fault :: _ => ⟨[], some fault⟩

def block (title : String) (left : Nat) (columns : List (List String)) :
    List (Except Text.MarkupFault (List String)) :=
  [.ok [title], Text.tableLines left 2 columns, .ok [""]]

def text (s : Summary) : String := String.join (s.lines.map (· ++ "\n"))

end Summary

def Surface.summary (s : Surface) : Summary :=
  let names := ", ".intercalate s.generationSet
  Summary.ofParts <|
    Summary.block "Datatypes" 0 (DatatypeEntry.columns s.datatypes) ++
      (if s.actions.isEmpty then [] else
        Summary.block "Actions" 2 (ConstructorEntry.columns s.actions)) ++
      (if s.functions.isEmpty then [] else
        Summary.block "Functions" 0 (FunctionEntry.columns s.functions)) ++
      [.ok ["Generated converters"], Text.textLines (if names.isEmpty then "none" else names)]

end Marshal
