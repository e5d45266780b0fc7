import Marshal.Declaration.Tree

/-!
# Validity of declarations

Within a module no two datatypes may share a name, within a datatype no two variants, within a
variant no two fields. Ghost fields and abstract modules count. The first offence in document order
is reported: a datatype's own name before its variants, a variant's name before its fields.
-/

namespace Marshal.Declaration
set_option autoImplicit false

/-- Why declarations have no catalog. -/
inductive Invalid where
  | duplicateDatatype (moduleName name : String)
  | duplicateVariant (moduleName datatypeName name : String)
  | duplicateField (moduleName datatypeName variantName name : String)
  /-- A function that is not a predicate has no result type. -/
  | noResult (moduleName name : String)
deriving DecidableEq, Repr, Inhabited

def Invalid.message : Invalid → String
  | .duplicateDatatype m d => "Datatype " ++ m ++ "." ++ d ++ " declared twice"
  | .duplicateVariant m d v => "Duplicate variant " ++ v ++ " in " ++ m ++ "." ++ d
  | .duplicateField m d v f => "Duplicate field " ++ f ++ " in " ++ m ++ "." ++ d ++ "." ++ v
  | .noResult m f => "Function " ++ m ++ "." ++ f ++ " has no return type"

/-- The first name that occurs in `seen` or earlier in the list. -/
def firstRepeated? (seen : List String) : List String → Option String
  | [] => none
  | n :: ns => if n ∈ seen then some n else firstRepeated? (n :: seen) ns

def offenceInVariants? (moduleName datatypeName : String) (seen : List String) :
    List VariantDecl → Option Invalid
  | [] => none
  | v :: vs =>
    if v.name ∈ seen then some (.duplicateVariant moduleName datatypeName v.name)
    else
      match firstRepeated? [] (v.fieldList.map (·.name)) with
      | some f => some (.duplicateField moduleName datatypeName v.name f)
      | none => offenceInVariants? moduleName datatypeName (v.name :: seen) vs

def offenceInDatatypes? (moduleName : String) (seen : List String) :
    List DatatypeDecl → Option Invalid
  | [] => none
  | d :: ds =>
    if d.name ∈ seen then some (.duplicateDatatype moduleName d.name)
    else
      match offenceInVariants? moduleName d.name [] d.variants with
      | some e => some e
      | none => offenceInDatatypes? moduleName (d.name :: seen) ds

def duplicate? (ms : List ModuleDecl) : Option Invalid :=
  ms.findSome? fun m => offenceInDatatypes? m.name.text [] m.datatypes

end Marshal.Declaration
