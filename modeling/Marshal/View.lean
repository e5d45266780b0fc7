import Marshal.Catalog.Basic
import Marshal.Code.Stmt
import Marshal.Code.TypeHint
import Marshal.Naming.Member
import Marshal.Text.Literal

/-!
# Views

What a type looks like from outside: annotations for its external and its runtime form and, for
every datatype, declarations of both.
-/

namespace Marshal
set_option autoImplicit false

open Code (TypeHint)
open Naming (Mangling jsonTypeName valueTypeName sanitize)

namespace TypeDescriptor

mutual
def externalView : TypeDescriptor → TypeHint
  | ⟨.int, _, _⟩ => .name "int"
  | ⟨.bool, _, _⟩ => .name "bool"
  | ⟨.string, _, _⟩ => .name "str"
  | ⟨.seq, _, args⟩ => .apply "list" [firstView args]
  | ⟨.set, _, args⟩ => .apply "list" [firstView args]
  | ⟨.map, _, args⟩ => .apply "dict" [.name "str", secondView args]
  | ⟨.tuple, _, _⟩ => .apply "list" [.name "Any"]
  | ⟨.datatype, name, _⟩ => .forward (jsonTypeName name)
  | ⟨.typeParam, _, _⟩ => .name "Any"
  | ⟨.foreign, _, _⟩ => .name "Any"

def firstView : List TypeDescriptor → TypeHint
  | a :: _ => a.externalView
  | [] => .name "Any"

def secondView : List TypeDescriptor → TypeHint
  | _ :: b :: _ => b.externalView
  | _ => .name "Any"
end

def internalView (runtime : String) (t : TypeDescriptor) : TypeHint :=
  match t.kind with
  | .int => .name "int"
  | .bool => .name "bool"
  | .string | .seq => .name (runtime ++ ".Seq")
  | .set => .name (runtime ++ ".Set")
  | .map => .name (runtime ++ ".Map")
  | .tuple => .name "tuple"
  | .datatype => .forward (valueTypeName t.name)
  | .typeParam | .foreign => .name "Any"

end TypeDescriptor

/-- The declaration of one form of a datatype. -/
inductive View where
  /-- One of several strings. -/
  | literals (name : String) (tags : List String)
  /-- An object with the given entries, after a fixed `type` entry if there is a tag. -/
  | record (name : String) (tag : Option String) (entries : List (String × TypeHint))
  /-- One of several declared forms. -/
  | union (name : String) (members : List String)
  /-- The form of another type. -/
  | alias (name : String) (form : TypeHint)
  /-- A class with the given members. -/
  | protocol (name : String) (members : List (String × TypeHint))
deriving Repr, Inhabited

namespace View

def name : View → String
  | .literals n _ | .record n _ _ | .union n _ | .alias n _ | .protocol n _ => n

def literal (tags : List String) : String :=
  "Literal[" ++ ", ".intercalate (tags.map Text.quoted) ++ "]"

def entryTexts (tag : Option String) (entries : List (String × TypeHint)) : List String :=
  (tag.toList.map fun t => "\"type\": " ++ literal [t]) ++
    entries.map fun e => Text.quoted e.1 ++ ": " ++ e.2.text

def lines : View → List String
  | .literals n tags => [n ++ " = " ++ literal tags]
  | .record n tag es =>
    [n ++ " = TypedDict(\"" ++ n ++ "\", \x7b" ++ ", ".intercalate (entryTexts tag es) ++ "\x7d)"]
  | .union n ms => [n ++ " = Union[" ++ ", ".intercalate ms ++ "]"]
  | .alias n a => [n ++ " = " ++ a.text]
  | .protocol n ms =>
    ("class " ++ n ++ "(Protocol):") :: ms.map fun m => Code.indent ++ m.1 ++ ": " ++ m.2.text

end View

namespace Definition

/-- The entries of the object that holds the given fields. -/
def viewEntries (fields : List Field) : List (String × TypeHint) :=
  fields.map fun f => (f.name, f.type.externalView)

/-- The name of the declared external form of one variant. -/
def variantViewName (d : Definition) (v : Variant) : String :=
  sanitize d.name ++ sanitize v.name ++ "Json"

def externalViews (d : Definition) : List View :=
  let name := jsonTypeName d.name
  if d.isEnumLike then [.literals name (d.variants.map (·.name))]
  else
    match d.variants with
    | [v] => [.record name none (viewEntries v.fields)]
    | vs =>
      vs.map (fun v => .record (d.variantViewName v) (some v.name) (viewEntries v.fields)) ++
        [.union name (vs.map d.variantViewName)]

/-- The pairs whose first components have not occurred before. -/
def distinctMembers (seen : List String) :
    List (String × TypeHint) → List (String × TypeHint)
  | [] => []
  | m :: ms =>
    if m.1 ∈ seen then distinctMembers seen ms else m :: distinctMembers (m.1 :: seen) ms

def internalView (mangling : Mangling) (runtime : String) (d : Definition) : View :=
  let name := valueTypeName d.name
  match d.erasedField? with
  | some f => .alias name (f.type.internalView runtime)
  | none =>
    let flags := d.variants.map fun v => (mangling.variantFlag v.name, TypeHint.name "bool")
    let fields := d.fields.map fun f =>
      (mangling.fieldAttribute f.name, f.type.internalView runtime)
    .protocol name (flags ++ distinctMembers [] fields)

/-- The lines of both declarations, a blank line between them. -/
def viewLines (mangling : Mangling) (runtime : String) (d : Definition) : List String :=
  d.externalViews.flatMap (·.lines) ++ [""] ++ (d.internalView mangling runtime).lines

end Definition

end Marshal
