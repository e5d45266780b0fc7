/-!
# Declaration trees

The declarations of a text as they are written: modules of datatypes and functions, before any name
is given a meaning. A tree keeps each choice the grammar offers (an optional bar, empty
parentheses, a type in parentheses), so that it stands for exactly one sequence of lexemes.
-/

namespace Marshal.Declaration
set_option autoImplicit false

structure DottedName where
  parts : List String
deriving DecidableEq, Repr, Inhabited

/-- The components with dots between them. -/
def DottedName.text (n : DottedName) : String := ".".intercalate n.parts

def DottedName.last (n : DottedName) : String := n.parts.getLastD ""

/-- A type as it is written. A tuple of one component is a type in parentheses. -/
inductive TypeExpr where
  | named (name : DottedName) (args : List TypeExpr)
  | tuple (items : List TypeExpr)
deriving Repr, Inhabited

namespace TypeExpr

mutual
/-- Written types are compared tree by tree. -/
def decEq : (a b : TypeExpr) → Decidable (a = b)
  | .named n as, .named n' as' =>
    if hn : n = n' then
      match decEqList as as' with
      | isTrue h => isTrue (by rw [hn, h])
      | isFalse h => isFalse (by intro e; injection e; contradiction)
    else isFalse (by intro e; injection e; contradiction)
  | .tuple as, .tuple as' =>
    match decEqList as as' with
    | isTrue h => isTrue (by rw [h])
    | isFalse h => isFalse (by intro e; injection e; contradiction)
  | .named _ _, .tuple _ => isFalse (by intro e; injection e)
  | .tuple _, .named _ _ => isFalse (by intro e; injection e)

/-- Lists of written types are compared member by member. -/
def decEqList : (as bs : List TypeExpr) → Decidable (as = bs)
  | [], [] => isTrue rfl
  | [], _ :: _ => isFalse (by simp)
  | _ :: _, [] => isFalse (by simp)
  | a :: as, b :: bs =>
    match decEq a b with
    | isTrue h =>
      match decEqList as bs with
      | isTrue h' => isTrue (by rw [h, h'])
      | isFalse h' => isFalse (by simp [h'])
    | isFalse h => isFalse (by simp [h])
end

instance : DecidableEq TypeExpr := decEq

end TypeExpr

/-- A field of a variant, or a parameter of a function. -/
structure FieldDecl where
  isGhost : Bool
  name : String
  type : TypeExpr
deriving DecidableEq, Repr, Inhabited

/-- A variant; `fields` is `none` if it is written without parentheses. -/
structure VariantDecl where
  name : String
  fields : Option (List FieldDecl)
deriving DecidableEq, Repr, Inhabited

def VariantDecl.fieldList (v : VariantDecl) : List FieldDecl := v.fields.getD []

structure DatatypeDecl where
  name : String
  typeParams : List String
  leadingBar : Bool
  variants : List VariantDecl
deriving DecidableEq, Repr, Inhabited

inductive FunctionKind where
  | function
  | predicate
deriving DecidableEq, Repr, Inhabited

def FunctionKind.word : FunctionKind → String
  | .function => "function"
  | .predicate => "predicate"

structure FunctionDecl where
  isGhost : Bool
  kind : FunctionKind
  name : String
  typeParams : List String
  params : List FieldDecl
  result : Option TypeExpr
deriving DecidableEq, Repr, Inhabited

inductive Member where
  | datatype (d : DatatypeDecl)
  | function (f : FunctionDecl)
deriving DecidableEq, Repr, Inhabited

structure ModuleDecl where
  isAbstract : Bool
  name : DottedName
  members : List Member
deriving DecidableEq, Repr, Inhabited

namespace ModuleDecl

def datatypes (m : ModuleDecl) : List DatatypeDecl :=
  m.members.filterMap fun
    | .datatype d => some d
    | .function _ => none

def functions (m : ModuleDecl) : List FunctionDecl :=
  m.members.filterMap fun
    | .datatype _ => none
    | .function f => some f

end ModuleDecl

end Marshal.Declaration
