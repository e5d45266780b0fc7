import Marshal.Catalog.Type

/-!
# Catalogs

A catalog holds every datatype definition and function signature that one generation run knows.
Definitions are tagged unions; their shape decides how values look outside the program.
-/

namespace Marshal
set_option autoImplicit false

/-- A named, typed field of a variant, or a parameter of a function. -/
structure Field where
  name : String
  type : TypeDescriptor
deriving DecidableEq, Repr, Inhabited

structure Variant where
  name : String
  fields : List Field
deriving DecidableEq, Repr, Inhabited

/-- A named tagged union. -/
structure Definition where
  moduleName : String
  name : String
  variants : List Variant
  typeParams : List String
deriving DecidableEq, Repr, Inhabited

/-- A typed function offered to callers. -/
structure Signature where
  moduleName : String
  name : String
  parameters : List Field
  result : TypeDescriptor
deriving DecidableEq, Repr, Inhabited

/-- How the values of a datatype are represented outside the program. -/
inductive Shape where
  /-- One variant with one field: the field stands in for the value. -/
  | erasedWrapper
  /-- Several variants, none with fields: the bare variant name. -/
  | enumLike
  /-- An object of fields, with a discriminant where there are several variants. -/
  | general
deriving DecidableEq, Repr, Inhabited

def Shape.word : Shape → String
  | .erasedWrapper => "erased_wrapper"
  | .enumLike => "enum_like"
  | .general => "general"

/-- The first occurrence of every member, in order, after those already `found`. -/
def extendFresh (found : List String) : List String → List String
  | [] => found
  | n :: ns => extendFresh (if n ∈ found then found else found ++ [n]) ns

mutual
/-- The names of the nodes of one kind, in preorder and with repetitions. -/
def TypeDescriptor.namesOf (kind : TypeKind) : TypeDescriptor → List String
  | ⟨k, name, args⟩ => (if k = kind then [name] else []) ++ TypeDescriptor.namesOfList kind args

def TypeDescriptor.namesOfList (kind : TypeKind) : List TypeDescriptor → List String
  | [] => []
  | a :: as => TypeDescriptor.namesOf kind a ++ TypeDescriptor.namesOfList kind as
end

mutual
/--
Collects the names of the nodes of one kind: a node adds its name to those `found`, if it is not
among them, and hands what is found by then to its arguments, one after the other.
-/
def TypeDescriptor.collect (kind : TypeKind) : TypeDescriptor → List String → List String
  | ⟨k, name, args⟩, found =>
    TypeDescriptor.collectEach kind args
      (if k = kind ∧ name ∉ found then found ++ [name] else found)

/-- Collects the names of the nodes of one kind in types, one type after the other. -/
def TypeDescriptor.collectEach (kind : TypeKind) : List TypeDescriptor → List String → List String
  | [], found => found
  | a :: as, found => TypeDescriptor.collectEach kind as (TypeDescriptor.collect kind a found)
end

namespace Definition

def fullName (d : Definition) : String := d.moduleName ++ "." ++ d.name

def shape (d : Definition) : Shape :=
  match d.variants with
  | [⟨_, [_]⟩] => .erasedWrapper
  | v :: w :: vs => if (v :: w :: vs).all (·.fields.isEmpty) then .enumLike else .general
  | _ => .general

/-- Whether values are represented by their only field. -/
def isErased (d : Definition) : Bool := d.shape == .erasedWrapper

/-- Whether values are represented by a bare variant name. -/
def isEnumLike (d : Definition) : Bool := d.shape == .enumLike

def erasedField? (d : Definition) : Option Field :=
  match d.variants with
  | [⟨_, [f]⟩] => some f
  | _ => none

def fields (d : Definition) : List Field := d.variants.flatMap (·.fields)

def fieldTypes (d : Definition) : List TypeDescriptor := d.fields.map (·.type)

/--
The generic parameters: the declared ones, or else the type parameters that the fields use, in
order of first use.
-/
def genericParams (d : Definition) : List String :=
  if d.typeParams.isEmpty then TypeDescriptor.collectEach .typeParam d.fieldTypes []
  else d.typeParams

end Definition

namespace Signature

/-- The types of the parameters, then the result type. -/
def types (s : Signature) : List TypeDescriptor := s.parameters.map (·.type) ++ [s.result]

end Signature

/-- Every definition and signature known to one generation run. -/
structure Catalog where
  definitions : List Definition
  functions : List Signature
deriving DecidableEq, Repr, Inhabited

namespace Catalog

/-- Every definition with the given bare name, in declaration order. -/
def lookup (c : Catalog) (name : String) : List Definition :=
  c.definitions.filter (·.name == name)

def definitionsIn (c : Catalog) (moduleName : String) : List Definition :=
  c.definitions.filter (·.moduleName == moduleName)

def functionsIn (c : Catalog) (moduleName : String) : List Signature :=
  c.functions.filter (·.moduleName == moduleName)

/-- The modules that declare something, in order of first occurrence, definitions first. -/
def modules (c : Catalog) : List String :=
  extendFresh [] (c.definitions.map (·.moduleName) ++ c.functions.map (·.moduleName))

/--
The module of the domain: the one that declares the action type, else the one of the first
definition.
-/
def detectDomainModule (c : Catalog) (actionType : String) : String :=
  match c.definitions.find? (·.name == actionType), c.definitions with
  | some d, _ => d.moduleName
  | none, d :: _ => d.moduleName
  | none, [] => "Domain"

end Catalog

end Marshal
