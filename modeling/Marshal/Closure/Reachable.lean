import Marshal.Catalog.Basic

/-!
# Reachable datatypes

The datatype names that are mentioned by some signatures and definitions, directly or through the
fields of other definitions. Names are found breadth first: those of the signatures, then those of
the roots, then those in the fields of everything found before.
-/

namespace Marshal
set_option autoImplicit false

namespace TypeDescriptor

/-- The datatype names in a type, in preorder and with repetitions. -/
def references (t : TypeDescriptor) : List String := t.namesOf .datatype

end TypeDescriptor

namespace Signature

/-- The datatype names in a signature, parameters before the result. -/
def references (s : Signature) : List String := s.types.flatMap (·.references)

end Signature

namespace Definition

/-- The datatype names in the fields of a definition. -/
def references (d : Definition) : List String := d.fieldTypes.flatMap (·.references)

end Definition

namespace Catalog

/-- The datatype names in the fields of every definition with a name. -/
def referencesOf (c : Catalog) (name : String) : List String :=
  (c.lookup name).flatMap (·.references)

/--
Follows references breadth first: the fields of the names in `pending` are searched one after the
other, those of the names in `done` have been. `fuel` bounds the number of names.
-/
def follow (c : Catalog) (done : List String) : Nat → List String → List String
  | 0, pending => done ++ pending
  | _, [] => done
  | fuel + 1, n :: pending =>
    let found := extendFresh (done ++ n :: pending) (c.referencesOf n)
    c.follow (done ++ [n]) fuel (found.drop (done.length + 1))

/-- How many names following references can ever find. -/
def followBound (c : Catalog) (start : List String) : Nat :=
  start.length + (c.definitions.flatMap (·.references)).length

def startNames (roots : List Definition) (signatures : List Signature) : List String :=
  extendFresh (TypeDescriptor.collectEach .datatype (signatures.flatMap (·.types)) [])
    (roots.map (·.name))

/-- Every reachable datatype name, in the order of discovery. -/
def reachable (c : Catalog) (roots : List Definition) (signatures : List Signature) :
    List String :=
  let start := startNames roots signatures
  c.follow [] (c.followBound start) start

end Catalog

end Marshal
