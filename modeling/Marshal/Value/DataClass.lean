import Marshal.Assoc
import Marshal.Naming.Member

/-!
# Classes of datatype values

A class offers, for every variant, a member that builds it and a flag that tells it, and for every
field a member that holds it. Where two variants spell a constructor or a flag alike, the later one
has it; where two fields spell their member alike, the earlier one has it. Classes are told apart by
their serial numbers.
-/

namespace Marshal
set_option autoImplicit false

open Naming (Mangling)

structure DataClass where
  /-- Tells apart classes that are declared alike. -/
  serial : Nat
  name : String
  /-- The variants with their fields, every variant once. -/
  variants : List (String × List String)
  mangling : Mangling
  /-- The variant that all values show, if the class was overwritten. -/
  shadow : Option String
deriving DecidableEq, Repr, Inhabited

namespace DataClass

/-- A class with the given variants; a repeated variant keeps its place and gets its last fields. -/
def declare (serial : Nat) (name : String) (variants : List (String × List String))
    (mangling : Mangling) : DataClass :=
  ⟨serial, name, Assoc.putAll (· == ·) [] variants, mangling, none⟩

def fields? (c : DataClass) (variant : String) : Option (List String) :=
  Assoc.find? (· == ·) variant c.variants

def variantNames (c : DataClass) : List String := c.variants.map (·.1)

def allFields (c : DataClass) : List String := c.variants.flatMap (·.2)

def built? (c : DataClass) (member : String) : Option String :=
  c.variantNames.reverse.find? fun v => c.mangling.constructorName v == member

def flagged? (c : DataClass) (member : String) : Option String :=
  c.variantNames.reverse.find? fun v => c.mangling.variantFlag v == member

def held? (c : DataClass) (member : String) : Option String :=
  c.allFields.find? fun f => c.mangling.fieldAttribute f == member

def memberNames (c : DataClass) : List String :=
  let constructors := c.variantNames.map c.mangling.constructorName
  let flags := c.variantNames.map c.mangling.variantFlag
  let fields := c.allFields.map c.mangling.fieldAttribute
  (constructors ++ flags ++ fields).eraseDups.mergeSort (· ≤ ·)

end DataClass

end Marshal
