/-!
# Type descriptors

A descriptor is a finite tree: a kind, a name and the descriptors of its arguments. References to
datatypes are by name only; the graph of definitions, which may be cyclic, is reached through a
catalog.
-/

namespace Marshal
set_option autoImplicit false

/-- The kinds of types that a conversion distinguishes. -/
inductive TypeKind where
  | int
  | bool
  | string
  | seq
  | set
  | map
  | tuple
  | datatype
  | typeParam
  | foreign
deriving DecidableEq, Repr, Inhabited

namespace TypeKind

/-- Every kind, in the order in which documents list them. -/
def all : List TypeKind :=
  [.int, .bool, .string, .seq, .set, .map, .tuple, .datatype, .typeParam, .foreign]

/-- The word that stands for a kind in a descriptor document. -/
def word : TypeKind → String
  | .int => "int"
  | .bool => "bool"
  | .string => "string"
  | .seq => "seq"
  | .set => "set"
  | .map => "map"
  | .tuple => "tuple"
  | .datatype => "datatype"
  | .typeParam => "type_param"
  | .foreign => "opaque"

def ofWord? (w : String) : Option TypeKind :=
  all.find? (fun k => k.word == w)

theorem ofWord?_word (k : TypeKind) : ofWord? k.word = some k := by
  cases k <;> decide

end TypeKind

structure TypeDescriptor where
  kind : TypeKind
  name : String
  args : List TypeDescriptor
deriving Repr, Inhabited

namespace TypeDescriptor

mutual
/-- The name, followed by the arguments in angle brackets if there are any. -/
def text : TypeDescriptor → String
  | ⟨_, name, []⟩ => name
  | ⟨_, name, a :: as⟩ => name ++ "<" ++ ", ".intercalate (a.text :: texts as) ++ ">"

def texts : List TypeDescriptor → List String
  | [] => []
  | a :: as => a.text :: texts as
end

mutual
def decEq : (a b : TypeDescriptor) → Decidable (a = b)
  | ⟨k, n, as⟩, ⟨k', n', as'⟩ =>
    if hk : k = k' then
      if hn : n = n' then
        match decEqList as as' with
        | isTrue h => isTrue (by rw [hk, hn, h])
        | isFalse h => isFalse (by intro e; injection e; contradiction)
      else isFalse (by intro e; injection e; contradiction)
    else isFalse (by intro e; injection e; contradiction)

/-- Lists of descriptors are compared member by member. -/
def decEqList : (as bs : List TypeDescriptor) → Decidable (as = bs)
  | [], [] => isTrue rfl
  | [], _ :: _ => isFalse (by simp)
  | _ :: _, [] => isFalse (by simp)
  | a :: as, b :: bs =>
    match decEq a b with
    | isTrue h =>
      match decEqList as bs with
      | isTrue h' => isTrue (by rw [h, h'])
      | isFalse h' => isFalse (by simp [h'])
    | isFalse h => isFalse (by simp [h])
end

instance : DecidableEq TypeDescriptor := decEq

/-- An integer type, under the name it was written with. -/
def int (name : String) : TypeDescriptor := ⟨.int, name, []⟩

def bool : TypeDescriptor := ⟨.bool, "bool", []⟩

def string : TypeDescriptor := ⟨.string, "string", []⟩

def seq (elem : TypeDescriptor) : TypeDescriptor := ⟨.seq, "seq", [elem]⟩

def set (elem : TypeDescriptor) : TypeDescriptor := ⟨.set, "set", [elem]⟩

def map (key value : TypeDescriptor) : TypeDescriptor := ⟨.map, "map", [key, value]⟩

/-- The tuple of the given types; its name carries the number of components. -/
def tuple (elems : List TypeDescriptor) : TypeDescriptor :=
  ⟨.tuple, "Tuple" ++ toString elems.length, elems⟩

def datatype (name : String) (args : List TypeDescriptor) : TypeDescriptor :=
  ⟨.datatype, name, args⟩

def typeParam (name : String) : TypeDescriptor := ⟨.typeParam, name, []⟩

/-- A type that conversions pass through untouched. -/
def foreign (name : String) : TypeDescriptor := ⟨.foreign, name, []⟩

/-- A map type with both its key and its value type given. -/
def mapArgs? (t : TypeDescriptor) : Option (TypeDescriptor × TypeDescriptor) :=
  match t.kind, t.args with
  | .map, key :: value :: _ => some (key, value)
  | _, _ => none

end TypeDescriptor

end Marshal
