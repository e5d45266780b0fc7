import Marshal.Catalog.Basic
import Marshal.Code.Stmt
import Marshal.Naming.Identifier

/-!
# Conversions

From a type and an expression that holds a value of it, the expression that converts the value to
its external form or back. Datatypes are not expanded: they are handed to the converter functions of
their definitions, so recursive types need no special care.

Bound variables carry the nesting depth in their names (`x`, `x1`, `x2` and so on), so that an inner
one never hides an outer one.
-/

namespace Marshal
set_option autoImplicit false

open Code (Expr Stmt)
open Naming (fromJsonName toJsonName)

inductive Direction where
  | toExternal
  | fromExternal
deriving DecidableEq, Repr, Inhabited

def Direction.converterName : Direction → String → String
  | .toExternal => toJsonName
  | .fromExternal => fromJsonName

/-- What conversions refer to: the runtime, and the converters of type parameters. -/
structure Scope where
  runtime : String
  converters : List (String × String)
deriving Repr, Inhabited

namespace Scope

def rt (s : Scope) (member : String) : Expr := .attr (.name s.runtime) member

def converter? (s : Scope) (param : String) : Option String := s.converters.lookup param

end Scope

namespace TypeDescriptor

/-- The key and value types of a map; entries are copied as they are if one is not given. -/
def keyValue (t : TypeDescriptor) : TypeDescriptor × TypeDescriptor :=
  match t.args with
  | key :: value :: _ => (key, value)
  | _ => (.foreign "key", .foreign "value")

end TypeDescriptor

namespace Conversion

/-- The name of a bound variable at a nesting depth. -/
def placeholder (base : String) (depth : Int) : String :=
  if depth = 0 then base else base ++ toString depth

def ofInt (dir : Direction) (source : Expr) : Expr :=
  match dir with
  | .toExternal => .call (.name "_to_number") [source]
  | .fromExternal => .call (.name "int") [source]

def ofString (dir : Direction) (s : Scope) (source : Expr) : Expr :=
  match dir with
  | .toExternal => .call (.name "_string_to_json") [source]
  | .fromExternal => .callAttr (s.rt "Seq") "from_string" [source]

def seqList (source : Expr) : Expr := .call (.name "_seq_to_list") [source]

/-- A sequence whose elements stay as they are. -/
def ofSeq (dir : Direction) (s : Scope) (source : Expr) : Expr :=
  match dir with
  | .toExternal => seqList source
  | .fromExternal => .call (s.rt "Seq") [.orList source]

/-- A sequence whose elements, each named `x`, are converted by `elem`. -/
def ofSeqOf (dir : Direction) (s : Scope) (source elem : Expr) (x : String) : Expr :=
  match dir with
  | .toExternal => .listFor elem x (seqList source)
  | .fromExternal => .call (s.rt "Seq") [.listFor elem x (.group (.orList source))]

def ofSet (dir : Direction) (s : Scope) (source : Expr) : Expr :=
  match dir with
  | .toExternal => .call (.name "list") [.attr source "Elements"]
  | .fromExternal => .call (s.rt "Set") [.orList source]

def ofSetOf (dir : Direction) (s : Scope) (source elem : Expr) (x : String) : Expr :=
  match dir with
  | .toExternal => .listFor elem x (.attr source "Elements")
  | .fromExternal => .call (s.rt "Set") [.listFor elem x (.group (.orList source))]

/-- The converted key of an external object: a string, whatever the key type. -/
def externalKey (keyKind : TypeKind) (converted : Expr) : Expr :=
  if keyKind = .string then converted else .call (.name "str") [converted]

def mapKeys (source : Expr) : Expr := .attr (.attr source "Keys") "Elements"

/-- Where the value of an entry is found, given the names of its key and value. -/
def entryValue (dir : Direction) (source : Expr) (k v : String) : Expr :=
  match dir with
  | .toExternal => .callAttr source "get" [.name k]
  | .fromExternal => .name v

def ofMapOf (dir : Direction) (source : Expr) (keyKind : TypeKind) (key value : Expr)
    (k v : String) : Expr :=
  match dir with
  | .toExternal => .dictFor (externalKey keyKind key) value k (mapKeys source)
  | .fromExternal => .call (.name "_map_from_json") [source, .function k key, .function v value]

def ofTuple (dir : Direction) (s : Scope) (items : List Expr) : Expr :=
  match dir with
  | .toExternal => .list items
  | .fromExternal => .call (s.rt ("Tuple" ++ toString items.length)) items

/-- A value of a type parameter; it stays as it is if there is no converter for it. -/
def ofParam (s : Scope) (param : String) (source : Expr) : Expr :=
  match s.converter? param with
  | some f => if f.isEmpty then source else .call (.name f) [source]
  | none => source

/--
A function that converts a value of a type, given the conversion of a value named `x`: the converter
of the datatype or parameter where that is all there is to it.
-/
def asFunction (dir : Direction) (s : Scope) (t : TypeDescriptor) (x : String) (body : Expr) :
    Expr :=
  match t.kind, t.args, s.converter? t.name with
  | .datatype, [], _ => .name (dir.converterName t.name)
  | .typeParam, _, some f => .name f
  | _, _, _ => .function x body

mutual
def convert (dir : Direction) (s : Scope) : TypeDescriptor → Expr → Int → Expr
  | ⟨.int, _, _⟩, source, _ => ofInt dir source
  | ⟨.bool, _, _⟩, source, _ => source
  | ⟨.string, _, _⟩, source, _ => ofString dir s source
  | ⟨.seq, _, []⟩, source, _ => ofSeq dir s source
  | ⟨.seq, _, a :: _⟩, source, depth =>
    let x := placeholder "x" depth
    let elem := convert dir s a (.name x) (depth + 1)
    if elem.isName x then ofSeq dir s source else ofSeqOf dir s source elem x
  | ⟨.set, _, []⟩, source, _ => ofSet dir s source
  | ⟨.set, _, a :: _⟩, source, depth =>
    let x := placeholder "x" depth
    let elem := convert dir s a (.name x) (depth + 1)
    if elem.isName x then ofSet dir s source else ofSetOf dir s source elem x
  | ⟨.map, _, a :: b :: _⟩, source, depth =>
    let k := placeholder "k" depth
    let v := placeholder "v" depth
    ofMapOf dir source a.kind (convert dir s a (.name k) (depth + 1))
      (convert dir s b (entryValue dir source k v) (depth + 1)) k v
  | ⟨.map, _, _⟩, source, depth =>
    let k := placeholder "k" depth
    let v := placeholder "v" depth
    ofMapOf dir source .foreign (.name k) (entryValue dir source k v) k v
  | ⟨.tuple, _, []⟩, source, _ => source
  | ⟨.tuple, _, a :: as⟩, source, depth =>
    ofTuple dir s (convert dir s a (.item source 0) depth :: convertItems dir s as source 1 depth)
  | ⟨.datatype, name, args⟩, source, depth =>
    .call (.name (dir.converterName name)) (source :: converters dir s args depth)
  | ⟨.typeParam, name, _⟩, source, _ => ofParam s name source
  | ⟨.foreign, _, _⟩, source, _ => source

/-- The conversions of the components of a tuple from an index on. -/
def convertItems (dir : Direction) (s : Scope) :
    List TypeDescriptor → Expr → Nat → Int → List Expr
  | [], _, _, _ => []
  | a :: as, source, i, depth =>
    convert dir s a (.item source i) depth :: convertItems dir s as source (i + 1) depth

/-- Functions that convert values of a list of types. -/
def converters (dir : Direction) (s : Scope) : List TypeDescriptor → Int → List Expr
  | [], _ => []
  | a :: as, depth =>
    let x := placeholder "x" depth
    asFunction dir s a x (convert dir s a (.name x) (depth + 1)) :: converters dir s as depth
end

def converter (dir : Direction) (s : Scope) (t : TypeDescriptor) (depth : Int) : Expr :=
  let x := placeholder "x" depth
  asFunction dir s t x (convert dir s t (.name x) (depth + 1))

/-- Statements that build a runtime map from the object that `source` holds. -/
def readMap (s : Scope) (t : TypeDescriptor) (source : Expr) (target : String) : List Stmt :=
  let (keyType, valueType) := t.keyValue
  let key := convert .fromExternal s keyType (.name "k") 1
  let value := convert .fromExternal s valueType (.name "v") 1
  [.assign target (.attr (s.rt "Map") "Empty"),
    .forEach ["k", "v"] (.callAttr (.group (.orDict source)) "items" [])
      [.assign target (.callAttr (.name target) "update" [key, value])]]

/-- Statements that fill an object from the runtime map that `source` holds. -/
def writeMap (s : Scope) (t : TypeDescriptor) (source : Expr) (target : String) : List Stmt :=
  let (keyType, valueType) := t.keyValue
  let key := externalKey keyType.kind (convert .toExternal s keyType (.name "k") 1)
  let value := convert .toExternal s valueType (.name "v") 1
  [.assign target (.dict []),
    .when (.present source)
      [.forEach ["k"] (mapKeys source)
        [.assign "v" (.callAttr source "get" [.name "k"]), .assignItem target key value]]]

end Conversion

end Marshal
