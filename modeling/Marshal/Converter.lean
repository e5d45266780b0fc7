import Marshal.Code.Function
import Marshal.Conversion
import Marshal.Naming.Member

/-!
# Converters

Every definition of a generation set gets two functions, one for each direction. Erased wrappers
convert their only field; enumerations exchange variant names and constructors without arguments;
all others read and write objects, told apart by a `type` entry where there are several variants.
Where no variant matches, the functions raise an error that names the type and the value.
-/

namespace Marshal
set_option autoImplicit false

open Code (TypeHint Expr Function Param Stmt)
open Naming (Mangling fromJsonName identifier jsonTypeName sanitize toJsonName valueTypeName)

namespace Converter

/-- A field whose map is converted entry by entry in statements of its own. -/
def isBlockMap (f : Field) : Bool := f.type.mapArgs?.isSome

def paramEnding : Direction → String
  | .fromExternal => "_fromJson"
  | .toExternal => "_toJson"

def typeParamConverters (dir : Direction) (d : Definition) : List (String × String) :=
  (extendFresh [] d.genericParams).map fun p => (p, sanitize p ++ paramEnding dir)

def scope (dir : Direction) (runtime : String) (d : Definition) : Scope :=
  ⟨runtime, typeParamConverters dir d⟩

def params (dir : Direction) (d : Definition) (value : String) (type : TypeHint) : List Param :=
  ⟨value, type⟩ :: (typeParamConverters dir d).map fun c => ⟨c.2, .name "Callable[[Any], Any]"⟩

/-- The statement that ends a converter where no variant matches. -/
def raiseUnknown (runtime : String) (d : Definition) (offending : String) : Stmt :=
  .raise (.callAttr (.name runtime) "UnknownVariantError" [.str d.name, .name offending])

def constructor (mangling : Mangling) (d : Definition) (v : Variant) : Expr :=
  mangling.constructor d.moduleName d.name v.name

def readEntry (f : Field) : Expr := .callAttr (.name "json") "get" [.str f.name]

/-- The variable in which the map of a field is built. -/
def readTarget (f : Field) : String := "__" ++ identifier f.name

/-- The statements that prepare the value of a field. -/
def readSetup (s : Scope) (f : Field) : List Stmt :=
  if isBlockMap f then Conversion.readMap s f.type (readEntry f) (readTarget f) else []

def readValue (s : Scope) (f : Field) : Expr :=
  if isBlockMap f then .name (readTarget f)
  else Conversion.convert .fromExternal s f.type (readEntry f) 0

def construct (mangling : Mangling) (s : Scope) (d : Definition) (v : Variant) : List Stmt :=
  let ctor := constructor mangling d v
  if v.fields.isEmpty then [.ret (.call ctor [])]
  else v.fields.flatMap (readSetup s) ++ [.retCall ctor (v.fields.map (readValue s))]

def fromJsonBody (mangling : Mangling) (runtime : String) (d : Definition) : List Stmt :=
  let s := scope .fromExternal runtime d
  match d.shape, d.erasedField?, d.variants with
  | .erasedWrapper, some f, _ => readSetup s f ++ [.ret (readValue s f)]
  | .enumLike, _, vs =>
    vs.map (fun v => .when (.equal (.name "json") (.str v.name))
      [.ret (.call (constructor mangling d v) [])]) ++ [raiseUnknown runtime d "json"]
  | _, _, [v] => construct mangling s d v
  | _, _, vs =>
    .assign "tag" (.callAttr (.name "json") "get" [.str "type"]) ::
      (vs.map (fun v => .when (.equal (.name "tag") (.str v.name)) (construct mangling s d v)) ++
        [raiseUnknown runtime d "tag"])

def fromJson (mangling : Mangling) (runtime : String) (d : Definition) : Function where
  name := fromJsonName d.name
  params := params .fromExternal d "json" (.forward (jsonTypeName d.name))
  result := .forward (valueTypeName d.name)
  body := fromJsonBody mangling runtime d

/-- The variable in which the object of a map field is built. -/
def writeTarget (f : Field) : String := "__" ++ identifier f.name ++ "_json"

/-- The statements that prepare the entry of a field. -/
def writeSetup (s : Scope) (f : Field) (source : Expr) : List Stmt :=
  if isBlockMap f then Conversion.writeMap s f.type source (writeTarget f) else []

def writeEntry (s : Scope) (f : Field) (source : Expr) : String × Expr :=
  (f.name,
    if isBlockMap f then .name (writeTarget f)
    else Conversion.convert .toExternal s f.type source 0)

/-- The statements that write the object of a variant. -/
def deconstruct (mangling : Mangling) (s : Scope) (tagged : Bool) (v : Variant) : List Stmt :=
  let source (f : Field) := mangling.destructor (.name "value") f.name
  let tag : List (String × Expr) := if tagged then [("type", .str v.name)] else []
  let entries := tag ++ v.fields.map fun f => writeEntry s f (source f)
  v.fields.flatMap (fun f => writeSetup s f (source f)) ++
    [if entries.isEmpty then .ret (.dict []) else .retDict entries]

def toJsonBody (mangling : Mangling) (runtime : String) (d : Definition) : List Stmt :=
  let s := scope .toExternal runtime d
  let value := Expr.name "value"
  match d.shape, d.erasedField?, d.variants with
  | .erasedWrapper, some f, _ => writeSetup s f value ++ [.ret (.dict [writeEntry s f value])]
  | .enumLike, _, vs =>
    vs.map (fun v => .when (mangling.isVariant value v.name) [.ret (.str v.name)]) ++
      [raiseUnknown runtime d "value"]
  | _, _, [v] => deconstruct mangling s false v
  | _, _, vs =>
    vs.map (fun v => .when (mangling.isVariant value v.name) (deconstruct mangling s true v)) ++
      [raiseUnknown runtime d "value"]

def toJson (mangling : Mangling) (runtime : String) (d : Definition) : Function where
  name := toJsonName d.name
  params := params .toExternal d "value" (.forward (valueTypeName d.name))
  result := .forward (jsonTypeName d.name)
  body := toJsonBody mangling runtime d

/-- The lines of both converters, two blank lines between them. -/
def pairLines (typed : Bool) (mangling : Mangling) (runtime : String) (d : Definition) :
    List String :=
  (fromJson mangling runtime d).lines typed "" ++ ["", ""] ++
    (toJson mangling runtime d).lines typed ""

end Converter

end Marshal
