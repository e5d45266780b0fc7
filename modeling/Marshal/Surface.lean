import Marshal.Json.Printer
import Marshal.Options

/-!
# Surfaces

A summary of what the code generated for a catalog exposes: the model, the actions, the datatypes,
the functions and the definitions that get converters.
-/

namespace Marshal
set_option autoImplicit false

/-- A field or parameter, with the text of its type. -/
structure FieldEntry where
  name : String
  type : String
deriving DecidableEq, Repr, Inhabited

structure ConstructorEntry where
  name : String
  fields : List FieldEntry
deriving DecidableEq, Repr, Inhabited

structure DatatypeEntry where
  name : String
  moduleName : String
  constructors : List ConstructorEntry
deriving DecidableEq, Repr, Inhabited

structure FunctionEntry where
  name : String
  params : List FieldEntry
  result : String
deriving DecidableEq, Repr, Inhabited

structure Surface where
  model : Option String
  actions : List ConstructorEntry
  datatypes : List DatatypeEntry
  functions : List FunctionEntry
  generationSet : List String
deriving DecidableEq, Repr, Inhabited

def fieldEntries (fs : List Field) : List FieldEntry := fs.map fun f => ⟨f.name, f.type.text⟩

def constructorEntries (vs : List Variant) : List ConstructorEntry :=
  vs.map fun v => ⟨v.name, fieldEntries v.fields⟩

namespace Catalog

/-- The name of the model, if the domain module declares one. -/
def surfaceModel (c : Catalog) (o : Options) : Option String :=
  ((c.definitionsIn (c.domainModule o)).find? (·.name == o.modelType)).map (·.name)

/-- The variants of the last action type that the domain module declares. -/
def surfaceActions (c : Catalog) (o : Options) : List ConstructorEntry :=
  match (c.definitionsIn (c.domainModule o)).reverse.find? (·.name == o.actionType) with
  | some d => constructorEntries d.variants
  | none => []

/-- The summary of a catalog; it fails where no module can be generated. -/
def surface (c : Catalog) (o : Options) : Report Ambiguity Surface := do
  let set ← c.generationSet o
  let datatypes := (c.definitions.filter (·.name != o.actionType)).map fun d =>
    ⟨d.name, d.moduleName, constructorEntries d.variants⟩
  let functions := (c.functionsIn o.appCoreModule).map fun s =>
    ⟨s.name, fieldEntries s.parameters, s.result.text⟩
  return ⟨c.surfaceModel o, c.surfaceActions o, datatypes, functions,
    set.definitions.map (·.fullName)⟩

end Catalog

namespace Surface

def jsonField (f : FieldEntry) : Json := .obj [("name", .str f.name), ("type", .str f.type)]

def jsonConstructor (c : ConstructorEntry) : Json :=
  .obj [("name", .str c.name), ("fields", .arr (c.fields.map jsonField))]

def jsonDatatype (d : DatatypeEntry) : Json :=
  .obj [("name", .str d.name), ("module", .str d.moduleName),
    ("constructors", .arr (d.constructors.map jsonConstructor))]

def jsonFunction (f : FunctionEntry) : Json :=
  .obj [("name", .str f.name), ("params", .arr (f.params.map jsonField)),
    ("returnType", .str f.result)]

def json (s : Surface) : Json :=
  .obj [("model", (s.model.map fun m => Json.str m).getD .null),
    ("actions", .arr (s.actions.map jsonConstructor)),
    ("datatypes", .arr (s.datatypes.map jsonDatatype)),
    ("appCoreFunctions", .arr (s.functions.map jsonFunction)),
    ("hasAppCore", .bool (!s.functions.isEmpty)),
    ("generationSet", .arr (s.generationSet.map fun n => .str (.text n)))]

end Surface

end Marshal
