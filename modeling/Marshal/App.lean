import Marshal.Code.Function
import Marshal.Conversion
import Marshal.Naming.Member
import Marshal.Options
import Marshal.View

/-!
# The App class

One class offers everything a caller needs: constructors of the domain's datatypes and actions,
accessors of the model, and wrappers of the functions. Members take and return external values
wherever there is a conversion; datatype values are passed as they are.

Every name is offered once. A constructor gives way to a function of its name, a function gives way
to the action and the model, and among the rest the first one wins.
-/

namespace Marshal
set_option autoImplicit false

open Code (TypeHint Expr Function Param Stmt)
open Naming (Mangling accessorName identifier lowerName valueTypeName)

structure App where
  generationSet : GenerationSet
  functions : List Signature
  options : Options
  mangling : Mangling
  domainModule : String
deriving Repr, Inhabited

/-- A member that could be offered, with the reason for which it is not. -/
structure Candidate where
  name : String
  barrier : Option Event
  function : Function
deriving Repr, Inhabited

inductive Ruling where
  | kept (f : Function)
  | left (e : Event)
deriving Repr, Inhabited

namespace Ruling

def kept? : Ruling → Option Function
  | .kept f => some f
  | .left _ => none

def left? : Ruling → Option Event
  | .kept _ => none
  | .left e => some e

end Ruling

/-- A titled group of members. -/
structure Section where
  title : String
  members : List Function
deriving Repr, Inhabited

namespace App

/-- What conversions in members refer to; members know no type parameters. -/
def scope (a : App) : Scope := ⟨a.options.runtimeAlias, []⟩

def internalView (a : App) (t : TypeDescriptor) : TypeHint :=
  t.internalView a.options.runtimeAlias

def domainType? (a : App) (name : String) : Option Definition :=
  a.generationSet.definitions.find? fun d => d.moduleName == a.domainModule && d.name == name

/-- Whether a datatype is represented by its only field. -/
def isErased (a : App) (t : TypeDescriptor) : Bool :=
  (a.generationSet.get? t.name).any (·.isErased)

def passed (a : App) (f : Field) : Param × Expr :=
  let p := identifier f.name
  (⟨p, a.internalView f.type⟩, .name p)

def converted (a : App) (f : Field) : Param × Expr :=
  let p := identifier f.name
  (⟨p, f.type.externalView⟩, Conversion.convert .fromExternal a.scope f.type (.name p) 0)

def constructorParam (a : App) (isAction : Bool) (f : Field) : Param × Expr :=
  if f.type.kind = .datatype && (isAction || !a.isErased f.type) then a.passed f
  else a.converted f

/-- The constructor of a variant; the value of an erased wrapper is its field. -/
def constructor (a : App) (isAction : Bool) (d : Definition) (v : Variant) : Function :=
  let ps := v.fields.map (a.constructorParam isAction)
  let call := Expr.call (a.mangling.constructor d.moduleName d.name v.name) (ps.map (·.2))
  { name := identifier v.name
    params := ps.map (·.1)
    result := .forward (valueTypeName d.name)
    body := [.ret (if d.isErased && !isAction then (ps.map (·.2)).headD call else call)] }

/-- The field of a model; the value of an erased model is its field. -/
def modelField (a : App) (model : Definition) (f : Field) : Expr :=
  if model.isErased then .name "m" else a.mangling.destructor (.name "m") f.name

/-- The accessor of a field of the model; entries of maps are looked up one at a time. -/
def accessor (a : App) (model : Definition) (f : Field) : Function :=
  let source := a.modelField model f
  let m : Param := ⟨"m", .forward (valueTypeName model.name)⟩
  let name := identifier (accessorName f.name)
  match f.type.mapArgs? with
  | some (key, value) =>
    { name
      params := [m, ⟨"key", key.externalView⟩]
      result := .apply "Optional" [value.externalView]
      body :=
        [.assign "dafny_key" (Conversion.convert .fromExternal a.scope key (.name "key") 0),
          .when (.callAttr source "contains" [.name "dafny_key"])
            [.assign "val" (.callAttr source "get" [.name "dafny_key"]),
              .ret (Conversion.convert .toExternal a.scope value (.name "val") 0)],
          .ret (.name "None")] }
  | none =>
    { name
      params := [m]
      result := f.type.externalView
      body := [.ret (Conversion.convert .toExternal a.scope f.type source 0)] }

def wrapperParam (a : App) (f : Field) : Param × Expr :=
  if f.type.kind = .datatype || f.type.kind = .foreign then a.passed f else a.converted f

def convertsResult (t : TypeDescriptor) : Bool :=
  t.kind = .int || t.kind = .string || t.kind = .seq

def wrapper (a : App) (s : Signature) : Function :=
  let ps := s.parameters.map a.wrapperParam
  let call := Expr.call (a.mangling.function a.options.appCoreModule s.name) (ps.map (·.2))
  let converts := convertsResult s.result
  { name := identifier s.name
    params := ps.map (·.1)
    result := if converts then s.result.externalView else a.internalView s.result
    body :=
      [.ret (if converts then Conversion.convert .toExternal a.scope s.result call 0 else call)] }

def action? (a : App) : Option Definition := a.domainType? a.options.actionType

def model? (a : App) : Option Definition := a.domainType? a.options.modelType

/-- The definitions of the domain module other than actions and models. -/
def plainTypes (a : App) : List Definition :=
  a.generationSet.definitions.filter fun d =>
    d.moduleName == a.domainModule && d.name != a.options.actionType &&
      d.name != a.options.modelType

def actionVariants (a : App) : List Variant := (a.action?.map (·.variants)).getD []

/-- The fields of the first variant of the model type. -/
def modelFields (a : App) : List Field :=
  match a.model? with
  | some ⟨_, _, v :: _, _⟩ => v.fields
  | _ => []

def functionNames (a : App) : List String := a.functions.map fun s => identifier s.name

/-- The member names that the action and the model claim. -/
def reservedNames (a : App) : List String :=
  a.actionVariants.map (fun v => identifier v.name) ++
    a.modelFields.map fun f => identifier (accessorName f.name)

def plainCandidates (a : App) (d : Definition) : List Candidate :=
  d.variants.map fun v =>
    let name := identifier v.name
    ⟨name, if name ∈ a.functionNames then some (.shadowedConstructor name) else none,
      a.constructor false d v⟩

def actionCandidates (a : App) (d : Definition) : List Candidate :=
  d.variants.map fun v => ⟨identifier v.name, none, a.constructor true d v⟩

def modelCandidates (a : App) (d : Definition) : List Candidate :=
  a.modelFields.map fun f => ⟨identifier (accessorName f.name), none, a.accessor d f⟩

def wrapperCandidates (a : App) : List Candidate :=
  a.functions.map fun s =>
    let name := identifier s.name
    ⟨name, if name ∈ a.reservedNames then some (.coveredWrapper name) else none, a.wrapper s⟩

/-- All candidates by section, in the order in which names are given away. -/
def candidates (a : App) : List (String × List Candidate) :=
  a.plainTypes.map (fun d => (d.name ++ " constructors", a.plainCandidates d)) ++
    a.action?.toList.map (fun d => ("Action constructors", a.actionCandidates d)) ++
    a.model?.toList.map (fun d => ("Model accessors", a.modelCandidates d)) ++
    [(a.options.appCoreModule ++ " functions", a.wrapperCandidates)]

def rule (taken : List String) (c : Candidate) : Ruling :=
  match c.barrier with
  | some e => .left e
  | none => if c.name ∈ taken then .left (.takenMember c.name) else .kept c.function

def takenAfter (taken : List String) (c : Candidate) : List String :=
  if (rule taken c).kept?.isSome then taken ++ [c.name] else taken

def rulings (taken : List String) : List Candidate → List Ruling
  | [] => []
  | c :: cs => rule taken c :: rulings (takenAfter taken c) cs

def ruleAll (taken : List String) : List (String × List Candidate) → List (String × List Ruling)
  | [] => []
  | (title, cs) :: rest => (title, rulings taken cs) :: ruleAll (cs.foldl takenAfter taken) rest

/-- The rulings on all candidates of a class, by section. -/
def ruled (a : App) : List (String × List Ruling) := ruleAll [] a.candidates

def sections (a : App) : List Section :=
  (a.ruled.map fun r => (⟨r.1, r.2.filterMap (·.kept?)⟩ : Section)).filter (!·.members.isEmpty)

/-- The members that are not offered, with the reasons. -/
def events (a : App) : List Event := a.ruled.flatMap fun r => r.2.filterMap (·.left?)

def memberLines (typed : Bool) (f : Function) : List String :=
  (Code.indent ++ "@staticmethod") :: f.lines typed Code.indent

/-- The lower-case type names whose converters the class offers. -/
def exportNames (a : App) : List String := extendFresh [] (a.generationSet.names.map lowerName)

def exportLine (name : String) : String :=
  Code.indent ++ name ++ " = staticmethod(" ++ name ++ ")"

def exportLines (a : App) : List String :=
  a.exportNames.flatMap fun n => [exportLine (n ++ "ToJson"), exportLine (n ++ "FromJson")]

/-- The lines of a section, a blank line after every member. -/
def sectionLines (typed : Bool) (s : Section) : List String :=
  (Code.indent ++ "# " ++ s.title) :: s.members.flatMap fun f => memberLines typed f ++ [""]

def bodyLines (a : App) : List String :=
  let members := a.sections.flatMap (sectionLines a.options.typed)
  let exports :=
    if a.exportLines.isEmpty then [] else (Code.indent ++ "# Conversion functions") :: a.exportLines
  let body := ((members ++ exports).reverse.dropWhile (·.isEmpty)).reverse
  if body.isEmpty then [Code.indent ++ "pass"] else body

def lines (a : App) : List String := "class App:" :: a.bodyLines

end App

end Marshal
