import Marshal.Catalog.Basic
import Marshal.Declaration.Reader
import Marshal.Declaration.Validity
import Marshal.Event

/-!
# The catalog of a declaration text

Every written type gets its descriptor once the datatype names of all modules are known: type
parameters first, then the built-in types, then datatypes by their bare name; anything else is
foreign and passed through as it is. Abstract modules and ghost members leave no trace in the
catalog.
-/

namespace Marshal.Declaration
set_option autoImplicit false

/-- The kind of a named type, given the datatype names and the type parameters in scope. -/
def DottedName.kind (known params : List String) (n : DottedName) : TypeKind :=
  if n.text ∈ params then .typeParam
  else if n.last ∈ ["int", "nat"] then .int
  else if n.last = "bool" then .bool
  else if n.last ∈ ["string", "char"] then .string
  else if n.last = "seq" then .seq
  else if n.last ∈ ["set", "iset"] then .set
  else if n.last ∈ ["map", "imap"] then .map
  else if n.last ∈ known then .datatype
  else .foreign

/--
The descriptor of a named type. A container written without its arguments keeps the name it was
written with and converts without touching its elements.
-/
def DottedName.descriptor (known params : List String) (n : DottedName)
    (args : List TypeDescriptor) : TypeDescriptor :=
  match n.kind known params, args with
  | .typeParam, _ => .typeParam n.text
  | .int, _ => .int n.last
  | .bool, _ => .bool
  | .string, _ => .string
  | .seq, a :: _ => .seq a
  | .set, a :: _ => .set a
  | .map, k :: v :: _ => .map k v
  | .datatype, args => .datatype n.last args
  | .foreign, _ => .foreign n.text
  | kind, args => ⟨kind, n.last, args⟩

mutual
def TypeExpr.descriptor (known params : List String) : TypeExpr → TypeDescriptor
  | .named n args => n.descriptor known params (TypeExpr.descriptors known params args)
  | .tuple [t] => t.descriptor known params
  | .tuple items => .tuple (TypeExpr.descriptors known params items)

def TypeExpr.descriptors (known params : List String) : List TypeExpr → List TypeDescriptor
  | [] => []
  | t :: ts => t.descriptor known params :: TypeExpr.descriptors known params ts
end

mutual
/-- The unknown names of a written type, arguments before the type itself. -/
def TypeExpr.unknown (known params : List String) : TypeExpr → List String
  | .named n args =>
    TypeExpr.unknowns known params args ++
      (if n.kind known params = .foreign then [n.text] else [])
  | .tuple items => TypeExpr.unknowns known params items

/-- The unknown names of a list of written types. -/
def TypeExpr.unknowns (known params : List String) : List TypeExpr → List String
  | [] => []
  | t :: ts => t.unknown known params ++ TypeExpr.unknowns known params ts
end

/-- The descriptor of a written type; unknown names are reported. -/
def TypeExpr.resolve (known params : List String) (t : TypeExpr) : Report Invalid TypeDescriptor :=
  ⟨(t.unknown known params).map .unknownType, .ok (t.descriptor known params)⟩

/-- The fields that are not ghosts, with their types resolved. -/
def resolveFields (known params : List String) (fs : List FieldDecl) :
    Report Invalid (List Field) :=
  (fs.filter (!·.isGhost)).mapM fun f => do
    let type ← f.type.resolve known params
    return ⟨f.name, type⟩

def DatatypeDecl.resolve (known : List String) (moduleName : String) (d : DatatypeDecl) :
    Report Invalid Definition := do
  let variants ← d.variants.mapM fun v => do
    let fields ← resolveFields known d.typeParams v.fieldList
    return ⟨v.name, fields⟩
  return ⟨moduleName, d.name, variants, d.typeParams⟩

/-- The result type of a function; a predicate without one yields a truth value. -/
def FunctionDecl.resolveResult (known : List String) (moduleName : String) (f : FunctionDecl) :
    Report Invalid TypeDescriptor :=
  match f.result, f.kind with
  | some t, _ => t.resolve known f.typeParams
  | none, .predicate => pure .bool
  | none, .function => .fail (.noResult moduleName f.name)

/-- The signature that a function declaration stands for; its result is resolved first. -/
def FunctionDecl.resolve (known : List String) (moduleName : String) (f : FunctionDecl) :
    Report Invalid Signature := do
  let result ← f.resolveResult known moduleName
  let parameters ← resolveFields known f.typeParams f.params
  return ⟨moduleName, f.name, parameters, result⟩

/-- The signatures of the functions that are not ghosts; ghosts are reported. -/
def resolveFunctions (known : List String) (moduleName : String) :
    List FunctionDecl → Report Invalid (List Signature)
  | [] => pure []
  | f :: fs =>
    if f.isGhost then do
      Report.tell [.ghostFunction moduleName f.name]
      resolveFunctions known moduleName fs
    else do
      let s ← f.resolve known moduleName
      let rest ← resolveFunctions known moduleName fs
      return s :: rest

def ModuleDecl.resolve (known : List String) (m : ModuleDecl) : Report Invalid Catalog := do
  let definitions ← m.datatypes.mapM (·.resolve known m.name.text)
  let functions ← resolveFunctions known m.name.text m.functions
  return ⟨definitions, functions⟩

def concreteModules (ms : List ModuleDecl) : List ModuleDecl := ms.filter (!·.isAbstract)

/-- The names of all datatypes that a type can refer to. -/
def knownNames (ms : List ModuleDecl) : List String :=
  ms.flatMap fun m => m.datatypes.map (·.name)

def catalogOf (ms : List ModuleDecl) : Report Invalid Catalog := do
  match duplicate? ms with
  | some e => .fail e
  | none =>
    Report.tell ((ms.filter (·.isAbstract)).map fun m => .abstractModule m.name.text)
    let concrete := concreteModules ms
    let parts ← concrete.mapM (·.resolve (knownNames concrete))
    return ⟨parts.flatMap (·.definitions), parts.flatMap (·.functions)⟩

/-- Why a text has no catalog. -/
inductive ParseError where
  | syntaxError (e : SyntaxError)
  | invalid (e : Invalid)
deriving DecidableEq, Repr, Inhabited

def parse (text : String) : Report ParseError Catalog :=
  match read text.toList with
  | .error e => .fail (.syntaxError e)
  | .ok ms => (catalogOf ms).mapError .invalid

end Marshal.Declaration
