import Marshal.Closure.GenerationSet
import Marshal.Naming.Mangling

/-!
# Options

What can be chosen for one generation run.
-/

namespace Marshal
set_option autoImplicit false

open Naming (Mangling)

/-- Plain code, or code with annotations and declarations. -/
inductive Profile where
  | bare
  | typed
deriving DecidableEq, Repr, Inhabited

namespace Profile

def word : Profile → String
  | .bare => "bare"
  | .typed => "typed"

def all : List Profile := [.bare, .typed]

def ofWord? (w : String) : Option Profile := all.find? (fun p => p.word == w)

end Profile

structure Options where
  profile : Profile := .bare
  /-- The module of the domain; it is detected if none or an empty one is given. -/
  domainModule : Option String := none
  appCoreModule : String := "AppCore"
  actionType : String := "Action"
  modelType : String := "Model"
  runtimeAlias : String := "_rt"
  /-- The word for the mangling of the runtime. -/
  mangle : String := Mangling.word .escaping
  runtimeImport : Option String := none
  modulesImport : Option String := none
deriving DecidableEq, Repr, Inhabited

/-- Why a run fails. -/
inductive GenerationError where
  | ambiguous (a : Ambiguity)
  | unknownMangling (word : String)
deriving DecidableEq, Repr, Inhabited

def GenerationError.message : GenerationError → String
  | .ambiguous a => a.message
  | .unknownMangling w =>
    "Unknown name mangling '" ++ w ++ "', expected one of: " ++
      ", ".intercalate (Mangling.all.map (·.word))

namespace Options

/-- Whether annotations and declarations are written. -/
def typed (o : Options) : Bool := o.profile == .typed

def mangling (o : Options) : Except GenerationError Mangling :=
  match Mangling.ofWord? o.mangle with
  | some m => .ok m
  | none => .error (.unknownMangling o.mangle)

end Options

/-- An optional text; an empty one does not count. -/
def nonempty? (text : Option String) : Option String :=
  match text with
  | some s => if s.isEmpty then none else some s
  | none => none

namespace Catalog

def domainModule (c : Catalog) (o : Options) : String :=
  (nonempty? o.domainModule).getD (c.detectDomainModule o.actionType)

def generationSet (c : Catalog) (o : Options) : Report Ambiguity GenerationSet :=
  let m := c.domainModule o
  c.resolve (c.definitionsIn m) (c.functionsIn o.appCoreModule) (some m)

end Catalog

end Marshal
