import Marshal.App
import Marshal.Converter
import Marshal.Generated.Helper
import Marshal.Text.Split

/-!
# Generated modules

The text of one run: imports, helpers, type declarations in the typed profile, the converters of the
generation set and the App class. Everything is resolved before any text is written, so a failure
leaves no partial text.
-/

namespace Marshal.Generated
set_option autoImplicit false

open Naming (Mangling)

def version : String := "0.3.0"

structure Module where
  generationSet : GenerationSet
  functions : List Signature
  options : Options
  mangling : Mangling
deriving Repr, Inhabited

namespace Module

/-- The App class of the module; its domain is the root module of the generation set. -/
def app (m : Module) : App :=
  ⟨m.generationSet, m.functions, m.options, m.mangling, m.generationSet.rootModule⟩

def imported (m : Module) : List String :=
  let first :=
    m.generationSet.rootModule ::
      (if m.functions.isEmpty then [] else [m.options.appCoreModule])
  extendFresh first (m.generationSet.definitions.map (·.moduleName))

def headerLines (m : Module) : List String :=
  ["# Generated by adtjson " ++ version ++ ". Do not edit.", "#",
    "# Converters raise " ++ m.options.runtimeAlias ++
      ".UnknownVariantError when a value matches no variant."]

def typingNames : List String :=
  ["Any", "Callable", "Literal", "Optional", "Protocol", "TypedDict", "Union"]

def importLines (m : Module) : List String :=
  (if m.options.typed then ["from typing import " ++ ", ".intercalate typingNames] else []) ++
    (nonempty? m.options.runtimeImport).toList.map
      (fun r => "import " ++ r ++ " as " ++ m.options.runtimeAlias) ++
    (nonempty? m.options.modulesImport).toList.map
      (fun p => "from " ++ p ++ " import " ++ ", ".intercalate m.imported)

def rule : String := "# " ++ String.ofList (List.replicate 76 '=')

def sectionLines (title : String) (body : List String) : List String :=
  [rule, "# " ++ title, rule, ""] ++ body

def viewLines (m : Module) : List String :=
  m.generationSet.definitions.flatMap (·.viewLines m.mangling m.options.runtimeAlias)

def converterLines (m : Module) : List String :=
  m.generationSet.definitions.flatMap
    (Converter.pairLines m.options.typed m.mangling m.options.runtimeAlias)

def lines (m : Module) : List String :=
  [""] ++ m.headerLines ++ m.importLines ++
    sectionLines "Helpers" ("" :: Helper.allLines m.options.typed m.options.runtimeAlias) ++
    (if m.options.typed && !m.generationSet.definitions.isEmpty then
        sectionLines "Type Declarations" m.viewLines
      else []) ++
    sectionLines "Datatype Conversions" m.converterLines ++
    sectionLines "API Wrapper" m.app.lines

def text (m : Module) : String := Text.joinLines m.lines ++ "\n"

end Module

def module (c : Catalog) (o : Options) : Report GenerationError Module := do
  let set ← (c.generationSet o).mapError .ambiguous
  Report.tell [.generating set.names]
  let mangling ← Report.ofExcept o.mangling
  let m : Module := ⟨set, c.functionsIn o.appCoreModule, o, mangling⟩
  Report.tell m.app.events
  return m

def helperText (typed : Bool) (runtime : String) : String :=
  "\n" ++ Text.joinLines (Helper.allLines typed runtime) ++ "\n"

end Marshal.Generated
