import Marshal.Command.Switch
import Marshal.Options

/-!
# Requests

What a command line asks for: code for a file of declarations, the library that such code needs, or
a summary of a file.
-/

namespace Marshal.Command
set_option autoImplicit false

open Naming (Mangling)

inductive Task where
  /-- Generates code from a file, into another one or to the output. -/
  | generate (input : String) (output : Option String) (options : Options)
  /-- Writes the library into a folder of the given name below another one. -/
  | library (folder name : String)
  /-- Summarises a file, as tables or as an object. -/
  | summarize (input : String) (asObject : Bool)
deriving DecidableEq, Repr, Inhabited

structure Request where
  /-- Whether all events are shown. -/
  verbose : Bool
  task : Task
deriving DecidableEq, Repr, Inhabited

def commonSwitches : List Switch := [⟨"verbose", some 'v', .alone⟩]

def generateSwitches : List Switch :=
  [⟨"input", some 'i', .value⟩, ⟨"output", some 'o', .value⟩, ⟨"profile", none, .value⟩,
    ⟨"domain-module", none, .value⟩, ⟨"app-core", none, .value⟩,
    ⟨"runtime-import", none, .valueOr "adtjson.runtime"⟩, ⟨"modules-import", none, .value⟩,
    ⟨"mangle", none, .value⟩]

def librarySwitches : List Switch := [⟨"output", some 'o', .value⟩, ⟨"name", none, .value⟩]

def summarizeSwitches : List Switch := [⟨"input", some 'i', .value⟩, ⟨"json", none, .alone⟩]

/-- The switches of a command; a command takes nothing else. -/
def readOnly (switches : List Switch) (args : List String) : Except UsageError Reading := do
  let r ← read switches true args
  match r.others with
  | [] => return r
  | text :: _ => throw (.surplusOperand text)

/-- The value of a switch that must be given. -/
def Reading.required (r : Reading) (name : String) : Except UsageError String :=
  match r.value? name with
  | some v => .ok v
  | none => .error (.missingSwitch name)

def optionsOf (r : Reading) : Except UsageError Options := do
  let d : Options := {}
  let profile ← r.choice "profile" (Profile.all.map (·.word)) Profile.ofWord? d.profile
  let mangling ← r.choice "mangle" (Mangling.all.map (·.word)) Mangling.ofWord? .escaping
  return {
    profile
    domainModule := r.value? "domain-module"
    appCoreModule := (r.value? "app-core").getD d.appCoreModule
    mangle := mangling.word
    runtimeImport := r.value? "runtime-import"
    modulesImport := r.value? "modules-import" }

def taskOf (command : String) (args : List String) : Except UsageError Task :=
  match command with
  | "gen" => do
    let r ← readOnly generateSwitches args
    return .generate (← r.required "input") (r.value? "output") (← optionsOf r)
  | "runtime" => do
    let r ← readOnly librarySwitches args
    return .library ((r.value? "output").getD ".") ((r.value? "name").getD "adtjson_runtime")
  | "info" => do
    let r ← readOnly summarizeSwitches args
    return .summarize (← r.required "input") (r.has "json")
  | _ => .error (.unknownCommand command)

def Request.ofArguments (args : List String) : Except UsageError Request := do
  let r ← read commonSwitches false args
  match r.others with
  | [] => throw .missingCommand
  | command :: rest => return ⟨r.has "verbose", ← taskOf command rest⟩

end Marshal.Command
