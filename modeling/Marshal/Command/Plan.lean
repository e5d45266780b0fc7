import Marshal.Command.Directory
import Marshal.Command.Request
import Marshal.Generated.Library
import Marshal.Generated.Module
import Marshal.Source
import Marshal.Summary

/-!
# Plans

What a task comes to, once its input file is read: the files to write and the text to print. Nothing
is written before everything is known, so a task that fails leaves no file behind.
-/

namespace Marshal.Command
set_option autoImplicit false

open Text (Wide)

/-- A failure that is no fault of the declarations. -/
inductive Escape where
  | file (error : FileError)
  | source (error : SourceError)
  /-- A text of the summary has no meaning. -/
  | summary (fault : Text.MarkupFault)
  /-- A text cannot be written or printed. -/
  | encoding (fault : Text.EncodeFault)
  /-- Something is made of a value that it cannot be made of. -/
  | raised (kind message : String)
deriving Repr, Inhabited

/-- Why a task fails. -/
inductive Failure where
  /-- The declarations cannot be used; an event has told why. -/
  | reported
  | escaped (e : Escape)
deriving Repr, Inhabited

/--
What a run has around it. A document can be taken over with nulls in the places of names and lists,
or with names that are no strings; nothing is known here of what a run makes of such a document.
-/
structure Host where
  /-- How many arrays and objects may be in one another in a document. -/
  depth : Nat
  /-- What standard output is given of generated code: all of it on a terminal, and elsewhere what is
  left without control sequences. -/
  console : Wide → Wide
  console_text : ∀ s : String, '\x1b' ∉ s.toList → console (.text s) = .text s
  /-- The code that is generated from a document without a catalog. -/
  render : Json → Options → Report Failure Wide
  /-- The summary of a document without a catalog, and where it breaks off. -/
  describe : Json → Bool → Report Failure (String × Option Escape)

/-- A host that makes nothing of a document without a catalog. -/
def Host.plain (depth : Nat) (terminal : Bool) : Host where
  depth := depth
  console := if terminal then id else Wide.withoutSequences
  console_text s hs := by
    cases terminal with
    | true => rfl
    | false => exact Wide.withoutSequences_text hs
  render _ _ := .fail (.escaped (.raised "TypeError" "there is no catalog"))
  describe _ _ := .fail (.escaped (.raised "TypeError" "there is no catalog"))

structure Plan where
  /-- The folder to make first. -/
  folder : Option Path
  /-- The files to write, with their texts. -/
  files : List (String × Wide)
  /-- What to print after that. -/
  output : String
  /-- Why printing breaks off there, if it does. -/
  failure : Option Escape
  /-- What to report in the end. -/
  events : List Event
deriving Repr, Inhabited

/-- A plan that only prints, and all or nothing. -/
def Plan.print : Wide → Plan
  | .text s => ⟨none, [], s, none, []⟩
  | w => ⟨none, [], "", w.fault?.map .encoding, []⟩

def Plan.summary (s : Summary) : Plan := ⟨none, [], s.text, s.fault.map .summary, []⟩

/-- Ends in a failure that an event tells. -/
def reject {α : Type} (description : String) : Report Failure α := do
  Report.tell [.failed description]
  Report.fail .reported

inductive Loaded where
  | catalog (c : Catalog)
  | untyped (document : Json)

/-- Goes on after a source without a catalog, if that is possible. -/
def recover : SourceError → Report Failure Loaded
  | .untyped j => pure (.untyped j)
  | .declarations (.syntaxError e) => reject e.title
  | .declarations (.invalid e) => reject e.message
  | e => .fail (.escaped (.source e))

def load (host : Host) (path : String) (content : Except FileError (List Nat)) :
    Report Failure Loaded :=
  match content with
  | .error e => .fail (.escaped (.file e))
  | .ok bytes => (Loaded.catalog <$> Source.load host.depth path bytes).rescue recover

def render (host : Host) (options : Options) : Loaded → Report Failure Wide
  | .catalog c => do
    let m ← (Generated.module c options).rescue fun e => reject e.message
    return .text m.text
  | .untyped j => host.render j options

/-- The plan to summarise what was found. -/
def describe (host : Host) (asObject : Bool) : Loaded → Report Failure Plan
  | .catalog c => do
    let s ← (c.surface {}).rescue fun a => reject a.message
    return if asObject then .print (s.json.printLines "" ++ "\n" : String) else .summary s.summary
  | .untyped j => do
    let (output, failure) ← host.describe j asObject
    return ⟨none, [], output, failure, []⟩

def Task.input? : Task → Option String
  | .generate input .. | .summarize input _ => some (Path.ofText input).text
  | .library .. => none

def Task.plan (host : Host) (content : Except FileError (List Nat)) : Task → Report Failure Plan
  | .generate input output options => do
    let found ← load host input content
    let text ← render host options found
    match output with
    | none => return .print (host.console text)
    | some path => return ⟨none, [(path, text)], "", none, [.wrote path]⟩
  | .library folder name =>
    let place := Path.join (Path.ofText folder) (Path.ofText name)
    let files := Generated.Library.files.map fun f => ((place.child f.1).text, .text f.2)
    return ⟨some place, files, "Generated Python runtime in " ++ place.text ++ "\n", none, []⟩
  | .summarize input asObject => do
    let found ← load host input content
    describe host asObject found

end Marshal.Command
