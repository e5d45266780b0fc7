import Marshal.Command.Run

/-!
# The program

Carries out a command line: reads the input file, prints and writes what the plan says, and shows
events and failures on the error output.
-/

namespace Marshal.Program
set_option autoImplicit false

open Command

def fileErrorOf (path : String) (error : IO.Error) : FileError :=
  let cause := match error with
    | .alreadyExists .. => FileCause.exists
    | .inappropriateType .. => .isFolder
    | .noSuchThing .. => .notFolder
    | .invalidArgument .. => .tooLong
    | _ => .missing
  ⟨cause, path⟩

def contentOf (path : String) : IO (Except FileError (List Nat)) := do
  try
    let bytes ← IO.FS.readBinFile path
    return .ok (bytes.toList.map UInt8.toNat)
  catch e => return .error (fileErrorOf path e)

/-- How many arrays and objects may be in one another in a document. -/
def documentDepth : Nat := 985

/-- Carries out a plan, and tells where it breaks off. -/
def carryOut (p : Plan) : IO (Option Escape) := do
  if let some folder := p.folder then IO.FS.createDirAll folder.text
  for (path, text) in p.files do
    match text with
    | .text s => IO.FS.writeFile path s
    | .broken .. =>
      IO.FS.writeFile path ""
      return text.fault?.map .encoding
  IO.print p.output
  return p.failure

/-- Shows a text on the error output and ends with an exit code. -/
def endWith (code : UInt32) (text : String) : IO UInt32 := do
  IO.eprintln text
  return code

def escapeMessage : Escape → String
  | .file e => e.message
  | .source (.undecodable f) => f.message
  | .source (.json e) => e.message
  | .source (.document e) => e.message
  | .source (.declarations _) | .source (.untyped _) => ""
  | .summary fault => fault.message
  | .encoding fault => fault.message
  | .raised _ message => message

def perform (r : Request) : IO UInt32 := do
  let content ← match r.task.input? with
    | some path => contentOf path
    | none => pure (.ok [])
  let host := Host.plain documentDepth (← (← IO.getStdout).isTty)
  let report := r.task.plan host content
  let tell (es : List Event) : IO Unit :=
    (shown r.verbose es).forM fun e => IO.eprintln e.line
  tell report.events
  match report.outcome with
  | .error .reported => return 1
  | .error (.escaped e) => endWith 1 (escapeMessage e)
  | .ok plan =>
    try
      match ← carryOut plan with
      | some e => endWith 1 (escapeMessage e)
      | none =>
        tell plan.events
        return 0
    catch e => endWith 1 (toString e)

def start (args : List String) : IO UInt32 :=
  match Request.ofArguments args with
  | .error e => endWith 2 e.message
  | .ok r => perform r

end Marshal.Program

/-- Carries out the command line of the program. -/
def main (args : List String) : IO UInt32 := Marshal.Program.start args
