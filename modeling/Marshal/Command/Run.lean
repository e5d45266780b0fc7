import Marshal.Command.Plan

/-!
# Runs

A command line carried out in a directory.
-/

namespace Marshal.Command
set_option autoImplicit false

open Text (Wide)

structure Outcome where
  exitCode : Nat
  output : String
  events : List Event
  directory : Directory
  escaped : Option Escape
deriving Repr, Inhabited

/--
The directory after files were written, as far as that is possible. A file is emptied before its
text is looked at.
-/
def writeAll (d : Directory) : List (String × Wide) → Directory × Option Escape
  | [] => (d, none)
  | (path, text) :: rest =>
    match d.write path text.bytes with
    | .error e => (d, some (.file e))
    | .ok d' =>
      match text.fault? with
      | none => writeAll d' rest
      | some fault => (d', some (.encoding fault))

/-- The directory after a plan was carried out, as far as that is possible. -/
def Plan.carryOut (p : Plan) (d : Directory) : Directory × Option Escape :=
  match p.folder with
  | none => writeAll d p.files
  | some folder =>
    match d.makeFolder folder with
    | .ok d' => writeAll d' p.files
    | .error e => (d, some (.file e))

def shown (verbose : Bool) (events : List Event) : List Event :=
  events.filter fun e => verbose || e.level.isImportant

def Task.content (t : Task) (d : Directory) : Except FileError (List Nat) :=
  match t.input? with
  | some path => d.read path
  | none => .ok []

def Request.run (host : Host) (r : Request) (d : Directory) : Outcome :=
  let report := r.task.plan host (r.task.content d)
  let events := shown r.verbose report.events
  match report.outcome with
  | .error .reported => ⟨1, "", events, d, none⟩
  | .error (.escaped e) => ⟨1, "", events, d, some e⟩
  | .ok plan =>
    match plan.carryOut d with
    | (d', some e) => ⟨1, "", events, d', some e⟩
    | (d', none) =>
      ⟨if plan.failure.isSome then 1 else 0, plan.output, events ++ shown r.verbose plan.events, d',
        plan.failure⟩

/-- Carries out a command line; one that cannot be followed does nothing. -/
def run (host : Host) (args : List String) (d : Directory) : Outcome :=
  match Request.ofArguments args with
  | .error _ => ⟨2, "", [], d, none⟩
  | .ok r => r.run host d

end Marshal.Command
