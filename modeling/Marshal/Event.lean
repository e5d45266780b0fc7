/-!
# Events

What a run reports beside its result: declarations it passes over, types it takes as they are, and
files it writes. A `Report` is a computation that collects such events on its way to a value or a
failure; the events never influence its outcome.
-/

namespace Marshal
set_option autoImplicit false

inductive Level where
  | debug
  | info
  | error
deriving DecidableEq, Repr, Inhabited

def Level.word : Level → String
  | .debug => "DEBUG"
  | .info => "INFO"
  | .error => "ERROR"

/-- Whether an event of a level is shown where only the more important ones are. -/
def Level.isImportant : Level → Bool
  | .debug => false
  | .info | .error => true

/-- Something a run reports. -/
inductive Event where
  /-- An abstract module declares nothing that can be converted. -/
  | abstractModule (moduleName : String)
  /-- A ghost function is not offered to callers. -/
  | ghostFunction (moduleName name : String)
  /-- A written type names nothing that is known. -/
  | unknownType (name : String)
  /-- A referenced datatype has no definition in the catalog. -/
  | undefinedType (name : String)
  /-- A definition was dropped in favour of an identical one. -/
  | merged (droppedFullName keptFullName : String)
  /-- Converters are about to be written for the named datatypes. -/
  | generating (names : List String)
  /-- An App member was left out because its name is taken. -/
  | takenMember (name : String)
  /-- A constructor was left out because a function has its name. -/
  | shadowedConstructor (name : String)
  /-- A function wrapper was left out because the action or the model covers it. -/
  | coveredWrapper (name : String)
  /-- A file was written. -/
  | wrote (file : String)
  /-- The run ended in a failure described by the text. -/
  | failed (description : String)
deriving DecidableEq, Repr, Inhabited

namespace Event

def level : Event → Level
  | .merged .. | .wrote _ => .info
  | .failed _ => .error
  | _ => .debug

def message : Event → String
  | .abstractModule m => "Skipping abstract module " ++ m
  | .ghostFunction m f => "Skipping ghost function " ++ m ++ "." ++ f
  | .unknownType n => "Treating unknown type '" ++ n ++ "' as opaque"
  | .undefinedType n => "No definition for referenced type '" ++ n ++ "'; not expanding it"
  | .merged d k => "Skipping duplicate type '" ++ d ++ "' (identical to '" ++ k ++ "')"
  | .generating ns =>
    "Generating converters for " ++ toString ns.length ++ " datatypes: " ++ ", ".intercalate ns
  | .takenMember n => "Skipping App member '" ++ n ++ "': name already taken"
  | .shadowedConstructor n => "Skipping constructor '" ++ n ++ "': shadowed by a function"
  | .coveredWrapper n => "Skipping wrapper for '" ++ n ++ "': covered by the action or model"
  | .wrote f => "Wrote " ++ f
  | .failed d => d

/-- The level's word and the message. -/
def line (e : Event) : String := e.level.word ++ " " ++ e.message

end Event

/-- A computation that reports events on its way to a value or a failure. -/
structure Report (ε α : Type) where
  events : List Event
  outcome : Except ε α

namespace Report

variable {ε ε' α β : Type}

instance : Monad (Report ε) where
  pure a := ⟨[], .ok a⟩
  bind r f :=
    match r.outcome with
    | .error e => ⟨r.events, .error e⟩
    | .ok a => ⟨r.events ++ (f a).events, (f a).outcome⟩

def fail (e : ε) : Report ε α := ⟨[], .error e⟩

def tell (es : List Event) : Report ε Unit := ⟨es, .ok ()⟩

def ofExcept (x : Except ε α) : Report ε α := ⟨[], x⟩

def mapError (f : ε → ε') (r : Report ε α) : Report ε' α :=
  ⟨r.events, r.outcome.mapError f⟩

/-- Goes on after a failure, behind what was reported up to it. -/
def rescue (r : Report ε α) (handler : ε → Report ε' α) : Report ε' α :=
  match r.outcome with
  | .ok a => ⟨r.events, .ok a⟩
  | .error e => ⟨r.events ++ (handler e).events, (handler e).outcome⟩

@[simp] theorem outcome_pure (a : α) : (pure a : Report ε α).outcome = .ok a := rfl

@[simp] theorem outcome_tell (es : List Event) : (tell es : Report ε Unit).outcome = .ok () := rfl

@[simp] theorem outcome_fail (e : ε) : (fail e : Report ε α).outcome = .error e := rfl

@[simp] theorem outcome_ofExcept (x : Except ε α) : (ofExcept x).outcome = x := rfl

/-- Events have no influence on the outcome. -/
@[simp] theorem outcome_bind (r : Report ε α) (f : α → Report ε β) :
    (r >>= f).outcome = r.outcome >>= fun a => (f a).outcome := by
  rcases r with ⟨_, _ | _⟩ <;> rfl

end Report

end Marshal
