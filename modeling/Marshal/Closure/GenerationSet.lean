import Marshal.Assoc
import Marshal.Closure.Reachable
import Marshal.Event

/-!
# Generation sets

The definitions that get converters in one run: the roots, and one definition for every other
reachable name. Definitions of one name outside the root module are taken one after the other and
have to agree in structure; all but one of them are merged. If they do not agree, nothing is
generated.
-/

namespace Marshal
set_option autoImplicit false

/-- Whether two fields have the same name, type name and kind; type arguments are not compared. -/
def Field.sameStructure (f g : Field) : Bool :=
  f.name == g.name && f.type.name == g.type.name && f.type.kind == g.type.kind

/-- Whether two lists agree member by member. -/
def agree {α : Type} (same : α → α → Bool) : List α → List α → Bool
  | [], [] => true
  | a :: as, b :: bs => same a b && agree same as bs
  | _, _ => false

/-- Whether two variants have the same name and fields of the same structure. -/
def Variant.sameStructure (v w : Variant) : Bool :=
  v.name == w.name && agree Field.sameStructure v.fields w.fields

/-- Whether two definitions have the same variants in the same order. -/
def Definition.sameStructure (d e : Definition) : Bool :=
  agree Variant.sameStructure d.variants e.variants

/-- A definition that was dropped in favour of another one. -/
structure MergeNote where
  dropped : Definition
  kept : Definition
deriving DecidableEq, Repr, Inhabited

def MergeNote.event (n : MergeNote) : Event := .merged n.dropped.fullName n.kept.fullName

/-- Two definitions share a name but not their structure. -/
structure Ambiguity where
  name : String
  firstModule : String
  secondModule : String
deriving DecidableEq, Repr, Inhabited

def Ambiguity.message (a : Ambiguity) : String :=
  "Duplicate datatype name '" ++ a.name ++ "' found in modules '" ++ a.firstModule ++ "' and '" ++
    a.secondModule ++ "' with different structures. Consider renaming one of the types."

/-- The definitions that get converters, in order. -/
structure GenerationSet where
  rootModule : String
  definitions : List Definition
  merged : List MergeNote
deriving DecidableEq, Repr, Inhabited

namespace GenerationSet

def names (g : GenerationSet) : List String := g.definitions.map (·.name)

def get? (g : GenerationSet) (name : String) : Option Definition :=
  g.definitions.find? (·.name == name)

end GenerationSet

/-- How far resolution has come: what was accepted, also by name, and what was merged. -/
structure Resolution where
  accepted : List Definition
  acceptedByName : List (String × Definition)
  merged : List MergeNote
deriving Repr, Inhabited

namespace Resolution

def start : Resolution := ⟨[], [], []⟩

/-- The definition that has a name already: a root, or else one that was accepted. -/
def existing? (rootsByName : List (String × Definition)) (name : String) (s : Resolution) :
    Option Definition :=
  match Assoc.find? (· == ·) name rootsByName with
  | some root => some root
  | none => Assoc.find? (· == ·) name s.acceptedByName

def accept (name : String) (d : Definition) (s : Resolution) : Resolution :=
  { s with
    accepted := s.accepted ++ [d]
    acceptedByName := Assoc.put (· == ·) name d s.acceptedByName }

def merge (n : MergeNote) (s : Resolution) : Resolution := { s with merged := s.merged ++ [n] }

/-- Takes a definition of a name; those of the root module are passed over. -/
def take (rootModule : String) (rootsByName : List (String × Definition)) (name : String)
    (s : Resolution) (candidate : Definition) : Report Ambiguity Resolution :=
  if candidate.moduleName == rootModule then pure s
  else
    match s.existing? rootsByName name with
    | none => pure (s.accept name candidate)
    | some kept =>
      if kept.sameStructure candidate then do
        Report.tell [MergeNote.event ⟨candidate, kept⟩]
        return s.merge ⟨candidate, kept⟩
      else .fail ⟨name, kept.moduleName, candidate.moduleName⟩

end Resolution

namespace Catalog

def settle (c : Catalog) (rootModule : String) (rootsByName : List (String × Definition))
    (s : Resolution) (name : String) : Report Ambiguity Resolution :=
  (c.lookup name).foldlM (Resolution.take rootModule rootsByName name) s

def resolveFrom (c : Catalog) (rootModule : String) (definitions : List Definition)
    (signatures : List Signature) : Report Ambiguity GenerationSet := do
  let roots := definitions.filter (·.moduleName == rootModule)
  let rootsByName := Assoc.putAll (· == ·) [] (roots.map fun d => (d.name, d))
  let names := c.reachable roots signatures
  Report.tell ((names.filter fun n => (c.lookup n).isEmpty).map .undefinedType)
  let s ← names.foldlM (c.settle rootModule rootsByName) .start
  return ⟨rootModule, roots ++ s.accepted, s.merged⟩

def firstModule (definitions : List Definition) : String :=
  match definitions with
  | d :: _ => d.moduleName
  | [] => ""

/-- Resolves a generation set; without a root module, that of the first definition is meant. -/
def resolve (c : Catalog) (definitions : List Definition) (signatures : List Signature)
    (rootModule : Option String) : Report Ambiguity GenerationSet :=
  c.resolveFrom (rootModule.getD (firstModule definitions)) definitions signatures

end Catalog

end Marshal
