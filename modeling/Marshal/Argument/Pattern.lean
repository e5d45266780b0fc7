import Marshal.Argument.Mistake
import Marshal.Argument.Tokens

/-!
# Patterns of tokens

A grammar is a pattern for each of its rules. A pattern is matched from a place on, and of a choice
the first alternative that fits is taken. It makes nodes of the tokens that it matches. Some
patterns stand for mistakes; what they match is refused. Most of them are looked for only when the
tokens are known to match in no other way.
-/

namespace Marshal.Argument
set_option autoImplicit false

/-- The rules of the grammar of expressions. -/
inductive Rule where
  | whole
  | expressions
  | expression
  | plainExpression
  | yielding
  | starExpressions
  | starExpression
  | starItems
  | starItem
  | assignment
  | namedExpression
  | disjunction
  | conjunction
  | inversion
  | comparison
  | comparisonPair
  | union
  | difference
  | intersection
  | shift
  | sum
  | term
  | factor
  | power
  | awaited
  | primary
  | atom
  | texts
  | group
  | tuple
  | set
  | dict
  | entries
  | entry
  | keyValue
  | clauses
  | clause
  | generator
  | setFor
  | dictFor
  | arguments
  | argumentList
  | namedArguments
  | starArgument
  | namedOrStarred
  | namedOrSpread
  | targets
  | targetList
  | target
  | targetAtom
  | targetPrimary
  | function
  | parameters
  | slashPlain
  | slashDefault
  | starParameters
  | spreadParameter
  | plainParameter
  | defaultParameter
  | anyParameter
  | default
  | badExpression
  | badCommand
  | badNamed
  | badArguments
  | badNamedArgument
  | badGenerator
  | badDictFor
  | badGroup
  | badEntries
  | badEntry
  | badTarget
  | badParameters
  | badStarParameters
  | badSpreadParameter
deriving DecidableEq, Repr, Inhabited

inductive Pattern where
  | empty
  /-- A token of a kind, kept as a leaf. -/
  | kind (k : Kind)
  /-- One of some names. -/
  | word (texts : List String)
  /-- A mark. -/
  | mark (text : String)
  /-- A mark that is kept as a leaf. -/
  | sign (text : String)
  | rule (r : Rule)
  | both (p q : Pattern)
  /-- The first of two patterns that fits. -/
  | either (p q : Pattern)
  /-- As often as it fits. -/
  | many (p : Pattern)
  /-- A pattern that follows, but is not taken. -/
  | ahead (p : Pattern)
  /-- A pattern that does not follow. -/
  | unless (p : Pattern)
  /-- A node of what is matched. -/
  | make (l : Label) (p : Pattern)
  /-- A node, and others that each take the one before as their first part. -/
  | grow (p q : Pattern)
  /-- What is matched without looking for mistakes. -/
  | plain (p : Pattern)
  /-- A pattern that is matched only where mistakes are looked for. -/
  | late (p : Pattern)
  /-- What is matched is refused, or is no match. -/
  | mistake (p : Pattern) (m : List Node → Option Mistake)
  /-- What is matched is refused if something is wrong with it. -/
  | checked (p : Pattern) (m : List Node → Option Mistake)
  /-- The token in front is within brackets. -/
  | inside

namespace Pattern

def seq : List Pattern → Pattern
  | [] => .empty
  | [p] => p
  | p :: ps => .both p (seq ps)

def choice : List Pattern → Pattern
  | [] => .unless .empty
  | [p] => p
  | p :: ps => .either p (choice ps)

def optional (p : Pattern) : Pattern := .either p .empty

def some (p : Pattern) : Pattern := .both p (.many p)

/-- A pattern once or more, with marks between. -/
def separated (text : String) (p : Pattern) : Pattern := .both p (.many (.both (.mark text) p))

def refuse (ps : List Pattern) (m : Mistake) : Pattern := .mistake (seq ps) fun _ => Option.some m

end Pattern

/-- What a pattern matches: its nodes and the place behind it, if it fits. -/
abbrev Answer := Option (List Node × Nat)

/-- What is known of tokens that are being matched. -/
structure Progress where
  /-- The number of tokens that have been looked at. -/
  seen : Nat
  /-- The answers for rules, by the places where they were matched. -/
  memory : Array (List (Rule × Answer))
deriving Repr, Inhabited

/-- Why matching is broken off. -/
inductive Halt where
  /-- A token is wanted where none can be read. -/
  | token (f : TokenFault)
  /-- A mistake is found after a number of tokens have been looked at. -/
  | mistake (m : Mistake) (seen : Nat)
deriving DecidableEq, Repr, Inhabited

/-- Tokens and what they are matched with. -/
structure Grammar where
  tokens : Tokens
  pattern : Rule → Pattern
  /-- Whether a rule is matched only once at a place. -/
  remembers : Rule → Bool

/-- An answer that comes with progress, unless matching is broken off. -/
abbrev Matching := StateT Progress (Except Halt) Answer

namespace Grammar

def token (g : Grammar) (place : Nat) : StateT Progress (Except Halt) (Option Token) := do
  modify fun s => { s with seen := max s.seen (place + 1) }
  match g.tokens.tokens[place]?, g.tokens.fault? with
  | none, some f => throw (.token f)
  | t, _ => return t

def one (g : Grammar) (test : Token → Bool) (keep : Bool) (place : Nat) : Matching := do
  match ← g.token place with
  | some t => return if test t then some (if keep then [.leaf t] else [], place + 1) else none
  | none => return none

def under (first : List Node) : List Node → List Node
  | .node l parts :: rest => .node l (first ++ parts) :: rest
  | nodes => first ++ nodes

def refuse (m : Mistake) : Matching := do throw (.mistake m (← get).seen)

/-- Matches a pattern from a place on. The fuel bounds the depth of the search. -/
def run (g : Grammar) : Nat → Bool → Pattern → Nat → Matching
  | 0, _, _, _ => return none
  | fuel + 1, late, p, i =>
    match p with
    | .empty => return some ([], i)
    | .kind k => g.one (fun t => t.kind == k) true i
    | .word texts => g.one (fun t => t.kind == .name && texts.contains t.text) true i
    | .mark text => g.one (fun t => t.kind == .mark && t.text == text) false i
    | .sign text => g.one (fun t => t.kind == .mark && t.text == text) true i
    | .rule r => do
      if !g.remembers r then run g fuel late (g.pattern r) i
      else
        match ((← get).memory.getD i []).lookup r with
        | some answer => return answer
        | none =>
          let answer ← run g fuel late (g.pattern r) i
          modify fun s => { s with memory := s.memory.modify i ((r, answer) :: ·) }
          return answer
    | .both p q => do
      match ← run g fuel late p i with
      | none => return none
      | some (ns, j) => return (← run g fuel late q j).map fun (ms, k) => (ns ++ ms, k)
    | .either p q => do
      match ← run g fuel late p i with
      | none => run g fuel late q i
      | answer => return answer
    | .many p => do
      match ← run g fuel late p i with
      | none => return some ([], i)
      | some (ns, j) =>
        if j ≤ i then return some ([], i)
        else return (← run g fuel late (.many p) j).map fun (ms, k) => (ns ++ ms, k)
    | .ahead p => return (← run g fuel late p i).map fun _ => ([], i)
    | .unless p => return if (← run g fuel late p i).isSome then none else some ([], i)
    | .make l p => return (← run g fuel late p i).map fun (ns, j) => ([.node l ns], j)
    | .grow p q => do
      match ← run g fuel late p i with
      | none => return none
      | some (ns, j) => more g fuel late q ns j
    | .plain p => run g fuel false p i
    | .late p => if late then run g fuel late p i else return none
    | .mistake p m => do
      match ← run g fuel late p i with
      | none => return none
      | some (ns, _) =>
        match m ns with
        | some m => refuse m
        | none => return none
    | .checked p m => do
      match ← run g fuel late p i with
      | none => return none
      | some (ns, j) =>
        match m ns with
        | some m => refuse m
        | none => return some (ns, j)
    | .inside => return if (g.tokens.tokens[i - 1]?.any (·.depth != 0)) then some ([], i) else none
where
  /-- Goes on with a pattern as often as it fits, from the nodes so far. -/
  more (g : Grammar) : Nat → Bool → Pattern → List Node → Nat → Matching
    | 0, _, _, _, _ => return none
    | fuel + 1, late, q, ns, i => do
      match ← run g fuel late q i with
      | none => return some (ns, i)
      | some (ms, j) => more g fuel late q (under ns ms) j

end Grammar

end Marshal.Argument
