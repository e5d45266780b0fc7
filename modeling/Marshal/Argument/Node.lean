import Marshal.Argument.Quote

/-!
# Expressions of arguments

What tokens make up, as a tree: each node has a label and its parts. Brackets, commas and the like
are not kept.
-/

namespace Marshal.Argument
set_option autoImplicit false

inductive Label where
  | name
  | number
  /-- Texts side by side. -/
  | text
  | nothing
  | yes
  | no
  | dots
  | tuple
  | set
  | dict
  /-- A key with its value. -/
  | entry
  /-- A map whose entries are taken. -/
  | spread
  /-- A value whose items are taken. -/
  | starred
  | call
  /-- An argument with a name. -/
  | argument
  | attribute
  | unary
  | binary
  | logical
  | comparison
  | conditional
  | function
  /-- An expression with a name for its value. -/
  | named
  | generator
  | setFor
  | dictFor
  | yielded
  | awaited
deriving DecidableEq, Repr, Inhabited

def Label.title : Label → String
  | .name => "name"
  | .number | .text => "literal"
  | .nothing => "None"
  | .yes => "True"
  | .no => "False"
  | .dots => "ellipsis"
  | .tuple => "tuple"
  | .set => "set display"
  | .dict | .entry | .spread => "dict literal"
  | .starred => "starred"
  | .call | .argument => "function call"
  | .attribute => "attribute"
  | .unary | .binary | .logical => "expression"
  | .comparison => "comparison"
  | .conditional => "conditional expression"
  | .function => "lambda"
  | .named => "named expression"
  | .generator => "generator expression"
  | .setFor => "set comprehension"
  | .dictFor => "dict comprehension"
  | .yielded => "yield expression"
  | .awaited => "await expression"

inductive Node where
  | leaf (t : Token)
  | node (l : Label) (parts : List Node)
deriving Repr, Inhabited

namespace Node

def label? : Node → Option Label
  | leaf _ => none
  | node l _ => some l

def token? : Node → Option Token
  | leaf t => some t
  | node .. => none

def text : Node → String
  | leaf t => t.text
  | node .. => ""

def name? : Node → Option String
  | node .name [leaf t] => some t.text
  | _ => none

/-- Whether an expression is a quoted text with gaps. -/
def hasGaps : Node → Bool
  | leaf t => t.kind == .text && (Quote.ofToken t).hasGaps
  | node l parts => l == .text && parts.any fun
    | leaf t => (Quote.ofToken t).hasGaps
    | node .. => false

def title (e : Node) : String :=
  if e.hasGaps then "f-string expression"
  else
    match e with
    | leaf t => t.text
    | node l _ => l.title

mutual
/-- The part of an expression that keeps it from being the target of a loop. In front of the word
`in` the expression is read as a part of a comparison. -/
def unfit? : Node → Option Node
  | node .tuple parts => unfitPart? parts
  | node .starred [e] => unfit? e
  | node .comparison (left :: op :: _) => if op.text == "in" then unfit? left else none
  | node .name _ | node .attribute _ => none
  | e => some e

/-- The first part of expressions that keeps them from being the targets of a loop. -/
def unfitPart? : List Node → Option Node
  | [] => none
  | e :: es =>
    match unfit? e with
    | some u => some u
    | none => unfitPart? es
end

end Node

end Marshal.Argument
