import Marshal.Argument.Grammar
import Marshal.Text.Split

/-!
# Reading expressions

A text is read as an expression by the grammar. If it is none, it is read again with an eye on
mistakes. A fault of the tokens, also behind the place where reading ends, outdoes a mistake.
-/

namespace Marshal.Argument
set_option autoImplicit false

/-- Why a text is no expression. -/
inductive Refusal where
  | token (f : TokenFault)
  | mistake (m : Mistake)
deriving DecidableEq, Repr, Inhabited

namespace Refusal

def message : Refusal → String
  | .token f => f.message
  | .mistake m => m.message

def gapMessage : Refusal → String
  | .mistake (.text (.expression message)) => message
  | .token f => if f.isFirm then f.message else "f-string: " ++ f.message
  | .mistake m => "f-string: " ++ m.message

end Refusal

namespace Tokens

/-- Bounds the depth of a search by what is possible between two tokens. -/
def depthLimit : Nat := 4096

def parse (ts : Tokens) (test : List Token → Option Mistake) (r : Rule) (late : Bool) :
    Except Halt (Answer × Nat) := do
  let size := ts.tokens.length + 1
  let start : Progress := ⟨0, Array.replicate size []⟩
  let g : Grammar := ⟨ts, Rule.pattern test, Rule.isRemembered⟩
  let (answer, progress) ← (g.run (size * depthLimit) late (.rule r) 0).run start
  return (answer, progress.seen)

/-- The refusal for a mistake that was found in front of a token, after which the rest of the text
is looked at. -/
def rejected (ts : Tokens) (m : Mistake) (last : Option Token) : Refusal :=
  match ts.fault? with
  | some f =>
    if f.isFirm then .token f
    else
      match ts.open? with
      | some (c, line) =>
        if last.any (line < ·.line) then .token (.neverClosed c) else .mistake m
      | none => .mistake m
  | none => .mistake m

/-- The last of the tokens that have been looked at. -/
def lastSeen (ts : Tokens) (seen : Nat) : Option Token := (ts.tokens.take seen).getLast?

/-- The refusal for a halt. Behind the last token nothing is looked at any more. -/
def halted (ts : Tokens) : Halt → Refusal
  | .token f => .token f
  | .mistake m seen =>
    let last := ts.lastSeen seen
    if last.any (·.last) then .mistake m else ts.rejected m last

def toExpression (ts : Tokens) (test : List Token → Option Mistake) (r : Rule) :
    Except Refusal Node := do
  let (answer, seen) ← (ts.parse test r false).mapError ts.halted
  match answer with
  | some (e :: _, _) => return e
  | _ =>
    let (_, further) ← (ts.parse test r true).mapError ts.halted
    if (ts.lastSeen seen).any (·.kind == .indent) then throw (.mistake .indented)
    throw (ts.rejected .unknown (ts.lastSeen further))

end Tokens

/-- What is wrong with texts side by side. The expression of a gap is read between brackets; the
fuel bounds the depth of gaps in the texts of gaps. -/
def textMistake? : Nat → List Token → Option Mistake
  | 0, _ => none
  | fuel + 1, ts =>
    let test (line : Nat) (e : List Char) : Except String Unit :=
      match (Tokens.ofLine line ('(' :: (e ++ [')', '\n']))).toExpression (textMistake? fuel)
          .starExpressions with
      | .ok _ => .ok ()
      | .error r => .error r.gapMessage
    match Gap.checkAll test ts with
    | .ok _ => none
    | .error f => some (.text f)

def readExpression (cs : List Char) : Except Refusal Node :=
  let cs := Text.normalizeNewlines cs
  (Tokens.ofLine 1 cs).toExpression (textMistake? cs.length) .whole

end Marshal.Argument
