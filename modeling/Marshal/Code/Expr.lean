import Marshal.Text.Literal

/-!
# Expressions of generated code

The forms that conversions are made of, and their text. Variables are bound by comprehensions and by
functions of one variable; everything else refers to names.
-/

namespace Marshal.Code
set_option autoImplicit false

/-- An expression of the generated language. -/
inductive Expr where
  /-- A name, or any text that stands for an expression as it is. -/
  | name (text : String)
  /-- A string. -/
  | str (value : String)
  /-- `object.member` -/
  | attr (object : Expr) (member : String)
  /-- `object[i]` -/
  | item (object : Expr) (index : Nat)
  /-- `function(a, b)` -/
  | call (function : Expr) (args : List Expr)
  /-- `object or []` -/
  | orList (object : Expr)
  /-- `object or {}` -/
  | orDict (object : Expr)
  /-- `(object)` -/
  | group (object : Expr)
  /-- `[a, b]` -/
  | list (items : List Expr)
  /-- An object display on one line. -/
  | dict (entries : List (String × Expr))
  /-- `[body for binder in source]` -/
  | listFor (body : Expr) (binder : String) (source : Expr)
  /-- An object display with `key: value for binder in source` between its braces. -/
  | dictFor (key value : Expr) (binder : String) (source : Expr)
  /-- `lambda binder: body` -/
  | function (binder : String) (body : Expr)
  /-- `left == right` -/
  | equal (left right : Expr)
  /-- `object is not None` -/
  | present (object : Expr)
deriving Repr, Inhabited

namespace Expr

def callAttr (object : Expr) (member : String) (args : List Expr) : Expr :=
  .call (.attr object member) args

/-- Whether an expression is nothing but the given name. -/
def isName : Expr → String → Bool
  | .name n, x => n == x
  | _, _ => false

mutual
def text : Expr → String
  | .name n => n
  | .str s => Text.quoted s
  | .attr e a => e.text ++ "." ++ a
  | .item e i => e.text ++ "[" ++ toString i ++ "]"
  | .call f args => f.text ++ "(" ++ ", ".intercalate (texts args) ++ ")"
  | .orList e => e.text ++ " or []"
  | .orDict e => e.text ++ " or \x7b\x7d"
  | .group e => "(" ++ e.text ++ ")"
  | .list es => "[" ++ ", ".intercalate (texts es) ++ "]"
  | .dict es => "\x7b" ++ ", ".intercalate (entryTexts es) ++ "\x7d"
  | .listFor b x s => "[" ++ b.text ++ " for " ++ x ++ " in " ++ s.text ++ "]"
  | .dictFor k v x s =>
    "\x7b" ++ k.text ++ ": " ++ v.text ++ " for " ++ x ++ " in " ++ s.text ++ "\x7d"
  | .function x b => "lambda " ++ x ++ ": " ++ b.text
  | .equal a b => a.text ++ " == " ++ b.text
  | .present e => e.text ++ " is not None"

def texts : List Expr → List String
  | [] => []
  | e :: es => e.text :: texts es

def entryTexts : List (String × Expr) → List String
  | [] => []
  | (k, e) :: es => (Text.quoted k ++ ": " ++ e.text) :: entryTexts es
end

end Expr

end Marshal.Code
