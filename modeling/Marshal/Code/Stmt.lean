import Marshal.Code.Expr

/-!
# Statements of generated code

The statements that converters and wrappers are made of, and their lines. Blocks are indented by
four blanks.
-/

namespace Marshal.Code
set_option autoImplicit false

def indent : String := "    "

/-- A statement of the generated language. -/
inductive Stmt where
  /-- `target = value` -/
  | assign (target : String) (value : Expr)
  /-- `target[key] = value` -/
  | assignItem (target : String) (key value : Expr)
  /-- `for a, b in source:` and a block. -/
  | forEach (binders : List String) (source : Expr) (body : List Stmt)
  /-- `if condition:` and a block. -/
  | when (condition : Expr) (body : List Stmt)
  /-- `return value` -/
  | ret (value : Expr)
  /-- `return` of a call with one argument a line. -/
  | retCall (function : Expr) (args : List Expr)
  /-- `return` of an object display with one entry a line. -/
  | retDict (entries : List (String × Expr))
  /-- `raise error` -/
  | raise (error : Expr)
deriving Repr, Inhabited

namespace Stmt

mutual
def lines (margin : String) : Stmt → List String
  | .assign x e => [margin ++ x ++ " = " ++ e.text]
  | .assignItem x k e => [margin ++ x ++ "[" ++ k.text ++ "] = " ++ e.text]
  | .forEach xs e body =>
    (margin ++ "for " ++ ", ".intercalate xs ++ " in " ++ e.text ++ ":") ::
      blockLines (margin ++ indent) body
  | .when e body => (margin ++ "if " ++ e.text ++ ":") :: blockLines (margin ++ indent) body
  | .ret e => [margin ++ "return " ++ e.text]
  | .retCall f args =>
    (margin ++ "return " ++ f.text ++ "(") ::
      ((Expr.texts args).map (fun t => margin ++ indent ++ t ++ ",") ++ [margin ++ ")"])
  | .retDict es =>
    (margin ++ "return \x7b") ::
      ((Expr.entryTexts es).map (fun t => margin ++ indent ++ t ++ ",") ++ [margin ++ "\x7d"])
  | .raise e => [margin ++ "raise " ++ e.text]

def blockLines (margin : String) : List Stmt → List String
  | [] => []
  | s :: ss => s.lines margin ++ blockLines margin ss
end

end Stmt

end Marshal.Code
