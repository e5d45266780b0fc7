/-!
# Type annotations of generated code
-/

namespace Marshal.Code
set_option autoImplicit false

inductive TypeHint where
  /-- A type that is in scope. -/
  | name (text : String)
  /-- A type that may be declared further down, in quotes. -/
  | forward (text : String)
  /-- `head[a, b]` -/
  | apply (head : String) (args : List TypeHint)
deriving Repr, Inhabited

namespace TypeHint

mutual
def text : TypeHint → String
  | .name n => n
  | .forward n => "\"" ++ n ++ "\""
  | .apply h as => h ++ "[" ++ ", ".intercalate (texts as) ++ "]"

def texts : List TypeHint → List String
  | [] => []
  | a :: as => a.text :: texts as
end

end TypeHint

end Marshal.Code
