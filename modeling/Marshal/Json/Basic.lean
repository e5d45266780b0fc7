import Marshal.Text.Wide

/-!
# JSON values

Objects keep the order and the repetitions of their keys; looking a key up finds its last value.
Strings and keys can hold halves of surrogate pairs.
-/

namespace Marshal
set_option autoImplicit false

/-- A JSON value. Numbers with a fraction or an exponent are kept as they are written. -/
inductive Json where
  | null
  | bool (value : Bool)
  | int (value : Int)
  | real (text : String)
  | str (value : Text.Wide)
  | arr (items : List Json)
  | obj (entries : List (Text.Wide × Json))
deriving Repr, Inhabited

namespace Json

/-- The value of the last entry with a key. -/
def field? (entries : List (Text.Wide × Json)) (key : String) : Option Json :=
  (entries.reverse.find? (·.1 == .text key)).map (·.2)

/-- The entry of an object; other values have none. -/
def get? (j : Json) (key : String) : Option Json :=
  match j with
  | .obj entries => field? entries key
  | _ => none

/-- The keys of an object, each at its first place. -/
def keys (entries : List (Text.Wide × Json)) : List Text.Wide :=
  entries.foldl (fun ks e => if e.1 ∈ ks then ks else ks ++ [e.1]) []

end Json

end Marshal
