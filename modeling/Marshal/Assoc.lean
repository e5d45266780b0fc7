/-!
# Association lists

Finite maps as lists of entries in the order in which their keys were first put, up to a given
equality of keys. Putting a value for a key that is there replaces the value and keeps the key.
-/

namespace Marshal.Assoc
set_option autoImplicit false

variable {α β : Type}

/-- The value at the first key that equals the given one. -/
def find? (eq : α → α → Bool) (key : α) : List (α × β) → Option β
  | [] => none
  | (k, v) :: rest => if eq k key then some v else find? eq key rest

/-- The entries after a value was put for a key. -/
def put (eq : α → α → Bool) (key : α) (value : β) : List (α × β) → List (α × β)
  | [] => [(key, value)]
  | (k, v) :: rest =>
    if eq k key then (k, value) :: rest else (k, v) :: put eq key value rest

/-- The entries after all the given ones were put, from left to right. -/
def putAll (eq : α → α → Bool) (entries new : List (α × β)) : List (α × β) :=
  new.foldl (fun es e => put eq e.1 e.2 es) entries

/-- The members of a list without those that equal an earlier one. -/
def distinct (eq : α → α → Bool) (xs : List α) : List α :=
  xs.foldl (fun seen x => if seen.any (eq · x) then seen else seen ++ [x]) []

@[simp] theorem find?_nil (eq : α → α → Bool) (key : α) :
    find? eq key ([] : List (α × β)) = none := rfl

@[simp] theorem put_nil (eq : α → α → Bool) (key : α) (value : β) :
    put eq key value [] = [(key, value)] := rfl

@[simp] theorem putAll_nil (eq : α → α → Bool) (entries : List (α × β)) :
    putAll eq entries [] = entries := rfl

@[simp] theorem putAll_cons (eq : α → α → Bool) (entries new : List (α × β)) (e : α × β) :
    putAll eq entries (e :: new) = putAll eq (put eq e.1 e.2 entries) new := rfl

end Marshal.Assoc
