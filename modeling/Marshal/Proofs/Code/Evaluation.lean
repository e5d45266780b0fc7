import Marshal.Proofs.Code.Free
import Mathlib.Data.List.Forall2
import Marshal.Text.Blank
import Marshal.Value.Call

/-!
# What expressions mean

Expressions are evaluated over the values of the runtime, in an environment that gives the values of
variables and the name of the runtime. Where an expression fails it means nothing. Functions of one
variable mean functions on values, so a comprehension and a call of such a function evaluate what
they collect in the environment of the place where it stands.

In which order the members of a set are gone through is left open: the environment says so. The
value of an expression depends on its free names only (`eval_congr`).
-/

namespace Marshal.Code
set_option autoImplicit false

/-- The functions that generated code finds without the library. -/
inductive Builtin where
  | int
  | str
  | list
  | toNumber
  | stringToJson
  | seqToList
  | mapFromJson
deriving DecidableEq, Repr, Inhabited

namespace Builtin

def all : List Builtin := [.int, .str, .list, .toNumber, .stringToJson, .seqToList, .mapFromJson]

def name : Builtin → String
  | .int => "int"
  | .str => "str"
  | .list => "list"
  | .toNumber => "_to_number"
  | .stringToJson => "_string_to_json"
  | .seqToList => "_seq_to_list"
  | .mapFromJson => "_map_from_json"

def named? (name : String) : Option Builtin := all.find? (·.name == name)

end Builtin

section Traversals
variable {α β γ : Type}

/-- Two traversals in a row are one. -/
theorem mapM_bind_mapM (f : α → Option β) (g : β → Option γ) (xs : List α) :
    (xs.mapM f).bind (·.mapM g) = xs.mapM fun x => (f x).bind g := by
  induction xs with
  | nil => rfl
  | cons x xs ih =>
    simp only [List.mapM_cons, ← ih]
    cases f x with
    | none => rfl
    | some y =>
      cases xs.mapM f with
      | none => cases hy : g y <;> simp [hy]
      | some ys => simp

/-- A traversal gives a list exactly if each step gives the item at its place. -/
theorem mapM_eq_some_iff {f : α → Option β} {xs : List α} {ys : List β} :
    xs.mapM f = some ys ↔ List.Forall₂ (fun x y => f x = some y) xs ys := by
  induction xs generalizing ys with
  | nil => cases ys <;> simp
  | cons x xs ih =>
    rw [List.mapM_cons]
    constructor
    · intro h
      obtain ⟨y, hy, h⟩ := Option.bind_eq_some_iff.mp h
      obtain ⟨zs, hzs, h⟩ := Option.bind_eq_some_iff.mp h
      cases h
      exact .cons hy (ih.mp hzs)
    · rintro (_ | ⟨hy, hys⟩)
      simp [hy, ih.mpr hys]

end Traversals

namespace Meaning

/-- The number of a numeral; its digits may be grouped by single underscores. -/
def readDigits (cs : List Char) : Option Nat :=
  let groups := Text.between (· == '_') cs
  if groups.any (·.isEmpty) then none else (Text.readNumeral groups.flatten).toOption

/-- The whole number that a text stands for; blanks around it do not count. -/
def readNumber (s : String) : Option Int :=
  match Text.trim s.toList with
  | '-' :: cs => (readDigits cs).map fun n => -n
  | '+' :: cs => (readDigits cs).map fun n => n
  | cs => (readDigits cs).map fun n => n

def toInt : Value → Option Value
  | .bool b => some (.int (Value.number b))
  | .int n => some (.int n)
  | .text s => (readNumber s).map .int
  | _ => none

/-- Whether a whole number has no more digits than numerals may have. -/
def printable (n : Int) : Bool := (Nat.toDigits 10 n.natAbs).length ≤ Text.numeralLimit

def toText : Value → Option Value
  | .int n => if printable n then some (.text (toString n)) else none
  | v => v.plain.toOption.map .text

/-- Whole numbers as such; everything else stays as it is. -/
def toNumber : Value → Value
  | .bool b => .int (Value.number b)
  | v => v

section
variable (order : List Value → List Value)

/-- The items of a value in the order in which they are gone through. -/
def iterate : Value → Option (List Value)
  | .set _ vs | .frozen vs => some (order (vs.map Value.current))
  | v => v.items.toOption

/-- The items of a value as a list; nothing has none. -/
def seqToList : Value → Option Value
  | .null => some (.list [])
  | v => (iterate order v).map .list

def stringToJson : Value → Option Value
  | .null => some .null
  | .text s => some (.text s)
  | v =>
    match (v.member "VerbatimString").toOption with
    | some verbatim => (verbatim.apply [.bool false]).toOption
    | none => do return .text (← (Value.join (← iterate order v)).toOption)

end

/-- The entries of a plain object; what counts as false has none. -/
def entries? (v : Value) : Option (List (Value × Value)) :=
  if v.truthy then
    match v with
    | .dict es => some (es.map fun e => (e.1.current, e.2))
    | _ => none
  else some []

/-- A map with one entry more, for a key and a value that are converted. -/
def putConverted (key value : Value → Option Value) (m : Value) (e : Value × Value) :
    Option Value := do
  let update ← (m.member "update").toOption
  let k ← key e.1
  let v ← value e.2
  (update.apply [k, v]).toOption

/-- The map of a plain object whose keys and values are converted, put one after the other. -/
def mapFromJson (key value : Value → Option Value) (v : Value) : Option Value := do
  (← entries? v).foldlM (putConverted key value) Value.emptyMap

/-- A plain object with the given entries, put one after the other. -/
def dictOf (es : List (Value × Value)) : Option Value := do
  let fold ← (es.foldlM (fun es e => Value.updated es e.1 e.2) []).toOption
  return .dict fold

end Meaning

inductive Operand where
  | value (v : Value)
  /-- The library. -/
  | runtime
  | builtin (b : Builtin)
  /-- A function of one variable. -/
  | function (f : Value → Option Value)
deriving Inhabited

namespace Operand
open Meaning

def value? : Operand → Option Value
  | .value v => some v
  | _ => none

@[simp] theorem value?_value (v : Value) : (Operand.value v).value? = some v := rfl

@[simp] theorem bind_value? (o : Option Value) :
    (o.bind fun v => some (Operand.value v)).bind value? = o := by
  cases o <;> rfl

section
variable (order : List Value → List Value)

def on : Operand → Value → Option Value
  | .value f, v => (f.apply [v]).toOption
  | .runtime, _ => none
  | .builtin .int, v => toInt v
  | .builtin .str, v => toText v
  | .builtin .list, v => (iterate order v).map .list
  | .builtin .toNumber, v => some (toNumber v)
  | .builtin .stringToJson, v => stringToJson order v
  | .builtin .seqToList, v => seqToList order v
  | .builtin .mapFromJson, _ => none
  | .function f, v => f v

def call : Operand → List Operand → Option Value
  | .builtin .mapFromJson, [.value v, f, g] => mapFromJson (on order f) (on order g) v
  | .value f, args => do (f.apply (← args.mapM value?)).toOption
  | f, [.value v] => on order f v
  | _, _ => none

end

def member (name : String) : Operand → Option Value
  | .value v => (v.member name).toOption
  | .runtime => (Library.named name).toOption
  | _ => none

end Operand

structure Env where
  /-- The order in which the members of a set are gone through. -/
  order : List Value → List Value
  /-- The name of the library. -/
  runtime : String
  locals : List (String × Value)

namespace Env

def find? (env : Env) (name : String) : Option Operand :=
  match env.locals.lookup name with
  | some v => some (.value v)
  | none => if name = env.runtime then some .runtime else (Builtin.named? name).map .builtin

def bind (env : Env) (name : String) (v : Value) : Env :=
  { env with locals := (name, v) :: env.locals }

@[simp] theorem find?_bind_self (env : Env) (name : String) (v : Value) :
    (env.bind name v).find? name = some (.value v) := by
  simp [find?, bind]

theorem find?_bind_of_ne (env : Env) {name n : String} (v : Value) (h : n ≠ name) :
    (env.bind name v).find? n = env.find? n := by
  have hne : (n == name) = false := by simpa using h
  simp only [find?, bind, List.lookup_cons, hne]
  rfl

end Env

namespace Expr
open Meaning

mutual
def eval : Expr → Env → Option Operand
  | .name n, env => env.find? n
  | .str s, _ => some (.value (.text s))
  | .attr e member, env => do
    let object ← e.eval env
    return .value (← object.member member)
  | .item e i, env => do
    let v ← (e.eval env).bind Operand.value?
    return .value (← (v.item (.int i)).toOption)
  | .call f args, env => do
    let f ← f.eval env
    let args ← evalEach args env
    return .value (← f.call env.order args)
  | .orList e, env => do
    let v ← (e.eval env).bind Operand.value?
    return .value (if v.truthy then v else .list [])
  | .orDict e, env => do
    let v ← (e.eval env).bind Operand.value?
    return .value (if v.truthy then v else .dict [])
  | .group e, env => e.eval env
  | .list es, env => do
    let items ← evalEach es env
    return .value (.list (← items.mapM Operand.value?))
  | .dict es, env => do return .value (← dictOf (← evalEntries es env))
  | .listFor body x source, env => do
    let v ← (source.eval env).bind Operand.value?
    let items ← (← iterate env.order v).mapM fun item =>
      (body.eval (env.bind x item)).bind Operand.value?
    return .value (.list items)
  | .dictFor key value x source, env => do
    let v ← (source.eval env).bind Operand.value?
    let es ← (← iterate env.order v).mapM fun item => do
      let k ← (key.eval (env.bind x item)).bind Operand.value?
      let v ← (value.eval (env.bind x item)).bind Operand.value?
      return (k, v)
    return .value (← dictOf es)
  | .function x body, env =>
    some (.function fun v => (body.eval (env.bind x v)).bind Operand.value?)
  | .equal a b, env => do
    let v ← (a.eval env).bind Operand.value?
    let w ← (b.eval env).bind Operand.value?
    return .value (.bool (v.same w))
  | .present e, env => do
    let v ← (e.eval env).bind Operand.value?
    return .value (.bool (!v.same .null))

def evalEach : List Expr → Env → Option (List Operand)
  | [], _ => some []
  | e :: es, env => do
    let o ← e.eval env
    let os ← evalEach es env
    return o :: os

def evalEntries : List (String × Expr) → Env → Option (List (Value × Value))
  | [], _ => some []
  | (k, e) :: es, env => do
    let v ← (e.eval env).bind Operand.value?
    let es ← evalEntries es env
    return (.text k, v) :: es
end

def value (e : Expr) (env : Env) : Option Value := (e.eval env).bind Operand.value?

theorem evalEach_eq_mapM (es : List Expr) (env : Env) : evalEach es env = es.mapM (·.eval env) := by
  induction es with
  | nil => rfl
  | cons e es ih =>
    rw [evalEach, List.mapM_cons, ih]

end Expr

namespace Env

/-- Two environments go through sets alike and give the same meaning to names. -/
structure Agree (names : List String) (env env' : Env) : Prop where
  order : env.order = env'.order
  find : ∀ n ∈ names, env.find? n = env'.find? n

namespace Agree
variable {names names' : List String} {env env' : Env}

theorem mono (h : Agree names env env') (hsub : names' ⊆ names) : Agree names' env env' :=
  ⟨h.order, fun n hn => h.find n (hsub hn)⟩

theorem bind {x : String} (h : Agree (names.filter (· != x)) env env') (v : Value) :
    Agree names (env.bind x v) (env'.bind x v) := by
  refine ⟨h.order, fun n hn => ?_⟩
  by_cases hx : n = x
  · subst hx
    rw [find?_bind_self, find?_bind_self]
  · rw [find?_bind_of_ne env v hx, find?_bind_of_ne env' v hx]
    exact h.find n (List.mem_filter.mpr ⟨hn, by simpa using hx⟩)

end Agree

end Env

namespace Expr
open Env (Agree)

mutual
theorem eval_congr (e : Expr) {env env' : Env} (h : Agree e.free env env') :
    e.eval env = e.eval env' := by
  cases e with
  | name n => exact h.find n List.mem_cons_self
  | str s => rfl
  | attr e _ | item e _ | orList e | orDict e | group e | present e =>
    simp only [eval, eval_congr e h]
  | call f args =>
    have hf := eval_congr f (h.mono (List.subset_append_left _ _))
    have hargs := evalEach_congr args (h.mono (List.subset_append_right _ _))
    simp only [eval, hf, hargs, h.order]
  | list es => simp only [eval, evalEach_congr es h]
  | dict es => simp only [eval, evalEntries_congr es h]
  | listFor body x source =>
    have hsource := eval_congr source (h.mono (List.subset_append_right _ _))
    have hbody v := eval_congr body ((h.mono (List.subset_append_left _ _)).bind v)
    simp only [eval, hsource, hbody, h.order]
  | dictFor key value x source =>
    have hsource := eval_congr source (h.mono (List.subset_append_right _ _))
    have hboth v := (h.mono (List.subset_append_left _ _)).bind v
    have hkey v := eval_congr key ((hboth v).mono (List.subset_append_left _ _))
    have hvalue v := eval_congr value ((hboth v).mono (List.subset_append_right _ _))
    simp only [eval, hsource, hkey, hvalue, h.order]
  | function x body =>
    have hbody v := eval_congr body (h.bind v)
    simp only [eval, hbody]
  | equal a b =>
    have ha := eval_congr a (h.mono (List.subset_append_left _ _))
    have hb := eval_congr b (h.mono (List.subset_append_right _ _))
    simp only [eval, ha, hb]

theorem evalEach_congr (es : List Expr) {env env' : Env} (h : Agree (freeEach es) env env') :
    evalEach es env = evalEach es env' := by
  cases es with
  | nil => rfl
  | cons e es =>
    have he := eval_congr e (h.mono (List.subset_append_left _ _))
    have hes := evalEach_congr es (h.mono (List.subset_append_right _ _))
    simp only [evalEach, he, hes]

theorem evalEntries_congr (es : List (String × Expr)) {env env' : Env}
    (h : Agree (freeEntries es) env env') : evalEntries es env = evalEntries es env' := by
  cases es with
  | nil => rfl
  | cons e es =>
    obtain ⟨k, e⟩ := e
    have he := eval_congr e (h.mono (List.subset_append_left _ _))
    have hes := evalEntries_congr es (h.mono (List.subset_append_right _ _))
    simp only [evalEntries, he, hes]
end

end Expr

end Marshal.Code
