import Marshal.Proofs.Assoc
import Marshal.Proofs.Code.Evaluation
import Marshal.Proofs.Code.Part
import Marshal.Proofs.Value.Collection

/-!
# Object displays

A display may have several entries for one key. The object that it makes keeps the last of them.
-/

namespace Marshal
set_option autoImplicit false

namespace Value

def textKeyed (es : List (String × Value)) : List (Value × Value) :=
  es.map fun e => (.text e.1, e.2)

theorem equals_text (a b : String) : equals (.text a) (.text b) = (a == b) := by
  simp [equals, isMoved, isOne, identity, same]

theorem placeOf?_textKeyed (es : List (String × Value)) (key : String) :
    placeOf? (textKeyed es) (.text key) = es.findIdx? fun e => e.1 == key := by
  have hsettled : ∀ e ∈ textKeyed es, e.1.isMoved = false := by
    intro e he
    obtain ⟨e, -, rfl⟩ := List.mem_map.mp he
    rfl
  rw [placeOf?_eq hsettled, textKeyed, List.findIdx?_map]
  simp only [Function.comp_def, equals_text]

theorem updated_textKeyed (es : List (String × Value)) (key : String) (value : Value) :
    updated (textKeyed es) (.text key) value =
      .ok (textKeyed (Assoc.put (· == ·) key value es)) := by
  have hput : (es.findIdx? fun e => e.1 == key).elim (textKeyed es ++ [(.text key, value)])
      (fun i => (textKeyed es).modify i fun e => (e.1, value)) =
        textKeyed (Assoc.put (· == ·) key value es) := by
    induction es with
    | nil => rfl
    | cons e es ih =>
      obtain ⟨k, v⟩ := e
      rw [List.findIdx?_cons, Assoc.put]
      by_cases hk : k == key
      · rw [if_pos hk, if_pos hk]
        rfl
      · have hcons := congrArg ((Value.text k, v) :: ·) ih
        rw [if_neg hk, if_neg hk]
        refine Eq.trans ?_ hcons
        cases es.findIdx? fun e => e.1 == key <;> rfl
  rw [← hput, updated, requireHashable_eq_ok rfl, placeOf?_textKeyed]
  cases es.findIdx? fun e => e.1 == key <;> rfl

theorem toOption_lookup_textKeyed (es : List (String × Value)) (key : String) :
    (lookup (textKeyed es) (.text key)).toOption = Assoc.find? (· == ·) key es := by
  have hfind : ((es.findIdx? fun e => e.1 == key).bind ((textKeyed es)[·]?)).map (·.2) =
      Assoc.find? (· == ·) key es := by
    induction es with
    | nil => rfl
    | cons e es ih =>
      obtain ⟨k, v⟩ := e
      rw [List.findIdx?_cons, Assoc.find?]
      by_cases hk : k == key
      · rw [if_pos hk, if_pos hk]
        rfl
      · rw [if_neg hk, if_neg hk, ← ih]
        cases es.findIdx? fun e => e.1 == key <;> rfl
  rw [← hfind, lookup, requireHashable_eq_ok rfl, placeOf?_textKeyed]
  cases (es.findIdx? fun e => e.1 == key).bind ((textKeyed es)[·]?) with
  | some e => rfl
  | none => rfl

theorem foldlM_textKeyed (es new : List (String × Value)) :
    (textKeyed new).foldlM (fun es e => updated es e.1 e.2) (textKeyed es) =
      .ok (textKeyed (Assoc.putAll (· == ·) es new)) := by
  induction new generalizing es with
  | nil => rfl
  | cons e new ih =>
    have hcons : textKeyed (e :: new) = (.text e.1, e.2) :: textKeyed new := rfl
    rw [hcons, List.foldlM_cons, updated_textKeyed, Assoc.putAll_cons, ← ih]
    rfl

end Value

namespace Code

namespace Expr

def keys? : Expr → Option (List String)
  | .dict es => some (es.map (·.1))
  | _ => none

/-- An entry has the key of another, and its expression has the value of it. -/
def Evaluates (env : Env) (e : String × Expr) (v : String × Value) : Prop :=
  e.1 = v.1 ∧ e.2.value env = some v.2

theorem evalEntries_eq_some {es : List (String × Expr)} {env : Env}
    {ws : List (Value × Value)} (h : evalEntries es env = some ws) :
    ∃ vs, List.Forall₂ (Evaluates env) es vs ∧ ws = Value.textKeyed vs := by
  induction es generalizing ws with
  | nil =>
    cases h
    exact ⟨[], .nil, rfl⟩
  | cons e es ih =>
    obtain ⟨k, e⟩ := e
    rw [evalEntries] at h
    obtain ⟨v, hv, h⟩ := Option.bind_eq_some_iff.mp h
    obtain ⟨ws, hws, h⟩ := Option.bind_eq_some_iff.mp h
    cases h
    obtain ⟨vs, hvs, rfl⟩ := ih hws
    exact ⟨(k, v) :: vs, .cons ⟨rfl, hv⟩ hvs, rfl⟩

theorem value_dict {es : List (String × Expr)} {env : Env} {w : Value}
    (h : (Expr.dict es).value env = some w) :
    ∃ vs, List.Forall₂ (Evaluates env) es vs ∧
      w = .dict (Value.textKeyed (Assoc.putAll (· == ·) [] vs)) := by
  obtain ⟨o, ho, hw⟩ := Option.bind_eq_some_iff.mp h
  obtain ⟨ws, hws, ho⟩ := Option.bind_eq_some_iff.mp ho
  obtain ⟨vs, hvs, rfl⟩ := evalEntries_eq_some hws
  refine ⟨vs, hvs, ?_⟩
  have hdict : Meaning.dictOf (Value.textKeyed vs) =
      some (.dict (Value.textKeyed (Assoc.putAll (· == ·) [] vs))) := by
    have hfold := congrArg Except.toOption (Value.foldlM_textKeyed [] vs)
    exact congrArg (·.bind fun es => some (Value.dict es)) hfold
  rw [hdict] at ho
  cases ho
  cases hw
  rfl

theorem evaluates_getLast? {env : Env} {es : List (String × Expr)} {vs : List (String × Value)}
    (h : List.Forall₂ (Evaluates env) es vs) (key : String) :
    (es.filter (·.1 == key)).getLast?.bind (fun e => e.2.value env) =
      (vs.filter (·.1 == key)).getLast?.map (·.2) := by
  have hfilter : List.Forall₂ (Evaluates env) (es.filter (·.1 == key))
      (vs.filter (·.1 == key)) := by
    induction h with
    | nil => exact .nil
    | @cons e v es vs hev _ ih =>
      rw [List.filter_cons, List.filter_cons, hev.1]
      split
      · exact .cons hev ih
      · exact ih
  have hlast := List.forall₂_reverse_iff.mpr hfilter
  rw [List.getLast?_eq_head?_reverse, List.getLast?_eq_head?_reverse]
  generalize (es.filter (·.1 == key)).reverse = es', (vs.filter (·.1 == key)).reverse = vs' at hlast
  cases hlast with
  | nil => rfl
  | cons hev _ => exact hev.2

theorem item_dict {es : List (String × Expr)} {env : Env} {w : Value}
    (h : (Expr.dict es).value env = some w) (key : String) :
    (w.item (.text key)).toOption =
      (es.filter (·.1 == key)).getLast?.bind fun e => e.2.value env := by
  obtain ⟨vs, hvs, rfl⟩ := value_dict h
  rw [evaluates_getLast? hvs key, Value.item, Value.toOption_lookup_textKeyed, Assoc.find?_putAll,
    Assoc.find?_nil, Option.or_none]

end Expr

def Function.displays (f : Function) : List (List String) := f.parts.filterMap Expr.keys?

end Code

end Marshal
