import Marshal.Proofs.Text.Numeral
import Marshal.Value.Call

/-!
# Functions that build tuples

The library offers a function that builds tuples of `n` items under every name that is `Tuple` and a
numeral of `n`, whatever scripts its digits are of. A name that ends in digits which stand in no
numeral, or in too many of them, is taken for such a name too, and fails when the number is to be
read. All other names are unknown.
-/

namespace Marshal
set_option autoImplicit false

namespace Value

/-- A function builds tuples of `n` items: it takes so many and puts them together in order. -/
def BuildsTuples (f : Value) (n : Nat) : Prop :=
  ∀ items : List Value, f.apply items =
    if items.length = n then .ok (.tuple items) else .error (.itemCount (toString n) items.length)

theorem buildsTuples (id : Identity) (name : String) (n : Nat) :
    BuildsTuples (.tupleBuilder id name (.int n)) n := by
  intro items
  have hsame : same (.int items.length) (.int n) = decide (items.length = n) := by
    rw [same, Bool.eq_iff_iff, beq_iff_eq, decide_eq_true_iff, Int.natCast_inj]
  change tupleOf (.int n) items = _
  rw [tupleOf, hsame]
  by_cases h : items.length = n
  · rw [if_pos (decide_eq_true h), if_pos h]
    rfl
  · rw [if_neg (by simp [h]), if_neg h]
    rfl

end Value

namespace Library

/-- What else the library has under a name: what it offers, its parts, and what every module has. -/
def attributes : List String :=
  ["Seq", "Set", "Map", "Datatype", "UnknownVariantError", "datatype", "tuple_constructor",
   "__getattr__", "datatypes", "values", "__name__", "__package__", "__doc__", "__file__",
   "__path__", "__spec__", "__loader__", "__cached__", "__builtins__", "__class__", "__dict__",
   "__annotations__"] ++ Value.commonNames

def IsTupleName (name : String) (n : Nat) : Prop :=
  ∃ digits, name.toList = "Tuple".toList ++ digits ∧ Text.Denotes digits n

/-- The digits behind `Tuple` are those of a numeral, and not too many. -/
def IsReadable (name : String) : Prop :=
  ∀ digits, digits ≠ [] → name.toList = "Tuple".toList ++ digits →
    (∀ c ∈ digits, Text.isAnyDigit c) →
      (∀ c ∈ digits, Text.isDecimal c) ∧ digits.length ≤ Text.numeralLimit

/-- A name leads to the function that builds tuples of as many items as it says, or to nothing. -/
structure Resolves (name : String) : Prop where
  tuple : ∀ n, IsTupleName name n → ∃ f, named name = .ok f ∧ f.BuildsTuples n
  unknown : (∀ n, ¬ IsTupleName name n) → named name = .error (.noLibraryMember name)

theorem named_eq_tupleNamed {name : String} (h : name ∉ attributes) :
    named name = tupleNamed name := by
  unfold named
  split <;> first | rfl | exact absurd (by decide) h

theorem tupleDigits?_eq_some_iff {name : String} {digits : List Char} :
    tupleDigits? name = some digits ↔
      digits ≠ [] ∧ name.toList = "Tuple".toList ++ digits ∧ ∀ c ∈ digits, Text.isAnyDigit c := by
  rw [tupleDigits?]
  by_cases hprefix : "Tuple".toList <+: name.toList
  · obtain ⟨rest, hrest⟩ := hprefix
    have hdrop : ("Tuple".toList ++ rest).drop 5 = rest := rfl
    rw [if_pos (List.isPrefixOf_iff_prefix.mpr ⟨rest, hrest⟩), ← hrest, hdrop,
      List.append_cancel_left_eq, Option.ite_none_right_eq_some, Option.some.injEq]
    simp only [Bool.and_eq_true, Bool.not_eq_true', List.isEmpty_eq_false_iff, List.all_eq_true]
    constructor
    · rintro ⟨⟨hne, hall⟩, rfl⟩
      exact ⟨hne, rfl, hall⟩
    · rintro ⟨hne, rfl, hall⟩
      exact ⟨⟨hne, hall⟩, rfl⟩
  · rw [if_neg (by simpa using hprefix)]
    refine iff_of_false nofun ?_
    rintro ⟨-, hname, -⟩
    exact hprefix ⟨digits, hname.symm⟩

theorem tupleNamed_of_digits {name : String} {digits : List Char} {n : Nat}
    (h : tupleDigits? name = some digits) (hread : Text.readNumeral digits = .ok n) :
    tupleNamed name = .ok (.tupleBuilder .fresh ("Tuple" ++ toString n) (.int n)) := by
  rw [tupleNamed, h]
  dsimp only
  rw [hread]
  rfl

theorem IsTupleName.exists_digits {name : String} {n : Nat} (h : IsTupleName name n) :
    ∃ digits, tupleDigits? name = some digits ∧ Text.Denotes digits n := by
  obtain ⟨digits, hname, hdigits⟩ := h
  refine ⟨digits, tupleDigits?_eq_some_iff.mpr ⟨hdigits.1, hname, ?_⟩, hdigits⟩
  intro c hc
  rw [Text.isAnyDigit, hdigits.isDecimal c hc, Bool.true_or]

/-- Whether digits behind `Tuple` can be read decides between the function and a failure. -/
theorem resolves_of_isReadable {name : String} (hname : name ∉ attributes) (h : IsReadable name) :
    Resolves name := by
  rw [IsReadable] at h
  constructor
  · intro n hn
    obtain ⟨digits, hdigits, hdenotes⟩ := hn.exists_digits
    obtain ⟨hne, hsplit, hall⟩ := tupleDigits?_eq_some_iff.mp hdigits
    have hread := Text.readNumeral_eq_ok_iff.mpr ⟨hdenotes, (h digits hne hsplit hall).2⟩
    exact ⟨_, (named_eq_tupleNamed hname).trans (tupleNamed_of_digits hdigits hread),
      Value.buildsTuples _ _ n⟩
  · intro hnone
    have hdigits : Library.tupleDigits? name = none := by
      by_contra hsome
      obtain ⟨digits, hdigits⟩ := Option.ne_none_iff_exists'.mp hsome
      obtain ⟨hne, hsplit, hall⟩ := tupleDigits?_eq_some_iff.mp hdigits
      obtain ⟨n, hn⟩ := Text.exists_denotes hne (h digits hne hsplit hall).1
      exact hnone n ⟨digits, hsplit, hn⟩
    rw [named_eq_tupleNamed hname, tupleNamed, hdigits]

theorem named_of_not_isReadable {name : String} (hname : name ∉ attributes)
    (h : ¬ IsReadable name) : ∃ fault, named name = .error (.numeral fault) := by
  simp only [IsReadable, not_forall] at h
  obtain ⟨digits, hne, hsplit, hall, hread⟩ := h
  have hdigits := tupleDigits?_eq_some_iff.mpr ⟨hne, hsplit, hall⟩
  cases hnumeral : Text.readNumeral digits with
  | ok n =>
    obtain ⟨hdenotes, hlength⟩ := Text.readNumeral_eq_ok_iff.mp hnumeral
    exact absurd ⟨hdenotes.isDecimal, hlength⟩ hread
  | error fault =>
    refine ⟨fault, ?_⟩
    rw [named_eq_tupleNamed hname, tupleNamed, hdigits]
    dsimp only
    rw [hnumeral]
    rfl

/-- The name of the function that builds triples, with a digit of another script. -/
def tripleName : String := "Tuple\u0663"

def raisedName : String := "Tuple\u00b2"

/-- Under a name that has no other meaning the library offers the function that builds tuples of as
many items as a numeral behind `Tuple` says, and nothing under any other name, unless digits behind
`Tuple` cannot be read. -/
theorem tuples_resolved {name : String} (h : name ∉ attributes) :
    (IsReadable name → Resolves name) ∧
      (¬ IsReadable name → ∃ fault, named name = .error (.numeral fault)) :=
  ⟨resolves_of_isReadable h, named_of_not_isReadable h⟩

theorem tuples_resolved_triple :
    tripleName ∉ attributes ∧ IsReadable tripleName ∧ IsTupleName tripleName 3 ∧
      ∃ f, named tripleName = .ok f ∧ f.BuildsTuples 3 := by
  have hname : tripleName ∉ attributes := by decide
  have hdenotes : Text.Denotes ['\u0663'] 3 := ⟨by decide, [3], .cons (by decide) .nil, rfl⟩
  have hthree : IsTupleName tripleName 3 := ⟨_, rfl, hdenotes⟩
  have hreadable : IsReadable tripleName := by
    intro digits hne hsplit hall
    have hsplit : "Tuple".toList ++ ['\u0663'] = "Tuple".toList ++ digits := hsplit
    obtain rfl := List.append_cancel_left hsplit
    exact ⟨hdenotes.isDecimal, by decide⟩
  exact ⟨hname, hreadable, hthree, ((tuples_resolved hname).1 hreadable).tuple 3 hthree⟩

/-- A digit that stands in no numeral makes a name fail that should be unknown. -/
theorem raised_not_unknown :
    raisedName ∉ attributes ∧ (∀ n, ¬ IsTupleName raisedName n) ∧
      named raisedName = .error (.numeral (.malformed ['\u00b2'])) ∧ ¬ Resolves raisedName := by
  have hnumeral : named raisedName = .error (.numeral (.malformed ['\u00b2'])) := by rfl
  have hnone : ∀ n, ¬ IsTupleName raisedName n := by
    rintro n ⟨digits, hsplit, hdigits⟩
    have hsplit : "Tuple".toList ++ ['\u00b2'] = "Tuple".toList ++ digits := hsplit
    obtain rfl := List.append_cancel_left hsplit
    exact absurd (hdigits.isDecimal _ List.mem_cons_self) (by decide)
  refine ⟨by decide, hnone, hnumeral, fun h => ?_⟩
  cases hnumeral.symm.trans (h.unknown hnone)

end Library

end Marshal
