import Marshal.Proofs.Conversion.Placeholder
import Mathlib.Tactic.IntervalCases

/-!
# Converter names

Converter names hold identifier characters only, at least four of them, and always an upper-case
letter that built-in names and bound variables do not have. The name of a converter from the
external form is never that of one to the external form.
-/

namespace Marshal.Naming
set_option autoImplicit false

/-- The name of a converter of some type, in one of the two directions. -/
def IsConverterName (n : String) : Prop := ∃ (dir : Direction) (t : String), n = dir.converterName t

theorem isIdentifierChar_lowerLetter {c : Char} (h : isIdentifierChar c) :
    isIdentifierChar (lowerLetter c) := by
  rw [lowerLetter]
  split
  · rename_i hc
    obtain ⟨hA, hZ⟩ := Bool.and_eq_true_iff.mp hc
    have hlow : 65 ≤ c.toNat := (of_decide_eq_true hA : 'A' ≤ c)
    have hhigh : c.toNat ≤ 90 := (of_decide_eq_true hZ : c ≤ 'Z')
    generalize c.toNat = n at hlow hhigh
    interval_cases n <;> rfl
  · exact h

theorem isIdentifierChar_sanitize (t : String) : ∀ c ∈ (sanitize t).toList, isIdentifierChar c := by
  intro c hc
  rw [sanitize, String.toList_ofList] at hc
  obtain ⟨d, -, rfl⟩ := List.mem_map.mp hc
  by_cases hd : isIdentifierChar d
  · rwa [if_pos hd]
  · rw [if_neg hd]
    rfl

theorem isIdentifierChar_lowerName (t : String) : ∀ c ∈ (lowerName t).toList, isIdentifierChar c := by
  intro c hc
  rw [lowerName, String.toList_ofList] at hc
  obtain ⟨d, hd, rfl⟩ := List.mem_map.mp hc
  exact isIdentifierChar_lowerLetter (isIdentifierChar_sanitize t d hd)

def converterEnding : Direction → String
  | .toExternal => "ToJson"
  | .fromExternal => "FromJson"

theorem converterName_eq (dir : Direction) (t : String) :
    dir.converterName t = lowerName t ++ converterEnding dir := by
  cases dir <;> rfl

theorem toList_converterName (dir : Direction) (t : String) :
    (dir.converterName t).toList = (lowerName t).toList ++ (converterEnding dir).toList := by
  rw [converterName_eq, String.toList_append]

theorem IsConverterName.isIdentifierChar {n : String} (h : IsConverterName n) :
    ∀ c ∈ n.toList, isIdentifierChar c := by
  obtain ⟨dir, t, rfl⟩ := h
  rw [toList_converterName, List.forall_mem_append]
  refine ⟨isIdentifierChar_lowerName t, ?_⟩
  cases dir <;> exact List.all_eq_true.mp rfl

theorem IsConverterName.mem_J {n : String} (h : IsConverterName n) : 'J' ∈ n.toList := by
  obtain ⟨dir, t, rfl⟩ := h
  rw [toList_converterName]
  refine List.mem_append_right _ ?_
  cases dir <;> exact List.mem_of_elem_eq_true rfl

theorem length_converterEnding (dir : Direction) : 6 ≤ (converterEnding dir).toList.length := by
  cases dir <;> exact Nat.le_of_ble_eq_true rfl

theorem IsConverterName.length {n : String} (h : IsConverterName n) : 6 ≤ n.toList.length := by
  obtain ⟨dir, t, rfl⟩ := h
  rw [toList_converterName, List.length_append]
  exact (length_converterEnding dir).trans (Nat.le_add_left _ _)

/-- The endings differ before their last five characters. -/
theorem toExternal_ne_fromExternal (x y : String) :
    x ++ converterEnding .toExternal ≠ y ++ converterEnding .fromExternal := by
  intro h
  have hx : (x ++ converterEnding .toExternal).toList = (x.toList ++ ['T']) ++ "oJson".toList := by
    rw [String.toList_append, List.append_assoc]
    rfl
  have hy : (y ++ converterEnding .fromExternal).toList =
      (y.toList ++ ['F', 'r', 'o']) ++ "mJson".toList := by
    rw [String.toList_append, List.append_assoc]
    rfl
  rw [h, hy] at hx
  exact absurd (List.append_inj' hx rfl).2 (by decide)

/-- A converter name determines the name in front of its ending, and its direction. -/
theorem append_converterEnding_inj {x y : String} {dir dir' : Direction}
    (h : x ++ converterEnding dir = y ++ converterEnding dir') : x = y ∧ dir = dir' := by
  have hsame {dir : Direction} (h : x ++ converterEnding dir = y ++ converterEnding dir) :
      x = y := by
    have h := congrArg String.toList h
    rw [String.toList_append, String.toList_append] at h
    exact String.toList_inj.mp (List.append_inj' h rfl).1
  cases dir <;> cases dir'
  · exact ⟨hsame h, rfl⟩
  · exact absurd h (toExternal_ne_fromExternal x y)
  · exact absurd h.symm (toExternal_ne_fromExternal y x)
  · exact ⟨hsame h, rfl⟩

theorem not_mem_of_contains {cs : List Char} {c : Char} (h : cs.contains c = false) : c ∉ cs := by
  intro hc
  rw [List.contains_iff_mem.mpr hc] at h
  cases h

theorem not_isConverterName {n : String} (h : 'J' ∉ n.toList) : ¬ IsConverterName n :=
  fun hn => h hn.mem_J

theorem not_isConverterName_none : ¬ IsConverterName "None" :=
  not_isConverterName (not_mem_of_contains rfl)

/-- A list of names none of which holds a character. -/
theorem not_mem_of_all {ns : List String} {c : Char}
    (h : ns.all fun n => !n.toList.contains c) {n : String} (hn : n ∈ ns) : c ∉ n.toList := by
  refine not_mem_of_contains ?_
  simpa using List.all_eq_true.mp h n hn

theorem not_isConverterName_of_builtins {n : String} (h : n ∈ Conversion.builtins) :
    ¬ IsConverterName n :=
  not_isConverterName (not_mem_of_all rfl h)

theorem not_mem_toString (i : Int) : 'J' ∉ (toString i).toList := by
  have hdigits (n : Nat) : 'J' ∉ (toString n).toList := by
    intro h
    cases Conversion.isDigit_of_mem_toString h
  cases i with
  | ofNat n => exact hdigits n
  | negSucc n =>
    have h : 'J' ∉ ("-" ++ toString (n + 1)).toList := by
      rw [String.toList_append, List.mem_append]
      exact not_or.mpr ⟨not_mem_of_contains rfl, hdigits (n + 1)⟩
    exact h

theorem not_mem_placeholder {base : String} (h : base ∈ Conversion.bases) (depth : Int) :
    'J' ∉ (Conversion.placeholder base depth).toList := by
  have hbase : 'J' ∉ base.toList := not_mem_of_all rfl h
  rw [Conversion.placeholder]
  split
  · exact hbase
  · rw [String.toList_append, List.mem_append]
    exact not_or.mpr ⟨hbase, not_mem_toString depth⟩

theorem not_isConverterName_placeholder {base : String} (h : base ∈ Conversion.bases)
    (depth : Int) : ¬ IsConverterName (Conversion.placeholder base depth) :=
  not_isConverterName (not_mem_placeholder h depth)

end Marshal.Naming
