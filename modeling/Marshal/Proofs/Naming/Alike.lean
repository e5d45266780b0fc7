import Marshal.Naming.Identifier
import Mathlib.Data.List.Forall2
import Mathlib.Tactic.IntervalCases

/-!
# Names that become one converter name

Converter names do not keep the case of letters, and every character but letters and digits becomes
an underscore. So names with the same letters and digits at the same places get the same converters.
-/

namespace Marshal.Naming
set_option autoImplicit false

/-- Any character but a digit or an unaccented letter. -/
def isMark (c : Char) : Bool := !isIdentifierChar c || c == '_'

/-- Letters that differ in case at most, the same digit, or any two marks. -/
def AlikeChar (c d : Char) : Prop := lowerLetter c = lowerLetter d ∨ isMark c ∧ isMark d

/-- Names that agree character by character, but for case and for the marks they hold. -/
def Alike (a b : String) : Prop := List.Forall₂ AlikeChar a.toList b.toList

/-- What a converter name keeps of a character. -/
def lowerChar (c : Char) : Char := if isMark c then '_' else lowerLetter c

theorem toList_lowerName (t : String) : (lowerName t).toList = t.toList.map lowerChar := by
  rw [lowerName, sanitize, String.toList_ofList, String.toList_ofList, List.map_map]
  refine List.map_congr_left fun c _ => ?_
  rw [Function.comp_apply, lowerChar, isMark]
  cases isIdentifierChar c with
  | false => rfl
  | true =>
    by_cases hc : c = '_'
    · subst hc
      rfl
    · simp [hc]

theorem isMark_lowerLetter (c : Char) : isMark (lowerLetter c) = isMark c := by
  have hcase (n : Nat) (hlow : 65 ≤ n) (hhigh : n ≤ 90) :
      isMark (Char.ofNat (n + 32)) = isMark (Char.ofNat n) := by
    interval_cases n <;> rfl
  rw [lowerLetter]
  split
  · rename_i hc
    obtain ⟨hA, hZ⟩ := Bool.and_eq_true_iff.mp hc
    have h := hcase c.toNat (of_decide_eq_true hA : 'A' ≤ c) (of_decide_eq_true hZ : c ≤ 'Z')
    rwa [Char.ofNat_toNat] at h
  · rfl

theorem lowerChar_eq_iff {c d : Char} : lowerChar c = lowerChar d ↔ AlikeChar c d := by
  have hmark {c : Char} (hc : isMark c = false) : lowerLetter c ≠ '_' := by
    intro h
    rw [← isMark_lowerLetter, h] at hc
    cases hc
  have hne {c d : Char} (h : isMark c ≠ isMark d) : lowerLetter c ≠ lowerLetter d := by
    intro heq
    rw [← isMark_lowerLetter c, heq, isMark_lowerLetter] at h
    exact h rfl
  rw [lowerChar, lowerChar, AlikeChar]
  cases hc : isMark c <;> cases hd : isMark d
  · simp
  · simp [hmark hc, hne (c := c) (d := d) (by rw [hc, hd]; decide)]
  · simp [(hmark hd).symm, hne (c := c) (d := d) (by rw [hc, hd]; decide)]
  · simp

theorem lowerName_eq_iff {a b : String} : lowerName a = lowerName b ↔ Alike a b := by
  rw [← String.toList_inj, toList_lowerName, toList_lowerName, ← List.forall₂_eq_eq_eq,
    List.forall₂_map_left_iff, List.forall₂_map_right_iff]
  simp only [lowerChar_eq_iff]
  rfl

instance (a b : String) : Decidable (Alike a b) := decidable_of_iff _ lowerName_eq_iff

end Marshal.Naming
