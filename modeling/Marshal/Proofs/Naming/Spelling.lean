import Marshal.Proofs.Naming.Alike
import Marshal.Proofs.Naming.Identifier

/-!
# Names that become one identifier

An identifier is the name with every character but letters and digits turned into an underscore,
after an underscore was put in front of a leading digit and behind a reserved word. So two names
become one identifier if and only if they match, spelled in this way.
-/

namespace Marshal.Naming
set_option autoImplicit false

def MatchingChar (c d : Char) : Prop := c = d ∨ isMark c ∧ isMark d

/-- Names that agree character by character, but for the marks they hold. -/
def Matching (a b : String) : Prop := List.Forall₂ MatchingChar a.toList b.toList

def keptChar (c : Char) : Char := if isIdentifierChar c then c else '_'

theorem toList_sanitize (name : String) : (sanitize name).toList = name.toList.map keptChar := by
  rw [sanitize, String.toList_ofList]
  rfl

theorem sanitize_append (a b : String) : sanitize (a ++ b) = sanitize a ++ sanitize b := by
  rw [← String.toList_inj, String.toList_append, toList_sanitize, toList_sanitize, toList_sanitize,
    String.toList_append, List.map_append]

theorem sanitize_eq_self {name : String} (h : ∀ c ∈ name.toList, isIdentifierChar c) :
    sanitize name = name := by
  rw [← String.toList_inj, toList_sanitize]
  conv => rhs; rw [← List.map_id name.toList]
  exact List.map_congr_left fun c hc => if_pos (h c hc)

theorem keptChar_eq_mark_iff (c : Char) : keptChar c = '_' ↔ isMark c := by
  rw [keptChar, isMark]
  cases hc : isIdentifierChar c with
  | false => simp
  | true => simp

theorem keptChar_eq_iff {c d : Char} : keptChar c = keptChar d ↔ MatchingChar c d := by
  constructor
  · intro h
    by_cases hc : isMark c
    · have hd : keptChar d = '_' := h ▸ (keptChar_eq_mark_iff c).mpr hc
      exact Or.inr ⟨hc, (keptChar_eq_mark_iff d).mp hd⟩
    · have hd : ¬ isMark d := fun hd => hc <|
        (keptChar_eq_mark_iff c).mp (h.trans ((keptChar_eq_mark_iff d).mpr hd))
      have hkept {c : Char} (hc : ¬ isMark c) : keptChar c = c := by
        rw [isMark, Bool.or_eq_true, not_or] at hc
        exact if_pos (by simpa using hc.1)
      exact Or.inl (by rwa [hkept hc, hkept hd] at h)
  · rintro (rfl | ⟨hc, hd⟩)
    · rfl
    · rw [(keptChar_eq_mark_iff c).mpr hc, (keptChar_eq_mark_iff d).mpr hd]

theorem sanitize_eq_iff {a b : String} : sanitize a = sanitize b ↔ Matching a b := by
  rw [← String.toList_inj, toList_sanitize, toList_sanitize, ← List.forall₂_eq_eq_eq,
    List.forall₂_map_left_iff, List.forall₂_map_right_iff]
  simp only [keptChar_eq_iff]
  rfl

instance (a b : String) : Decidable (Matching a b) := decidable_of_iff _ sanitize_eq_iff

def spelled (name : String) : String :=
  if guardDigit name ∈ reservedWords then guardDigit name ++ "_" else guardDigit name

theorem isDigitChar_keptChar (c : Char) :
    ('0' ≤ keptChar c && keptChar c ≤ '9') = ('0' ≤ c && c ≤ '9') := by
  rw [keptChar]
  split
  · rfl
  · rename_i hc
    have hdigit : ('0' ≤ c && c ≤ '9') = false := by
      rw [Bool.eq_false_iff]
      intro h
      rw [isIdentifierChar, h] at hc
      exact hc rfl
    rw [hdigit]
    rfl

theorem guardDigit_sanitize (name : String) :
    guardDigit (sanitize name) = sanitize (guardDigit name) := by
  rw [guardDigit, guardDigit, toList_sanitize]
  cases name.toList with
  | nil => rfl
  | cons c cs =>
    rw [List.map_cons]
    dsimp only
    rw [isDigitChar_keptChar]
    split
    · rw [sanitize_append]
      rfl
    · rfl

/-- Reserved words hold letters only. -/
theorem not_isMark_of_reserved {w : String} (hw : w ∈ reservedWords) {c : Char}
    (hc : c ∈ w.toList) : ¬ isMark c := by
  have hall : reservedWords.all fun w => w.toList.all fun c => !isMark c := rfl
  have hword := List.all_eq_true.mp (List.all_eq_true.mp hall w hw) c hc
  intro hmark
  rw [hmark] at hword
  cases hword

theorem sanitize_mem_reservedWords (name : String) :
    sanitize name ∈ reservedWords ↔ name ∈ reservedWords := by
  have hself : name ∈ reservedWords ∨ sanitize name ∈ reservedWords → sanitize name = name := by
    intro h
    refine sanitize_eq_self fun c hc => ?_
    by_contra hmark
    have hkept : keptChar c = '_' := if_neg hmark
    rcases h with h | h
    · exact not_isMark_of_reserved h hc ((keptChar_eq_mark_iff c).mp hkept)
    · have hmem : '_' ∈ (sanitize name).toList := by
        rw [toList_sanitize]
        exact List.mem_map.mpr ⟨c, hc, hkept⟩
      exact not_isMark_of_reserved h hmem rfl
  constructor
  · intro h
    rwa [hself (Or.inr h)] at h
  · intro h
    rwa [hself (Or.inl h)]

theorem identifier_eq_sanitize (name : String) : identifier name = sanitize (spelled name) := by
  rw [identifier, spelled, guardDigit_sanitize]
  by_cases h : guardDigit name ∈ reservedWords
  · rw [if_pos h, if_pos ((sanitize_mem_reservedWords _).mpr h), sanitize_append]
    rfl
  · rw [if_neg h, if_neg fun hs => h ((sanitize_mem_reservedWords _).mp hs)]

/-- Names that become one identifier. -/
theorem identifier_eq_iff {a b : String} :
    identifier a = identifier b ↔ Matching (spelled a) (spelled b) := by
  rw [identifier_eq_sanitize, identifier_eq_sanitize, sanitize_eq_iff]

end Marshal.Naming
