import Mathlib.Data.List.Forall2
import Mathlib.Data.List.TakeWhile
import Mathlib.Data.Nat.Digits.Defs
import Marshal.Text.Blank
import Marshal.Text.Numeral

/-!
# Numerals of natural numbers

A number is read back from its decimal digits, as long as there are not too many of them. What is
read stands for its number by the values of its digits, whatever scripts they are of.
-/

namespace Marshal.Text
set_option autoImplicit false

theorem digit_bounds {c : Char} (h : c.isDigit) : 48 ≤ c.toNat ∧ c.toNat ≤ 57 := by
  simp only [Char.isDigit, Bool.and_eq_true, decide_eq_true_eq] at h
  exact ⟨h.1, h.2⟩

theorem decimalValue?_of_isDigit {c : Char} (h : c.isDigit) :
    decimalValue? c = some (c.toNat - '0'.toNat) := by
  have hb := digit_bounds h
  have hzero : decimalZeros.find? (fun z => z ≤ c.toNat && c.toNat < z + 10) = some 0x30 := by
    apply List.find?_cons_of_pos
    simp
    omega
  rw [decimalValue?, hzero]
  rfl

theorem isDecimal_of_isDigit {c : Char} (h : c.isDigit) : isDecimal c := by
  rw [isDecimal, decimalValue?_of_isDigit h]
  rfl

theorem foldl_decimalValue? {cs : List Char} (h : ∀ c ∈ cs, c.isDigit) (n : Nat) :
    (cs.foldl (fun n c => do return (← n) * 10 + (← decimalValue? c)) (some n)) =
      some (Nat.ofDigitChars 10 cs n) := by
  induction cs generalizing n with
  | nil => rfl
  | cons c cs ih =>
    rw [List.foldl_cons, Nat.ofDigitChars_cons, decimalValue?_of_isDigit (h c List.mem_cons_self),
      Nat.mul_comm 10 n]
    exact ih (fun d hd => h d (List.mem_cons_of_mem c hd)) _

theorem decimalNumber?_of_digits {cs : List Char} (h : ∀ c ∈ cs, c.isDigit) (hne : cs ≠ []) :
    decimalNumber? cs = some (Nat.ofDigitChars 10 cs 0) := by
  rw [decimalNumber?, if_neg (by simpa using hne)]
  exact foldl_decimalValue? h 0

theorem readNumeral_toDigits {n : Nat} (h : (Nat.toDigits 10 n).length ≤ numeralLimit) :
    readNumeral (Nat.toDigits 10 n) = .ok n := by
  have hdigit : ∀ c ∈ Nat.toDigits 10 n, c.isDigit := fun c hc =>
    Nat.isDigit_of_mem_toDigits (by decide) (by decide) hc
  have hne : Nat.toDigits 10 n ≠ [] := List.ne_nil_of_length_pos Nat.length_toDigits_pos
  have hall : (Nat.toDigits 10 n).takeWhile isDecimal = Nat.toDigits 10 n :=
    List.takeWhile_eq_self_iff.mpr fun c hc => isDecimal_of_isDigit (hdigit c hc)
  have hcheck : checkDigits (Nat.toDigits 10 n).length = .ok () := if_neg (by omega)
  rw [readNumeral, hall, hcheck, decimalNumber?_of_digits hdigit hne, Nat.ofDigitChars_ten_toDigits]
  rfl

/-- Decimal digits of any scripts, the most significant one first, stand for a number. -/
def Denotes (digits : List Char) (n : Nat) : Prop :=
  digits ≠ [] ∧ ∃ values, List.Forall₂ (fun c v => decimalValue? c = some v) digits values ∧
    Nat.ofDigits 10 values.reverse = n

theorem foldl_ofDigits_reverse (values : List Nat) (n : Nat) :
    values.foldl (fun n v => n * 10 + v) n =
      n * 10 ^ values.length + Nat.ofDigits 10 values.reverse := by
  induction values generalizing n with
  | nil => simp
  | cons d values ih =>
    rw [List.foldl_cons, ih, List.reverse_cons, Nat.ofDigits_append, List.length_reverse,
      Nat.ofDigits_singleton, List.length_cons, Nat.pow_succ]
    ring

theorem foldl_decimalValue?_none (cs : List Char) :
    (cs.foldl (fun n c => do return (← n) * 10 + (← decimalValue? c)) none) = none := by
  induction cs with
  | nil => rfl
  | cons c cs ih => exact ih

theorem foldl_decimalValue?_eq_some_iff {cs : List Char} {a n : Nat} :
    (cs.foldl (fun n c => do return (← n) * 10 + (← decimalValue? c)) (some a)) = some n ↔
      ∃ values, List.Forall₂ (fun c v => decimalValue? c = some v) cs values ∧
        values.foldl (fun n v => n * 10 + v) a = n := by
  induction cs generalizing a with
  | nil => simp
  | cons c cs ih =>
    rw [List.foldl_cons]
    cases hc : decimalValue? c with
    | none =>
      refine iff_of_false ?_ ?_
      · intro h
        cases (foldl_decimalValue?_none cs).symm.trans h
      · rintro ⟨values, hvalues, -⟩
        cases hvalues with
        | cons hv _ => simp [hc] at hv
    | some v =>
      refine ih.trans ⟨?_, ?_⟩
      · rintro ⟨values, hvalues, hn⟩
        exact ⟨v :: values, .cons hc hvalues, hn⟩
      · rintro ⟨values, hvalues, hn⟩
        cases hvalues with
        | cons hv hvalues =>
          obtain rfl := Option.some.inj (hc.symm.trans hv)
          exact ⟨_, hvalues, hn⟩

/-- The number that is read is the one that the digits stand for. -/
theorem decimalNumber?_eq_some_iff {cs : List Char} {n : Nat} :
    decimalNumber? cs = some n ↔ Denotes cs n := by
  rw [decimalNumber?, Denotes]
  by_cases hcs : cs = []
  · simp [hcs]
  · rw [if_neg (by simpa using hcs), foldl_decimalValue?_eq_some_iff]
    simp [hcs, foldl_ofDigits_reverse]

theorem Denotes.isDecimal {cs : List Char} {n : Nat} (h : Denotes cs n) : ∀ c ∈ cs, isDecimal c := by
  obtain ⟨-, values, hvalues, -⟩ := h
  induction hvalues with
  | nil => exact nofun
  | cons hv _ ih => exact List.forall_mem_cons.mpr ⟨Option.isSome_iff_exists.mpr ⟨_, hv⟩, ih⟩

theorem exists_denotes {cs : List Char} (hne : cs ≠ []) (h : ∀ c ∈ cs, isDecimal c) :
    ∃ n, Denotes cs n := by
  have hvalues : ∃ values, List.Forall₂ (fun c v => decimalValue? c = some v) cs values := by
    clear hne
    induction cs with
    | nil => exact ⟨[], .nil⟩
    | cons c cs ih =>
      obtain ⟨v, hv⟩ := Option.isSome_iff_exists.mp (h c List.mem_cons_self)
      obtain ⟨values, hvalues⟩ := ih fun d hd => h d (List.mem_cons_of_mem c hd)
      exact ⟨v :: values, .cons hv hvalues⟩
  obtain ⟨values, hvalues⟩ := hvalues
  exact ⟨_, hne, values, hvalues, rfl⟩

theorem readNumeral_eq_ok_iff {cs : List Char} {n : Nat} :
    readNumeral cs = .ok n ↔ Denotes cs n ∧ cs.length ≤ numeralLimit := by
  rw [← decimalNumber?_eq_some_iff, readNumeral, checkDigits]
  constructor
  · intro h
    split at h
    · cases h
    next hlimit =>
      cases hn : decimalNumber? cs with
      | none =>
        rw [hn] at h
        cases h
      | some m =>
        rw [hn] at h
        have hall : cs.takeWhile Text.isDecimal = cs := List.takeWhile_eq_self_iff.mpr
          (decimalNumber?_eq_some_iff.mp hn).isDecimal
        rw [hall] at hlimit
        cases h
        exact ⟨rfl, Nat.not_lt.mp hlimit⟩
  · rintro ⟨hn, hlimit⟩
    have hall : cs.takeWhile Text.isDecimal = cs := List.takeWhile_eq_self_iff.mpr
      (decimalNumber?_eq_some_iff.mp hn).isDecimal
    rw [hall, if_neg (Nat.not_lt.mpr hlimit), hn]
    rfl

theorem not_isBlank {c : Char} (h : 33 ≤ c.toNat ∧ c.toNat < 0x85) : ¬ isBlank c := by
  simp [isBlank, inRanges, blankRanges]
  omega

theorem trim_of_not_blank {cs : List Char} (h : ∀ c ∈ cs, ¬ isBlank c) : trim cs = cs := by
  have hdrop (ds : List Char) (hd : ∀ c ∈ ds, ¬ isBlank c) : ds.dropWhile isBlank = ds := by
    cases ds with
    | nil => rfl
    | cons d ds => rw [List.dropWhile_cons_of_neg (hd d List.mem_cons_self)]
  rw [trim, trimRight, hdrop cs h, hdrop _ (by simpa using h), List.reverse_reverse]

/-- Without a character of a kind, there is one stretch. -/
theorem between_of_none {p : Char → Bool} {cs : List Char} (h : ∀ c ∈ cs, ¬ p c) :
    between p cs = [cs] := by
  induction cs with
  | nil => rfl
  | cons c cs ih =>
    rw [between, ih fun d hd => h d (List.mem_cons_of_mem c hd)]
    simp [h c List.mem_cons_self]

end Marshal.Text
