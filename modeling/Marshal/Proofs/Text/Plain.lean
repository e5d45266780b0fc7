import Marshal.Text.Literal
import Marshal.Text.Split
import Marshal.Text.Utf8
import Mathlib.Tactic.Common

/-!
# Printable ASCII

Quoted text is printable ASCII, whatever was quoted: a character stands there as it is, behind a
backslash, or as one or two units. A text of printable ASCII has one byte for every character and no
line ends, so it is read from a file as it was written there.
-/

namespace Marshal.Text
set_option autoImplicit false

def Plain (c : Char) : Prop := ' ' ≤ c ∧ c ≤ '~'

instance (c : Char) : Decidable (Plain c) := inferInstanceAs (Decidable (_ ∧ _))

theorem plain_of_all {cs : List Char} (h : cs.all (Plain ·)) : ∀ c ∈ cs, Plain c := by
  simpa using h

theorem Plain.toNat_lt {c : Char} (h : Plain c) : c.toNat < 0x80 :=
  Nat.lt_of_le_of_lt h.2 (by decide)

theorem Plain.ne_return {c : Char} (h : Plain c) : c ≠ '\r' := by
  rintro rfl
  exact absurd h.1 (by decide)

theorem plain_hexDigits {width n : Nat} : ∀ c ∈ hexDigits width n, Plain c := by
  have hdigit : ∀ m : Fin 16, Plain (hexDigit m) := by decide
  induction width generalizing n with
  | zero => exact nofun
  | succ width ih =>
    intro c hc
    rcases List.mem_append.mp hc with hc | hc
    · exact ih c hc
    · rw [List.mem_singleton.mp hc]
      exact hdigit ⟨n % 16, Nat.mod_lt n (by decide)⟩

theorem plain_unitEscape {unit : Nat} : ∀ c ∈ unitEscape unit, Plain c := by
  intro c hc
  rcases List.mem_cons.mp hc with rfl | hc
  · decide
  rcases List.mem_cons.mp hc with rfl | hc
  · decide
  · exact plain_hexDigits c hc

/-- The characters with a letter of their own behind a backslash, and these letters. -/
def shortEscapes : List (Char × Char) :=
  [('"', '"'), ('\\', '\\'), ('\n', 'n'), ('\r', 'r'), ('\t', 't'), ('\x08', 'b'), ('\x0c', 'f')]

theorem quoteChar_of_shortEscapes :
    ∀ p ∈ shortEscapes, quoteChar p.1 = ['\\', p.2] ∧ Plain p.2 := by
  decide

/-- The four ways in which a character stands between quotes. -/
theorem quoteChar_cases (c : Char) :
    (∃ d, quoteChar c = ['\\', d] ∧ (c, d) ∈ shortEscapes) ∨
      (quoteChar c = [c] ∧ c ≠ '"' ∧ c ≠ '\\' ∧ Plain c) ∨
      (quoteChar c = unitEscape c.toNat ∧ c.toNat < 0x10000) ∨
      (quoteChar c = unitEscape (highSurrogate c.toNat) ++ unitEscape (lowSurrogate c.toNat) ∧
        0x10000 ≤ c.toNat) := by
  by_cases hshort : ∃ p ∈ shortEscapes, p.1 = c
  · obtain ⟨p, hp, rfl⟩ := hshort
    exact .inl ⟨p.2, (quoteChar_of_shortEscapes p hp).1, hp⟩
  simp only [shortEscapes, List.mem_cons, List.not_mem_nil, or_false, exists_eq_or_imp,
    exists_eq_left, not_or, @eq_comm Char _ c] at hshort
  obtain ⟨hquote, hbackslash, hn, hr, ht, hb, hf⟩ := hshort
  have hquoted : quoteChar c = if ' ' ≤ c && c ≤ '~' then [c]
      else if c.toNat < 0x10000 then unitEscape c.toNat
      else unitEscape (highSurrogate c.toNat) ++ unitEscape (lowSurrogate c.toNat) := by
    rw [quoteChar, if_neg hquote, if_neg hbackslash, if_neg hn, if_neg hr, if_neg ht, if_neg hb,
      if_neg hf]
  rw [hquoted]
  split
  next h =>
    rw [Bool.and_eq_true, decide_eq_true_eq, decide_eq_true_eq] at h
    exact .inr (.inl ⟨rfl, hquote, hbackslash, h⟩)
  split
  next h => exact .inr (.inr (.inl ⟨rfl, h⟩))
  next h => exact .inr (.inr (.inr ⟨rfl, Nat.not_lt.mp h⟩))

/-- No quoted character begins with a quote. -/
theorem quoteChar_eq_cons (c : Char) : ∃ d ds, quoteChar c = d :: ds ∧ d ≠ '"' := by
  rcases quoteChar_cases c with ⟨d, hc, -⟩ | ⟨hc, hquote, -⟩ | ⟨hc, -⟩ | ⟨hc, -⟩
  · exact ⟨_, _, hc, by decide⟩
  · exact ⟨_, _, hc, hquote⟩
  · exact ⟨_, _, hc, by decide⟩
  · exact ⟨_, _, hc, by decide⟩

theorem plain_quoteChar (c : Char) : ∀ d ∈ quoteChar c, Plain d := by
  intro d hd
  rcases quoteChar_cases c with ⟨e, hc, he⟩ | ⟨hc, -, -, hplain⟩ | ⟨hc, -⟩ | ⟨hc, -⟩
  · rw [hc] at hd
    rcases List.mem_cons.mp hd with rfl | hd
    · decide
    · rw [List.mem_singleton.mp hd]
      exact (quoteChar_of_shortEscapes (c, e) he).2
  · rw [hc] at hd
    rwa [List.mem_singleton.mp hd]
  · rw [hc] at hd
    exact plain_unitEscape d hd
  · rw [hc] at hd
    rcases List.mem_append.mp hd with hd | hd
    · exact plain_unitEscape d hd
    · exact plain_unitEscape d hd

theorem plain_quoteChars (cs : List Char) : ∀ d ∈ quoteChars cs, Plain d := by
  intro d hd
  obtain ⟨c, -, hd⟩ := List.mem_flatMap.mp hd
  exact plain_quoteChar c d hd

theorem length_le_quoteChars (cs : List Char) : cs.length ≤ (quoteChars cs).length := by
  induction cs with
  | nil => exact Nat.le_refl 0
  | cons c cs ih =>
    obtain ⟨d, ds, hc, -⟩ := quoteChar_eq_cons c
    simp only [quoteChars, List.flatMap_cons, hc, List.length_append, List.length_cons] at ih ⊢
    omega

theorem decodeFrom_plain {cs : List Char} (h : ∀ c ∈ cs, Plain c) (position : Nat) {fuel : Nat}
    (hfuel : cs.length ≤ fuel) : decodeFrom position fuel (cs.map Char.toNat) = .ok cs := by
  induction cs generalizing position fuel with
  | nil => cases fuel <;> rfl
  | cons c cs ih =>
    obtain ⟨fuel, rfl⟩ := Nat.exists_eq_add_one.mpr (Nat.zero_lt_of_lt hfuel)
    have hfollowers : followers? c.toNat = some 0 := if_pos (h c List.mem_cons_self).toNat_lt
    have hmore := ih (fun d hd => h d (List.mem_cons_of_mem _ hd)) (position + 0 + 1)
      (Nat.le_of_succ_le_succ hfuel)
    rw [List.map_cons, decodeFrom, hfollowers]
    simp only [continueWith, leadBits, hmore, Char.ofNat_toNat]
    rfl

theorem decodeUtf8_plain {cs : List Char} (h : ∀ c ∈ cs, Plain c) :
    decodeUtf8 (cs.map Char.toNat) = .ok cs :=
  decodeFrom_plain h 0 (by simp)

theorem normalizeNewlines_plain {cs : List Char} (h : ∀ c ∈ cs, Plain c) :
    normalizeNewlines cs = cs := by
  induction cs with
  | nil => rfl
  | cons c cs ih =>
    have hc := (h c List.mem_cons_self).ne_return
    rw [normalizeNewlines, ih fun d hd => h d (List.mem_cons_of_mem _ hd)]
    · exact fun _ h _ => hc h
    · exact fun h => hc h

end Marshal.Text
