import Marshal.Json.Reader
import Marshal.Proofs.Text.Plain

/-!
# Strings in JSON texts

What is quoted is read back: every character by itself, be it as it is, behind a backslash, or as
one or two units, and so whole strings up to their closing quote.
-/

namespace Marshal.Json
set_option autoImplicit false

open Text (hexDigits hexDigit quoteChar quoteChars highSurrogate lowSurrogate shortEscapes
  quoteChar_cases quoteChar_eq_cons length_le_quoteChars)

variable {c e : Char} {rest : List Char}

theorem unit?_hexDigits {n : Nat} (hn : n < 0x10000) (e : Char) (rest : List Char) :
    unit? (hexDigits 4 n ++ e :: rest) = some (n, e :: rest) := by
  have hdigits : hexDigits 4 n =
      [hexDigit (n / 16 / 16 / 16 % 16), hexDigit (n / 16 / 16 % 16), hexDigit (n / 16 % 16),
        hexDigit (n % 16)] := rfl
  have hvalue : ((n / 16 / 16 / 16 % 16 * 16 + n / 16 / 16 % 16) * 16 + n / 16 % 16) * 16 +
      n % 16 = n := by omega
  have hdigit (m : Nat) : Text.hexValue? (hexDigit (m % 16)) = some (m % 16) :=
    Text.hexValue?_hexDigit (Nat.mod_lt _ (by decide))
  rw [hdigits]
  simp only [List.cons_append, List.nil_append, unit?, hdigit, Option.bind_eq_bind,
    Option.bind_some, hvalue]

/-- No character lies in the range of halves of pairs. -/
theorem not_half (c : Char) : isHigh c.toNat = false ∧ isLow c.toNat = false := by
  have hvalid : c.toNat < 0xd800 ∨ 0xdfff < c.toNat ∧ c.toNat < 0x110000 := c.valid
  simp only [isHigh, isLow, Bool.and_eq_false_iff, decide_eq_false_iff_not]
  omega

theorem unitEscape_char (hc : c.toNat < 0x10000) :
    unitEscape (hexDigits 4 c.toNat ++ e :: rest) = .ok (c.toNat, e :: rest) := by
  simp only [unitEscape, unit?_hexDigits hc, (not_half c).1]

/-- Beyond the basic plane a character is a pair of halves. -/
theorem pair_of_char (hc : 0x10000 ≤ c.toNat) :
    isHigh (highSurrogate c.toNat) ∧ isLow (lowSurrogate c.toNat) ∧
      pairPoint (highSurrogate c.toNat) (lowSurrogate c.toNat) = c.toNat := by
  have hvalid : c.toNat < 0xd800 ∨ 0xdfff < c.toNat ∧ c.toNat < 0x110000 := c.valid
  refine ⟨?_, ?_, ?_⟩
  · simp only [isHigh, Bool.and_eq_true, decide_eq_true_eq]
    rw [highSurrogate]
    omega
  · simp only [isLow, Bool.and_eq_true, decide_eq_true_eq]
    rw [lowSurrogate]
    omega
  · have hsum : 0x10000 + (highSurrogate c.toNat - 0xd800) * 0x400 +
        (lowSurrogate c.toNat - 0xdc00) = c.toNat := by
      rw [highSurrogate, lowSurrogate]
      omega
    exact hsum

theorem unitEscape_of_pair {cs next : List Char} {high low : Nat}
    (hfirst : unit? cs = some (high, '\\' :: 'u' :: next)) (hhigh : isHigh high)
    (hlong : 5 ≤ next.length) (hsecond : unit? next = some (low, rest)) (hlow : isLow low) :
    unitEscape cs = .ok (pairPoint high low, rest) := by
  simp [unitEscape, hfirst, hhigh, Nat.not_lt.mpr hlong, hsecond, hlow]

theorem unitEscape_pair (hc : 0x10000 ≤ c.toNat) :
    unitEscape (hexDigits 4 (highSurrogate c.toNat) ++
      '\\' :: 'u' :: (hexDigits 4 (lowSurrogate c.toNat) ++ e :: rest)) =
        .ok (c.toNat, e :: rest) := by
  obtain ⟨hhigh, hlow, hpair⟩ := pair_of_char hc
  have hhigh' : highSurrogate c.toNat < 0x10000 := by
    simp only [isHigh, Bool.and_eq_true, decide_eq_true_eq] at hhigh
    omega
  have hlow' : lowSurrogate c.toNat < 0x10000 := by
    simp only [isLow, Bool.and_eq_true, decide_eq_true_eq] at hlow
    omega
  have hlong : 5 ≤ (hexDigits 4 (lowSurrogate c.toNat) ++ e :: rest).length := by
    rw [List.length_append, Text.length_hexDigits, List.length_cons]
    omega
  rw [unitEscape_of_pair (unit?_hexDigits hhigh' _ _) hhigh hlong (unit?_hexDigits hlow' _ _) hlow,
    hpair]

theorem stringPoint_backslash (start : Nat) :
    stringPoint start ('\\' :: rest) = escapedPoint start rest := rfl

theorem escapedPoint_unit (start : Nat) : escapedPoint start ('u' :: rest) = unitEscape rest := rfl

theorem escapedPoint_short (start : Nat) {d : Char} (hd : (c, d) ∈ shortEscapes) :
    escapedPoint start (d :: rest) = .ok (c.toNat, rest) := by
  simp only [shortEscapes, List.mem_cons, List.not_mem_nil, or_false, Prod.mk.injEq] at hd
  rcases hd with ⟨rfl, rfl⟩ | ⟨rfl, rfl⟩ | ⟨rfl, rfl⟩ | ⟨rfl, rfl⟩ | ⟨rfl, rfl⟩ | ⟨rfl, rfl⟩ |
    ⟨rfl, rfl⟩
  all_goals rfl

theorem stringPoint_plain {start : Nat} (hc : c ≠ '\\') (hblank : ' ' ≤ c) :
    stringPoint start (c :: rest) = .ok (c.toNat, rest) := by
  rw [stringPoint, if_neg hc, if_neg (Char.not_lt.mpr hblank)]

theorem stringPoint_quoteChar (start : Nat) (c e : Char) (rest : List Char) :
    stringPoint start (quoteChar c ++ e :: rest) = .ok (c.toNat, e :: rest) := by
  rcases quoteChar_cases c with ⟨d, hc, hd⟩ | ⟨hc, -, hbackslash, hplain⟩ | ⟨hc, hbasic⟩ |
    ⟨hc, hbeyond⟩
  · rw [hc, List.cons_append, stringPoint_backslash]
    exact escapedPoint_short start hd
  · rw [hc]
    exact stringPoint_plain hbackslash hplain.1
  · rw [hc, Text.unitEscape, List.cons_append, List.cons_append, stringPoint_backslash,
      escapedPoint_unit, unitEscape_char hbasic]
  · rw [hc, Text.unitEscape, Text.unitEscape, List.cons_append, List.cons_append,
      List.append_assoc, List.cons_append, List.cons_append, List.cons_append,
      stringPoint_backslash, escapedPoint_unit]
    exact unitEscape_pair hbeyond

theorem stringPoints_quoteChars (start : Nat) {fuel : Nat} {cs : List Char}
    (hfuel : cs.length ≤ fuel) (rest : List Char) :
    stringPoints start fuel (quoteChars cs ++ '"' :: rest) = .ok (cs.map Char.toNat, rest) := by
  induction cs generalizing fuel with
  | nil => simp [quoteChars, stringPoints]
  | cons c cs ih =>
    obtain ⟨fuel, rfl⟩ := Nat.exists_eq_add_one.mpr (Nat.zero_lt_of_lt hfuel)
    obtain ⟨d, ds, hc, hd⟩ := quoteChar_eq_cons c
    -- what follows is the next quoted character or the closing quote
    obtain ⟨e, es, he⟩ : ∃ e es, quoteChars cs ++ '"' :: rest = e :: es := by
      cases cs with
      | nil => exact ⟨_, _, rfl⟩
      | cons c' cs =>
        obtain ⟨d', ds', hc', -⟩ := quoteChar_eq_cons c'
        exact ⟨d', _, by rw [quoteChars, List.flatMap_cons, hc']; rfl⟩
    have hchar : stringPoint start (d :: (ds ++ (quoteChars cs ++ '"' :: rest))) =
        .ok (c.toNat, quoteChars cs ++ '"' :: rest) := by
      rw [he, ← List.cons_append, ← hc]
      exact stringPoint_quoteChar start c e es
    have hmore := ih (Nat.le_of_succ_le_succ hfuel)
    have hcs : quoteChars (c :: cs) ++ '"' :: rest =
        d :: (ds ++ (quoteChars cs ++ '"' :: rest)) := by
      rw [quoteChars, List.flatMap_cons, hc, List.append_assoc]
      rfl
    rw [hcs, stringPoints]
    · simp [hchar, hmore, bind, Except.bind, pure, Except.pure]
    · simpa using hd

theorem string_quoteChars (s : String) (rest : List Char) :
    string (quoteChars s.toList ++ '"' :: rest) = .ok (.text s, rest) := by
  have hlength : s.toList.length ≤ (quoteChars s.toList ++ '"' :: rest).length := by
    have := length_le_quoteChars s.toList
    simp only [List.length_append]
    omega
  rw [string, stringPoints_quoteChars _ hlength, ← Text.pointsOf]
  simp [bind, Except.bind, pure, Except.pure]

/-- Quotes keep strings apart, since they are read back. -/
theorem quoted_injective : Function.Injective Text.quoted := by
  intro a b h
  have h := congrArg String.toList h
  rw [Text.quoted, Text.quoted, String.toList_ofList, String.toList_ofList] at h
  have hread := congrArg string (List.cons.inj h).2
  rw [string_quoteChars a [], string_quoteChars b []] at hread
  exact Text.Wide.text.inj (congrArg Prod.fst (Except.ok.inj hread))

end Marshal.Json
