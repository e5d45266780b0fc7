import Marshal.Proofs.Text.Plain
import Mathlib.Algebra.Group.Nat.Defs

/-!
# Literals of the generated language

A literal between double quotes stands for code points: a character for its own, an escape for the
one that it names. Quoted text is such a literal, and it stands for the sixteen-bit units of the
text, since an escape with four digits names a unit and two of them are never put together. So
it stands for the text itself exactly if no character lies beyond the basic plane.
-/

namespace Marshal.Text
set_option autoImplicit false

/-- The code point of an escape that is a letter or a mark. -/
def shortPoint? : Char → Option Nat
  | '\\' => some 0x5c
  | '\'' => some 0x27
  | '"' => some 0x22
  | 'a' => some 0x07
  | 'b' => some 0x08
  | 'f' => some 0x0c
  | 'n' => some 0x0a
  | 'r' => some 0x0d
  | 't' => some 0x09
  | 'v' => some 0x0b
  | _ => none

/-- The number that hexadecimal digits stand for, behind those that stand for `n`. -/
def hexNumber? (n : Nat) : List Char → Option Nat
  | [] => some n
  | c :: cs => (hexValue? c).bind fun v => hexNumber? (n * 16 + v) cs

/-- The code point that so many hexadecimal digits name, and what is behind them. -/
def hexPoint? (width : Nat) (cs : List Char) : Option (List Nat × List Char) :=
  if cs.length < width then none
  else (hexNumber? 0 (cs.take width)).bind fun n =>
    if n < 0x110000 then some ([n], cs.drop width) else none

def isOctal (c : Char) : Bool := '0' ≤ c && c ≤ '7'

/-- The code points that an escape stands for, and what is behind it. The backslash was read; it
stands for itself where no escape begins. Characters are not looked up by their names. -/
def escapePoints? : List Char → Option (List Nat × List Char)
  | [] => none
  | '\n' :: cs => some ([], cs)
  | 'x' :: cs => hexPoint? 2 cs
  | 'u' :: cs => hexPoint? 4 cs
  | 'U' :: cs => hexPoint? 8 cs
  | 'N' :: _ => none
  | c :: cs =>
    match shortPoint? c, ((c :: cs).take 3).takeWhile isOctal with
    | some n, _ => some ([n], cs)
    | none, [] => some (['\\'.toNat, c.toNat], cs)
    | none, digits =>
      some ([digits.foldl (fun n d => n * 8 + (d.toNat - '0'.toNat)) 0],
        (c :: cs).drop digits.length)

/-- The code points of a literal whose opening quote was read, and what is behind its closing one;
`fuel` bounds the number of steps. No line ends in a literal. -/
def literalPoints? : Nat → List Char → Option (List Nat × List Char)
  | 0, _ | _, [] => none
  | _ + 1, '"' :: cs => some ([], cs)
  | _ + 1, '\n' :: _ | _ + 1, '\r' :: _ | _ + 1, '\x00' :: _ => none
  | fuel + 1, '\\' :: cs => do
    let (points, cs) ← escapePoints? cs
    let (more, rest) ← literalPoints? fuel cs
    return (points ++ more, rest)
  | fuel + 1, c :: cs => do
    let (more, rest) ← literalPoints? fuel cs
    return (c.toNat :: more, rest)

/-- The code points that the literal at the front of a text stands for, and what is behind it. Three
quotes open a literal of another kind. -/
def readLiteral? : List Char → Option (List Nat × List Char)
  | '"' :: '"' :: '"' :: _ => none
  | '"' :: cs => literalPoints? (cs.length + 1) cs
  | _ => none

def unitsOf (c : Char) : List Nat :=
  if c.toNat < 0x10000 then [c.toNat] else [highSurrogate c.toNat, lowSurrogate c.toNat]

def units (s : String) : List Nat := s.toList.flatMap unitsOf

def points (s : String) : List Nat := s.toList.map Char.toNat

/-- No character of a text lies beyond the basic plane. -/
def IsBasic (s : String) : Prop := ∀ c ∈ s.toList, c.toNat < 0x10000

instance (s : String) : Decidable (IsBasic s) :=
  List.decidableBAll (fun c : Char => c.toNat < 0x10000) s.toList

theorem lt_of_mem_unitsOf {c : Char} {n : Nat} (h : n ∈ unitsOf c) : n < 0x10000 := by
  have hvalid : c.toNat < 0xd800 ∨ 0xdfff < c.toNat ∧ c.toNat < 0x110000 := c.valid
  rw [unitsOf] at h
  split at h
  next hc => exact List.mem_singleton.mp h ▸ hc
  next hc =>
    simp only [highSurrogate, lowSurrogate, List.mem_cons, List.not_mem_nil, or_false] at h
    omega

/-- The units of a text are its code points exactly if all of them are units. -/
theorem units_eq_points_iff {s : String} : units s = points s ↔ IsBasic s := by
  constructor
  · intro h c hc
    have hmem : c.toNat ∈ units s := h ▸ List.mem_map_of_mem hc
    obtain ⟨d, -, hd⟩ := List.mem_flatMap.mp hmem
    exact lt_of_mem_unitsOf hd
  · intro h
    have hunits : ∀ c ∈ s.toList, unitsOf c = [c.toNat] := fun c hc => if_pos (h c hc)
    rw [units, points, List.flatMap_def, List.map_congr_left hunits, ← List.flatMap_def,
      ← List.map_eq_flatMap]

theorem hexNumber?_append {n : Nat} {cs ds : List Char} :
    hexNumber? n (cs ++ ds) = (hexNumber? n cs).bind fun m => hexNumber? m ds := by
  induction cs generalizing n with
  | nil => rfl
  | cons c cs ih =>
    rw [List.cons_append, hexNumber?, hexNumber?]
    cases hexValue? c with
    | none => rfl
    | some v => exact ih

theorem hexNumber?_hexDigits (width n m : Nat) :
    hexNumber? n (hexDigits width m) = some (n * 16 ^ width + m % 16 ^ width) := by
  induction width generalizing m with
  | zero => simp [hexDigits, hexNumber?, Nat.mod_one]
  | succ width ih =>
    have hdigit : hexValue? (hexDigit (m % 16)) = some (m % 16) :=
      hexValue?_hexDigit (Nat.mod_lt m (by decide))
    have hpow : 16 ^ (width + 1) = 16 * 16 ^ width := Nat.pow_succ'
    rw [hexDigits, hexNumber?_append, ih, Option.bind_some, hexNumber?, hdigit, Option.bind_some,
      hexNumber?, hpow, Nat.mod_mul, Nat.add_mul, Nat.mul_assoc, Nat.mul_comm (16 ^ width)]
    congr 1
    omega

theorem escapePoints?_unit {n : Nat} (h : n < 0x10000) (rest : List Char) :
    escapePoints? ('u' :: (hexDigits 4 n ++ rest)) = some ([n], rest) := by
  have hlength : ¬ (hexDigits 4 n ++ rest).length < 4 := by simp
  have htake : (hexDigits 4 n ++ rest).take 4 = hexDigits 4 n :=
    List.take_left' (length_hexDigits 4 n)
  have hdrop : (hexDigits 4 n ++ rest).drop 4 = rest := List.drop_left' (length_hexDigits 4 n)
  have hmod : n % 16 ^ 4 = n := Nat.mod_eq_of_lt (by omega)
  have hnumber : hexNumber? 0 (hexDigits 4 n) = some n := by
    rw [hexNumber?_hexDigits, hmod, Nat.zero_mul, Nat.zero_add]
  have hpoint : n < 0x110000 := by omega
  change hexPoint? 4 _ = _
  rw [hexPoint?, if_neg hlength, htake, hnumber, Option.bind_some, if_pos hpoint, hdrop]

theorem escapePoints?_short {c d : Char} (h : (c, d) ∈ shortEscapes) (rest : List Char) :
    escapePoints? (d :: rest) = some ([c.toNat], rest) := by
  simp only [shortEscapes, List.mem_cons, List.not_mem_nil, or_false, Prod.mk.injEq] at h
  rcases h with ⟨rfl, rfl⟩ | ⟨rfl, rfl⟩ | ⟨rfl, rfl⟩ | ⟨rfl, rfl⟩ | ⟨rfl, rfl⟩ | ⟨rfl, rfl⟩ |
    ⟨rfl, rfl⟩
  all_goals rfl

theorem basic_of_shortEscapes {c d : Char} (h : (c, d) ∈ shortEscapes) : c.toNat < 0x10000 := by
  have hall : ∀ p ∈ shortEscapes, p.1.toNat < 0x10000 := by decide
  exact hall (c, d) h

theorem Plain.basic {c : Char} (h : Plain c) : c.toNat < 0x10000 :=
  Nat.lt_trans h.toNat_lt (by decide)

theorem literalPoints?_plain {c : Char} (hquote : c ≠ '"') (hbackslash : c ≠ '\\') (h : Plain c)
    (fuel : Nat) (rest : List Char) :
    literalPoints? (fuel + 1) (c :: rest) =
      (literalPoints? fuel rest).map fun r => (c.toNat :: r.1, r.2) := by
  have hblank : ∀ d : Char, d < ' ' → c ≠ d := by
    rintro d hd rfl
    exact absurd h.1 (Char.not_le.mpr hd)
  rw [literalPoints?]
  · cases literalPoints? fuel rest <;> rfl
  · exact hquote
  · exact hblank _ (by decide)
  · exact hblank _ (by decide)
  · exact hblank _ (by decide)
  · exact hbackslash

theorem literalPoints?_escape {points : List Nat} {cs rest : List Char}
    (h : escapePoints? cs = some (points, rest)) (fuel : Nat) :
    literalPoints? (fuel + 1) ('\\' :: cs) =
      (literalPoints? fuel rest).map fun r => (points ++ r.1, r.2) := by
  rw [literalPoints?, h]
  change (do let r ← literalPoints? fuel rest; return (points ++ r.1, r.2)) = _
  cases literalPoints? fuel rest <;> rfl

theorem literalPoints?_unit {n : Nat} (h : n < 0x10000) (fuel : Nat) (rest : List Char) :
    literalPoints? (fuel + 1) (unitEscape n ++ rest) =
      (literalPoints? fuel rest).map fun r => (n :: r.1, r.2) :=
  literalPoints?_escape (escapePoints?_unit h rest) fuel

theorem literalPoints?_quoteChar (c : Char) (fuel : Nat) (rest : List Char) :
    literalPoints? (fuel + (unitsOf c).length) (quoteChar c ++ rest) =
      (literalPoints? fuel rest).map fun r => (unitsOf c ++ r.1, r.2) := by
  rcases quoteChar_cases c with ⟨d, hc, hd⟩ | ⟨hc, hquote, hbackslash, hplain⟩ | ⟨hc, hbasic⟩ |
    ⟨hc, hbeyond⟩
  · rw [hc, unitsOf, if_pos (basic_of_shortEscapes hd)]
    exact literalPoints?_escape (escapePoints?_short hd rest) fuel
  · rw [hc, unitsOf, if_pos hplain.basic]
    exact literalPoints?_plain hquote hbackslash hplain fuel rest
  · rw [hc, unitsOf, if_pos hbasic]
    exact literalPoints?_unit hbasic fuel rest
  · have hunits : unitsOf c = [highSurrogate c.toNat, lowSurrogate c.toNat] :=
      if_neg (Nat.not_lt.mpr hbeyond)
    have hhigh := lt_of_mem_unitsOf (hunits ▸ List.mem_cons_self)
    have hlow := lt_of_mem_unitsOf (hunits ▸ List.mem_cons_of_mem _ List.mem_cons_self)
    rw [hc, hunits, List.append_assoc]
    refine (literalPoints?_unit hhigh (fuel + 1) _).trans ?_
    rw [literalPoints?_unit hlow, Option.map_map]
    rfl

theorem literalPoints?_quoteChars (cs rest : List Char) (fuel : Nat) :
    literalPoints? (fuel + 1 + (cs.flatMap unitsOf).length) (quoteChars cs ++ '"' :: rest) =
      some (cs.flatMap unitsOf, rest) := by
  induction cs with
  | nil => rfl
  | cons c cs ih =>
    have hfuel : fuel + 1 + ((c :: cs).flatMap unitsOf).length =
        fuel + 1 + (cs.flatMap unitsOf).length + (unitsOf c).length := by
      rw [List.flatMap_cons, List.length_append]
      omega
    have hquoted : quoteChars (c :: cs) = quoteChar c ++ quoteChars cs := rfl
    rw [hfuel, hquoted, List.append_assoc, literalPoints?_quoteChar, ih]
    rfl

theorem length_unitsOf_le (c : Char) : (unitsOf c).length ≤ (quoteChar c).length := by
  by_cases hbasic : c.toNat < 0x10000
  · obtain ⟨d, ds, hc, -⟩ := quoteChar_eq_cons c
    rw [unitsOf, if_pos hbasic, hc]
    simp
  · have hc : quoteChar c =
        unitEscape (highSurrogate c.toNat) ++ unitEscape (lowSurrogate c.toNat) := by
      rcases quoteChar_cases c with ⟨d, -, hd⟩ | ⟨-, -, -, hplain⟩ | ⟨-, h⟩ | ⟨hc, -⟩
      · exact absurd (basic_of_shortEscapes hd) hbasic
      · exact absurd hplain.basic hbasic
      · exact absurd h hbasic
      · exact hc
    rw [unitsOf, if_neg hbasic, hc]
    simp [unitEscape]

theorem length_units_le (cs : List Char) :
    (cs.flatMap unitsOf).length ≤ (quoteChars cs).length := by
  induction cs with
  | nil => exact Nat.le_refl 0
  | cons c cs ih =>
    have hc := length_unitsOf_le c
    simp only [quoteChars, List.flatMap_cons, List.length_append] at ih ⊢
    omega

theorem readLiteral?_quoted (s : String) {rest : List Char} (h : rest.head? ≠ some '"') :
    readLiteral? ((quoted s).toList ++ rest) = some (units s, rest) := by
  have hbody : (quoted s).toList ++ rest = '"' :: (quoteChars s.toList ++ '"' :: rest) := by
    rw [quoted, String.toList_ofList]
    simp
  have hlength := length_units_le s.toList
  obtain ⟨fuel, hfuel⟩ : ∃ fuel, (quoteChars s.toList ++ '"' :: rest).length + 1 =
      fuel + 1 + (units s).length := by
    refine ⟨(quoteChars s.toList ++ '"' :: rest).length - (units s).length, ?_⟩
    rw [units, List.length_append]
    omega
  have hread := literalPoints?_quoteChars s.toList rest fuel
  rw [hbody, readLiteral?, hfuel]
  · exact hread
  · -- two quotes at the front are those around the empty text
    intro cs hcs
    cases hs : s.toList with
    | nil =>
      rw [hs] at hcs
      exact h (by rw [(List.cons.inj hcs).2]; rfl)
    | cons c cs' =>
      obtain ⟨d, ds, hc, hd⟩ := quoteChar_eq_cons c
      rw [hs, quoteChars, List.flatMap_cons, hc] at hcs
      exact hd (List.cons.inj hcs).1

end Marshal.Text
