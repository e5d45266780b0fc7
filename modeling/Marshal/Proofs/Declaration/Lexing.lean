import Marshal.Proofs.Declaration.Grammar
import Mathlib.Data.List.Basic
import Mathlib.Data.List.TakeWhile

/-!
# Lexemes and skipped text at the front of a text

What is found at the front of a text is a lexeme that the text begins with. Where no choice is open
between a word and a name, every lexeme that may stand there is found; before a field the word for
ghosts is preferred, and a name is found that is not the word and does not hide it.
-/

namespace Marshal.Declaration
set_option autoImplicit false

theorem afterWord?_eq_some_iff {ws cs rest : List Char} :
    afterWord? ws cs = some rest ↔ cs = ws ++ rest := by
  induction ws generalizing cs with
  | nil => simp [afterWord?]
  | cons w ws ih =>
    cases cs with
    | nil => simp [afterWord?]
    | cons c cs =>
      simp only [afterWord?, List.cons_append, List.cons.injEq]
      split
      · rename_i h
        simp [ih, h]
      · rename_i h
        simp [Ne.symm h]

/-- Where a name ends is decided by what follows it. -/
def Lexeme.Fits (l : Lexeme) (rest : List Char) : Prop :=
  ∀ s, l = .name s → IsName s ∧ extendsName rest = false

theorem Lexeme.fits_of_ne_name {l : Lexeme} (h : l.terminal ≠ .name) (rest : List Char) :
    l.Fits rest := by
  rintro s rfl
  exact absurd rfl h

theorem Lexeme.match?_eq_some_iff {l l' : Lexeme} {cs rest : List Char} :
    l.match? cs = some (l', rest) ↔ l = l' ∧ cs = l.chars ++ rest := by
  simp only [Lexeme.match?, Option.map_eq_some_iff, afterWord?_eq_some_iff, Prod.mk.injEq]
  constructor
  · rintro ⟨rest', h, rfl, rfl⟩
    exact ⟨rfl, h⟩
  · rintro ⟨rfl, h⟩
    exact ⟨rest, h, rfl, rfl⟩

theorem Lexeme.chars_name (s : String) : (Lexeme.name s).chars = s.toList := rfl

theorem extendsName_dropWhile (cs : List Char) :
    extendsName (cs.dropWhile isNameChar) = false := by
  induction cs with
  | nil => rfl
  | cons c cs ih =>
    simp only [List.dropWhile]
    split
    · exact ih
    · rename_i h
      simpa [extendsName] using h

theorem takeWhile_of_extendsName {cs rest : List Char} (hc : ∀ c ∈ cs, isNameChar c)
    (hr : extendsName rest = false) :
    (cs ++ rest).takeWhile isNameChar = cs ∧ (cs ++ rest).dropWhile isNameChar = rest := by
  induction cs with
  | nil =>
    cases rest with
    | nil => exact ⟨rfl, rfl⟩
    | cons c rest =>
      have h : isNameChar c = false := hr
      simp [h]
  | cons c cs ih =>
    obtain ⟨ht, hd⟩ := ih fun d hd => hc d (List.mem_cons_of_mem c hd)
    simp [hc c List.mem_cons_self, ht, hd]

theorem matchName?_eq_some_iff {cs rest : List Char} {l : Lexeme} :
    matchName? cs = some (l, rest) ↔
      l.terminal = .name ∧ l.Fits rest ∧ cs = l.chars ++ rest := by
  constructor
  · intro h
    cases cs with
    | nil => cases h
    | cons c cs =>
      simp only [matchName?] at h
      split at h
      · rename_i hc
        cases h
        refine ⟨rfl, ?_, ?_⟩
        · rintro s h
          obtain rfl := Lexeme.name.inj h
          refine ⟨⟨c, cs.takeWhile isNameChar, String.toList_ofList, hc, ?_⟩, ?_⟩
          · exact fun d hd => List.mem_takeWhile_imp hd
          · exact extendsName_dropWhile cs
        · rw [Lexeme.chars_name, String.toList_ofList, List.cons_append,
            List.takeWhile_append_dropWhile]
      · cases h
  · rintro ⟨hl, hf, hcs⟩
    cases l <;> cases hl
    rename_i s
    obtain ⟨⟨c, ds, hs, hc, hds⟩, hr⟩ := hf s rfl
    obtain ⟨ht, hd⟩ := takeWhile_of_extendsName hds hr
    rw [hcs, Lexeme.chars_name, hs, List.cons_append, matchName?, if_pos hc, ht, hd, ← hs,
      String.ofList_toList]

theorem match?_iff_of_single {t : Terminal} {l₀ l : Lexeme} {cs rest : List Char}
    (hm : t.match? = l₀.match?) (ht : ∀ l, l.terminal = t ↔ l₀ = l) (hn : t ≠ .name) :
    t.match? cs = some (l, rest) ↔ l.terminal = t ∧ l.Fits rest ∧ cs = l.chars ++ rest := by
  rw [hm, Lexeme.match?_eq_some_iff, ht]
  constructor
  · rintro ⟨rfl, h⟩
    exact ⟨rfl, Lexeme.fits_of_ne_name (by rwa [(ht l₀).mpr rfl]) rest, h⟩
  · rintro ⟨rfl, _, h⟩
    exact ⟨rfl, h⟩

theorem match?_functionWord {cs rest : List Char} {l : Lexeme} :
    Terminal.functionWord.match? cs = some (l, rest) ↔
      l.terminal = .functionWord ∧ l.Fits rest ∧ cs = l.chars ++ rest := by
  have hm : Terminal.functionWord.match? cs =
      (Lexeme.match? (.functionWord .function) cs).orElse fun _ =>
        Lexeme.match? (.functionWord .predicate) cs := by
    simp only [Terminal.match?]
    cases Lexeme.match? (.functionWord .function) cs <;> rfl
  rw [hm]
  constructor
  · intro h
    cases hf : Lexeme.match? (.functionWord .function) cs with
    | some found =>
      rw [hf] at h
      cases h
      obtain ⟨rfl, h⟩ := Lexeme.match?_eq_some_iff.mp hf
      exact ⟨rfl, Lexeme.fits_of_ne_name (by decide) rest, h⟩
    | none =>
      rw [hf] at h
      obtain ⟨rfl, h'⟩ := Lexeme.match?_eq_some_iff.mp h
      exact ⟨rfl, Lexeme.fits_of_ne_name (by decide) rest, h'⟩
  · rintro ⟨hl, -, h⟩
    cases l <;> cases hl
    rename_i k
    have hk := Lexeme.match?_eq_some_iff.mpr ⟨rfl, h⟩
    cases k with
    | function =>
      rw [hk]
      rfl
    | predicate =>
      cases hf : Lexeme.match? (.functionWord .function) cs with
      | some found =>
        obtain ⟨_, rest'⟩ := found
        obtain ⟨_, h'⟩ := Lexeme.match?_eq_some_iff.mp hf
        cases h.symm.trans h'
      | none => exact hk

theorem Terminal.match?_eq_some_iff {t : Terminal} {cs rest : List Char} {l : Lexeme} :
    t.match? cs = some (l, rest) ↔ l.terminal = t ∧ l.Fits rest ∧ cs = l.chars ++ rest := by
  cases t
  case name => exact matchName?_eq_some_iff
  case functionWord => exact match?_functionWord
  all_goals
    refine match?_iff_of_single rfl ?_ (by decide)
    intro l
    constructor
    · intro h
      cases l <;> first | rfl | cases h
    · rintro rfl
      rfl

/-- The terminal other than a name that a character begins. -/
def Terminal.ofChar? : Char → Option Terminal
  | 'a' => some .abstractWord
  | ':' => some .colon
  | ',' => some .comma
  | 'd' => some .datatypeWord
  | '.' => some .dot
  | '=' => some .equal
  | 'f' | 'p' => some .functionWord
  | 'g' => some .ghostWord
  | '\x7b' => some .lbrace
  | '<' => some .less
  | '(' => some .lparen
  | 'm' => some .moduleWord
  | '>' => some .more
  | '\x7d' => some .rbrace
  | ')' => some .rparen
  | '|' => some .bar
  | _ => none

def Terminal.isWord : Terminal → Bool
  | .abstractWord | .datatypeWord | .functionWord | .ghostWord | .moduleWord => true
  | _ => false

theorem Lexeme.chars_head {l : Lexeme} (h : l.terminal ≠ .name) :
    ∃ c cs, l.chars = c :: cs ∧ Terminal.ofChar? c = some l.terminal := by
  cases l with
  | name s => exact absurd rfl h
  | functionWord k => cases k <;> exact ⟨_, _, rfl, rfl⟩
  | _ => exact ⟨_, _, rfl, rfl⟩

theorem Terminal.isWord_of_isNameStart {c : Char} {t : Terminal} (h : ofChar? c = some t)
    (hc : isNameStart c) : t.isWord := by
  unfold ofChar? at h
  split at h <;> cases h <;> first | rfl | cases hc

theorem not_skipped_of_ofChar? {c : Char} {t : Terminal} (h : Terminal.ofChar? c = some t) :
    c ≠ '/' ∧ isBlank c = false := by
  unfold Terminal.ofChar? at h
  split at h <;> first | exact ⟨by decide, by decide⟩ | cases h

theorem not_skipped_of_isNameStart {c : Char} (h : isNameStart c) :
    c ≠ '/' ∧ isBlank c = false := by
  have hb : ∀ d, isNameStart d = false → c ≠ d := by
    rintro d hd rfl
    rw [h] at hd
    cases hd
  refine ⟨hb '/' (by decide), ?_⟩
  simp [isBlank, hb ' ' (by decide), hb '\t' (by decide), hb '\x0c' (by decide),
    hb '\r' (by decide), hb '\n' (by decide)]

theorem match?_unique {t t' : Terminal} {cs rest rest' : List Char} {l l' : Lexeme}
    (h : t.match? cs = some (l, rest)) (h' : t'.match? cs = some (l', rest'))
    (hw : t = .name → t'.isWord = false) (hw' : t' = .name → t.isWord = false) : t = t' := by
  obtain ⟨rfl, hf, hcs⟩ := Terminal.match?_eq_some_iff.mp h
  obtain ⟨rfl, hf', hcs'⟩ := Terminal.match?_eq_some_iff.mp h'
  have name_word {k k' : Lexeme} {ds ds' : List Char} (hk : k.Fits ds)
      (hks : cs = k.chars ++ ds) (hks' : cs = k'.chars ++ ds') (hn : k.terminal = .name)
      (hn' : k'.terminal ≠ .name) : k'.terminal.isWord := by
    cases k <;> cases hn
    obtain ⟨⟨c, tl, hs, hc, _⟩, _⟩ := hk _ rfl
    obtain ⟨c', tl', hd, ht⟩ := Lexeme.chars_head hn'
    rw [Lexeme.chars_name, hs] at hks
    rw [hd, hks] at hks'
    obtain rfl := (List.cons.inj hks').1
    exact Terminal.isWord_of_isNameStart ht hc
  by_cases hl : l.terminal = .name
  · by_cases hl' : l'.terminal = .name
    · rw [hl, hl']
    · have := name_word hf hcs hcs' hl hl'
      rw [hw hl] at this
      cases this
  · by_cases hl' : l'.terminal = .name
    · have := name_word hf' hcs' hcs hl' hl
      rw [hw' hl'] at this
      cases this
    · obtain ⟨c, tl, hd, ht⟩ := Lexeme.chars_head hl
      obtain ⟨c', tl', hd', ht'⟩ := Lexeme.chars_head hl'
      rw [hd] at hcs
      rw [hd', hcs] at hcs'
      obtain rfl := (List.cons.inj hcs').1
      exact Option.some.inj (ht.symm.trans ht')

theorem nextLexeme?_sound {ts : List Terminal} {cs rest : List Char} {l : Lexeme}
    (h : nextLexeme? ts cs = some (l, rest)) : l.Fits rest ∧ cs = l.chars ++ rest := by
  obtain ⟨t, _, ht⟩ := List.exists_of_findSome?_eq_some h
  split at ht
  · cases ht
  · exact (Terminal.match?_eq_some_iff.mp ht).2

/-- An expected lexeme is found, unless the choice between a word and a name is open. -/
theorem nextLexeme?_of_fits {ts : List Terminal} {l : Lexeme} {rest : List Char}
    (hl : l.terminal ∈ ts) (hf : l.Fits rest) (hw : .name ∈ ts → l.terminal.isWord = false)
    (hn : l.terminal = .name → ∀ t ∈ ts, t.isWord = false) :
    nextLexeme? ts (l.chars ++ rest) = some (l, rest) := by
  have hm : l.terminal.match? (l.chars ++ rest) = some (l, rest) :=
    Terminal.match?_eq_some_iff.mpr ⟨rfl, hf, rfl⟩
  cases hfound : nextLexeme? ts (l.chars ++ rest) with
  | none =>
    have hnone := List.findSome?_eq_none_iff.mp hfound l.terminal hl
    split at hnone
    · rename_i hg
      simp only [Bool.and_eq_true, decide_eq_true_eq, List.contains_iff_mem] at hg
      have hword := hw hg.1.2
      rw [hg.1.1] at hword
      cases hword
    · rw [hm] at hnone
      cases hnone
  | some found =>
    obtain ⟨l', rest'⟩ := found
    obtain ⟨t, ht, hmt⟩ := List.exists_of_findSome?_eq_some hfound
    split at hmt
    · cases hmt
    · have he : l.terminal = t :=
        match?_unique hm hmt (fun h => hn h t ht) (fun h => hw (h ▸ ht))
      rw [← he, hm] at hmt
      exact hmt.symm

theorem ghostIsName_append {cs : List Char} :
    ghostIsName (Lexeme.ghostWord.chars ++ cs) =
      match cs with
      | c :: _ => isNameChar c && !isNameStart c
      | [] => false := by
  have h := afterWord?_eq_some_iff.mpr (rfl : Lexeme.ghostWord.chars ++ cs = _)
  rw [ghostIsName, h]
  cases cs <;> rfl

/-- Where a field has to follow, the word for ghosts wins over a name that could begin with it. -/
theorem nextLexeme?_ghost {ts : List Terminal} {rest : List Char}
    (h : ghostIsName (Lexeme.ghostWord.chars ++ rest) = false) :
    nextLexeme? (.ghostWord :: ts) (Lexeme.ghostWord.chars ++ rest) = some (.ghostWord, rest) := by
  have hm : Terminal.ghostWord.match? (Lexeme.ghostWord.chars ++ rest) = some (.ghostWord, rest) :=
    Terminal.match?_eq_some_iff.mpr ⟨rfl, Lexeme.fits_of_ne_name (by decide) rest, rfl⟩
  simp [nextLexeme?, h, hm]

theorem not_hidesGhost_of_nextLexeme? {ts : List Terminal} {cs rest : List Char} {s : String}
    (h : nextLexeme? (.ghostWord :: ts) cs = some (.name s, rest)) : ¬ HidesGhost s := by
  rintro ⟨c, tail, hs, hc⟩
  obtain ⟨-, hcs⟩ := nextLexeme?_sound h
  rw [Lexeme.chars_name, hs, List.append_assoc] at hcs
  rw [hcs, nextLexeme?_ghost (by simp [ghostIsName_append, hc])] at h
  cases h

/-- A text that begins with a name and with the word begins with the word within the name. -/
theorem ghost_of_append {s : String} {rest tail : List Char}
    (hr : extendsName rest = false) (h : s.toList ++ rest = Lexeme.ghostWord.chars ++ tail) :
    ∃ cs, s.toList = Lexeme.ghostWord.chars ++ cs := by
  rcases List.append_eq_append_iff.mp h with ⟨cs, hcs, hrest⟩ | ⟨cs, hcs, -⟩
  · cases cs with
    | nil => exact ⟨[], by simpa using hcs.symm⟩
    | cons c cs =>
      have hc : c ∈ Lexeme.ghostWord.chars := hcs ▸ List.mem_append_right _ List.mem_cons_self
      have hall : ∀ d ∈ Lexeme.ghostWord.chars, isNameChar d := List.all_eq_true.mp rfl
      rw [hrest] at hr
      exact absurd (hall c hc) (by simpa [extendsName] using hr)
  · exact ⟨cs, hcs⟩

/-- Where a field has to follow, a name is found that is not, and does not hide, the word. -/
theorem nextLexeme?_fieldName {ts : List Terminal} {s : String} {rest : List Char} (hs : IsName s)
    (hh : ¬ HidesGhost s) (hg : s ≠ "ghost") (hr : extendsName rest = false) :
    nextLexeme? (.ghostWord :: .name :: ts) (s.toList ++ rest) = some (.name s, rest) := by
  have hm : Terminal.name.match? (s.toList ++ rest) = some (.name s, rest) := by
    refine Terminal.match?_eq_some_iff.mpr ⟨rfl, ?_, rfl⟩
    intro s' hs'
    exact Lexeme.name.inj hs' ▸ ⟨hs, hr⟩
  by_cases hghost : ghostIsName (s.toList ++ rest)
  · simp [nextLexeme?, hghost, hm]
  · have hnone : Terminal.ghostWord.match? (s.toList ++ rest) = none := by
      by_contra hsome
      obtain ⟨⟨l, tail⟩, hsome⟩ := Option.ne_none_iff_exists'.mp hsome
      obtain ⟨hl, -, htail⟩ := Terminal.match?_eq_some_iff.mp hsome
      cases l <;> cases hl
      obtain ⟨cs, hcs⟩ := ghost_of_append hr htail
      rw [hcs, List.append_assoc, ghostIsName_append] at hghost
      cases cs with
      | nil => exact hg (String.toList_injective (by rw [hcs]; rfl))
      | cons c cs =>
        have hstart : ¬ isNameStart c := fun hc => hh ⟨c, cs, hcs, hc⟩
        obtain ⟨d, ds, hd, -, hds⟩ := hs
        have hmem : c ∈ ds := by
          have := hd.symm.trans hcs
          obtain rfl := (List.cons.inj this).2
          simp
        exact hghost (by simp [hds c hmem, hstart])
    simp [nextLexeme?, hghost, hm, hnone]

/-- A fitting lexeme is not skipped. -/
theorem Lexeme.Fits.chars_cons {l : Lexeme} {rest : List Char} (h : l.Fits rest) :
    ∃ c cs, l.chars = c :: cs ∧ c ≠ '/' ∧ isBlank c = false := by
  by_cases hl : l.terminal = .name
  · cases l <;> cases hl
    obtain ⟨⟨c, cs, hs, hc, -⟩, -⟩ := h _ rfl
    exact ⟨c, cs, hs, not_skipped_of_isNameStart hc⟩
  · obtain ⟨c, cs, hd, ht⟩ := Lexeme.chars_head hl
    exact ⟨c, cs, hd, not_skipped_of_ofChar? ht⟩

theorem afterSkipped?_eq_none {c : Char} (hs : c ≠ '/') (hb : isBlank c = false) (cs : List Char) :
    afterSkipped? (c :: cs) = none := by
  unfold afterSkipped?
  split
  · rename_i h
    exact absurd (List.cons.inj h).1 hs
  · rename_i h
    exact absurd (List.cons.inj h).1 hs
  · rename_i h
    cases h
    simp [hb]
  · rfl

theorem isNameChar_of_isBlank {c : Char} (h : isBlank c) : isNameChar c = false := by
  simp only [isBlank, Bool.or_eq_true, beq_iff_eq] at h
  rcases h with (((rfl | rfl) | rfl) | rfl) | rfl <;> rfl

theorem afterSkipped?_blank {c : Char} (hc : isBlank c) (cs : List Char) :
    afterSkipped? (c :: cs) = some (cs.dropWhile isBlank) := by
  have hs : c ≠ '/' := by
    rintro rfl
    cases hc
  unfold afterSkipped?
  split
  · rename_i h
    exact absurd (List.cons.inj h).1 hs
  · rename_i h
    exact absurd (List.cons.inj h).1 hs
  · rename_i h
    cases h
    rw [if_pos hc]
  · rename_i h
    cases h

/-- A block comment ends at the nearest end mark. -/
theorem afterBlock?_eq_some_iff {cs rest : List Char} :
    afterBlock? cs = some rest ↔
      ∃ body, ¬ ['*', '/'] <:+: body ∧ cs = body ++ '*' :: '/' :: rest := by
  induction cs with
  | nil =>
    constructor
    · intro h
      cases h
    · rintro ⟨_ | ⟨c, body⟩, -, h⟩ <;> cases h
  | cons c cs ih =>
    unfold afterBlock?
    split
    · rename_i heq
      cases heq
      constructor
      · intro h
        cases h
        exact ⟨[], by simp, rfl⟩
      · rintro ⟨_ | ⟨c, _ | ⟨d, body⟩⟩, hb, h⟩
        · cases h
          rfl
        · cases h
        · cases h
          exact absurd ⟨[], body, rfl⟩ hb
    · rename_i hn heq
      cases heq
      rw [ih]
      constructor
      · rintro ⟨body, hb, rfl⟩
        refine ⟨c :: body, ?_, rfl⟩
        rw [List.infix_cons_iff]
        rintro (⟨tail, ht⟩ | hi)
        · cases body with
          | nil => cases ht
          | cons d body =>
            cases ht
            exact hn _ rfl rfl
        · exact hb hi
      · rintro ⟨_ | ⟨d, body⟩, hb, h⟩
        · cases h
          exact absurd rfl (hn rest rfl)
        · cases h
          exact ⟨body, fun hi => hb (List.infix_cons hi), rfl⟩
    · rename_i heq
      cases heq

theorem afterSkipped?_cases {cs rest : List Char} (h : afterSkipped? cs = some rest) :
    (∃ body tail, '\n' ∉ body ∧ cs = '/' :: '/' :: (body ++ '\n' :: tail)) ∨
      (∃ body, '\n' ∉ body ∧ cs = '/' :: '/' :: body) ∨
      (∃ body tail, ¬ ['*', '/'] <:+: body ∧ cs = '/' :: '*' :: (body ++ '*' :: '/' :: tail)) ∨
      ∃ c tail, isBlank c ∧ cs = c :: tail := by
  unfold afterSkipped? at h
  split at h
  · rename_i cs
    have hbody : '\n' ∉ cs.takeWhile (· != '\n') := fun hm => by
      simpa using List.mem_takeWhile_imp hm
    have hcs := List.takeWhile_append_dropWhile (p := (· != '\n')) (l := cs)
    cases hd : cs.dropWhile (· != '\n') with
    | nil =>
      rw [hd, List.append_nil] at hcs
      exact .inr (.inl ⟨_, hbody, by rw [hcs]⟩)
    | cons c tail =>
      have hc : (c != '\n') = false := by
        have := List.head?_dropWhile_not (· != '\n') cs
        rw [hd] at this
        simpa using this
      obtain rfl : c = '\n' := by simpa using hc
      rw [hd] at hcs
      exact .inl ⟨_, tail, hbody, by rw [hcs]⟩
  · obtain ⟨body, hbody, rfl⟩ := afterBlock?_eq_some_iff.mp h
    exact .inr (.inr (.inl ⟨body, _, hbody, rfl⟩))
  · split at h
    · rename_i hb
      exact .inr (.inr (.inr ⟨_, _, hb, rfl⟩))
    · cases h
  · cases h

end Marshal.Declaration
