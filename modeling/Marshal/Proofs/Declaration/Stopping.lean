import Marshal.Proofs.Declaration.Settling
import Marshal.Proofs.Declaration.Viability
import Mathlib.Data.List.TakeWhile

/-!
# Where reading stops

Reading goes along every cut that can be completed, so it stops at no boundary but the greatest.
What it has read by then is a cut, and what it expects there are the terminals that can follow.
-/

namespace Marshal.Declaration
set_option autoImplicit false

theorem dropWhile_append_of_head {p : Char → Bool} {body rest : List Char}
    (hb : ∀ c ∈ body, p c) (hr : ∀ c ∈ rest.head?, p c = false) :
    (body ++ rest).dropWhile p = rest := by
  rw [List.dropWhile_append_of_pos hb]
  cases rest with
  | nil => rfl
  | cons c rest => exact List.dropWhile_cons_of_neg (by simp [hr c rfl])

theorem head?_dropWhile_eq_false {p : Char → Bool} (cs : List Char) :
    ∀ c ∈ (cs.dropWhile p).head?, p c = false := by
  intro c hc
  have h := List.head?_dropWhile_not p cs
  rw [Option.mem_def] at hc
  rw [hc] at h
  simpa using h

theorem afterSkipped?_eq_some_iff {cs rest : List Char} :
    afterSkipped? cs = some rest ↔ ∃ body, Ignored body rest ∧ cs = body ++ rest := by
  constructor
  · intro h
    unfold afterSkipped? at h
    split at h
    · rename_i cs
      obtain rfl := Option.some.inj h
      refine ⟨'/' :: '/' :: cs.takeWhile (· != '\n'), .line ?_ ?_, ?_⟩
      · exact fun hm => by simpa using List.mem_takeWhile_imp hm
      · intro c hc
        simpa using head?_dropWhile_eq_false cs c hc
      · simp
    · obtain ⟨body, hb, rfl⟩ := afterBlock?_eq_some_iff.mp h
      exact ⟨_, .block hb, by simp⟩
    · rename_i c cs _ _
      split at h
      · rename_i hc
        obtain rfl := Option.some.inj h
        refine ⟨c :: cs.takeWhile isBlank, .blanks ?_ (head?_dropWhile_eq_false cs), by simp⟩
        intro d hd
        rcases List.mem_cons.mp hd with rfl | hd
        · exact hc
        · exact List.mem_takeWhile_imp hd
      · cases h
    · cases h
  · rintro ⟨body, h, rfl⟩
    cases h with
    | @blanks c body _ hb hr =>
      rw [List.cons_append, afterSkipped?_blank (hb c List.mem_cons_self),
        dropWhile_append_of_head (fun d hd => hb d (List.mem_cons_of_mem c hd)) hr]
    | @line body _ hb hr =>
      have hdrop : (body ++ rest).dropWhile (· != '\n') = rest :=
        dropWhile_append_of_head (fun c hc => by simpa using ne_of_mem_of_not_mem hc hb)
          fun c hc => by simpa using hr c hc
      simpa [afterSkipped?] using hdrop
    | @block body _ hb =>
      simpa [afterSkipped?] using afterBlock?_eq_some_iff.mpr ⟨body, hb, rfl⟩

theorem Reading.length_run_le (r : Reading) (cs : List Char) :
    (r.run cs).left.length ≤ cs.length := by
  induction hn : cs.length using Nat.strong_induction_on generalizing r cs with
  | _ n ih =>
    subst hn
    cases hskip : afterSkipped? cs with
    | some rest =>
      rw [r.run_skip hskip]
      have hlt := afterSkipped?_length hskip
      exact (ih _ hlt r rest rfl).trans hlt.le
    | none =>
      cases ha : r.advance? cs with
      | some found =>
        obtain ⟨r', rest⟩ := found
        rw [run_advance hskip ha]
        have hlt := advance?_length ha
        exact (ih _ hlt r' rest rfl).trans hlt.le
      | none => rw [run_stop hskip ha]

/-- Reading that gets nowhere finds neither an ignored stretch nor a lexeme. -/
theorem Reading.stuck_of_run {r : Reading} {cs : List Char}
    (h : cs.length ≤ (r.run cs).left.length) :
    r.run cs = ⟨cs, r⟩ ∧ afterSkipped? cs = none ∧ r.advance? cs = none := by
  cases hskip : afterSkipped? cs with
  | some rest =>
    rw [r.run_skip hskip] at h
    have := r.length_run_le rest
    have := afterSkipped?_length hskip
    omega
  | none =>
    cases ha : r.advance? cs with
    | some found =>
      obtain ⟨r', rest⟩ := found
      rw [run_advance hskip ha] at h
      have := r'.length_run_le rest
      have := advance?_length ha
      omega
    | none => exact ⟨run_stop hskip ha, rfl, rfl⟩

/-- Where reading stops it finds neither an ignored stretch nor a lexeme. -/
theorem Reading.stuck_run (r : Reading) (cs : List Char) :
    afterSkipped? (r.run cs).left = none ∧
      (r.run cs).reading.advance? (r.run cs).left = none := by
  induction hn : cs.length using Nat.strong_induction_on generalizing r cs with
  | _ n ih =>
    subst hn
    cases hskip : afterSkipped? cs with
    | some rest =>
      rw [r.run_skip hskip]
      exact ih _ (afterSkipped?_length hskip) r rest rfl
    | none =>
      cases ha : r.advance? cs with
      | some found =>
        obtain ⟨r', rest⟩ := found
        rw [run_advance hskip ha]
        exact ih _ (advance?_length ha) r' rest rfl
      | none =>
        rw [run_stop hskip ha]
        exact ⟨hskip, ha⟩

theorem Reading.match?_eq_none_of_advance? {r : Reading} {cs : List Char}
    (h : r.advance? cs = none) {t : Terminal} (ht : t ∈ r.expected) : t.match? cs = none := by
  have hnext : nextLexeme? r.expected cs = none := by
    cases hn : nextLexeme? r.expected cs with
    | none => rfl
    | some found =>
      obtain ⟨l, rest⟩ := found
      obtain ⟨u, hu, hm⟩ := List.exists_of_findSome?_eq_some hn
      split at hm
      · cases hm
      · obtain ⟨rfl, -⟩ := Terminal.match?_eq_some_iff.mp hm
        obtain ⟨r', hs⟩ := step_of_expected hu
        rw [advance?_eq_some hn hs] at h
        cases h
  have hnone := List.findSome?_eq_none_iff.mp hnext
  by_cases hg : t = .ghostWord ∧ .name ∈ r.expected ∧ ghostIsName cs
  · -- the word goes on as a longer name, which would have been found
    obtain ⟨rfl, hname, hcs⟩ := hg
    have hn := hnone .name hname
    unfold ghostIsName at hcs
    split at hcs
    · rename_i c tail hw
      rw [afterWord?_eq_some_iff] at hw
      subst hw
      cases hn
    · cases hcs
  · have ht := hnone t ht
    split at ht
    · rename_i hw
      simp only [Bool.and_eq_true, decide_eq_true_eq, List.contains_iff_mem] at hw
      exact absurd ⟨hw.1.1, hw.1.2, hw.2⟩ hg
    · exact ht

/-- In front of a piece a name ends, unless the piece is the next lexeme. -/
theorem continues_of_fit {p : Piece} {ps : List Piece} {rest : List Char} (h : Fit (p :: ps) rest)
    (ls : List Lexeme) : Continues (lexemesOf (p :: ps) ++ ls) (textOf (p :: ps) ++ rest) := by
  intro c cs hc
  cases p with
  | ignored body =>
    obtain ⟨d, tail, rfl, hd⟩ := Ignored.chars_cons h.1
    obtain rfl := (List.cons.inj hc).1
    exact .inl hd
  | lexeme l =>
    obtain ⟨d, tail, hd, -⟩ := Lexeme.Fits.chars_cons h.1
    simp only [textOf_cons, Piece.chars, hd, List.cons_append] at hc
    obtain rfl := (List.cons.inj hc).1
    exact .inr ⟨l, _, rfl, tail, hd⟩

/-- The word for ghosts at the place of a field is part of a longer name, which is read instead. -/
theorem Reading.advance?_of_ghostIsName {r : Reading} {rest : List Char} (hr : r.atField? ≠ none)
    (h : ghostIsName (Lexeme.ghostWord.chars ++ rest)) :
    ∃ r' rest', r.advance? (Lexeme.ghostWord.chars ++ rest) = some (r', rest') ∧
      rest'.length < rest.length := by
  obtain ⟨⟨o, done⟩, hfield⟩ := Option.ne_none_iff_exists'.mp hr
  obtain ⟨ts, hts⟩ := expected_atField hfield
  rw [ghostIsName_append] at h
  obtain _ | ⟨c, cs⟩ := rest
  · cases h
  have hc : isNameChar c := by
    simp only [Bool.and_eq_true] at h
    exact h.1
  have hname : Terminal.name.match? (Lexeme.ghostWord.chars ++ c :: cs) =
      some (.name (String.ofList (Lexeme.ghostWord.chars ++ c :: cs.takeWhile isNameChar)),
        cs.dropWhile isNameChar) := by
    refine Terminal.match?_eq_some_iff.mpr ⟨rfl, ?_, ?_⟩
    · intro s hs
      obtain rfl := Lexeme.name.inj hs
      refine ⟨⟨'g', "host".toList ++ c :: cs.takeWhile isNameChar, String.toList_ofList, rfl, ?_⟩,
        extendsName_dropWhile cs⟩
      intro d hd
      rcases List.mem_append.mp hd with hd | hd
      · exact List.all_eq_true.mp (rfl : "host".toList.all isNameChar) d hd
      · rcases List.mem_cons.mp hd with rfl | hd
        · exact hc
        · exact List.mem_takeWhile_imp hd
    · simp [Lexeme.chars_name]
  have hnext : nextLexeme? r.expected (Lexeme.ghostWord.chars ++ c :: cs) =
      Terminal.name.match? (Lexeme.ghostWord.chars ++ c :: cs) := by
    simp [hts, nextLexeme?, ghostIsName_append, h, hname]
  refine ⟨_, _, advance?_eq_some (hnext.trans hname) ((step_field hfield).2 _), ?_⟩
  exact Nat.lt_succ_of_le (List.length_dropWhile_le isNameChar cs)

/-- Behind the word for ghosts at the place of a field, where no name follows, a name would end. -/
theorem Reading.extendsName_of_fieldGhost {r : Reading} {cs rest : List Char} {o : FieldOwner}
    {done : List FieldDecl} (h : r.advance? cs = some (.fieldGhost o done, rest))
    (hnone : (Reading.fieldGhost o done).advance? rest = none) : extendsName rest = false := by
  obtain _ | ⟨c, tail⟩ := rest
  · rfl
  have hstart : isNameStart c = false := by
    have hname := match?_eq_none_of_advance? hnone (t := .name) (by simp [expected])
    by_contra hc
    rw [Bool.not_eq_false] at hc
    simp [Terminal.match?, matchName?, hc] at hname
  unfold advance? at h
  split at h
  · cases h
  · rename_i l rest' hn
    obtain ⟨r₁, hs, he⟩ := Option.map_eq_some_iff.mp h
    cases he
    obtain ⟨rfl, hfield⟩ := atField?_of_step hs
    obtain ⟨ts, hts⟩ := expected_atField hfield
    obtain ⟨-, rfl⟩ := nextLexeme?_sound hn
    by_contra hc
    have hghost : ghostIsName (Lexeme.ghostWord.chars ++ c :: tail) := by
      have hchar : isNameChar c := by simpa [extendsName] using hc
      rw [ghostIsName_append]
      simp [hchar, hstart]
    obtain ⟨r', rest', ha, hlt⟩ := advance?_of_ghostIsName (r := r) (by simp [hfield]) hghost
    rw [advance?_eq_some hn hs] at ha
    cases ha
    exact absurd hlt (lt_irrefl _)

/--
Reading goes along a cut that can be completed. Only where the cut ends within a longer name does
reading go on at once to behind the cut.
-/
theorem Reading.run_of_fit {ps : List Piece} {rest : List Char} (hp : Fit ps rest) {r : Reading}
    {ls : List Lexeme} {ms : List ModuleDecl} (h : r.Reads (lexemesOf ps ++ ls) ms) :
    (∃ r' : Reading, r'.Reads ls ms ∧ r.run (textOf ps ++ rest) = r'.run rest) ∨
      (r.run (textOf ps ++ rest)).left.length < rest.length := by
  induction ps generalizing r with
  | nil => exact .inl ⟨r, h, rfl⟩
  | cons p ps ih =>
    obtain ⟨hfit, hps⟩ := hp
    rw [textOf_cons, List.append_assoc]
    cases p with
    | ignored body =>
      have hskip := afterSkipped?_eq_some_iff.mpr ⟨body, hfit, rfl⟩
      rw [Piece.chars, r.run_skip hskip]
      exact ih hps h
    | lexeme l =>
      have hl : l.Fits (textOf ps ++ rest) := hfit
      obtain ⟨c, cs, hc, hslash, hblank⟩ := hl.chars_cons
      have hskip : afterSkipped? (l.chars ++ (textOf ps ++ rest)) = none := by
        rw [hc]
        exact afterSkipped?_eq_none hslash hblank _
      have hname : l.terminal = .name → extendsName (textOf ps ++ rest) = false := by
        intro ht
        cases l <;> cases ht
        exact (hl _ rfl).2
      rw [Piece.chars]
      by_cases hg : r.atField? ≠ none → l = .ghostWord →
          ghostIsName (l.chars ++ (textOf ps ++ rest)) = false
      · obtain ⟨r', ha, hr'⟩ := r.advance?_of_reads h hname hg
        rw [run_advance hskip ha]
        exact ih hps hr'
      · push Not at hg
        obtain ⟨hfield, rfl, hghost⟩ := hg
        cases ps with
        | nil =>
          right
          obtain ⟨r', rest', ha, hlt⟩ :=
            advance?_of_ghostIsName hfield (by simpa using hghost)
          rw [run_advance hskip ha]
          exact (r'.length_run_le rest').trans_lt hlt
        | cons p ps =>
          have hfalse := h.not_ghostIsName hfield (continues_of_fit hps ls)
          exact absurd hfalse hghost

theorem Reading.cut_of_run {r : Reading} {cs : List Char} {ls : List Lexeme}
    {ms : List ModuleDecl} (h : (r.run cs).reading.Reads ls ms) :
    ∃ ps, cs = textOf ps ++ (r.run cs).left ∧ Fit ps (r.run cs).left ∧
      r.Reads (lexemesOf ps ++ ls) ms := by
  induction hn : cs.length using Nat.strong_induction_on generalizing r cs with
  | _ n ih =>
    subst hn
    cases hskip : afterSkipped? cs with
    | some rest =>
      rw [r.run_skip hskip] at h ⊢
      obtain ⟨ps, hps, hfit, hr⟩ := ih _ (afterSkipped?_length hskip) h rfl
      obtain ⟨body, hb, rfl⟩ := afterSkipped?_eq_some_iff.mp hskip
      refine ⟨.ignored body :: ps, ?_, ⟨?_, hfit⟩, hr⟩
      · rw [textOf_cons, List.append_assoc, ← hps]
        rfl
      · rwa [← hps]
    | none =>
      cases ha : r.advance? cs with
      | none =>
        rw [run_stop hskip ha] at h ⊢
        exact ⟨[], rfl, trivial, h⟩
      | some found =>
        obtain ⟨r', rest⟩ := found
        rw [run_advance hskip ha] at h ⊢
        obtain ⟨ps, hps, hfit, hr⟩ := ih _ (advance?_length ha) h rfl
        have hc : ∀ o done, r' = .fieldGhost o done → Continues (lexemesOf ps ++ ls) rest := by
          rintro o done rfl
          cases ps with
          | cons p ps =>
            rw [hps]
            exact continues_of_fit hfit ls
          | nil =>
            -- reading stopped behind the word for ghosts, so no longer name was there
            have hlen : rest.length ≤ ((Reading.fieldGhost o done).run rest).left.length := by
              rw [← List.nil_append (Reading.run _ rest).left]
              exact (congrArg List.length hps).le
            exact continues_of_extendsName (extendsName_of_fieldGhost ha (stuck_of_run hlen).2.2) _
        obtain ⟨l, hl, rfl, hr⟩ := reads_of_advance? ha hr hc
        refine ⟨.lexeme l :: ps, ?_, ⟨?_, hfit⟩, hr⟩
        · rw [textOf_cons, List.append_assoc, ← hps]
          rfl
        · rwa [← hps]

end Marshal.Declaration
