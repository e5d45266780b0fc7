import Marshal.Proofs.Declaration.Layout
import Marshal.Proofs.Declaration.Settling

/-!
# Completing a cut

Lexemes are laid out behind a cut so that its pieces end where they did: a line end separates them,
or nothing at all behind white space, which a line end would make longer.
-/

namespace Marshal.Declaration
set_option autoImplicit false

/-- Lexemes with a line end behind each of them. -/
def spaced (ls : List Lexeme) : List Char := ls.flatMap fun l => l.chars ++ ['\n']

theorem laid_spaced (ls : List Lexeme) : Laid ls (spaced ls) := by
  induction ls with
  | nil => exact .done
  | cons l ls ih =>
    have hl : Laid (l :: ls) (l.chars ++ '\n' :: spaced ls) :=
      .lexeme (fun _ => rfl) (.blank (by decide) ih)
    simpa [spaced] using hl

theorem isBlank_head_spaced {ls : List Lexeme} (hn : ∀ s, .name s ∈ ls → IsName s) :
    ∀ c ∈ (spaced ls).head?, isBlank c = false := by
  intro c hc
  cases ls with
  | nil => cases hc
  | cons l ls =>
    have hf : l.Fits [] := fun s hs => ⟨hn s (hs ▸ List.mem_cons_self), rfl⟩
    obtain ⟨d, cs, hd, -, hblank⟩ := hf.chars_cons
    simp only [spaced, List.flatMap_cons, hd, List.cons_append, List.head?_cons, Option.mem_def,
      Option.some.injEq] at hc
    exact hc ▸ hblank

/-- How a piece ends is decided by the next character. -/
theorem Piece.Fits.congr {p : Piece} {c : Char} {cs : List Char} (h : p.Fits (c :: cs))
    (ds : List Char) : p.Fits (c :: ds) := by
  cases p with
  | lexeme l => exact h
  | ignored body =>
    cases h with
    | blanks hb hr => exact .blanks hb hr
    | line hb hr => exact .line hb hr
    | block hb => exact .block hb

theorem Piece.Fits.chars_cons {p : Piece} {rest : List Char} (h : p.Fits rest) :
    ∃ c cs, p.chars = c :: cs := by
  cases p with
  | lexeme l =>
    obtain ⟨c, cs, hc, -⟩ := Lexeme.Fits.chars_cons h
    exact ⟨c, cs, hc⟩
  | ignored body =>
    obtain ⟨c, cs, hc, -⟩ := Ignored.chars_cons h
    exact ⟨c, cs, hc⟩

theorem exists_laid_behind {p : Piece} {rest : List Char} (h : p.Fits rest) {ls : List Lexeme}
    (hn : ∀ s, .name s ∈ ls → IsName s) : ∃ k, Laid ls k ∧ p.Fits k := by
  have hline : Laid ls ('\n' :: spaced ls) := .blank (by decide) (laid_spaced ls)
  cases p with
  | lexeme l => exact ⟨_, hline, fun s hs => ⟨(h s hs).1, rfl⟩⟩
  | ignored body =>
    cases h with
    | blanks hb _ => exact ⟨_, laid_spaced ls, .blanks hb (isBlank_head_spaced hn)⟩
    | line hb _ => exact ⟨_, hline, .line hb fun c hc => (Option.some.inj hc).symm⟩
    | block hb => exact ⟨_, hline, .block hb⟩

theorem exists_laid {ps : List Piece} {rest : List Char} (h : Fit ps rest) {ls : List Lexeme}
    (hn : ∀ s, .name s ∈ ls → IsName s) : ∃ k, Laid ls k ∧ Fit ps k := by
  induction ps with
  | nil => exact ⟨_, laid_spaced ls, trivial⟩
  | cons p ps ih =>
    obtain ⟨hp, hps⟩ := h
    cases ps with
    | nil =>
      obtain ⟨k, hk, hfit⟩ := exists_laid_behind hp hn
      exact ⟨k, hk, hfit, trivial⟩
    | cons q qs =>
      obtain ⟨k, hk, hfit⟩ := ih hps
      obtain ⟨c, cs, hc⟩ := hfit.1.chars_cons
      refine ⟨k, hk, ?_, hfit⟩
      simp only [textOf_cons, hc, List.cons_append] at hp ⊢
      exact hp.congr _

theorem laid_blanks {ls : List Lexeme} {body cs : List Char} (hb : ∀ c ∈ body, isBlank c)
    (h : Laid ls cs) : Laid ls (body ++ cs) := by
  induction body with
  | nil => exact h
  | cons c body ih =>
    exact .blank (hb c List.mem_cons_self) (ih fun d hd => hb d (List.mem_cons_of_mem c hd))

theorem Laid.eq_nil {ls : List Lexeme} (h : Laid ls []) (hn : ∀ s, .name s ∈ ls → IsName s) :
    ls = [] := by
  generalize htext : ([] : List Char) = text at h
  cases h with
  | done => rfl
  | blank _ _ => cases htext
  | line _ _ => cases htext
  | lastLine _ => rfl
  | block _ _ => cases htext
  | @lexeme l ls cs _ _ =>
    have hf : l.Fits [] := fun s hs => ⟨hn s (hs ▸ List.mem_cons_self), rfl⟩
    obtain ⟨c, tail, hc, -⟩ := hf.chars_cons
    rw [hc] at htext
    cases htext

theorem Laid.of_blank {ls : List Lexeme} {c : Char} {cs : List Char} (h : Laid ls (c :: cs))
    (hc : isBlank c) (hn : ∀ s, .name s ∈ ls → IsName s) : Laid ls cs := by
  generalize htext : c :: cs = text at h
  cases h with
  | done => cases htext
  | blank _ h =>
    cases htext
    exact h
  | line _ _ =>
    cases htext
    cases hc
  | lastLine _ =>
    cases htext
    cases hc
  | block _ _ =>
    cases htext
    cases hc
  | @lexeme l ls cs' _ _ =>
    have hf : l.Fits [] := fun s hs => ⟨hn s (hs ▸ List.mem_cons_self), rfl⟩
    obtain ⟨d, tail, hd, -, hblank⟩ := hf.chars_cons
    rw [hd] at htext
    obtain rfl := (List.cons.inj htext).1
    rw [hc] at hblank
    cases hblank

/-- The pieces of a cut lay out their lexemes. -/
theorem Fit.laid {ps : List Piece} {k : List Char} (h : Fit ps k) {ls : List Lexeme}
    (hk : Laid ls k) (hn : ∀ s, .name s ∈ lexemesOf ps ++ ls → IsName s) :
    Laid (lexemesOf ps ++ ls) (textOf ps ++ k) := by
  induction ps with
  | nil => exact hk
  | cons p ps ih =>
    obtain ⟨hp, hps⟩ := h
    rw [textOf_cons, List.append_assoc]
    cases p with
    | lexeme l =>
      have hrest := ih hps fun s hs => hn s (List.mem_cons_of_mem l hs)
      refine .lexeme (fun ht => ?_) hrest
      cases l <;> cases ht
      exact (hp _ rfl).2
    | ignored body =>
      have hrest := ih hps hn
      cases hp with
      | blanks hb _ => exact laid_blanks hb hrest
      | @line body _ hb hr =>
        cases htext : textOf ps ++ k with
        | nil =>
          rw [htext] at hrest
          rw [lexemesOf_ignored, hrest.eq_nil hn]
          simpa [Piece.chars] using Laid.lastLine hb
        | cons c cs =>
          rw [htext] at hrest hr
          obtain rfl : c = '\n' := hr c rfl
          exact .line hb (hrest.of_blank (by decide) hn)
      | @block body _ hb =>
        have h := Laid.block hb hrest
        simpa [Piece.chars] using h

theorem exists_completes {ps : List Piece} {rest : List Char} (hp : Fit ps rest)
    {ls : List Lexeme} {ms : List ModuleDecl} (hm : ∀ m ∈ ms, m.Formed)
    (hl : lexemesOf ps ++ ls = ms.flatMap (·.lexemes)) : ∃ k, Completes ps ls k := by
  have hn : ∀ s, .name s ∈ lexemesOf ps ++ ls → IsName s := by
    intro s hs
    exact (leads_top_iff.mpr ⟨hm, hl⟩).isName hs
  obtain ⟨k, hk, hfit⟩ := exists_laid hp fun s hs => hn s (List.mem_append_right _ hs)
  refine ⟨k, hfit, hk, hl ▸ isSentence_of_formed hm, ms, hm, ?_⟩
  rw [← hl]
  exact hfit.laid hk hn

end Marshal.Declaration
