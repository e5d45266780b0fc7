import Marshal.Declaration.Meaning
import Marshal.Proofs.Declaration.Completion
import Marshal.Proofs.Declaration.Stopping
import Mathlib.Data.List.Nodup
import Mathlib.Order.Bounds.Basic

/-!
# Where texts are refused

Reading stops at the greatest boundary of a text and expects there what can follow. The text is
refused at the first place from there on where no ignored stretch is open.
-/

namespace Marshal.Declaration
set_option autoImplicit false

/-- What is left of a text where reading stops, and the reading by then. -/
def stopOf (text : List Char) : Stop := (Reading.top []).run text

def stopPlace (text : List Char) : Nat := text.length - (stopOf text).left.length

theorem reads_top_iff {ls : List Lexeme} {ms : List ModuleDecl} :
    (Reading.top []).Reads ls ms ↔ (∀ m ∈ ms, m.Formed) ∧ ls = ms.flatMap (·.lexemes) := by
  rw [← leads_top_iff]
  constructor
  · rintro (h | ⟨o, done, ho, -⟩)
    · exact h
    · cases ho
  · exact .inl

/-- Every completion of what was read completes a cut of the text up to where reading stops. -/
theorem cut_stop {text : List Char} {ls : List Lexeme} {ms : List ModuleDecl}
    (h : (stopOf text).reading.Reads ls ms) :
    ∃ ps k, text = textOf ps ++ (stopOf text).left ∧ IsCut text (stopPlace text) ps ∧
      Completes ps ls k := by
  obtain ⟨ps, htext, hfit, hr⟩ := Reading.cut_of_run h
  obtain ⟨hm, hl⟩ := reads_top_iff.mp hr
  obtain ⟨k, hk⟩ := exists_completes hfit hm hl
  have hplace : stopPlace text = (textOf ps).length := by
    have hlen : text.length = (textOf ps).length + (stopOf text).left.length := by
      rw [← List.length_append]
      exact congrArg List.length htext
    unfold stopPlace
    omega
  have htake : text.take (stopPlace text) = textOf ps := by
    rw [hplace]
    exact (congrArg _ htext).trans List.take_left
  have hdrop : text.drop (stopPlace text) = (stopOf text).left := by
    rw [hplace]
    exact (congrArg _ htext).trans List.drop_left
  refine ⟨ps, k, htext, ⟨Nat.sub_le _ _, htake, ?_⟩, hk⟩
  rw [hdrop]
  exact hfit

theorem exists_cut_stop (text : List Char) :
    ∃ ps ls k, text = textOf ps ++ (stopOf text).left ∧ IsCut text (stopPlace text) ps ∧
      Completes ps ls k := by
  obtain ⟨ls, ms, hl⟩ := (stopOf text).reading.viable
  obtain ⟨ps, k, h⟩ := cut_stop (.inl hl)
  exact ⟨ps, ls, k, h⟩

theorem stopPlace_le (text : List Char) : stopPlace text ≤ text.length := Nat.sub_le _ _

theorem drop_stopPlace (text : List Char) :
    text.drop (stopPlace text) = (stopOf text).left := by
  obtain ⟨ps, ls, k, htext, hcut, -⟩ := exists_cut_stop text
  have h := List.take_append_drop (stopPlace text) text
  rw [hcut.take] at h
  exact List.append_cancel_left (h.trans htext)

/-- Reading goes along every cut that can be completed, or past it at once. -/
theorem run_of_completes {text : List Char} {p : Nat} {ps : List Piece} {ls : List Lexeme}
    {k : List Char} (hcut : IsCut text p ps) (h : Completes ps ls k) :
    (∃ (r : Reading) (ks : List Lexeme) (ms : List ModuleDecl), r.Reads ks ms ∧ Settles ls ks ∧
      stopOf text = r.run (text.drop p)) ∨ (stopOf text).left.length < (text.drop p).length := by
  obtain ⟨ms, hm, hs⟩ := h.sentence.settles
  obtain ⟨qs, ks, hk, htext, hfit, hs⟩ := hs.cut hcut.fit
  have hrun := Reading.run_of_fit hfit (reads_top_iff.mpr ⟨hm, hk.symm⟩)
  have hwhole : textOf qs ++ text.drop p = text := by
    rw [htext, ← hcut.take, List.take_append_drop]
  rw [hwhole] at hrun
  rcases hrun with ⟨r, hr, hrun⟩ | hlt
  · exact .inl ⟨r, ks, ms, hr, hs, hrun⟩
  · exact .inr hlt

theorem isGreatest_stopPlace (text : List Char) :
    IsGreatest {p | IsBoundary text p} (stopPlace text) := by
  constructor
  · obtain ⟨ps, ls, k, -, hcut, hk⟩ := exists_cut_stop text
    exact ⟨ps, ls, k, hcut, hk⟩
  · rintro p ⟨ps, ls, k, hcut, hk⟩
    have hle : (stopOf text).left.length ≤ (text.drop p).length := by
      rcases run_of_completes hcut hk with ⟨r, ks, ms, -, -, hrun⟩ | hlt
      · rw [hrun]
        exact r.length_run_le _
      · exact hlt.le
    have := hcut.le
    rw [List.length_drop] at hle
    unfold stopPlace
    omega

/-- The word for ghosts is taken between the members of a module and where a field can follow. -/
theorem Reading.step_ghostWord {r r' : Reading} (h : r.step .ghostWord = some r') :
    (∃ m, r' = .ghostWord m) ∨ ∃ o done, r' = .fieldGhost o done := by
  have hclose : ∀ (s : TypeSlot) (fs : List TypeFrame) (t : TypeExpr),
      closeType s fs t .ghostWord = some r' → ∃ m, r' = .ghostWord m := by
    intro s fs t hs
    obtain _ | ⟨_ | _, fs⟩ := fs <;> cases s <;> cases hs
    exact ⟨_, rfl⟩
  cases r
  case typeName s fs ps => exact .inl (hclose s fs _ h)
  case typeEnd s fs t => exact .inl (hclose s fs t h)
  case headName hd => cases hd <;> cases h
  case typeParamsEnd hd ps => cases hd <;> cases h
  case fieldsStart => exact .inr ⟨_, _, (Option.some.inj h).symm⟩
  case field => exact .inr ⟨_, _, (Option.some.inj h).symm⟩
  all_goals first | exact .inl ⟨_, (Option.some.inj h).symm⟩ | cases h

theorem Reading.Reads.expected_of_settles {r : Reading} {l : Lexeme} {ls ks : List Lexeme}
    {ms : List ModuleDecl} (h : r.Reads ks ms) (hs : Settles (l :: ls) ks) :
    l.terminal ∈ r.expected := by
  cases hs with
  | keep _ _ => exact h.expected
  | split _ _ _ =>
    -- where the word is followed by a name, a field has to follow
    rcases h with h | ⟨o, done, rfl, h⟩
    · obtain ⟨-, r₁, hs, h₁⟩ := h.inv
      obtain ⟨-, r₂, hs₂, -⟩ := h₁.inv
      obtain ⟨m, rfl⟩ | ⟨o, done, rfl⟩ := step_ghostWord hs
      · cases hs₂
      obtain ⟨-, hfield⟩ := atField?_of_step hs
      obtain ⟨ts, hts⟩ := expected_atField hfield
      rw [hts]
      exact List.mem_cons_of_mem _ List.mem_cons_self
    · obtain ⟨-, r₁, hs, -⟩ := h.inv
      cases hs

theorem canFollow_stopPlace_iff {text : List Char} {t : Terminal} :
    CanFollow text (stopPlace text) t ↔ t ∈ (stopOf text).reading.expected := by
  constructor
  · rintro ⟨ps, l, ls, k, hcut, rfl, hk⟩
    rcases run_of_completes hcut hk with ⟨r, ks, ms, hr, hs, hrun⟩ | hlt
    · rw [drop_stopPlace] at hrun
      have hstop := r.stuck_of_run (congrArg (fun s => s.left.length) hrun).le
      rw [hrun, hstop.1]
      exact hr.expected_of_settles hs
    · rw [drop_stopPlace] at hlt
      exact absurd hlt (lt_irrefl _)
  · intro h
    obtain ⟨ls, ms, hr⟩ := Reading.reads_of_expected h
    obtain ⟨ps, k, -, hcut, hk⟩ := cut_stop hr
    exact ⟨ps, t.sample, ls, k, hcut, t.terminal_sample, hk⟩

theorem stuck_stopPlace (text : List Char) : Stuck text (stopPlace text) := by
  obtain ⟨hskip, ha⟩ := (Reading.top []).stuck_run text
  rw [Stuck, drop_stopPlace]
  constructor
  · intro l rest hl hf htext
    have hnone := Reading.match?_eq_none_of_advance? ha (canFollow_stopPlace_iff.mp hl)
    have hsome := Terminal.match?_eq_some_iff.mpr ⟨rfl, hf, htext⟩
    cases hnone.symm.trans hsome
  · intro cs rest hi htext
    have hsome := afterSkipped?_eq_some_iff.mpr ⟨cs, hi, htext⟩
    cases hskip.symm.trans hsome

theorem Terminal.mem_all (t : Terminal) : t ∈ Terminal.all := by
  cases t <;> decide

theorem ascending_all : Ascending Terminal.all := by
  unfold Ascending
  decide

theorem mem_sorted_iff {t : Terminal} {ts : List Terminal} : t ∈ Terminal.sorted ts ↔ t ∈ ts := by
  simp [Terminal.sorted, t.mem_all]

/-- The terminals that reading expects where it stops are all that can follow, in order. -/
theorem lists_sorted (text : List Char) :
    Lists text (stopPlace text) (Terminal.sorted (stopOf text).reading.expected) := by
  refine ⟨ascending_all.sublist List.filter_sublist, ?_⟩
  intro t
  rw [mem_sorted_iff, canFollow_stopPlace_iff]

theorem Lists.unique {text : List Char} {p : Nat} {ts us : List Terminal} (ht : Lists text p ts)
    (hu : Lists text p us) : ts = us := by
  have nodup : ∀ {vs : List Terminal}, Ascending vs → vs.Nodup := by
    intro vs hv
    apply List.Pairwise.imp _ hv
    rintro t _ h rfl
    exact String.lt_irrefl _ h
  have hperm := (List.perm_ext_iff_of_nodup (nodup ht.1) (nodup hu.1)).mpr fun t => by
    rw [ht.2, hu.2]
  exact hperm.eq_of_pairwise (fun a b _ _ h h' => absurd h' (String.lt_asymm h)) ht.1 hu.1

/-- Of the ignored stretches that begin in front of a place, `left` is what is left behind the one
that ends last. -/
def OpenUntil (text : List Char) (place left : Nat) : Prop :=
  ∀ k, k ≤ left ↔ k ≤ text.length ∧ ∀ before cs rest, text = before ++ cs ++ rest →
    Ignored cs rest → before.length < place → k ≤ rest.length

/-- What is left behind the open stretches once the one at the front of a text is counted. -/
def leftAfter (left : Nat) (cs : List Char) : Nat :=
  match afterSkipped? cs with
  | some rest => min left rest.length
  | none => left

theorem refusal_cons (left o size : Nat) (c : Char) (cs : List Char) :
    refusal left o size (c :: cs) =
      if size ≤ left ∧ size ≤ leftAfter o (c :: cs) + 1 then c :: cs
      else refusal left (leftAfter o (c :: cs)) (size - 1) cs := by
  rw [refusal, leftAfter]
  cases afterSkipped? (c :: cs) <;> simp

theorem openUntil_zero (text : List Char) : OpenUntil text 0 text.length := by
  intro k
  constructor
  · intro h
    exact ⟨h, fun _ _ _ _ _ hb => absurd hb (Nat.not_lt_zero _)⟩
  · exact fun h => h.1

theorem Ignored.rest_unique {cs ds rest rest' : List Char} (h : Ignored cs rest)
    (h' : Ignored ds rest') (he : cs ++ rest = ds ++ rest') : rest = rest' := by
  have hskip := afterSkipped?_eq_some_iff.mpr ⟨cs, h, rfl⟩
  rw [afterSkipped?_eq_some_iff.mpr ⟨ds, h', he⟩] at hskip
  exact (Option.some.inj hskip).symm

/-- Once the stretch that begins at a place is counted, the next place is the one to look at. -/
theorem OpenUntil.succ {text before cs : List Char} {o : Nat} (htext : text = before ++ cs)
    (h : OpenUntil text before.length o) :
    OpenUntil text (before.length + 1) (leftAfter o cs) := by
  have hhere : ∀ b s r, text = b ++ s ++ r → b.length = before.length → cs = s ++ r := by
    intro b s r he hb
    rw [htext, List.append_assoc] at he
    exact (List.append_inj he hb.symm).2
  intro k
  unfold leftAfter
  cases hskip : afterSkipped? cs with
  | none =>
    refine (h k).trans (and_congr_right fun _ => ⟨?_, ?_⟩)
    · intro hk b s r he hi hb
      rcases Nat.lt_succ_iff_lt_or_eq.mp hb with hb | hb
      · exact hk b s r he hi hb
      · have hsome := afterSkipped?_eq_some_iff.mpr ⟨s, hi, hhere b s r he hb⟩
        cases hskip.symm.trans hsome
    · exact fun hk b s r he hi hb => hk b s r he hi (Nat.lt_succ_of_lt hb)
  | some rest =>
    obtain ⟨body, hbody, hcs⟩ := afterSkipped?_eq_some_iff.mp hskip
    rw [Nat.le_min, h k, and_assoc]
    refine and_congr_right fun _ => ⟨?_, ?_⟩
    · rintro ⟨hk, hrest⟩ b s r he hi hb
      rcases Nat.lt_succ_iff_lt_or_eq.mp hb with hb | hb
      · exact hk b s r he hi hb
      · rwa [hi.rest_unique hbody ((hhere b s r he hb).symm.trans hcs)]
    · intro hk
      constructor
      · exact fun b s r he hi hb => hk b s r he hi (Nat.lt_succ_of_lt hb)
      · refine hk before body rest ?_ hbody (Nat.lt_succ_self _)
        rw [htext, hcs, List.append_assoc]

/-- A stretch is open at a place unless all that begin by then end there. -/
theorem OpenUntil.not_isOpen_iff {text : List Char} {q o : Nat} (h : OpenUntil text (q + 1) o) :
    ¬ IsOpen text q ↔ text.length ≤ q + 1 + o := by
  have hk := h (text.length - (q + 1))
  rw [Nat.sub_le_iff_le_add'] at hk
  rw [hk]
  constructor
  · intro hopen
    refine ⟨Nat.sub_le _ _, ?_⟩
    intro b s r he hi hb
    by_contra hlt
    refine hopen ⟨b, s, r, he, hi, Nat.le_of_lt_succ hb, ?_⟩
    have hlen := congrArg List.length he
    rw [List.length_append] at hlen
    omega
  · rintro ⟨-, hall⟩ ⟨b, s, r, he, hi, hb, hq⟩
    have hr := hall b s r he hi (Nat.lt_succ_of_le hb)
    have hlen := congrArg List.length he
    rw [List.length_append] at hlen
    omega

theorem not_isOpen_of_length_le {text : List Char} {q : Nat} (h : text.length ≤ q + 1) :
    ¬ IsOpen text q := by
  rintro ⟨b, s, r, rfl, -, -, hq⟩
  rw [List.length_append] at h
  omega

/-- From some place on, a text is refused at the first one where no stretch is open. -/
theorem refusal_eq {text before cs : List Char} {left o : Nat} (htext : text = before ++ cs)
    (hcs : cs ≠ []) (hleft : 0 < left) (ho : OpenUntil text before.length o) :
    ∃ q < text.length, refusal left o cs.length cs = text.drop q ∧
      IsLeast {q | before.length ≤ q ∧ text.length ≤ q + left ∧ ¬ IsOpen text q} q := by
  induction cs generalizing before o with
  | nil => exact absurd rfl hcs
  | cons c cs ih =>
    have hlen : text.length = before.length + (cs.length + 1) := by
      rw [htext, List.length_append, List.length_cons]
    have hnext := ho.succ htext
    have hopen := hnext.not_isOpen_iff
    rw [refusal_cons, List.length_cons, Nat.add_sub_cancel]
    split
    · rename_i hstop
      refine ⟨before.length, by omega, ?_, ⟨le_rfl, by omega, hopen.mpr (by omega)⟩, ?_⟩
      · rw [htext, List.drop_left]
      · exact fun q hq => hq.1
    · rename_i hgo
      have hcs' : cs ≠ [] := by
        rintro rfl
        simp only [List.length_nil] at hgo
        omega
      have hbefore : (before ++ [c]).length = before.length + 1 := by simp
      have htext' : text = before ++ [c] ++ cs := by
        rw [htext, List.append_assoc]
        rfl
      obtain ⟨q, hq, he, ⟨hle, hp, hq'⟩, hleast⟩ := ih htext' hcs' (hbefore ▸ hnext)
      refine ⟨q, hq, he, ⟨by omega, hp, hq'⟩, ?_⟩
      rintro q₁ ⟨hle₁, hp₁, hopen₁⟩
      -- the text was not refused at the place that was passed
      have hne : q₁ ≠ before.length := by
        rintro rfl
        have := hopen.mp hopen₁
        omega
      exact hleast ⟨by omega, hp₁, hopen₁⟩

theorem refused_describes {text : List Char} {p q : Nat} {ts : List Terminal}
    (hp : p < text.length) (hq : q < text.length)
    (hts : if q = p then Lists text p (Terminal.sorted ts) else ts = []) :
    (refused text (text.drop q) ts).Describes text p q := by
  have hplace : text.length - (text.drop q).length = q := by
    rw [List.length_drop]
    omega
  unfold refused
  rw [hplace]
  refine ⟨hp, ?_, Nat.add_comm _ _, Nat.add_comm _ _, ?_⟩
  · rw [List.headD_eq_head?_getD, List.head?_drop, List.getElem?_eq_getElem hq]
    rfl
  · split at hts
    · rename_i he
      rwa [if_pos he]
    · rename_i hne
      rw [if_neg hne, hts]
      decide

theorem length_left_stopOf (text : List Char) :
    (stopOf text).left.length = text.length - stopPlace text := by
  rw [← drop_stopPlace text, List.length_drop]

theorem refuses_refused {text : List Char} {left : Nat} (h : (stopOf text).left.length = left)
    (hleft : 0 < left) :
    Refuses text (refused text (refusal left text.length text.length text)
      (if (refusal left text.length text.length text).length < left then []
        else (stopOf text).reading.expected)) := by
  have hplace : stopPlace text = text.length - left := by rw [← h]; rfl
  have hle : left ≤ text.length := by
    rw [← h, length_left_stopOf]
    omega
  have hne : text ≠ [] := by
    rintro rfl
    rw [List.length_nil] at hle
    omega
  obtain ⟨q, hq, he, ⟨-, hp, hopen⟩, hleast⟩ :=
    refusal_eq (List.nil_append text).symm hne hleft (openUntil_zero text)
  refine ⟨stopPlace text, q, isGreatest_stopPlace text, stuck_stopPlace text,
    ⟨⟨by omega, hopen⟩, ?_⟩, ?_⟩
  · rintro q₁ ⟨hp₁, hopen₁⟩
    exact hleast ⟨Nat.zero_le _, by omega, hopen₁⟩
  · have hlen : (text.drop q).length = text.length - q := List.length_drop
    rw [he]
    apply refused_describes (by omega) hq
    by_cases hpq : q = stopPlace text
    · rw [if_pos hpq, if_neg (by omega)]
      exact lists_sorted text
    · rw [if_neg hpq, if_pos (by omega)]

/-- The reader's error says where the text is refused and what could have followed. -/
theorem refuses_of_read {text : List Char} {e : SyntaxError} (h : read text = .error e) :
    Refuses text e := by
  have hle := stopPlace_le text
  have hlength := length_left_stopOf text
  unfold read at h
  simp only at h
  split at h
  · cases h
  · rename_i hleft _
    cases h
    have hleft : (stopOf text).left = [] := hleft
    rw [hleft, List.length_nil] at hlength
    have hend : stopPlace text = text.length := by omega
    refine ⟨stopPlace text, text.length, isGreatest_stopPlace text, stuck_stopPlace text,
      ⟨⟨hle, ?_⟩, ?_⟩, hend, lists_sorted text⟩
    · exact not_isOpen_of_length_le (Nat.le_succ _)
    · exact fun q hq => hend ▸ hq.1
  · rename_i hsome hnone
    cases h
    apply refuses_refused rfl
    rw [List.length_pos_iff]
    intro hleft
    cases hc : (stopOf text).reading.complete? with
    | none => exact hnone hleft hc
    | some ms => exact hsome ms hleft hc

/-- What an error says about a text is determined by the text. -/
theorem Refuses.unique {text : List Char} {e e' : SyntaxError} (h : Refuses text e)
    (h' : Refuses text e') : e = e' := by
  obtain ⟨p, q, hp, -, hq, he⟩ := h
  obtain ⟨p', q', hp', -, hq', he'⟩ := h'
  obtain rfl := hp.unique hp'
  obtain rfl := hq.unique hq'
  cases e with
  | ended ts =>
    cases e' with
    | ended us => rw [he.2.unique he'.2]
    | unexpected => exact absurd he'.1 (he.1 ▸ lt_irrefl _)
  | unexpected line column char ts =>
    cases e' with
    | ended us => exact absurd he.1 (he'.1 ▸ lt_irrefl _)
    | unexpected line' column' char' us =>
      obtain ⟨-, hchar, rfl, rfl, hts⟩ := he
      obtain ⟨-, hchar', rfl, rfl, hus⟩ := he'
      obtain rfl := Option.some.inj (hchar.symm.trans hchar')
      split at hts
      · rename_i hpq
        rw [if_pos hpq] at hus
        rw [hts.unique hus]
      · rename_i hpq
        rw [if_neg hpq] at hus
        rw [hts, hus]

theorem parse_syntaxError_iff_read {text : String} {e : SyntaxError} :
    (parse text).outcome = .error (.syntaxError e) ↔ read text.toList = .error e := by
  unfold parse
  cases read text.toList with
  | error e' => simp [Report.fail]
  | ok ms =>
    cases h : (catalogOf ms).outcome <;> simp [Report.mapError, h, Except.mapError]

/--
A text is rejected for its syntax exactly if it renders no modules, and the error is the one that
says where the text is refused and what could have followed.
-/
theorem parse_outcome_eq_syntaxError_iff {text : String} {e : SyntaxError} :
    (parse text).outcome = .error (.syntaxError e) ↔
      (¬ ∃ ms, Renders ms text.toList) ∧ Refuses text.toList e := by
  rw [parse_syntaxError_iff_read]
  constructor
  · intro h
    refine ⟨?_, refuses_of_read h⟩
    rintro ⟨ms, hms⟩
    rw [read_eq_ok_iff.mpr hms] at h
    cases h
  · rintro ⟨hnone, he⟩
    cases h : read text.toList with
    | ok ms => exact absurd ⟨ms, read_eq_ok_iff.mp h⟩ hnone
    | error e' => rw [(refuses_of_read h).unique he]

theorem stopOf_overlap : stopOf "/**//x".toList = ⟨['/', 'x'], .top []⟩ := by
  have hskip : afterSkipped? "/**//x".toList = some ['/', 'x'] := by decide
  have hnone : afterSkipped? ['/', 'x'] = none := by decide
  have hadvance : (Reading.top []).advance? ['/', 'x'] = none := by decide
  exact (Reading.run_skip _ hskip).trans (Reading.run_stop hnone hadvance)

/-- Behind a comment, a stretch that begins inside of it delays the error by one character. -/
theorem not_reportsBoundary_overlap :
    ∃ e, (parse "/**//x").outcome = .error (.syntaxError e) ∧
      ¬ ReportsBoundary "/**//x".toList e := by
  refine ⟨.unexpected 1 6 'x' [], ?_, ?_⟩
  · rw [parse_syntaxError_iff_read]
    have hread : read "/**//x".toList =
        .error (refused "/**//x".toList (refusal 2 6 6 "/**//x".toList) []) := by
      rw [read, show (Reading.top []).run _ = _ from stopOf_overlap]
      rfl
    rw [hread]
    exact congrArg Except.error (by decide)
  · rintro ⟨p, hp, -, he⟩
    have hplace : stopPlace "/**//x".toList = 4 := by
      rw [stopPlace, stopOf_overlap]
      rfl
    obtain rfl := hp.unique (hplace ▸ isGreatest_stopPlace _)
    obtain ⟨-, -, -, hcolumn, -⟩ := he
    revert hcolumn
    decide

end Marshal.Declaration
