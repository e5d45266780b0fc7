import Marshal.Declaration.Reader
import Marshal.Proofs.Declaration.Lexing
import Marshal.Proofs.Declaration.Sentence

/-!
# Texts and readings

The reader goes from lexeme to lexeme of every layout of them. The word for ghosts is the one place
where this is not so: a field of that name is read as the word until its colon shows, so the two
readings are followed side by side.
-/

namespace Marshal.Declaration
set_option autoImplicit false

/-- Whose field has to follow, and which fields are there already. -/
def Reading.atField? : Reading → Option (FieldOwner × List FieldDecl)
  | .fieldsStart o => some (o, [])
  | .field o done => some (o, done)
  | _ => none

theorem Reading.expected_atField {r : Reading} {o : FieldOwner} {done : List FieldDecl}
    (h : r.atField? = some (o, done)) :
    ∃ ts, r.expected = .ghostWord :: .name :: ts := by
  cases r <;> cases h <;> exact ⟨_, rfl⟩

theorem closeTerminals_of_closeType {s : TypeSlot} {fs : List TypeFrame} {t : TypeExpr}
    {l : Lexeme} {r : Reading} (h : closeType s fs t l = some r) :
    l.terminal ∈ closeTerminals s fs := by
  rcases fs with _ | ⟨_ | _, fs⟩ <;> cases s <;> cases l <;>
    first | exact List.mem_of_elem_eq_true rfl | cases h

theorem memberTerminals_of_step {m : OpenModule} {l : Lexeme} {r : Reading}
    (h : m.step l = some r) : l.terminal ∈ memberTerminals := by
  cases l <;> first | exact List.mem_of_elem_eq_true rfl | cases h

theorem bar_or_memberTerminals_of_step {d : OpenDatatype} {l : Lexeme} {r : Reading}
    (h : d.step l = some r) : l.terminal ∈ .bar :: memberTerminals := by
  cases l <;> first | exact List.mem_of_elem_eq_true rfl | cases h

theorem fieldTerminals_of_stepField {o : FieldOwner} {done : List FieldDecl} {l : Lexeme}
    {r : Reading} (h : stepField o done l = some r) : l.terminal ∈ [.ghostWord, .name] := by
  cases l <;> first | exact List.mem_of_elem_eq_true rfl | cases h

theorem typeTerminals_of_stepType {s : TypeSlot} {fs : List TypeFrame} {l : Lexeme}
    {r : Reading} (h : stepType s fs l = some r) : l.terminal ∈ [.lparen, .name] := by
  cases l <;> first | exact List.mem_of_elem_eq_true rfl | cases h

theorem Reading.expected_of_step {r r' : Reading} {l : Lexeme} (h : r.step l = some r') :
    l.terminal ∈ r.expected := by
  cases r
  case members m => exact memberTerminals_of_step h
  case headName hd => cases hd <;> cases l <;> first | exact List.mem_of_elem_eq_true rfl | cases h
  case typeParamsEnd hd ps =>
    cases hd <;> cases l <;> first | exact List.mem_of_elem_eq_true rfl | cases h
  case variantName d v =>
    by_cases hl : l = .lparen
    · exact hl ▸ List.mem_of_elem_eq_true rfl
    · rw [step_variantName d v hl] at h
      exact List.mem_cons_of_mem _ (bar_or_memberTerminals_of_step h)
  case variantEnd d => exact bar_or_memberTerminals_of_step h
  case fieldsStart o =>
    by_cases hl : l = .rparen
    · exact hl ▸ List.mem_of_elem_eq_true rfl
    · rw [step_fieldsStart o hl] at h
      exact List.mem_append_left [.rparen] (fieldTerminals_of_stepField h)
  case field o done => exact fieldTerminals_of_stepField h
  case paramsEnd f tps ps =>
    by_cases hl : l = .colon
    · exact hl ▸ List.mem_cons_self
    · rw [step_paramsEnd f tps ps hl] at h
      exact List.mem_cons_of_mem _ (memberTerminals_of_step h)
  case typeStart s fs => exact typeTerminals_of_stepType h
  case tupleStart s fs =>
    by_cases hl : l = .rparen
    · exact hl ▸ List.mem_of_elem_eq_true rfl
    · rw [step_tupleStart s fs hl] at h
      exact List.mem_append_left [.rparen] (typeTerminals_of_stepType h)
  case typeName s fs ps =>
    by_cases hl : l = .dot ∨ l = .less
    · rcases hl with rfl | rfl
      · exact List.mem_cons_self
      · exact List.mem_cons_of_mem _ List.mem_cons_self
    · rw [step_typeName s fs ps (fun he => hl (.inl he)) fun he => hl (.inr he)] at h
      exact List.mem_append_right [.dot, .less] (closeTerminals_of_closeType h)
  case typeEnd s fs t => exact closeTerminals_of_closeType h
  all_goals cases l <;> first | exact List.mem_of_elem_eq_true rfl | cases h

theorem closeTerminals_not_name (s : TypeSlot) (fs : List TypeFrame) :
    .name ∉ closeTerminals s fs := by
  rcases fs with _ | ⟨_ | _, fs⟩ <;> cases s <;> simp [closeTerminals, memberTerminals]

/-- A name is expected beside punctuation only, but for the word for ghosts before a field. -/
theorem Reading.isWord_of_expected {r : Reading} (hr : r.atField? = none) (h : .name ∈ r.expected) :
    ∀ t ∈ r.expected, t.isWord = false := by
  cases r
  case fieldsStart o => cases hr
  case field o done => cases hr
  case typeName s fs ps => simp [expected, closeTerminals_not_name] at h
  case typeEnd s fs t => exact absurd h (closeTerminals_not_name s fs)
  case headName hd => cases hd <;> simp [expected] at h
  case typeParamsEnd hd ps => cases hd <;> simp [expected] at h
  all_goals simp_all [expected, memberTerminals, Terminal.isWord]

theorem Reading.run_skip (r : Reading) {cs rest : List Char} (h : afterSkipped? cs = some rest) :
    r.run cs = r.run rest := by
  conv =>
    lhs
    rw [Reading.run]
  split
  · rename_i rest' h'
    rw [h] at h'
    cases h'
    rfl
  · rename_i h'
    rw [h] at h'
    cases h'

theorem Reading.run_advance {r r' : Reading} {cs rest : List Char} (h : afterSkipped? cs = none)
    (ha : r.advance? cs = some (r', rest)) : r.run cs = r'.run rest := by
  conv =>
    lhs
    rw [Reading.run]
  split
  · rename_i h'
    rw [h] at h'
    cases h'
  · split
    · rename_i ha'
      rw [ha] at ha'
      cases ha'
      rfl
    · rename_i ha'
      rw [ha] at ha'
      cases ha'

theorem Reading.run_stop {r : Reading} {cs : List Char} (h : afterSkipped? cs = none)
    (ha : r.advance? cs = none) : r.run cs = ⟨cs, r⟩ := by
  rw [Reading.run]
  split
  · rename_i h'
    rw [h] at h'
    cases h'
  · split
    · rename_i ha'
      rw [ha] at ha'
      cases ha'
    · rfl

theorem Reading.run_nil (r : Reading) : r.run [] = ⟨[], r⟩ := by
  refine run_stop rfl ?_
  cases h : r.advance? [] with
  | none => rfl
  | some found => exact absurd (Reading.advance?_length h) (Nat.not_lt_zero _)

/-- White space is skipped at once or character by character. -/
theorem Reading.run_blank (r : Reading) {c : Char} (hc : isBlank c) (cs : List Char) :
    r.run (c :: cs) = r.run cs := by
  rw [r.run_skip (afterSkipped?_blank hc cs)]
  cases cs with
  | nil => rfl
  | cons d cs =>
    by_cases hd : isBlank d
    · rw [List.dropWhile_cons_of_pos hd, r.run_skip (afterSkipped?_blank hd cs)]
    · rw [List.dropWhile_cons_of_neg hd]

theorem Reading.run_line (r : Reading) {body : List Char} (hb : '\n' ∉ body) (cs : List Char) :
    r.run ('/' :: '/' :: (body ++ '\n' :: cs)) = r.run cs := by
  have hskip : afterSkipped? ('/' :: '/' :: (body ++ '\n' :: cs)) = some ('\n' :: cs) := by
    have htake : (body ++ '\n' :: cs).dropWhile (· != '\n') =
        ('\n' :: cs).dropWhile (· != '\n') :=
      List.dropWhile_append_of_pos fun c hc => by simpa using ne_of_mem_of_not_mem hc hb
    simpa [afterSkipped?] using htake
  rw [r.run_skip hskip, r.run_blank (by decide)]

theorem Reading.run_lastLine (r : Reading) {body : List Char} (hb : '\n' ∉ body) :
    r.run ('/' :: '/' :: body) = ⟨[], r⟩ := by
  have hskip : afterSkipped? ('/' :: '/' :: body) = some [] := by
    simpa [afterSkipped?] using fun c hc => ne_of_mem_of_not_mem hc hb
  rw [r.run_skip hskip, r.run_nil]

theorem Reading.run_block (r : Reading) {body : List Char} (hb : ¬ ['*', '/'] <:+: body)
    (cs : List Char) : r.run ('/' :: '*' :: (body ++ '*' :: '/' :: cs)) = r.run cs :=
  r.run_skip (afterBlock?_eq_some_iff.mpr ⟨body, hb, rfl⟩)

/--
The lexemes that lead a reading to the modules. After the word for ghosts at the place of a field,
the word may have been the name of the field.
-/
def Reading.Reads (r : Reading) (ls : List Lexeme) (ms : List ModuleDecl) : Prop :=
  r.Leads ls (.top ms) ∨ ∃ o done, r = .fieldGhost o done ∧
    (Reading.fieldName o done false "ghost").Leads ls (.top ms)

theorem Reading.Leads.inv {r r' : Reading} {l : Lexeme} {ls : List Lexeme}
    (h : r.Leads (l :: ls) r') : r.Admits l ∧ ∃ r₁, r.step l = some r₁ ∧ r₁.Leads ls r' := by
  cases h with
  | cons ha hs hrest => exact ⟨ha, _, hs, hrest⟩

theorem Reading.Admits.isName {r : Reading} {s : String} (h : r.Admits (.name s)) : IsName s := by
  cases r <;> first | exact h | exact h.1

theorem Reading.Admits.fits {r : Reading} {l : Lexeme} {rest : List Char} (h : r.Admits l)
    (hr : l.terminal = .name → extendsName rest = false) : l.Fits rest := by
  rintro s rfl
  exact ⟨h.isName, hr rfl⟩

theorem Reading.Reads.fits {r : Reading} {l : Lexeme} {ls : List Lexeme} {ms : List ModuleDecl}
    {rest : List Char} (h : r.Reads (l :: ls) ms)
    (hr : l.terminal = .name → extendsName rest = false) : l.Fits rest := by
  rcases h with h | ⟨o, done, -, h⟩
  · exact h.inv.1.fits hr
  · exact h.inv.1.fits hr

theorem Reading.Leads.isName {r r' : Reading} {ls : List Lexeme} (h : r.Leads ls r') {s : String}
    (hs : .name s ∈ ls) : IsName s := by
  induction h with
  | nil => cases hs
  | cons ha _ _ ih =>
    rcases List.mem_cons.mp hs with rfl | hs
    · exact ha.isName
    · exact ih hs

theorem Reading.Reads.isName {r : Reading} {ls : List Lexeme} {ms : List ModuleDecl}
    (h : r.Reads ls ms) {s : String} (hs : .name s ∈ ls) : IsName s := by
  rcases h with h | ⟨o, done, -, h⟩ <;> exact h.isName hs

/-- A text makes a name in front of it longer only if it begins with the next lexeme. -/
def Continues (ls : List Lexeme) (text : List Char) : Prop :=
  ∀ c cs, text = c :: cs →
    isNameChar c = false ∨ ∃ l ls', ls = l :: ls' ∧ ∃ tail, l.chars = c :: tail

theorem continues_of_extendsName {text : List Char} (h : extendsName text = false)
    (ls : List Lexeme) : Continues ls text := by
  rintro c cs rfl
  exact .inl h

theorem Laid.continues {ls : List Lexeme} {text : List Char} (h : Laid ls text)
    (hn : ∀ s, .name s ∈ ls → IsName s) : Continues ls text := by
  intro c cs hc
  cases h with
  | done => cases hc
  | blank hb _ =>
    cases hc
    exact .inl (isNameChar_of_isBlank hb)
  | line _ _ =>
    cases hc
    exact .inl (by decide)
  | lastLine _ =>
    cases hc
    exact .inl (by decide)
  | block _ _ =>
    cases hc
    exact .inl (by decide)
  | @lexeme l _ _ he _ =>
    have hf : l.Fits _ := fun s hs => ⟨hn s (hs ▸ List.mem_cons_self), he (hs ▸ rfl)⟩
    obtain ⟨d, ds, hd, -⟩ := hf.chars_cons
    rw [hd] at hc
    obtain rfl := (List.cons.inj hc).1
    exact .inr ⟨_, _, rfl, ds, hd⟩

theorem Reading.step_atField {r r' : Reading} {o : FieldOwner} {done : List FieldDecl} {l : Lexeme}
    (hr : r.atField? = some (o, done)) (h : r.step l = some r') :
    l = .ghostWord ∧ r' = .fieldGhost o done ∨
      (∃ s, l = .name s ∧ r' = .fieldName o done false s) ∨ l = .rparen := by
  cases r <;> cases hr <;> cases l <;> cases h <;> simp

theorem OpenModule.step_ne_fieldGhost (m : OpenModule) (l : Lexeme) (o : FieldOwner)
    (done : List FieldDecl) : m.step l ≠ some (.fieldGhost o done) := by
  cases l <;> exact nofun

theorem OpenDatatype.step_ne_fieldGhost (d : OpenDatatype) (l : Lexeme) (o : FieldOwner)
    (done : List FieldDecl) : d.step l ≠ some (.fieldGhost o done) := by
  cases l <;> exact nofun

theorem FieldOwner.close_ne_fieldGhost (o' : FieldOwner) (fs : List FieldDecl) (o : FieldOwner)
    (done : List FieldDecl) : o'.close fs ≠ .fieldGhost o done := by
  cases o' <;> exact nofun

theorem closeType_ne_fieldGhost (s : TypeSlot) (fs : List TypeFrame) (t : TypeExpr) (l : Lexeme)
    (o : FieldOwner) (done : List FieldDecl) : closeType s fs t l ≠ some (.fieldGhost o done) := by
  intro h
  unfold closeType at h
  split at h
  · cases h
  · cases h
  · cases h
  · cases h
  · cases h
  · exact FieldOwner.close_ne_fieldGhost _ _ _ _ (Option.some.inj h)
  · exact OpenModule.step_ne_fieldGhost _ _ _ _ h
  · cases h

theorem stepType_ne_fieldGhost (s : TypeSlot) (fs : List TypeFrame) (l : Lexeme)
    (o : FieldOwner) (done : List FieldDecl) : stepType s fs l ≠ some (.fieldGhost o done) := by
  cases l <;> exact nofun

/-- Only the word for ghosts leads to where it may turn out to be a name. -/
theorem Reading.atField?_of_step {r : Reading} {o : FieldOwner} {done : List FieldDecl} {l : Lexeme}
    (h : r.step l = some (.fieldGhost o done)) : l = .ghostWord ∧ r.atField? = some (o, done) := by
  cases r
  case members m => exact absurd h (m.step_ne_fieldGhost l o done)
  case variantEnd d => exact absurd h (d.step_ne_fieldGhost l o done)
  case typeEnd s fs t => exact absurd h (closeType_ne_fieldGhost s fs t l o done)
  case typeStart s fs => exact absurd h (stepType_ne_fieldGhost s fs l o done)
  case variantName d v =>
    by_cases hl : l = .lparen
    · cases hl
      cases h
    · rw [step_variantName d v hl] at h
      exact absurd h ((d.add ⟨v, none⟩).step_ne_fieldGhost l o done)
  case paramsEnd f tps ps =>
    by_cases hl : l = .colon
    · cases hl
      cases h
    · rw [step_paramsEnd f tps ps hl] at h
      exact absurd h ((f.close tps ps none).step_ne_fieldGhost l o done)
  case tupleStart s fs =>
    by_cases hl : l = .rparen
    · cases hl
      cases h
    · rw [step_tupleStart s fs hl] at h
      exact absurd h (stepType_ne_fieldGhost s _ l o done)
  case typeName s fs ps =>
    by_cases hl : l = .dot ∨ l = .less
    · rcases hl with rfl | rfl <;> cases h
    · rw [step_typeName s fs ps (fun he => hl (.inl he)) fun he => hl (.inr he)] at h
      exact absurd h (closeType_ne_fieldGhost s fs _ l o done)
  case fieldsStart o' =>
    by_cases hl : l = .rparen
    · cases hl
      exact absurd (Option.some.inj h) (o'.close_ne_fieldGhost [] o done)
    · rw [step_fieldsStart o' hl] at h
      cases l <;> cases h
      exact ⟨rfl, rfl⟩
  case field o' done' =>
    cases l <;> cases h
    exact ⟨rfl, rfl⟩
  case headName hd => cases hd <;> cases l <;> cases h
  case typeParamsEnd hd ps => cases hd <;> cases l <;> cases h
  all_goals cases l <;> cases h

theorem Reading.step_field {r : Reading} {o : FieldOwner} {done : List FieldDecl}
    (hr : r.atField? = some (o, done)) :
    r.step .ghostWord = some (.fieldGhost o done) ∧
      ∀ s, r.step (.name s) = some (.fieldName o done false s) := by
  cases r <;> cases hr <;> exact ⟨rfl, fun _ => rfl⟩

theorem Reading.admits_atField {r : Reading} {o : FieldOwner} {done : List FieldDecl}
    (hr : r.atField? = some (o, done)) {s : String} :
    r.Admits (.name s) ↔ IsName s ∧ ¬ HidesGhost s := by
  cases r <;> cases hr <;> rfl

theorem Reading.advance?_eq_some {r r' : Reading} {l : Lexeme} {cs rest : List Char}
    (hn : nextLexeme? r.expected cs = some (l, rest)) (hs : r.step l = some r') :
    r.advance? cs = some (r', rest) := by
  simp [advance?, hn, hs]

/-- Elsewhere than before a field there is no choice. -/
theorem Reading.advance?_of_fits {r r' : Reading} {l : Lexeme} {rest : List Char}
    (hr : r.atField? = none) (hs : r.step l = some r') (hf : l.Fits rest) :
    r.advance? (l.chars ++ rest) = some (r', rest) := by
  have hl := expected_of_step hs
  refine advance?_eq_some (nextLexeme?_of_fits hl hf ?_ ?_) hs
  · exact fun hname => isWord_of_expected hr hname _ hl
  · exact fun hname => isWord_of_expected hr (hname ▸ hl)

/-- The word for ghosts before a field is not taken for the beginning of a longer name. -/
theorem Reading.advance?_ghostWord {r : Reading} {o : FieldOwner} {done : List FieldDecl}
    (hr : r.atField? = some (o, done)) {rest : List Char}
    (hg : ghostIsName (Lexeme.ghostWord.chars ++ rest) = false) :
    r.advance? (Lexeme.ghostWord.chars ++ rest) = some (.fieldGhost o done, rest) := by
  obtain ⟨ts, hts⟩ := expected_atField hr
  refine advance?_eq_some ?_ (step_field hr).1
  rw [hts]
  exact nextLexeme?_ghost hg

theorem ghostIsName_of_extendsName {rest : List Char} (h : extendsName rest = false) :
    ghostIsName (Lexeme.ghostWord.chars ++ rest) = false := by
  rw [ghostIsName_append]
  cases rest with
  | nil => rfl
  | cons c cs =>
    have hc : isNameChar c = false := h
    simp [hc]

/-- Behind the word for ghosts a name has to follow, and the two are no longer name. -/
theorem Reading.Reads.not_ghostIsName {r : Reading} {ls : List Lexeme} {ms : List ModuleDecl}
    {rest : List Char} (h : r.Reads (.ghostWord :: ls) ms) (hr : r.atField? ≠ none)
    (hc : Continues ls rest) : ghostIsName (Lexeme.ghostWord.chars ++ rest) = false := by
  rw [ghostIsName_append]
  cases rest with
  | nil => rfl
  | cons c cs =>
    rcases hc c cs rfl with hn | ⟨l, ls', rfl, tail, htail⟩
    · simp [hn]
    · rcases h with h | ⟨o, done, rfl, -⟩
      · obtain ⟨-, r₁, hs, h₁⟩ := h.inv
        obtain ⟨⟨o, done⟩, hfield⟩ := Option.ne_none_iff_exists'.mp hr
        cases (step_field hfield).1.symm.trans hs
        obtain ⟨ha, r₂, hs₂, -⟩ := h₁.inv
        cases l <;> cases hs₂
        · cases ha
        · obtain ⟨d, ds, hd, hstart, -⟩ := ha.isName
          rw [Lexeme.chars_name, hd] at htail
          obtain rfl := (List.cons.inj htail).1
          simp [hstart]
      · exact absurd rfl hr

theorem Reading.advance?_of_reads {r : Reading} {l : Lexeme} {ls : List Lexeme}
    {ms : List ModuleDecl} {rest : List Char} (h : r.Reads (l :: ls) ms)
    (hr : l.terminal = .name → extendsName rest = false)
    (hg : r.atField? ≠ none → l = .ghostWord → ghostIsName (l.chars ++ rest) = false) :
    ∃ r', r.advance? (l.chars ++ rest) = some (r', rest) ∧ r'.Reads ls ms := by
  have hfit := h.fits hr
  rcases h with h | ⟨o, done, rfl, h⟩
  · obtain ⟨ha, r', hs, hrest⟩ := h.inv
    cases hfield : r.atField? with
    | none => exact ⟨r', advance?_of_fits hfield hs hfit, .inl hrest⟩
    | some found =>
      obtain ⟨o, done⟩ := found
      rcases step_atField hfield hs with ⟨rfl, rfl⟩ | ⟨s, rfl, rfl⟩ | rfl
      · exact ⟨_, advance?_ghostWord hfield (hg (by simp [hfield]) rfl), .inl hrest⟩
      · by_cases hg : s = "ghost"
        · subst hg
          have hghost := ghostIsName_of_extendsName (hr rfl)
          exact ⟨_, advance?_ghostWord hfield hghost, .inr ⟨o, done, rfl, hrest⟩⟩
        · obtain ⟨hs', hh⟩ := (admits_atField hfield).mp ha
          obtain ⟨ts, hts⟩ := expected_atField hfield
          refine ⟨_, advance?_eq_some ?_ hs, .inl hrest⟩
          rw [hts]
          exact nextLexeme?_fieldName hs' hh hg (hr rfl)
      · refine ⟨r', advance?_eq_some (nextLexeme?_of_fits (expected_of_step hs) hfit ?_ ?_) hs,
          .inl hrest⟩
        · exact fun _ => rfl
        · exact nofun
  · obtain ⟨-, r', hs, hrest⟩ := h.inv
    cases l <;> cases hs
    exact ⟨_, advance?_of_fits rfl rfl hfit, .inl hrest⟩

/-- What is found is admitted, but for the colon after a field named like the word for ghosts. -/
theorem Reading.admits_of_advance? {r : Reading} {l : Lexeme} {cs rest : List Char}
    (h : nextLexeme? r.expected cs = some (l, rest)) :
    r.Admits l ∨ l = .colon ∧ ∃ o done, r = .fieldGhost o done := by
  cases hfield : r.atField? with
  | some found =>
    obtain ⟨o, done⟩ := found
    obtain ⟨ts, hts⟩ := expected_atField hfield
    cases l
    case name s =>
      refine .inl ((admits_atField hfield).mpr ⟨((nextLexeme?_sound h).1 s rfl).1, ?_⟩)
      rw [hts] at h
      exact not_hidesGhost_of_nextLexeme? h
    all_goals
      refine .inl ?_
      cases r <;> trivial
  | none =>
    cases l
    case name s =>
      have hs := ((nextLexeme?_sound h).1 s rfl).1
      refine .inl ?_
      cases r <;> first | exact hs | cases hfield
    case colon =>
      cases r
      case fieldGhost o done => exact .inr ⟨rfl, o, done, rfl⟩
      all_goals exact .inl trivial
    all_goals
      refine .inl ?_
      cases r <;> trivial

/--
What was read leads to the lexeme that was found, but the word for ghosts may turn out to be the
name of a field. It is one only if what follows does not make it longer.
-/
theorem Reading.reads_of_advance? {r r' : Reading} {cs rest : List Char} {ls : List Lexeme}
    {ms : List ModuleDecl} (h : r.advance? cs = some (r', rest)) (hr : r'.Reads ls ms)
    (hc : ∀ o done, r' = .fieldGhost o done → Continues ls rest) :
    ∃ l, l.Fits rest ∧ cs = l.chars ++ rest ∧ r.Reads (l :: ls) ms := by
  unfold advance? at h
  split at h
  · cases h
  · rename_i l rest' hn
    obtain ⟨r₁, hs, he⟩ := Option.map_eq_some_iff.mp h
    cases he
    obtain ⟨hfit, hcs⟩ := nextLexeme?_sound hn
    rcases hr with hr | ⟨o, done, rfl, hr⟩
    · rcases admits_of_advance? hn with ha | ⟨rfl, o, done, rfl⟩
      · exact ⟨l, hfit, hcs, .inl (.cons ha hs hr)⟩
      · cases hs
        exact ⟨.colon, hfit, hcs, .inr ⟨o, done, rfl, .cons trivial rfl hr⟩⟩
    · -- the word turns out to be the name of a field: a colon follows
      obtain ⟨rfl, hfield⟩ := atField?_of_step hs
      have hghost : IsName "ghost" := ⟨_, _, rfl, rfl, List.all_eq_true.mp rfl⟩
      have hrest : extendsName rest = false := by
        cases rest with
        | nil => rfl
        | cons c tail =>
          rcases hc o done rfl c tail rfl with hname | ⟨l, ls', rfl, tail', htail⟩
          · exact hname
          · obtain ⟨-, r₂, hs', -⟩ := hr.inv
            cases l <;> cases hs'
            cases htail
            rfl
      refine ⟨.name "ghost", ?_, hcs, .inl (.cons ?_ ((step_field hfield).2 "ghost") hr)⟩
      · intro s hs
        exact Lexeme.name.inj hs ▸ ⟨hghost, hrest⟩
      · refine (admits_atField hfield).mpr ⟨hghost, ?_⟩
        rintro ⟨c, cs', hc, -⟩
        cases hc

theorem Laid.run {ls : List Lexeme} {cs : List Char} (h : Laid ls cs) {r : Reading}
    {ms : List ModuleDecl} (hr : r.Reads ls ms) : r.run cs = ⟨[], .top ms⟩ := by
  induction h generalizing r with
  | done =>
    rw [r.run_nil]
    rcases hr with hr | ⟨o, done, -, hr⟩
    · cases hr
      rfl
    · cases hr
  | blank hc _ ih => rw [r.run_blank hc, ih hr]
  | line hb _ ih => rw [r.run_line hb, ih hr]
  | lastLine hb =>
    rw [r.run_lastLine hb]
    rcases hr with hr | ⟨o, done, -, hr⟩
    · cases hr
      rfl
    · cases hr
  | block hb _ ih => rw [r.run_block hb, ih hr]
  | @lexeme l _ cs he hl ih =>
    have hc := hl.continues fun s hs => hr.isName (List.mem_cons_of_mem _ hs)
    have hg : r.atField? ≠ none → l = .ghostWord → ghostIsName (l.chars ++ cs) = false := by
      rintro hfield rfl
      exact hr.not_ghostIsName hfield hc
    obtain ⟨r', ha, hr'⟩ := r.advance?_of_reads hr he hg
    obtain ⟨c, cs, hc, hslash, hblank⟩ := (hr.fits he).chars_cons
    rw [Reading.run_advance (by rw [hc]; exact afterSkipped?_eq_none hslash hblank _) ha, ih hr']

theorem Reading.reads_of_run {r : Reading} {cs : List Char} {ms : List ModuleDecl}
    (h : r.run cs = ⟨[], .top ms⟩) : ∃ ls, Laid ls cs ∧ r.Reads ls ms := by
  induction hn : cs.length using Nat.strong_induction_on generalizing r cs with
  | _ n ih =>
    subst hn
    cases hskip : afterSkipped? cs with
    | some rest =>
      rcases afterSkipped?_cases hskip with ⟨body, tail, hb, rfl⟩ | ⟨body, hb, rfl⟩ |
        ⟨body, tail, hb, rfl⟩ | ⟨c, tail, hb, rfl⟩
      · rw [r.run_line hb] at h
        obtain ⟨ls, hl, hr⟩ := ih tail.length (by simp; omega) h rfl
        exact ⟨ls, .line hb hl, hr⟩
      · rw [r.run_lastLine hb] at h
        cases h
        exact ⟨[], .lastLine hb, .inl (.nil _)⟩
      · rw [r.run_block hb] at h
        obtain ⟨ls, hl, hr⟩ := ih tail.length (by simp; omega) h rfl
        exact ⟨ls, .block hb hl, hr⟩
      · rw [r.run_blank hb] at h
        obtain ⟨ls, hl, hr⟩ := ih tail.length (by simp) h rfl
        exact ⟨ls, .blank hb hl, hr⟩
    | none =>
      cases ha : r.advance? cs with
      | none =>
        rw [Reading.run_stop hskip ha] at h
        cases h
        exact ⟨[], .done, .inl (.nil _)⟩
      | some found =>
        obtain ⟨r', rest⟩ := found
        rw [Reading.run_advance hskip ha] at h
        obtain ⟨ls, hl, hr⟩ := ih rest.length (advance?_length ha) h rfl
        obtain ⟨l, hf, rfl, hr'⟩ :=
          reads_of_advance? ha hr fun _ _ _ => hl.continues fun s hs => hr.isName hs
        refine ⟨l :: ls, .lexeme (fun ht => ?_) hl, hr'⟩
        cases l <;> cases ht
        exact (hf _ rfl).2

theorem Reading.complete?_eq_some {r : Reading} {ms : List ModuleDecl}
    (h : r.complete? = some ms) : r = .top ms := by
  cases r <;> cases h
  rfl

/-- The reader accepts the renderings of modules, and nothing else. -/
theorem read_eq_ok_iff {text : List Char} {ms : List ModuleDecl} :
    read text = .ok ms ↔ Renders ms text := by
  have hrun : read text = .ok ms ↔ (Reading.top []).run text = ⟨[], .top ms⟩ := by
    constructor
    · intro h
      unfold read at h
      simp only at h
      split at h
      · rename_i hleft hcomplete
        cases h
        have hr := Reading.complete?_eq_some hcomplete
        generalize (Reading.top []).run text = stop at hleft hr
        obtain ⟨left, r⟩ := stop
        rw [show left = [] from hleft, show r = .top ms from hr]
      · cases h
      · cases h
    · intro h
      simp [read, h, Reading.complete?]
  rw [hrun]
  constructor
  · intro h
    obtain ⟨ls, hl, hr | ⟨o, done, ho, -⟩⟩ := Reading.reads_of_run h
    · obtain ⟨hf, rfl⟩ := leads_top_iff.mp hr
      exact ⟨hf, hl⟩
    · cases ho
  · rintro ⟨hf, hl⟩
    exact hl.run (.inl (leads_top_iff.mpr ⟨hf, rfl⟩))

end Marshal.Declaration
