import Marshal.Proofs.Declaration.Layout

/-!
# Every reading can be completed

Whatever has been read, some lexemes lead on to complete modules, and everything that is expected
can be the first of them.
-/

namespace Marshal.Declaration
set_option autoImplicit false

theorem closeType_of_closeTerminals {s : TypeSlot} {fs : List TypeFrame} (t : TypeExpr) {l : Lexeme}
    (h : l.terminal ∈ closeTerminals s fs) : ∃ r, closeType s fs t l = some r := by
  rcases fs with _ | ⟨_ | _, fs⟩ <;> cases s <;> cases l <;>
    first | exact ⟨_, rfl⟩ | simp [closeTerminals, memberTerminals, Lexeme.terminal] at h

theorem step_of_memberTerminals (m : OpenModule) {l : Lexeme} (h : l.terminal ∈ memberTerminals) :
    ∃ r, m.step l = some r := by
  cases l <;> first | exact ⟨_, rfl⟩ | simp [memberTerminals, Lexeme.terminal] at h

theorem Reading.step_of_expected {r : Reading} {l : Lexeme} (h : l.terminal ∈ r.expected) :
    ∃ r', r.step l = some r' := by
  cases r
  case members m => exact step_of_memberTerminals m h
  case headName hd =>
    cases hd <;> cases l <;> first | exact ⟨_, rfl⟩ | simp [expected, Lexeme.terminal] at h
  case typeParamsEnd hd ps =>
    cases hd <;> cases l <;> first | exact ⟨_, rfl⟩ | simp [expected, Lexeme.terminal] at h
  case typeName s fs ps =>
    by_cases hl : l = .dot ∨ l = .less
    · rcases hl with rfl | rfl <;> exact ⟨_, rfl⟩
    · rw [not_or] at hl
      rw [step_typeName s fs ps hl.1 hl.2]
      apply closeType_of_closeTerminals
      rcases List.mem_append.mp h with h | h
      · cases l <;> simp [Lexeme.terminal] at h hl
      · exact h
  case typeEnd s fs t => exact closeType_of_closeTerminals t h
  all_goals
    cases l <;> first | exact ⟨_, rfl⟩ | simp [expected, memberTerminals, Lexeme.terminal] at h

def Reading.Viable (r : Reading) : Prop := ∃ ls ms, r.Leads ls (.top ms)

theorem Reading.Viable.before {r r' : Reading} {l : Lexeme} (h : r'.Viable) (ha : r.Admits l)
    (hs : r.step l = some r') : r.Viable := by
  obtain ⟨ls, ms, h⟩ := h
  exact ⟨l :: ls, ms, .cons ha hs h⟩

theorem isName_x : IsName "x" := ⟨'x', [], rfl, rfl, nofun⟩

theorem not_hidesGhost_x : ¬ HidesGhost "x" := by
  rintro ⟨c, cs, h, -⟩
  cases h

theorem viable_top (ms : List ModuleDecl) : (Reading.top ms).Viable := ⟨[], ms, .nil _⟩

theorem viable_members (m : OpenModule) : (Reading.members m).Viable :=
  (viable_top _).before (l := .rbrace) trivial rfl

theorem viable_close (o : FieldOwner) (fs : List FieldDecl) : (o.close fs).Viable := by
  cases o <;> exact (viable_top _).before (l := .rbrace) trivial rfl

/-- Open types are closed one after the other, the innermost first. -/
theorem viable_of_closeType {r : Reading} {s : TypeSlot} {fs : List TypeFrame} {t : TypeExpr}
    (h : r.Offers (closeType s fs t)) : r.Viable := by
  induction fs generalizing r t with
  | nil =>
    cases s with
    | field o done g n =>
      obtain ⟨ha, hs⟩ := h .rparen _ rfl
      exact (viable_close o _).before ha hs
    | result f tps ps =>
      obtain ⟨ha, hs⟩ := h .rbrace _ rfl
      exact (viable_top _).before ha hs
  | cons f fs ih =>
    obtain ⟨ha, hs⟩ := h f.closer _ (closeType_closer s f fs t)
    exact (ih (typeEnd_offers s fs (f.complete [t]))).before ha hs

theorem viable_typeName (s : TypeSlot) (fs : List TypeFrame) (ps : List String) :
    (Reading.typeName s fs ps).Viable :=
  viable_of_closeType (typeName_offers s fs ⟨ps⟩)

theorem viable_typeStart (s : TypeSlot) (fs : List TypeFrame) :
    (Reading.typeStart s fs).Viable :=
  (viable_typeName s fs ["x"]).before (l := .name "x") isName_x rfl

theorem viable_fieldName (o : FieldOwner) (done : List FieldDecl) (g : Bool) (n : String) :
    (Reading.fieldName o done g n).Viable :=
  (viable_typeStart _ []).before (l := .colon) trivial rfl

theorem viable_fieldsStart (o : FieldOwner) : (Reading.fieldsStart o).Viable :=
  (viable_close o []).before (l := .rparen) trivial rfl

theorem viable_variantName (d : OpenDatatype) (n : String) : (Reading.variantName d n).Viable :=
  (viable_top _).before (l := .rbrace) trivial rfl

theorem viable_equal (m : OpenModule) (n : String) (ps : List String) :
    (Reading.equal m n ps).Viable :=
  (viable_variantName _ "x").before (l := .name "x") isName_x rfl

theorem viable_typeParamsEnd (h : Head) (ps : List String) :
    (Reading.typeParamsEnd h ps).Viable := by
  cases h with
  | datatype m n => exact (viable_equal m n ps).before (l := .equal) trivial rfl
  | function f => exact (viable_fieldsStart (.function f ps)).before (l := .lparen) trivial rfl

theorem viable_typeParamName (h : Head) (ps : List String) : (Reading.typeParamName h ps).Viable :=
  (viable_typeParamsEnd h ps).before (l := .more) trivial rfl

theorem viable_headName (h : Head) : (Reading.headName h).Viable := by
  cases h with
  | datatype m n => exact (viable_equal m n []).before (l := .equal) trivial rfl
  | function f => exact (viable_fieldsStart (.function f [])).before (l := .lparen) trivial rfl

theorem viable_functionWord (m : OpenModule) (g : Bool) (k : FunctionKind) :
    (Reading.functionWord m g k).Viable :=
  (viable_headName _).before (l := .name "x") isName_x rfl

theorem viable_moduleName (ms : List ModuleDecl) (a : Bool) (ps : List String) :
    (Reading.moduleName ms a ps).Viable :=
  (viable_members _).before (l := .lbrace) trivial rfl

theorem viable_modulePart (ms : List ModuleDecl) (a : Bool) (ps : List String) :
    (Reading.modulePart ms a ps).Viable :=
  (viable_moduleName ms a _).before (l := .name "x") isName_x rfl

theorem Reading.viable (r : Reading) : r.Viable := by
  cases r with
  | top ms => exact viable_top ms
  | abstractWord ms => exact (viable_modulePart ms true []).before (l := .moduleWord) trivial rfl
  | modulePart ms a ps => exact viable_modulePart ms a ps
  | moduleName ms a ps => exact viable_moduleName ms a ps
  | members m => exact viable_members m
  | ghostWord m =>
    exact (viable_functionWord m true .function).before (l := .functionWord .function) trivial rfl
  | datatypeWord m => exact (viable_headName (.datatype m "x")).before (l := .name "x") isName_x rfl
  | functionWord m g k => exact viable_functionWord m g k
  | headName h => exact viable_headName h
  | typeParam h ps => exact (viable_typeParamName h _).before (l := .name "x") isName_x rfl
  | typeParamName h ps => exact viable_typeParamName h ps
  | typeParamsEnd h ps => exact viable_typeParamsEnd h ps
  | equal m n ps => exact viable_equal m n ps
  | variant d => exact (viable_variantName d "x").before (l := .name "x") isName_x rfl
  | variantName d n => exact viable_variantName d n
  | variantEnd d => exact (viable_top _).before (l := .rbrace) trivial rfl
  | fieldsStart o => exact viable_fieldsStart o
  | field o done =>
    exact (viable_fieldName o done false "x").before (l := .name "x") ⟨isName_x, not_hidesGhost_x⟩
      rfl
  | fieldGhost o done =>
    exact (viable_fieldName o done true "x").before (l := .name "x") isName_x rfl
  | fieldName o done g n => exact viable_fieldName o done g n
  | paramsEnd f tps ps => exact (viable_top _).before (l := .rbrace) trivial rfl
  | typeStart s fs => exact viable_typeStart s fs
  | tupleStart s fs =>
    exact (viable_of_closeType (typeEnd_offers s fs (.tuple []))).before (l := .rparen) trivial rfl
  | typePart s fs ps => exact (viable_typeName s fs _).before (l := .name "x") isName_x rfl
  | typeName s fs ps => exact viable_typeName s fs ps
  | typeEnd s fs t => exact viable_of_closeType (typeEnd_offers s fs t)

def Terminal.sample : Terminal → Lexeme
  | .abstractWord => .abstractWord
  | .colon => .colon
  | .comma => .comma
  | .datatypeWord => .datatypeWord
  | .dot => .dot
  | .equal => .equal
  | .functionWord => .functionWord .function
  | .ghostWord => .ghostWord
  | .lbrace => .lbrace
  | .less => .less
  | .lparen => .lparen
  | .moduleWord => .moduleWord
  | .more => .more
  | .name => .name "x"
  | .rbrace => .rbrace
  | .rparen => .rparen
  | .bar => .bar

@[simp] theorem Terminal.terminal_sample (t : Terminal) : t.sample.terminal = t := by
  cases t <;> rfl

theorem Reading.admits_sample (r : Reading) (t : Terminal) :
    r.Admits t.sample ∨ t = .colon ∧ ∃ o done, r = .fieldGhost o done := by
  by_cases ht : t = .name
  · subst ht
    left
    cases r <;> first | exact isName_x | exact ⟨isName_x, not_hidesGhost_x⟩
  · cases r
    case fieldGhost o done =>
      by_cases hc : t = .colon
      · exact .inr ⟨hc, o, done, rfl⟩
      · left
        cases t <;> trivial
    all_goals
      left
      cases t <;> trivial

/-- Everything that is expected can be the first lexeme of a completion. -/
theorem Reading.reads_of_expected {r : Reading} {t : Terminal} (h : t ∈ r.expected) :
    ∃ ls ms, r.Reads (t.sample :: ls) ms := by
  rcases r.admits_sample t with ha | ⟨rfl, o, done, rfl⟩
  · obtain ⟨r', hs⟩ := step_of_expected (l := t.sample) (by simpa using h)
    obtain ⟨ls, ms, hl⟩ := r'.viable
    exact ⟨ls, ms, .inl (.cons ha hs hl)⟩
  · obtain ⟨ls, ms, hl⟩ := viable_typeStart (.field o done false "ghost") []
    exact ⟨ls, ms, .inr ⟨o, done, rfl, .cons trivial rfl hl⟩⟩

theorem Reading.Reads.expected {r : Reading} {l : Lexeme} {ls : List Lexeme} {ms : List ModuleDecl}
    (h : r.Reads (l :: ls) ms) : l.terminal ∈ r.expected := by
  rcases h with h | ⟨o, done, rfl, h⟩
  · obtain ⟨-, r', hs, -⟩ := h.inv
    exact expected_of_step hs
  · obtain ⟨-, r', hs, -⟩ := h.inv
    cases l <;> cases hs
    exact List.mem_cons_self

end Marshal.Declaration
