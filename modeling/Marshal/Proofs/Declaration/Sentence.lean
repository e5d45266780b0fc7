import Marshal.Proofs.Declaration.Holding

/-!
# Sentences of the grammar

The lexemes of every formed tree lead from one complete reading to the next. With what a reading
holds this makes readings accept the sentences of the grammar and no others.
-/

namespace Marshal.Declaration
set_option autoImplicit false

/-- Types by induction: what holds of all components of a type holds of the type. -/
theorem TypeExpr.induction {P : TypeExpr → Prop}
    (named : ∀ n args, (∀ t ∈ args, P t) → P (.named n args))
    (tuple : ∀ items, (∀ t ∈ items, P t) → P (.tuple items)) (t : TypeExpr) : P t := by
  refine @TypeExpr.rec P (fun ts => ∀ t ∈ ts, P t) named tuple ?_ ?_ t
  · intro t ht
    exact absurd ht List.not_mem_nil
  · intro t ts ht hts u hu
    rcases List.mem_cons.mp hu with rfl | hu
    · exact ht
    · exact hts u hu

/-- A reading takes every lexeme that a step function takes, to the same reading. -/
def Reading.Offers (r : Reading) (g : Lexeme → Option Reading) : Prop :=
  ∀ l r', g l = some r' → r.Admits l ∧ r.step l = some r'

theorem Reading.Offers.leads {r r' : Reading} {g : Lexeme → Option Reading} {l : Lexeme}
    (h : r.Offers g) (hg : g l = some r') : r.Leads [l] r' :=
  .single (h l r' hg).1 (h l r' hg).2

/-- A reading that takes the first lexeme like another one goes the same way. -/
theorem Reading.Leads.restart {r₀ r r' : Reading} {ls : List Lexeme} (h : r.Leads ls r')
    (hne : ls ≠ [])
    (hstep : ∀ l r₁, r.Admits l → r.step l = some r₁ → r₀.Admits l ∧ r₀.step l = some r₁) :
    r₀.Leads ls r' := by
  cases h with
  | nil => exact absurd rfl hne
  | cons ha hs hrest =>
    obtain ⟨ha, hs⟩ := hstep _ _ ha hs
    exact .cons ha hs hrest

theorem leads_names (mk : List String → Reading) {sep : Lexeme}
    (next : ∀ ps n, IsName n → (mk ps).Leads [sep, .name n] (mk (ps ++ [n])))
    {ns : List String} (hn : ∀ n ∈ ns, IsName n) (ps : List String) :
    (mk ps).Leads ((nameItems ns).flatMap (sep :: ·)) (mk (ps ++ ns)) := by
  induction ns generalizing ps with
  | nil => simpa [nameItems] using Reading.Leads.nil (mk ps)
  | cons n ns ih =>
    have hrest := ih (fun m hm => hn m (List.mem_cons_of_mem n hm)) (ps ++ [n])
    have hfirst := next ps n (hn n List.mem_cons_self)
    simpa [nameItems] using hfirst.append hrest

theorem leads_moduleName {n : DottedName} (hn : n.Formed) (ms : List ModuleDecl) (a : Bool) :
    (Reading.modulePart ms a []).Leads n.lexemes (.moduleName ms a n.parts) := by
  obtain ⟨_ | ⟨p, ps⟩⟩ := n
  · exact absurd rfl hn.1
  · have hfirst : (Reading.modulePart ms a []).Leads [.name p] (.moduleName ms a [p]) :=
      .single (hn.2 p List.mem_cons_self) rfl
    refine hfirst.append (leads_names (.moduleName ms a) ?_ ?_ [p])
    · exact fun qs m hm => .cons trivial rfl (.single hm rfl)
    · exact fun m hm => hn.2 m (List.mem_cons_of_mem p hm)

theorem leads_typeName {n : DottedName} (hn : n.Formed) (s : TypeSlot) (fs : List TypeFrame) :
    (Reading.typeStart s fs).Leads n.lexemes (.typeName s fs n.parts) := by
  obtain ⟨_ | ⟨p, ps⟩⟩ := n
  · exact absurd rfl hn.1
  · have hfirst : (Reading.typeStart s fs).Leads [.name p] (.typeName s fs [p]) :=
      .single (hn.2 p List.mem_cons_self) rfl
    refine hfirst.append (leads_names (.typeName s fs) ?_ ?_ [p])
    · exact fun qs m hm => .cons trivial rfl (.single hm rfl)
    · exact fun m hm => hn.2 m (List.mem_cons_of_mem p hm)

theorem leads_typeParams {ps : List String} (hp : ∀ p ∈ ps, IsName p) (hne : ps ≠ []) (h : Head) :
    (Reading.headName h).Leads (angles (nameItems ps)) (.typeParamsEnd h ps) := by
  obtain _ | ⟨p, ps⟩ := ps
  · exact absurd rfl hne
  · have hfirst : (Reading.headName h).Leads [.less, .name p] (.typeParamName h [p]) :=
      .cons trivial rfl (.single (hp p List.mem_cons_self) rfl)
    have hrest : (Reading.typeParamName h [p]).Leads ((nameItems ps).flatMap (Lexeme.comma :: ·))
        (.typeParamName h (p :: ps)) := by
      refine leads_names (.typeParamName h) ?_ ?_ [p]
      · exact fun qs m hm => .cons trivial rfl (.single hm rfl)
      · exact fun m hm => hp m (List.mem_cons_of_mem p hm)
    have hlast : (Reading.typeParamName h (p :: ps)).Leads [.more] (.typeParamsEnd h (p :: ps)) :=
      .single trivial rfl
    simpa [angles, chain, nameItems] using (hfirst.append hrest).append hlast

def TypeFrame.add : TypeFrame → TypeExpr → TypeFrame
  | .args n done, t => .args n (done ++ [t])
  | .items done, t => .items (done ++ [t])

def TypeFrame.closer : TypeFrame → Lexeme
  | .args .. => .more
  | .items _ => .rparen

/-- The type of a frame that holds some more types and nothing else. -/
def TypeFrame.complete : TypeFrame → List TypeExpr → TypeExpr
  | .args n done, ts => .named n (done ++ ts)
  | .items done, ts => .tuple (done ++ ts)

theorem TypeFrame.complete_add (f : TypeFrame) (t : TypeExpr) (ts : List TypeExpr) :
    (f.add t).complete ts = f.complete (t :: ts) := by
  cases f <;> simp [TypeFrame.add, TypeFrame.complete]

@[simp] theorem TypeFrame.closer_add (f : TypeFrame) (t : TypeExpr) :
    (f.add t).closer = f.closer := by
  cases f <;> rfl

theorem closeType_comma (s : TypeSlot) (f : TypeFrame) (fs : List TypeFrame) (t : TypeExpr) :
    closeType s (f :: fs) t .comma = some (.typeStart s (f.add t :: fs)) := by
  cases f <;> rfl

theorem closeType_closer (s : TypeSlot) (f : TypeFrame) (fs : List TypeFrame) (t : TypeExpr) :
    closeType s (f :: fs) t f.closer = some (.typeEnd s fs (f.complete [t])) := by
  cases f <;> rfl

theorem typeEnd_offers (s : TypeSlot) (fs : List TypeFrame) (t : TypeExpr) :
    (Reading.typeEnd s fs t).Offers (closeType s fs t) := by
  intro l r h
  refine ⟨?_, h⟩
  cases l <;> try trivial
  rcases fs with _ | ⟨_ | _, fs⟩ <;> cases s <;> cases h

theorem typeName_offers (s : TypeSlot) (fs : List TypeFrame) (n : DottedName) :
    (Reading.typeName s fs n.parts).Offers (closeType s fs (.named n [])) := by
  intro l r h
  obtain ⟨ha, _⟩ := typeEnd_offers s fs (.named n []) l r h
  refine ⟨by cases l <;> exact ha, ?_⟩
  have hl : l ≠ .dot ∧ l ≠ .less := by
    constructor <;> rintro rfl <;> rcases fs with _ | ⟨_ | _, fs⟩ <;> cases s <;> cases h
  rw [Reading.step_typeName s fs n.parts hl.1 hl.2]
  exact h

/-- The lexemes of a type lead to where the type can be closed. -/
def TypeExpr.Leads (t : TypeExpr) : Prop :=
  ∀ s fs, ∃ r, (Reading.typeStart s fs).Leads t.lexemes r ∧ r.Offers (closeType s fs t)

theorem leads_types (s : TypeSlot) (fs : List TypeFrame) {t : TypeExpr} {ts : List TypeExpr}
    (h : ∀ u ∈ t :: ts, u.Leads) (f : TypeFrame) :
    (Reading.typeStart s (f :: fs)).Leads
      (chain .comma (TypeExpr.lexemesEach (t :: ts)) ++ [f.closer])
      (.typeEnd s fs (f.complete (t :: ts))) := by
  induction ts generalizing t f with
  | nil =>
    obtain ⟨r, hr, ho⟩ := h t List.mem_cons_self s (f :: fs)
    simpa [TypeExpr.lexemesEach] using hr.append (ho.leads (closeType_closer s f fs t))
  | cons u us ih =>
    obtain ⟨r, hr, ho⟩ := h t List.mem_cons_self s (f :: fs)
    have hnext := hr.append (ho.leads (closeType_comma s f fs t))
    have hrest := ih (fun v hv => h v (List.mem_cons_of_mem t hv)) (f.add t)
    rw [TypeFrame.complete_add, TypeFrame.closer_add] at hrest
    simpa [TypeExpr.lexemesEach, chain_cons_cons] using hnext.append hrest

/-- Behind an opening parenthesis a type may follow as well as inside of the tuple. -/
theorem leads_tupleStart {s : TypeSlot} {fs : List TypeFrame} {ls : List Lexeme}
    {r : Reading} (h : (Reading.typeStart s (.items [] :: fs)).Leads ls r) (hne : ls ≠ []) :
    (Reading.tupleStart s fs).Leads ls r := by
  refine h.restart hne ?_
  intro l r₁ ha hs
  have hl : l ≠ .rparen := by
    rintro rfl
    cases hs
  exact ⟨by cases l <;> exact ha, by rw [Reading.step_tupleStart s fs hl]; exact hs⟩

theorem TypeExpr.leads (t : TypeExpr) : t.Formed → t.Leads := by
  induction t using TypeExpr.induction with
  | named n args ih =>
    intro ht s fs
    have hn := leads_typeName ht.1 s fs
    obtain _ | ⟨t, ts⟩ := args
    · refine ⟨_, ?_, typeName_offers s fs n⟩
      simpa [TypeExpr.lexemes, TypeExpr.lexemesEach, angles] using hn
    · have hargs : ∀ u ∈ t :: ts, u.Leads :=
        fun u hu => ih u hu ((TypeExpr.formedEach_iff _).mp ht.2 u hu)
      have hless : (Reading.typeName s fs n.parts).Leads [.less]
          (.typeStart s (.args n [] :: fs)) := .single trivial rfl
      refine ⟨_, ?_, typeEnd_offers s fs (.named n (t :: ts))⟩
      have h := (hn.append hless).append (leads_types s fs hargs (.args n []))
      simpa [TypeExpr.lexemes, TypeExpr.lexemesEach, angles, TypeFrame.closer,
        TypeFrame.complete] using h
  | tuple items ih =>
    intro ht s fs
    have hstart : (Reading.typeStart s fs).Leads [.lparen] (.tupleStart s fs) :=
      .single trivial rfl
    obtain _ | ⟨t, ts⟩ := items
    · have hend : (Reading.tupleStart s fs).Leads [.rparen] (.typeEnd s fs (.tuple [])) :=
        .single trivial rfl
      exact ⟨_, hstart.append hend, typeEnd_offers s fs (.tuple [])⟩
    · have hitems : ∀ u ∈ t :: ts, u.Leads :=
        fun u hu => ih u hu ((TypeExpr.formedEach_iff _).mp ht u hu)
      refine ⟨_, ?_, typeEnd_offers s fs (.tuple (t :: ts))⟩
      have h := hstart.append
        (leads_tupleStart (leads_types s fs hitems (.items [])) (by simp))
      simpa [TypeExpr.lexemes, TypeExpr.lexemesEach, parens, TypeFrame.closer,
        TypeFrame.complete] using h

theorem FieldDecl.leads {f : FieldDecl} (hf : f.Formed) (o : FieldOwner)
    (done : List FieldDecl) :
    ∃ r, (Reading.field o done).Leads f.lexemes r ∧
      r.Offers (closeType (.field o done f.isGhost f.name) [] f.type) := by
  obtain ⟨hn, hg, ht⟩ := hf
  obtain ⟨r, hr, ho⟩ := TypeExpr.leads f.type ht (.field o done f.isGhost f.name) []
  refine ⟨r, ?_, ho⟩
  have hcolon : (Reading.fieldName o done f.isGhost f.name).Leads [.colon]
      (.typeStart (.field o done f.isGhost f.name) []) := .single trivial rfl
  cases hb : f.isGhost with
  | false =>
    have hname : (Reading.field o done).Leads [.name f.name] (.fieldName o done false f.name) :=
      .single ⟨hn, hg hb⟩ rfl
    rw [hb] at hcolon hr
    simpa [FieldDecl.lexemes, optional, hb] using (hname.append hcolon).append hr
  | true =>
    have hname : (Reading.field o done).Leads [.ghostWord, .name f.name]
        (.fieldName o done true f.name) := .cons trivial rfl (.single hn rfl)
    rw [hb] at hcolon hr
    simpa [FieldDecl.lexemes, optional, hb] using (hname.append hcolon).append hr

theorem leads_fields (o : FieldOwner) {f : FieldDecl} {fs : List FieldDecl}
    (h : ∀ g ∈ f :: fs, g.Formed) (done : List FieldDecl) :
    (Reading.field o done).Leads (chain .comma ((f :: fs).map (·.lexemes)) ++ [.rparen])
      (o.close (done ++ f :: fs)) := by
  induction fs generalizing f done with
  | nil =>
    obtain ⟨r, hr, ho⟩ := FieldDecl.leads (h f List.mem_cons_self) o done
    simpa using hr.append (ho.leads (l := .rparen) rfl)
  | cons g gs ih =>
    obtain ⟨r, hr, ho⟩ := FieldDecl.leads (h f List.mem_cons_self) o done
    have hnext := hr.append (ho.leads (l := .comma) rfl)
    have hrest := ih (fun k hk => h k (List.mem_cons_of_mem f hk)) (done ++ [f])
    simpa [chain_cons_cons] using hnext.append hrest

theorem leads_fieldList (o : FieldOwner) {fs : List FieldDecl} (h : ∀ f ∈ fs, f.Formed) :
    (Reading.fieldsStart o).Leads (chain .comma (fs.map (·.lexemes)) ++ [.rparen])
      (o.close fs) := by
  obtain _ | ⟨f, fs⟩ := fs
  · exact .single trivial rfl
  · refine (leads_fields o h []).restart (by simp) ?_
    intro l r₁ ha hs
    have hl : l ≠ .rparen := by
      rintro rfl
      cases hs
    exact ⟨by cases l <;> exact ha, by rw [Reading.step_fieldsStart o hl]; exact hs⟩

theorem VariantDecl.leads {v : VariantDecl} (hv : v.Formed) (d : OpenDatatype) :
    ∃ r, (Reading.variant d).Leads v.lexemes r ∧ r.Offers (d.add v).step := by
  obtain ⟨n, fields⟩ := v
  have hname : (Reading.variant d).Leads [.name n] (.variantName d n) := .single hv.1 rfl
  cases fields with
  | none =>
    refine ⟨_, hname, ?_⟩
    intro l r h
    have hl : l ≠ .lparen := by
      rintro rfl
      cases h
    refine ⟨?_, by rw [Reading.step_variantName d n hl]; exact h⟩
    cases l <;> trivial
  | some fs =>
    have hparen : (Reading.variantName d n).Leads [.lparen] (.fieldsStart (.variant d n)) :=
      .single trivial rfl
    have hf : ∀ f ∈ fs, f.Formed := hv.2
    have hfs := leads_fieldList (.variant d n) hf
    refine ⟨_, (hname.append hparen).append hfs, ?_⟩
    intro l r h
    refine ⟨?_, h⟩
    cases l <;> trivial

theorem leads_variants {v : VariantDecl} {vs : List VariantDecl} (h : ∀ w ∈ v :: vs, w.Formed)
    (d : OpenDatatype) :
    ∃ r, (Reading.variant d).Leads (chain .bar ((v :: vs).map (·.lexemes))) r ∧
      r.Offers { d with variants := d.variants ++ v :: vs }.step := by
  induction vs generalizing v d with
  | nil => simpa [OpenDatatype.add] using VariantDecl.leads (h v List.mem_cons_self) d
  | cons w ws ih =>
    obtain ⟨r, hr, ho⟩ := VariantDecl.leads (h v List.mem_cons_self) d
    obtain ⟨r', hr', ho'⟩ := ih (fun x hx => h x (List.mem_cons_of_mem v hx)) (d.add v)
    refine ⟨r', ?_, ?_⟩
    · have hbar := hr.append (ho.leads (l := .bar) rfl)
      simpa [chain_cons_cons] using hbar.append hr'
    · simpa [OpenDatatype.add] using ho'

/-- Where a datatype may go on, the module may go on behind it. -/
theorem offers_close {r : Reading} {d : OpenDatatype} (h : r.Offers d.step) :
    r.Offers d.close.step := by
  intro l r' hl
  apply h
  rw [← hl]
  unfold OpenDatatype.step
  split
  · cases hl
  · rfl

theorem DatatypeDecl.leads {d : DatatypeDecl} (hd : d.Formed) {r : Reading} {m : OpenModule}
    (hr : r.Offers m.step) :
    ∃ r', r.Leads d.lexemes r' ∧ r'.Offers (m.add (.datatype d)).step := by
  obtain ⟨n, ps, bar, _ | ⟨v, vs⟩⟩ := d
  · exact absurd rfl hd.2.2.1
  have hword := (hr.leads (l := .datatypeWord) rfl).append
    (.single (r := .datatypeWord m) (l := .name n) hd.1 rfl)
  have hequal : (Reading.headName (.datatype m n)).Leads (angles (nameItems ps) ++ [.equal])
      (.equal m n ps) := by
    by_cases hps : ps = []
    · rw [hps]
      exact .single trivial rfl
    · exact (leads_typeParams hd.2.1 hps _).append (.single trivial rfl)
  obtain ⟨r', hr', ho'⟩ := leads_variants hd.2.2.2 ⟨m, n, ps, bar, []⟩
  refine ⟨r', ?_, by simpa [OpenDatatype.close] using offers_close ho'⟩
  have hbar : (Reading.equal m n ps).Leads
      (optional bar .bar ++ chain .bar ((v :: vs).map (·.lexemes))) r' := by
    cases bar with
    | true => exact .cons trivial rfl hr'
    | false =>
      refine hr'.restart (by simp [chain, VariantDecl.lexemes]) ?_
      intro l r₁ ha hs
      cases l <;> cases hs
      exact ⟨ha, rfl⟩
  simpa [DatatypeDecl.lexemes] using (hword.append hequal).append hbar

theorem FunctionDecl.leads {f : FunctionDecl} (hf : f.Formed) {r : Reading} {m : OpenModule}
    (hr : r.Offers m.step) :
    ∃ r', r.Leads f.lexemes r' ∧ r'.Offers (m.add (.function f)).step := by
  obtain ⟨g, k, n, tps, ps, result⟩ := f
  obtain ⟨hn, htps, hps, hresult⟩ := hf
  have hword : r.Leads (optional g .ghostWord ++ [.functionWord k]) (.functionWord m g k) := by
    cases g with
    | false => exact hr.leads rfl
    | true => exact (hr.leads (l := .ghostWord) rfl).append (.single trivial rfl)
  have hname : (Reading.functionWord m g k).Leads [.name n] (.headName (.function ⟨m, g, k, n⟩)) :=
    .single hn rfl
  have hparen : (Reading.headName (.function ⟨m, g, k, n⟩)).Leads
      (angles (nameItems tps) ++ [.lparen]) (.fieldsStart (.function ⟨m, g, k, n⟩ tps)) := by
    by_cases he : tps = []
    · rw [he]
      exact .single trivial rfl
    · exact (leads_typeParams htps he _).append (.single trivial rfl)
  have hparams := ((hword.append hname).append hparen).append
    (leads_fieldList (.function ⟨m, g, k, n⟩ tps) hps)
  cases result with
  | none =>
    refine ⟨_, by simpa [FunctionDecl.lexemes, parens] using hparams, ?_⟩
    intro l r' h
    have hl : l ≠ .colon := by
      rintro rfl
      cases h
    refine ⟨?_, by rw [FieldOwner.close, Reading.step_paramsEnd _ _ _ hl]; exact h⟩
    cases l <;> trivial
  | some t =>
    have hcolon := hparams.append (.single (l := .colon) trivial rfl)
    obtain ⟨r', hr', ho'⟩ := TypeExpr.leads t (hresult t rfl) (.result ⟨m, g, k, n⟩ tps ps) []
    exact ⟨r', by simpa [FunctionDecl.lexemes, parens] using hcolon.append hr', ho'⟩

theorem leads_members {xs : List Member} (h : ∀ x ∈ xs, x.Formed) {r : Reading} {m : OpenModule}
    (hr : r.Offers m.step) :
    ∃ r', r.Leads (xs.flatMap (·.lexemes)) r' ∧
      r'.Offers { m with members := m.members ++ xs }.step := by
  induction xs generalizing r m with
  | nil => exact ⟨r, .nil r, by simpa using hr⟩
  | cons x xs ih =>
    have hx : ∃ r', r.Leads x.lexemes r' ∧ r'.Offers (m.add x).step := by
      cases x with
      | datatype d => exact DatatypeDecl.leads (h _ List.mem_cons_self) hr
      | function f => exact FunctionDecl.leads (h _ List.mem_cons_self) hr
    obtain ⟨r₁, hr₁, ho₁⟩ := hx
    obtain ⟨r₂, hr₂, ho₂⟩ := ih (fun y hy => h y (List.mem_cons_of_mem x hy)) ho₁
    exact ⟨r₂, by simpa using hr₁.append hr₂, by simpa [OpenModule.add] using ho₂⟩

theorem ModuleDecl.leads {m : ModuleDecl} (hm : m.Formed) (ms : List ModuleDecl) :
    (Reading.top ms).Leads m.lexemes (.top (ms ++ [m])) := by
  obtain ⟨a, n, xs⟩ := m
  have hword : (Reading.top ms).Leads (optional a .abstractWord ++ [.moduleWord])
      (.modulePart ms a []) := by
    cases a with
    | false => exact .single trivial rfl
    | true => exact .cons trivial rfl (.single trivial rfl)
  have hbrace := (hword.append (leads_moduleName hm.1 ms a)).append
    (.single (l := .lbrace) trivial rfl)
  have hopen : (Reading.members ⟨ms, a, n, []⟩).Offers (OpenModule.step ⟨ms, a, n, []⟩) := by
    intro l r h
    refine ⟨?_, h⟩
    cases l <;> trivial
  obtain ⟨r, hr, ho⟩ := leads_members hm.2 hopen
  have hend := (hbrace.append hr).append (ho.leads (l := .rbrace) rfl)
  simpa [ModuleDecl.lexemes, OpenModule.close] using hend

theorem leads_modules {ms : List ModuleDecl} (h : ∀ m ∈ ms, m.Formed) (done : List ModuleDecl) :
    (Reading.top done).Leads (ms.flatMap (·.lexemes)) (.top (done ++ ms)) := by
  induction ms generalizing done with
  | nil => simpa using Reading.Leads.nil (.top done)
  | cons m ms ih =>
    have hfirst := ModuleDecl.leads (h m List.mem_cons_self) done
    have hrest := ih (fun k hk => h k (List.mem_cons_of_mem m hk)) (done ++ [m])
    simpa using hfirst.append hrest

/-- From nothing to a list of modules lead the lexemes of that list, and no others. -/
theorem leads_top_iff {ls : List Lexeme} {ms : List ModuleDecl} :
    (Reading.top []).Leads ls (.top ms) ↔ (∀ m ∈ ms, m.Formed) ∧ ls = ms.flatMap (·.lexemes) := by
  constructor
  · intro h
    obtain ⟨hf, hl⟩ := h.keeps (by simp [Reading.Formed])
    exact ⟨hf, by simpa [Reading.lexemes] using hl.symm⟩
  · rintro ⟨hf, rfl⟩
    simpa using leads_modules hf []

end Marshal.Declaration
