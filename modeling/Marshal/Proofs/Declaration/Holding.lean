import Marshal.Declaration.Reading
import Marshal.Proofs.Declaration.Grammar

/-!
# What a reading holds

A reading holds exactly the lexemes that led to it: each step adds the lexeme that was taken, in
whatever declaration, list or type is open there. So what a reading has understood when nothing is
open any more is the tree of the lexemes that were read.
-/

namespace Marshal.Declaration
set_option autoImplicit false

/--
What the grammar lets a reading take, apart from the terminals. The word for ghosts is no name
here, and a name that hides it is none for a field.
-/
def Reading.Admits : Reading → Lexeme → Prop
  | .fieldsStart _, .name s => IsName s ∧ ¬ HidesGhost s
  | .field .., .name s => IsName s ∧ ¬ HidesGhost s
  | .fieldGhost .., .colon => False
  | _, .name s => IsName s
  | _, _ => True

/-- Lexemes lead from one reading to another, each of them admitted. -/
inductive Reading.Leads : Reading → List Lexeme → Reading → Prop where
  | nil (r : Reading) : Leads r [] r
  | cons {r r₁ r₂ : Reading} {l : Lexeme} {ls : List Lexeme} :
      r.Admits l → r.step l = some r₁ → Leads r₁ ls r₂ → Leads r (l :: ls) r₂

namespace Reading.Leads
variable {r r₁ r₂ : Reading} {l : Lexeme} {ls ls' : List Lexeme}

theorem single (ha : r.Admits l) (hs : r.step l = some r₁) : Leads r [l] r₁ :=
  .cons ha hs (.nil r₁)

theorem append (h : Leads r ls r₁) (h' : Leads r₁ ls' r₂) : Leads r (ls ++ ls') r₂ := by
  induction h with
  | nil => exact h'
  | cons ha hs _ ih => exact .cons ha hs (ih h')

end Reading.Leads

@[simp] theorem chain_nil (sep : Lexeme) : chain sep [] = [] := rfl

@[simp] theorem chain_singleton (sep : Lexeme) (x : List Lexeme) : chain sep [x] = x := by
  simp [chain]

@[simp] theorem opened_nil (sep : Lexeme) : opened sep [] = [] := rfl

theorem opened_of_ne_nil (sep : Lexeme) {xs : List (List Lexeme)} (h : xs ≠ []) :
    opened sep xs = chain sep xs ++ [sep] := by
  simp [opened, h]

theorem chain_snoc (sep : Lexeme) (xs : List (List Lexeme)) (x : List Lexeme) :
    chain sep (xs ++ [x]) = opened sep xs ++ x := by
  cases xs with
  | nil => simp
  | cons y ys => simp [chain, opened]

theorem chain_cons_cons (sep : Lexeme) (x y : List Lexeme) (ys : List (List Lexeme)) :
    chain sep (x :: y :: ys) = x ++ sep :: chain sep (y :: ys) := by
  simp [chain]

theorem angles_snoc (xs : List (List Lexeme)) (x : List Lexeme) :
    angles (xs ++ [x]) = .less :: (opened .comma xs ++ x ++ [.more]) := by
  simp [angles, chain_snoc]

theorem angles_of_ne_nil {xs : List (List Lexeme)} (h : xs ≠ []) :
    angles xs = .less :: (chain .comma xs ++ [.more]) := by
  simp [angles, h]

@[simp] theorem nameItems_eq_nil {ns : List String} : nameItems ns = [] ↔ ns = [] :=
  List.map_eq_nil_iff

theorem TypeExpr.lexemesEach_eq_map (ts : List TypeExpr) :
    TypeExpr.lexemesEach ts = ts.map (·.lexemes) := by
  induction ts with
  | nil => rfl
  | cons t ts ih => rw [TypeExpr.lexemesEach, ih, List.map_cons]

theorem TypeExpr.formedEach_iff (ts : List TypeExpr) :
    TypeExpr.FormedEach ts ↔ ∀ t ∈ ts, t.Formed := by
  induction ts with
  | nil => simp [TypeExpr.FormedEach]
  | cons t ts ih => simp [TypeExpr.FormedEach, ih]

def OpenModule.lexemes (m : OpenModule) : List Lexeme :=
  m.before.flatMap (·.lexemes) ++ (optional m.isAbstract .abstractWord ++
    .moduleWord :: (m.name.lexemes ++ .lbrace :: m.members.flatMap (·.lexemes)))

def OpenDatatype.start (d : OpenDatatype) : List Lexeme :=
  d.owner.lexemes ++ .datatypeWord :: .name d.name :: (angles (nameItems d.typeParams) ++
    .equal :: optional d.leadingBar .bar)

def OpenDatatype.items (d : OpenDatatype) : List (List Lexeme) := d.variants.map (·.lexemes)

def FunctionHead.lexemes (f : FunctionHead) : List Lexeme :=
  f.owner.lexemes ++ (optional f.isGhost .ghostWord ++ [.functionWord f.kind, .name f.name])

def Head.lexemes : Head → List Lexeme
  | .datatype m n => m.lexemes ++ [.datatypeWord, .name n]
  | .function f => f.lexemes

def FieldOwner.lexemes : FieldOwner → List Lexeme
  | .variant d n => d.start ++ opened .bar d.items ++ [.name n]
  | .function f ps => f.lexemes ++ angles (nameItems ps)

/-- The lexemes up to where a field has to follow. -/
def FieldOwner.listing (o : FieldOwner) (done : List FieldDecl) : List Lexeme :=
  o.lexemes ++ .lparen :: opened .comma (done.map (·.lexemes))

def TypeSlot.lexemes : TypeSlot → List Lexeme
  | .field o done g n => o.listing done ++ (optional g .ghostWord ++ [.name n, .colon])
  | .result f tps ps =>
    f.lexemes ++ angles (nameItems tps) ++ parens (ps.map (·.lexemes)) ++ [.colon]

def TypeFrame.lexemes : TypeFrame → List Lexeme
  | .args n done => n.lexemes ++ .less :: opened .comma (done.map (·.lexemes))
  | .items done => .lparen :: opened .comma (done.map (·.lexemes))

/-- The lexemes up to where a type has to follow; the innermost open type comes first. -/
def TypeSlot.upTo (s : TypeSlot) (fs : List TypeFrame) : List Lexeme :=
  s.lexemes ++ fs.reverse.flatMap (·.lexemes)

def Reading.lexemes : Reading → List Lexeme
  | .top ms => ms.flatMap (·.lexemes)
  | .abstractWord ms => ms.flatMap (·.lexemes) ++ [.abstractWord]
  | .modulePart ms a ps =>
    ms.flatMap (·.lexemes) ++ (optional a .abstractWord ++
      .moduleWord :: opened .dot (nameItems ps))
  | .moduleName ms a ps =>
    ms.flatMap (·.lexemes) ++ (optional a .abstractWord ++
      .moduleWord :: chain .dot (nameItems ps))
  | .members m => m.lexemes
  | .ghostWord m => m.lexemes ++ [.ghostWord]
  | .datatypeWord m => m.lexemes ++ [.datatypeWord]
  | .functionWord m g k => m.lexemes ++ (optional g .ghostWord ++ [.functionWord k])
  | .headName h => h.lexemes
  | .typeParam h ps => h.lexemes ++ .less :: opened .comma (nameItems ps)
  | .typeParamName h ps => h.lexemes ++ .less :: chain .comma (nameItems ps)
  | .typeParamsEnd h ps => h.lexemes ++ angles (nameItems ps)
  | .equal m n ps =>
    m.lexemes ++ .datatypeWord :: .name n :: (angles (nameItems ps) ++ [.equal])
  | .variant d => d.start ++ opened .bar d.items
  | .variantName d n => d.start ++ opened .bar d.items ++ [.name n]
  | .variantEnd d => d.start ++ chain .bar d.items
  | .fieldsStart o => o.listing []
  | .field o done => o.listing done
  | .fieldGhost o done => o.listing done ++ [.ghostWord]
  | .fieldName o done g n => o.listing done ++ (optional g .ghostWord ++ [.name n])
  | .paramsEnd f tps ps =>
    f.lexemes ++ angles (nameItems tps) ++ parens (ps.map (·.lexemes))
  | .typeStart s fs => s.upTo fs
  | .tupleStart s fs => s.upTo fs ++ [.lparen]
  | .typePart s fs ps => s.upTo fs ++ opened .dot (nameItems ps)
  | .typeName s fs ps => s.upTo fs ++ chain .dot (nameItems ps)
  | .typeEnd s fs t => s.upTo fs ++ t.lexemes

def OpenModule.Formed (m : OpenModule) : Prop :=
  (∀ x ∈ m.before, x.Formed) ∧ m.name.Formed ∧ ∀ x ∈ m.members, x.Formed

def OpenDatatype.Formed (d : OpenDatatype) : Prop :=
  d.owner.Formed ∧ IsName d.name ∧ (∀ p ∈ d.typeParams, IsName p) ∧ ∀ v ∈ d.variants, v.Formed

def FunctionHead.Formed (f : FunctionHead) : Prop := f.owner.Formed ∧ IsName f.name

def Head.Formed : Head → Prop
  | .datatype m n => m.Formed ∧ IsName n
  | .function f => f.Formed

def FieldOwner.Formed : FieldOwner → Prop
  | .variant d n => d.Formed ∧ IsName n
  | .function f ps => f.Formed ∧ ∀ p ∈ ps, IsName p

def TypeSlot.Formed : TypeSlot → Prop
  | .field o done g n =>
    o.Formed ∧ (∀ f ∈ done, f.Formed) ∧ IsName n ∧ (g = false → ¬ HidesGhost n)
  | .result f tps ps => f.Formed ∧ (∀ p ∈ tps, IsName p) ∧ ∀ p ∈ ps, p.Formed

def TypeFrame.Formed : TypeFrame → Prop
  | .args n done => n.Formed ∧ ∀ t ∈ done, t.Formed
  | .items done => ∀ t ∈ done, t.Formed

/-- A type that is being read, with everything around it. -/
def TypeSlot.Holds (s : TypeSlot) (fs : List TypeFrame) : Prop := s.Formed ∧ ∀ f ∈ fs, f.Formed

/-- Everything a reading holds is formed, and a chain that has begun is not empty. -/
def Reading.Formed : Reading → Prop
  | .top ms | .abstractWord ms => ∀ m ∈ ms, m.Formed
  | .modulePart ms _ ps => (∀ m ∈ ms, m.Formed) ∧ ∀ p ∈ ps, IsName p
  | .moduleName ms _ ps => (∀ m ∈ ms, m.Formed) ∧ ps ≠ [] ∧ ∀ p ∈ ps, IsName p
  | .members m | .ghostWord m | .datatypeWord m | .functionWord m _ _ => m.Formed
  | .headName h => h.Formed
  | .typeParam h ps => h.Formed ∧ ∀ p ∈ ps, IsName p
  | .typeParamName h ps | .typeParamsEnd h ps => h.Formed ∧ ps ≠ [] ∧ ∀ p ∈ ps, IsName p
  | .equal m n ps => m.Formed ∧ IsName n ∧ ∀ p ∈ ps, IsName p
  | .variant d => d.Formed
  | .variantName d n => d.Formed ∧ IsName n
  | .variantEnd d => d.Formed ∧ d.variants ≠ []
  | .fieldsStart o => o.Formed
  | .field o done | .fieldGhost o done => o.Formed ∧ ∀ f ∈ done, f.Formed
  | .fieldName o done g n => (TypeSlot.field o done g n).Formed
  | .paramsEnd f tps ps => (TypeSlot.result f tps ps).Formed
  | .typeStart s fs | .tupleStart s fs => s.Holds fs
  | .typePart s fs ps => s.Holds fs ∧ ∀ p ∈ ps, IsName p
  | .typeName s fs ps => s.Holds fs ∧ ps ≠ [] ∧ ∀ p ∈ ps, IsName p
  | .typeEnd s fs t => s.Holds fs ∧ t.Formed

def Reading.Keeps (r : Reading) (ls : List Lexeme) : Prop := r.Formed ∧ r.lexemes = ls

theorem OpenModule.add_formed {m : OpenModule} {x : Member} (hm : m.Formed) (hx : x.Formed) :
    (m.add x).Formed := by
  refine ⟨hm.1, hm.2.1, ?_⟩
  intro y hy
  rcases List.mem_append.mp hy with hy | hy
  · exact hm.2.2 y hy
  · rw [List.mem_singleton.mp hy]
    exact hx

theorem OpenModule.add_lexemes (m : OpenModule) (x : Member) :
    (m.add x).lexemes = m.lexemes ++ x.lexemes := by
  simp [OpenModule.add, OpenModule.lexemes]

theorem OpenModule.step_keeps {m : OpenModule} {l : Lexeme} {r : Reading} (hm : m.Formed)
    (h : m.step l = some r) : r.Keeps (m.lexemes ++ [l]) := by
  unfold OpenModule.step at h
  split at h <;> cases h
  · exact ⟨hm, rfl⟩
  · exact ⟨hm, by simp [Reading.lexemes, optional]⟩
  · exact ⟨hm, rfl⟩
  · refine ⟨?_, by simp [Reading.lexemes, OpenModule.close, OpenModule.lexemes, ModuleDecl.lexemes]⟩
    intro x hx
    rcases List.mem_append.mp hx with hx | hx
    · exact hm.1 x hx
    · rw [List.mem_singleton.mp hx]
      exact hm.2

theorem OpenDatatype.add_formed {d : OpenDatatype} {v : VariantDecl} (hd : d.Formed)
    (hv : v.Formed) : (d.add v).Formed := by
  refine ⟨hd.1, hd.2.1, hd.2.2.1, ?_⟩
  intro w hw
  rcases List.mem_append.mp hw with hw | hw
  · exact hd.2.2.2 w hw
  · rw [List.mem_singleton.mp hw]
    exact hv

theorem OpenDatatype.add_items (d : OpenDatatype) (v : VariantDecl) :
    (d.add v).start ++ chain .bar (d.add v).items = d.start ++ opened .bar d.items ++ v.lexemes := by
  simp [OpenDatatype.add, OpenDatatype.start, OpenDatatype.items, chain_snoc]

theorem OpenDatatype.close_lexemes (d : OpenDatatype) :
    d.close.lexemes = d.start ++ chain .bar d.items := by
  simp [OpenDatatype.close, OpenModule.add_lexemes, Member.lexemes, DatatypeDecl.lexemes,
    OpenDatatype.start, OpenDatatype.items]

theorem OpenDatatype.close_formed {d : OpenDatatype} (hd : d.Formed) (hv : d.variants ≠ []) :
    d.close.Formed :=
  OpenModule.add_formed hd.1 ⟨hd.2.1, hd.2.2.1, hv, hd.2.2.2⟩

theorem OpenDatatype.step_keeps {d : OpenDatatype} {l : Lexeme} {r : Reading} (hd : d.Formed)
    (hv : d.variants ≠ []) (h : d.step l = some r) :
    r.Keeps (d.start ++ chain .bar d.items ++ [l]) := by
  unfold OpenDatatype.step at h
  split at h
  · cases h
    refine ⟨hd, ?_⟩
    have hi : d.items ≠ [] := by simpa [OpenDatatype.items] using hv
    simp [Reading.lexemes, opened_of_ne_nil .bar hi]
  · rw [← d.close_lexemes]
    exact OpenModule.step_keeps (close_formed hd hv) h

theorem FunctionHead.close_lexemes (f : FunctionHead) (tps : List String) (ps : List FieldDecl)
    (t : Option TypeExpr) :
    (f.close tps ps t).lexemes =
      f.lexemes ++ angles (nameItems tps) ++ parens (ps.map (·.lexemes)) ++
        t.elim [] fun t => .colon :: t.lexemes := by
  simp [FunctionHead.close, OpenModule.add_lexemes, Member.lexemes, FunctionDecl.lexemes,
    FunctionHead.lexemes]

theorem FunctionHead.close_formed {f : FunctionHead} {tps : List String} {ps : List FieldDecl}
    {t : Option TypeExpr} (hs : (TypeSlot.result f tps ps).Formed) (ht : ∀ u ∈ t, u.Formed) :
    (f.close tps ps t).Formed :=
  OpenModule.add_formed hs.1.1 ⟨hs.1.2, hs.2.1, hs.2.2, ht⟩

theorem FieldOwner.close_keeps {o : FieldOwner} {fs : List FieldDecl} (ho : o.Formed)
    (hf : ∀ f ∈ fs, f.Formed) :
    (o.close fs).Keeps (o.lexemes ++ parens (fs.map (·.lexemes))) := by
  cases o with
  | variant d n =>
    refine ⟨⟨OpenDatatype.add_formed ho.1 ⟨ho.2, hf⟩, by simp [OpenDatatype.add]⟩, ?_⟩
    simp [FieldOwner.close, Reading.lexemes, FieldOwner.lexemes, OpenDatatype.add_items,
      VariantDecl.lexemes]
  | function f tps =>
    exact ⟨⟨ho.1, ho.2, hf⟩, rfl⟩

theorem FieldOwner.listing_snoc (o : FieldOwner) (done : List FieldDecl) (f : FieldDecl) :
    o.listing (done ++ [f]) = o.listing done ++ f.lexemes ++ [.comma] := by
  simp [FieldOwner.listing, opened_of_ne_nil, chain_snoc]

theorem FieldOwner.listing_close (o : FieldOwner) (done : List FieldDecl) (f : FieldDecl) :
    o.lexemes ++ parens ((done ++ [f]).map (·.lexemes)) =
      o.listing done ++ f.lexemes ++ [.rparen] := by
  simp [FieldOwner.listing, parens, chain_snoc]

theorem TypeSlot.upTo_cons (s : TypeSlot) (f : TypeFrame) (fs : List TypeFrame) :
    s.upTo (f :: fs) = s.upTo fs ++ f.lexemes := by
  simp [TypeSlot.upTo]

theorem TypeSlot.field_lexemes (o : FieldOwner) (done : List FieldDecl) (g : Bool) (n : String)
    (t : TypeExpr) :
    (TypeSlot.field o done g n).upTo [] ++ t.lexemes =
      o.listing done ++ (FieldDecl.mk g n t).lexemes := by
  simp [TypeSlot.upTo, TypeSlot.lexemes, FieldDecl.lexemes]

theorem forall_mem_snoc {α : Type} {p : α → Prop} {xs : List α} {x : α} (hs : ∀ y ∈ xs, p y)
    (hx : p x) : ∀ y ∈ xs ++ [x], p y := by
  intro y hy
  rcases List.mem_append.mp hy with hy | hy
  · exact hs y hy
  · rw [List.mem_singleton.mp hy]
    exact hx

theorem closeType_keeps {s : TypeSlot} {fs : List TypeFrame} {t : TypeExpr} {l : Lexeme}
    {r : Reading} (hs : s.Holds fs) (ht : t.Formed) (h : closeType s fs t l = some r) :
    r.Keeps (s.upTo fs ++ t.lexemes ++ [l]) := by
  unfold closeType at h
  split at h <;> try cases h
  · obtain ⟨hn, hd⟩ := hs.2 _ List.mem_cons_self
    refine ⟨⟨hs.1, ?_⟩, ?_⟩
    · intro f hf
      rcases List.mem_cons.mp hf with rfl | hf
      · exact ⟨hn, forall_mem_snoc hd ht⟩
      · exact hs.2 f (List.mem_cons_of_mem _ hf)
    · simp [Reading.lexemes, TypeSlot.upTo_cons, TypeFrame.lexemes, opened_of_ne_nil, chain_snoc]
  · obtain ⟨hn, hd⟩ := hs.2 _ List.mem_cons_self
    refine ⟨⟨⟨hs.1, fun f hf => hs.2 f (List.mem_cons_of_mem _ hf)⟩, hn, ?_⟩, ?_⟩
    · exact (TypeExpr.formedEach_iff _).mpr (forall_mem_snoc hd ht)
    · simp [Reading.lexemes, TypeSlot.upTo_cons, TypeFrame.lexemes, TypeExpr.lexemes,
        TypeExpr.lexemesEach_eq_map, angles_snoc]
  · have hd := hs.2 _ List.mem_cons_self
    refine ⟨⟨hs.1, ?_⟩, ?_⟩
    · intro f hf
      rcases List.mem_cons.mp hf with rfl | hf
      · exact forall_mem_snoc hd ht
      · exact hs.2 f (List.mem_cons_of_mem _ hf)
    · simp [Reading.lexemes, TypeSlot.upTo_cons, TypeFrame.lexemes, opened_of_ne_nil, chain_snoc]
  · have hd := hs.2 _ List.mem_cons_self
    refine ⟨⟨⟨hs.1, fun f hf => hs.2 f (List.mem_cons_of_mem _ hf)⟩, ?_⟩, ?_⟩
    · exact (TypeExpr.formedEach_iff _).mpr (forall_mem_snoc hd ht)
    · simp [Reading.lexemes, TypeSlot.upTo_cons, TypeFrame.lexemes, TypeExpr.lexemes,
        TypeExpr.lexemesEach_eq_map, parens, chain_snoc]
  · obtain ⟨ho, hd, hn, hg⟩ := hs.1
    refine ⟨⟨ho, forall_mem_snoc hd ⟨hn, hg, ht⟩⟩, ?_⟩
    rw [TypeSlot.field_lexemes]
    exact FieldOwner.listing_snoc _ _ _
  · obtain ⟨ho, hd, hn, hg⟩ := hs.1
    rw [TypeSlot.field_lexemes, ← FieldOwner.listing_close]
    exact FieldOwner.close_keeps ho (forall_mem_snoc hd ⟨hn, hg, ht⟩)
  · have hc := FunctionHead.close_formed (t := some t) hs.1 (by simpa using ht)
    have hl := OpenModule.step_keeps hc h
    rw [FunctionHead.close_lexemes] at hl
    simpa [TypeSlot.upTo, TypeSlot.lexemes] using hl

theorem stepField_keeps {o : FieldOwner} {done : List FieldDecl} {l : Lexeme} {r : Reading}
    (ho : o.Formed) (hd : ∀ f ∈ done, f.Formed)
    (hl : ∀ s, l = .name s → IsName s ∧ ¬ HidesGhost s) (h : stepField o done l = some r) :
    r.Keeps (o.listing done ++ [l]) := by
  unfold stepField at h
  split at h <;> cases h
  · exact ⟨⟨ho, hd⟩, rfl⟩
  · obtain ⟨hn, hg⟩ := hl _ rfl
    exact ⟨⟨ho, hd, hn, fun _ => hg⟩, by simp [Reading.lexemes, optional]⟩

theorem stepType_keeps {s : TypeSlot} {fs : List TypeFrame} {l : Lexeme} {r : Reading}
    (hs : s.Holds fs) (hl : ∀ n, l = .name n → IsName n) (h : stepType s fs l = some r) :
    r.Keeps (s.upTo fs ++ [l]) := by
  unfold stepType at h
  split at h <;> cases h
  · exact ⟨hs, rfl⟩
  · refine ⟨⟨hs, by simp, ?_⟩, by simp [Reading.lexemes, nameItems]⟩
    simpa using hl _ rfl

namespace Reading

theorem step_variantName (d : OpenDatatype) (v : String) {l : Lexeme} (h : l ≠ .lparen) :
    (variantName d v).step l = (d.add ⟨v, none⟩).step l := by
  cases l <;> first | rfl | exact absurd rfl h

theorem step_fieldsStart (o : FieldOwner) {l : Lexeme} (h : l ≠ .rparen) :
    (fieldsStart o).step l = stepField o [] l := by
  cases l <;> first | rfl | exact absurd rfl h

theorem step_paramsEnd (f : FunctionHead) (tps : List String) (ps : List FieldDecl) {l : Lexeme}
    (h : l ≠ .colon) : (paramsEnd f tps ps).step l = (f.close tps ps none).step l := by
  cases l <;> first | rfl | exact absurd rfl h

theorem step_tupleStart (s : TypeSlot) (fs : List TypeFrame) {l : Lexeme} (h : l ≠ .rparen) :
    (tupleStart s fs).step l = stepType s (.items [] :: fs) l := by
  cases l <;> first | rfl | exact absurd rfl h

theorem step_typeName (s : TypeSlot) (fs : List TypeFrame) (ps : List String) {l : Lexeme}
    (hd : l ≠ .dot) (hl : l ≠ .less) :
    (typeName s fs ps).step l = closeType s fs (.named ⟨ps⟩ []) l := by
  cases l <;> first | rfl | exact absurd rfl hd | exact absurd rfl hl

/-- One more lexeme, and the reading holds one more lexeme. -/
def StepKeeps (r : Reading) : Prop :=
  ∀ l r', r.Formed → r.Admits l → r.step l = some r' → r'.Keeps (r.lexemes ++ [l])

section Modules
variable (ms : List ModuleDecl) (a : Bool) (ps : List String) (m : OpenModule)

theorem stepKeeps_top : (top ms).StepKeeps := by
  intro l r' hr _ h
  cases l with
  | abstractWord =>
    cases h
    exact ⟨hr, rfl⟩
  | moduleWord =>
    cases h
    exact ⟨⟨hr, by simp⟩, by simp [lexemes, optional, nameItems]⟩
  | _ => cases h

theorem stepKeeps_abstractWord : (abstractWord ms).StepKeeps := by
  intro l r' hr _ h
  cases l with
  | moduleWord =>
    cases h
    exact ⟨⟨hr, by simp⟩, by simp [lexemes, optional, nameItems]⟩
  | _ => cases h

theorem stepKeeps_modulePart : (modulePart ms a ps).StepKeeps := by
  intro l r' hr ha h
  cases l with
  | name n =>
    cases h
    exact ⟨⟨hr.1, by simp, forall_mem_snoc hr.2 ha⟩, by simp [lexemes, nameItems, chain_snoc]⟩
  | _ => cases h

theorem stepKeeps_moduleName : (moduleName ms a ps).StepKeeps := by
  intro l r' hr _ h
  cases l with
  | dot =>
    cases h
    have hp : nameItems ps ≠ [] := by simpa using hr.2.1
    exact ⟨⟨hr.1, hr.2.2⟩, by simp [lexemes, opened_of_ne_nil .dot hp]⟩
  | lbrace =>
    cases h
    exact ⟨⟨hr.1, hr.2, by simp⟩, by simp [lexemes, OpenModule.lexemes, DottedName.lexemes]⟩
  | _ => cases h

theorem stepKeeps_members : (members m).StepKeeps :=
  fun _ _ hr _ h => OpenModule.step_keeps hr h

theorem stepKeeps_ghostWord : (ghostWord m).StepKeeps := by
  intro l r' hr _ h
  cases l with
  | functionWord k =>
    cases h
    exact ⟨hr, by simp [lexemes, optional]⟩
  | _ => cases h

end Modules

section Heads
variable (m : OpenModule) (g : Bool) (k : FunctionKind) (h : Head) (ps : List String)

theorem stepKeeps_datatypeWord : (datatypeWord m).StepKeeps := by
  intro l r' hr ha hs
  cases l with
  | name n =>
    cases hs
    exact ⟨⟨hr, ha⟩, by simp [lexemes, Head.lexemes]⟩
  | _ => cases hs

theorem stepKeeps_functionWord : (functionWord m g k).StepKeeps := by
  intro l r' hr ha hs
  cases l with
  | name n =>
    cases hs
    exact ⟨⟨hr, ha⟩, by simp [lexemes, Head.lexemes, FunctionHead.lexemes]⟩
  | _ => cases hs

theorem stepKeeps_headName : (headName h).StepKeeps := by
  intro l r' hr _ hs
  cases l with
  | less =>
    cases hs
    exact ⟨⟨hr, by simp⟩, by simp [lexemes, nameItems]⟩
  | equal =>
    cases h with
    | datatype m n =>
      cases hs
      exact ⟨⟨hr.1, hr.2, by simp⟩, by simp [lexemes, Head.lexemes, nameItems, angles]⟩
    | function f => cases hs
  | lparen =>
    cases h with
    | datatype m n => cases hs
    | function f =>
      cases hs
      exact ⟨⟨hr, by simp⟩, by
        simp [lexemes, Head.lexemes, FieldOwner.listing, FieldOwner.lexemes, nameItems, angles]⟩
  | _ => cases h <;> cases hs

theorem stepKeeps_typeParam : (typeParam h ps).StepKeeps := by
  intro l r' hr ha hs
  cases l with
  | name n =>
    cases hs
    exact ⟨⟨hr.1, by simp, forall_mem_snoc hr.2 ha⟩, by simp [lexemes, nameItems, chain_snoc]⟩
  | _ => cases hs

theorem stepKeeps_typeParamName : (typeParamName h ps).StepKeeps := by
  intro l r' hr _ hs
  have hp : nameItems ps ≠ [] := by simpa using hr.2.1
  cases l with
  | comma =>
    cases hs
    exact ⟨⟨hr.1, hr.2.2⟩, by simp [lexemes, opened_of_ne_nil .comma hp]⟩
  | more =>
    cases hs
    exact ⟨hr, by simp [lexemes, angles_of_ne_nil hp]⟩
  | _ => cases hs

theorem stepKeeps_typeParamsEnd : (typeParamsEnd h ps).StepKeeps := by
  intro l r' hr _ hs
  cases h with
  | datatype m n =>
    cases l with
    | equal =>
      cases hs
      exact ⟨⟨hr.1.1, hr.1.2, hr.2.2⟩, by simp [lexemes, Head.lexemes]⟩
    | _ => cases hs
  | function f =>
    cases l with
    | lparen =>
      cases hs
      exact ⟨⟨hr.1, hr.2.2⟩,
        by simp [lexemes, Head.lexemes, FieldOwner.listing, FieldOwner.lexemes]⟩
    | _ => cases hs

end Heads

section Variants
variable (m : OpenModule) (n : String) (ps : List String) (d : OpenDatatype)

theorem stepKeeps_equal : (equal m n ps).StepKeeps := by
  intro l r' hr ha h
  cases l with
  | bar =>
    cases h
    exact ⟨⟨hr.1, hr.2.1, hr.2.2, by simp⟩,
      by simp [lexemes, OpenDatatype.start, OpenDatatype.items, optional]⟩
  | name v =>
    cases h
    exact ⟨⟨⟨hr.1, hr.2.1, hr.2.2, by simp⟩, ha⟩,
      by simp [lexemes, OpenDatatype.start, OpenDatatype.items, optional]⟩
  | _ => cases h

theorem stepKeeps_variant : (variant d).StepKeeps := by
  intro l r' hr ha h
  cases l with
  | name v =>
    cases h
    exact ⟨⟨hr, ha⟩, rfl⟩
  | _ => cases h

theorem stepKeeps_variantName : (variantName d n).StepKeeps := by
  intro l r' hr _ h
  by_cases hl : l = .lparen
  · subst hl
    cases h
    exact ⟨hr, by simp [lexemes, FieldOwner.listing, FieldOwner.lexemes]⟩
  · rw [step_variantName d n hl] at h
    have hv : (VariantDecl.mk n none).Formed := ⟨hr.2, by simp [VariantDecl.fieldList]⟩
    have hk := OpenDatatype.step_keeps (OpenDatatype.add_formed hr.1 hv)
      (by simp [OpenDatatype.add]) h
    rwa [OpenDatatype.add_items] at hk

theorem stepKeeps_variantEnd : (variantEnd d).StepKeeps :=
  fun _ _ hr _ h => OpenDatatype.step_keeps hr.1 hr.2 h

end Variants

section Fields
variable (o : FieldOwner) (done : List FieldDecl) (g : Bool) (n : String) (f : FunctionHead)
  (tps : List String)

theorem stepKeeps_fieldsStart : (fieldsStart o).StepKeeps := by
  intro l r' hr ha h
  by_cases hl : l = .rparen
  · subst hl
    cases h
    have hk : (o.close []).Keeps _ := FieldOwner.close_keeps hr (by simp)
    simpa [lexemes, FieldOwner.listing, parens] using hk
  · rw [step_fieldsStart o hl] at h
    exact stepField_keeps hr (by simp) (by rintro s rfl; exact ha) h

theorem stepKeeps_field : (field o done).StepKeeps :=
  fun _ _ hr ha h => stepField_keeps hr.1 hr.2 (by rintro s rfl; exact ha) h

theorem stepKeeps_fieldGhost : (fieldGhost o done).StepKeeps := by
  intro l r' hr ha h
  cases l with
  | name n =>
    cases h
    exact ⟨⟨hr.1, hr.2, ha, by simp⟩, by simp [lexemes, optional]⟩
  | colon => exact ha.elim
  | _ => cases h

theorem stepKeeps_fieldName : (fieldName o done g n).StepKeeps := by
  intro l r' hr _ h
  cases l with
  | colon =>
    cases h
    exact ⟨⟨hr, by simp⟩, by simp [lexemes, TypeSlot.upTo, TypeSlot.lexemes]⟩
  | _ => cases h

theorem stepKeeps_paramsEnd : (paramsEnd f tps done).StepKeeps := by
  intro l r' hr _ h
  by_cases hl : l = .colon
  · subst hl
    cases h
    exact ⟨⟨hr, by simp⟩, by simp [lexemes, TypeSlot.upTo, TypeSlot.lexemes]⟩
  · rw [step_paramsEnd f tps done hl] at h
    have hk := OpenModule.step_keeps (FunctionHead.close_formed (t := none) hr (by simp)) h
    simpa [FunctionHead.close_lexemes, lexemes] using hk

end Fields

section Types
variable (s : TypeSlot) (fs : List TypeFrame) (ps : List String) (t : TypeExpr)

theorem holds_cons {s : TypeSlot} {fs : List TypeFrame} {f : TypeFrame} (hs : s.Holds fs)
    (hf : f.Formed) : s.Holds (f :: fs) :=
  ⟨hs.1, List.forall_mem_cons.mpr ⟨hf, hs.2⟩⟩

theorem stepKeeps_typeStart : (typeStart s fs).StepKeeps :=
  fun _ _ hr ha h => stepType_keeps hr (by rintro n rfl; exact ha) h

theorem stepKeeps_tupleStart : (tupleStart s fs).StepKeeps := by
  intro l r' hr ha h
  by_cases hl : l = .rparen
  · subst hl
    cases h
    exact ⟨⟨hr, trivial⟩, by simp [lexemes, TypeExpr.lexemes, TypeExpr.lexemesEach, parens]⟩
  · rw [step_tupleStart s fs hl] at h
    have hs : s.Holds (.items [] :: fs) := holds_cons hr (List.forall_mem_nil _)
    have hk := stepType_keeps hs (by rintro n rfl; exact ha) h
    simpa [TypeSlot.upTo_cons, TypeFrame.lexemes, lexemes] using hk

theorem stepKeeps_typePart : (typePart s fs ps).StepKeeps := by
  intro l r' hr ha h
  cases l with
  | name n =>
    cases h
    exact ⟨⟨hr.1, by simp, forall_mem_snoc hr.2 ha⟩, by simp [lexemes, nameItems, chain_snoc]⟩
  | _ => cases h

theorem stepKeeps_typeName : (typeName s fs ps).StepKeeps := by
  intro l r' hr _ h
  by_cases hdot : l = .dot
  · subst hdot
    cases h
    have hp : nameItems ps ≠ [] := by simpa using hr.2.1
    exact ⟨⟨hr.1, hr.2.2⟩, by simp [lexemes, opened_of_ne_nil .dot hp]⟩
  · by_cases hless : l = .less
    · subst hless
      cases h
      exact ⟨holds_cons hr.1 ⟨hr.2, List.forall_mem_nil _⟩,
        by simp [lexemes, TypeSlot.upTo_cons, TypeFrame.lexemes, DottedName.lexemes]⟩
    · rw [step_typeName s fs ps hdot hless] at h
      have hk := closeType_keeps (t := .named ⟨ps⟩ []) hr.1 ⟨hr.2, trivial⟩ h
      simpa [TypeExpr.lexemes, TypeExpr.lexemesEach, angles, DottedName.lexemes, lexemes] using hk

theorem stepKeeps_typeEnd : (typeEnd s fs t).StepKeeps :=
  fun _ _ hr _ h => closeType_keeps hr.1 hr.2 h

end Types

theorem stepKeeps (r : Reading) : r.StepKeeps := by
  cases r with
  | top ms => exact stepKeeps_top ms
  | abstractWord ms => exact stepKeeps_abstractWord ms
  | modulePart ms a ps => exact stepKeeps_modulePart ms a ps
  | moduleName ms a ps => exact stepKeeps_moduleName ms a ps
  | members m => exact stepKeeps_members m
  | ghostWord m => exact stepKeeps_ghostWord m
  | datatypeWord m => exact stepKeeps_datatypeWord m
  | functionWord m g k => exact stepKeeps_functionWord m g k
  | headName h => exact stepKeeps_headName h
  | typeParam h ps => exact stepKeeps_typeParam h ps
  | typeParamName h ps => exact stepKeeps_typeParamName h ps
  | typeParamsEnd h ps => exact stepKeeps_typeParamsEnd h ps
  | equal m n ps => exact stepKeeps_equal m n ps
  | variant d => exact stepKeeps_variant d
  | variantName d n => exact stepKeeps_variantName n d
  | variantEnd d => exact stepKeeps_variantEnd d
  | fieldsStart o => exact stepKeeps_fieldsStart o
  | field o done => exact stepKeeps_field o done
  | fieldGhost o done => exact stepKeeps_fieldGhost o done
  | fieldName o done g n => exact stepKeeps_fieldName o done g n
  | paramsEnd f tps ps => exact stepKeeps_paramsEnd ps f tps
  | typeStart s fs => exact stepKeeps_typeStart s fs
  | tupleStart s fs => exact stepKeeps_tupleStart s fs
  | typePart s fs ps => exact stepKeeps_typePart s fs ps
  | typeName s fs ps => exact stepKeeps_typeName s fs ps
  | typeEnd s fs t => exact stepKeeps_typeEnd s fs t

end Reading

theorem Reading.Leads.keeps {r r' : Reading} {ls : List Lexeme} (h : r.Leads ls r')
    (hr : r.Formed) : r'.Keeps (r.lexemes ++ ls) := by
  induction h with
  | nil => exact ⟨hr, by simp⟩
  | cons ha hs _ ih =>
    obtain ⟨hf, hl⟩ := Reading.stepKeeps _ _ _ hr ha hs
    simpa [hl] using ih hf

end Marshal.Declaration
