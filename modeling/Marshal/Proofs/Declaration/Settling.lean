import Marshal.Proofs.Declaration.Boundary
import Marshal.Proofs.Declaration.Sentence
import Mathlib.Data.List.Forall2

/-!
# Names that hide the word for ghosts

The grammar has a second derivation for every field whose name hides the word for ghosts: the word,
and the rest of the name. So a sentence is settled by taking such names apart, which changes neither
the text nor the places at which its other lexemes stand.
-/

namespace Marshal.Declaration
set_option autoImplicit false

/-- The same lexemes, but for some names that hide the word for ghosts and are taken apart. -/
inductive Settles : List Lexeme → List Lexeme → Prop where
  | nil : Settles [] []
  | keep (l : Lexeme) {ls ks : List Lexeme} : Settles ls ks → Settles (l :: ls) (l :: ks)
  | split {s n : String} {ls ks : List Lexeme} :
      s.toList = Lexeme.ghostWord.chars ++ n.toList → IsName n → Settles ls ks →
        Settles (.name s :: ls) (.ghostWord :: .name n :: ks)

namespace Settles
variable {ls ls' ks ks' : List Lexeme}

@[refl] theorem refl (ls : List Lexeme) : Settles ls ls := by
  induction ls with
  | nil => exact .nil
  | cons l ls ih => exact .keep l ih

theorem append (h : Settles ls ks) (h' : Settles ls' ks') : Settles (ls ++ ls') (ks ++ ks') := by
  induction h with
  | nil => exact h'
  | keep l _ ih => exact .keep l ih
  | split hs hn _ ih => exact .split hs hn ih

theorem cons (h : Settles ls ks) (l : Lexeme) : Settles (l :: ls) (l :: ks) := .keep l h

theorem flatMap {xs ys : List (List Lexeme)} (h : List.Forall₂ Settles xs ys)
    (front : List Lexeme) : Settles (xs.flatMap (front ++ ·)) (ys.flatMap (front ++ ·)) := by
  induction h with
  | nil => exact .nil
  | cons hx _ ih => exact ((refl front).append hx).append ih

theorem chain {xs ys : List (List Lexeme)} (h : List.Forall₂ Settles xs ys) (sep : Lexeme) :
    Settles (chain sep xs) (chain sep ys) := by
  cases h with
  | nil => exact .nil
  | cons hx hxs => exact hx.append (flatMap hxs [sep])

theorem parens {xs ys : List (List Lexeme)} (h : List.Forall₂ Settles xs ys) :
    Settles (parens xs) (parens ys) :=
  ((chain h .comma).append (refl [.rparen])).cons .lparen

end Settles

/-- What can be done with one item can be done with all items of a list. -/
theorem settles_each {α : Type} {lexemes : α → List Lexeme} {p q : α → Prop}
    (h : ∀ x, p x → ∃ y, q y ∧ Settles (lexemes x) (lexemes y)) {xs : List α}
    (hp : ∀ x ∈ xs, p x) :
    ∃ ys : List α, (∀ y ∈ ys, q y) ∧ List.Forall₂ Settles (xs.map lexemes) (ys.map lexemes) := by
  induction xs with
  | nil => exact ⟨[], nofun, .nil⟩
  | cons x xs ih =>
    obtain ⟨y, hy, hs⟩ := h x (hp x List.mem_cons_self)
    obtain ⟨ys, hys, hss⟩ := ih fun z hz => hp z (List.mem_cons_of_mem x hz)
    refine ⟨y :: ys, ?_, .cons hs hss⟩
    intro z hz
    rcases List.mem_cons.mp hz with rfl | hz
    · exact hy
    · exact hys z hz

theorem isName_of_hidesGhost {s : String} (hs : IsName s) (h : HidesGhost s) :
    ∃ n, s.toList = Lexeme.ghostWord.chars ++ n.toList ∧ IsName n := by
  obtain ⟨c, cs, hc, hstart⟩ := h
  refine ⟨String.ofList (c :: cs), by rw [String.toList_ofList, hc], ?_⟩
  refine ⟨c, cs, String.toList_ofList, hstart, ?_⟩
  obtain ⟨d, ds, hd, -, hds⟩ := hs
  intro e he
  apply hds
  obtain rfl := (List.cons.inj (hd.symm.trans hc)).2
  simp [he]

theorem FieldDecl.Written.settles {f : FieldDecl} (h : f.Written) :
    ∃ g, FieldDecl.Formed g ∧ Settles f.lexemes g.lexemes := by
  obtain ⟨ghost, name, type⟩ := f
  by_cases hh : ghost = false ∧ HidesGhost name
  · obtain ⟨rfl, hh⟩ := hh
    obtain ⟨n, hn, hname⟩ := isName_of_hidesGhost h.1 hh
    exact ⟨⟨true, n, type⟩, ⟨hname, nofun, h.2⟩, .split hn hname (.refl _)⟩
  · exact ⟨⟨ghost, name, type⟩, ⟨h.1, fun hg hn => hh ⟨hg, hn⟩, h.2⟩, .refl _⟩

theorem settles_fields {fs : List FieldDecl} (h : ∀ f ∈ fs, f.Written) :
    ∃ gs : List FieldDecl, (∀ g ∈ gs, g.Formed) ∧
      List.Forall₂ Settles (fs.map (·.lexemes)) (gs.map (·.lexemes)) :=
  settles_each (fun _ => FieldDecl.Written.settles) h

theorem VariantDecl.Written.settles {v : VariantDecl} (h : v.Written) :
    ∃ w, VariantDecl.Formed w ∧ Settles v.lexemes w.lexemes := by
  obtain ⟨name, _ | fs⟩ := v
  · exact ⟨⟨name, none⟩, ⟨h.1, nofun⟩, .refl _⟩
  · have hf : ∀ f ∈ fs, f.Written := h.2
    obtain ⟨gs, hg, hs⟩ := settles_fields hf
    exact ⟨⟨name, some gs⟩, ⟨h.1, hg⟩, (Settles.parens hs).cons _⟩

theorem DatatypeDecl.Written.settles {d : DatatypeDecl} (h : d.Written) :
    ∃ e, DatatypeDecl.Formed e ∧ Settles d.lexemes e.lexemes := by
  obtain ⟨hn, hps, hne, hv⟩ := h
  obtain ⟨ws, hw, hs⟩ := settles_each (fun _ => VariantDecl.Written.settles) hv
  refine ⟨⟨d.name, d.typeParams, d.leadingBar, ws⟩, ⟨hn, hps, ?_, hw⟩, ?_⟩
  · rintro rfl
    exact hne (List.map_eq_nil_iff.mp (List.forall₂_nil_right_iff.mp hs))
  · have hbar := (Settles.refl (optional d.leadingBar .bar)).append (Settles.chain hs .bar)
    exact (((Settles.refl _).append (hbar.cons .equal)).cons _).cons _

theorem FunctionDecl.Written.settles {f : FunctionDecl} (h : f.Written) :
    ∃ g, FunctionDecl.Formed g ∧ Settles f.lexemes g.lexemes := by
  obtain ⟨hn, htps, hps, hresult⟩ := h
  obtain ⟨ps, hp, hs⟩ := settles_fields hps
  refine ⟨⟨f.isGhost, f.kind, f.name, f.typeParams, ps, f.result⟩, ⟨hn, htps, hp, hresult⟩, ?_⟩
  have hresult := Settles.refl (f.result.elim [] fun t => .colon :: t.lexemes)
  have hback := (Settles.parens hs).append hresult
  exact (Settles.refl _).append ((((Settles.refl _).append hback).cons _).cons _)

theorem Member.Written.settles {x : Member} (h : x.Written) :
    ∃ y, Member.Formed y ∧ Settles x.lexemes y.lexemes := by
  cases x with
  | datatype d =>
    obtain ⟨e, he, hs⟩ := DatatypeDecl.Written.settles h
    exact ⟨.datatype e, he, hs⟩
  | function f =>
    obtain ⟨g, hg, hs⟩ := FunctionDecl.Written.settles h
    exact ⟨.function g, hg, hs⟩

theorem ModuleDecl.Written.settles {m : ModuleDecl} (h : m.Written) :
    ∃ n, ModuleDecl.Formed n ∧ Settles m.lexemes n.lexemes := by
  obtain ⟨ys, hy, hs⟩ := settles_each (fun _ => Member.Written.settles) h.2
  refine ⟨⟨m.isAbstract, m.name, ys⟩, ⟨h.1, hy⟩, ?_⟩
  have hmembers := (Settles.flatMap hs []).append (Settles.refl [.rbrace])
  simp only [List.nil_append, List.flatMap_map] at hmembers
  exact (Settles.refl _).append (((Settles.refl _).append (hmembers.cons .lbrace)).cons _)

/-- Every sentence is settled by the lexemes of formed modules. -/
theorem IsSentence.settles {ls : List Lexeme} (h : IsSentence ls) :
    ∃ ms : List ModuleDecl, (∀ m ∈ ms, m.Formed) ∧ Settles ls (ms.flatMap (·.lexemes)) := by
  obtain ⟨ms, hm, rfl⟩ := h
  obtain ⟨ns, hn, hs⟩ := settles_each (fun _ => ModuleDecl.Written.settles) hm
  refine ⟨ns, hn, ?_⟩
  simpa [List.flatMap_map] using Settles.flatMap hs []

theorem FieldDecl.Formed.written {f : FieldDecl} (h : f.Formed) : f.Written := ⟨h.1, h.2.2⟩

theorem VariantDecl.Formed.written {v : VariantDecl} (h : v.Formed) : v.Written :=
  ⟨h.1, fun f hf => (h.2 f hf).written⟩

theorem DatatypeDecl.Formed.written {d : DatatypeDecl} (h : d.Formed) : d.Written :=
  ⟨h.1, h.2.1, h.2.2.1, fun v hv => (h.2.2.2 v hv).written⟩

theorem FunctionDecl.Formed.written {f : FunctionDecl} (h : f.Formed) : f.Written :=
  ⟨h.1, h.2.1, fun p hp => (h.2.2.1 p hp).written, h.2.2.2⟩

theorem Member.Formed.written {x : Member} (h : x.Formed) : x.Written := by
  cases x with
  | datatype d => exact DatatypeDecl.Formed.written h
  | function f => exact FunctionDecl.Formed.written h

theorem ModuleDecl.Formed.written {m : ModuleDecl} (h : m.Formed) : m.Written :=
  ⟨h.1, fun x hx => (h.2 x hx).written⟩

theorem isSentence_of_formed {ms : List ModuleDecl} (h : ∀ m ∈ ms, m.Formed) :
    IsSentence (ms.flatMap (·.lexemes)) :=
  ⟨ms, fun m hm => (h m hm).written, rfl⟩

/-- Where a sequence of lexemes is settled, the cut that it begins with is cut finer. -/
theorem Settles.cut {ps : List Piece} {rest : List Char} (hp : Fit ps rest) {ls ks : List Lexeme}
    (h : Settles (lexemesOf ps ++ ls) ks) :
    ∃ qs ks', ks = lexemesOf qs ++ ks' ∧ textOf qs = textOf ps ∧ Fit qs rest ∧ Settles ls ks' := by
  induction ps generalizing ks with
  | nil => exact ⟨[], ks, rfl, rfl, trivial, h⟩
  | cons p ps ih =>
    cases p with
    | ignored cs =>
      obtain ⟨qs, ks', rfl, ht, hq, hs⟩ := ih hp.2 h
      refine ⟨.ignored cs :: qs, ks', rfl, by simp [ht], ⟨?_, hq⟩, hs⟩
      exact ht ▸ hp.1
    | lexeme l =>
      rw [lexemesOf_lexeme, List.cons_append] at h
      cases h with
      | keep l h =>
        obtain ⟨qs, ks', rfl, ht, hq, hs⟩ := ih hp.2 h
        refine ⟨.lexeme l :: qs, ks', rfl, by simp [ht], ⟨?_, hq⟩, hs⟩
        exact ht ▸ hp.1
      | @split s n _ ks hn hname h =>
        obtain ⟨qs, ks', rfl, ht, hq, hs⟩ := ih hp.2 h
        refine ⟨.lexeme .ghostWord :: .lexeme (.name n) :: qs, ks', rfl, ?_, ⟨?_, ?_, hq⟩, hs⟩
        · simp [ht, Piece.chars, Lexeme.chars_name, hn]
        · exact Lexeme.fits_of_ne_name (by decide) _
        · intro s' hs'
          obtain rfl := Lexeme.name.inj hs'
          exact ⟨hname, ht ▸ (hp.1 s rfl).2⟩

end Marshal.Declaration
