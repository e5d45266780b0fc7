import Marshal.Proofs.Code.Free

/-!
# Expressions with holes

An expression that depends on others is uniform if it only puts them into place. Then its text is one
context, with the texts of the others in its holes, and the names that are free in it are those of
the expression around the holes and those of what fills them.
-/

namespace Marshal.Code
set_option autoImplicit false

/-- A text with holes: pieces of text, and the holes between them. -/
abbrev Context (ι : Type) := List (String ⊕ ι)

namespace Context
variable {ι : Type}

/-- The text of one piece when the holes are filled. -/
def piece (v : ι → String) : String ⊕ ι → String
  | .inl text => text
  | .inr i => v i

def fill (c : Context ι) (v : ι → String) : String := String.join (c.map (piece v))

theorem fill_append (c d : Context ι) (v : ι → String) :
    (c ++ d).fill v = c.fill v ++ d.fill v := by
  unfold fill
  rw [List.map_append, String.join_append]

end Context

def Fills {ι : Type} (text : (ι → Expr) → String) : Prop :=
  ∃ c : Context ι, ∀ s, text s = c.fill fun i => (s i).text

namespace Fills
variable {ι : Type} {f g : (ι → Expr) → String}

theorem const (text : String) : Fills fun _ : ι → Expr => text := by
  refine ⟨[.inl text], ?_⟩
  intro s
  show text = String.join [text]
  simp

theorem hole (i : ι) : Fills fun s => (s i).text := by
  refine ⟨[.inr i], ?_⟩
  intro s
  show (s i).text = String.join [(s i).text]
  simp

theorem append (hf : Fills f) (hg : Fills g) : Fills fun s => f s ++ g s := by
  obtain ⟨c, hc⟩ := hf
  obtain ⟨d, hd⟩ := hg
  refine ⟨c ++ d, ?_⟩
  intro s
  rw [Context.fill_append, ← hc s, ← hd s]

end Fills

/-- An expression that puts what stands for some holes into place, and does nothing else with it. -/
inductive Uniform {ι : Type} : ((ι → Expr) → Expr) → Prop where
  | hole (i : ι) : Uniform fun s => s i
  | fixed (e : Expr) : Uniform fun _ => e
  | attr {e : (ι → Expr) → Expr} (member : String) :
      Uniform e → Uniform fun s => .attr (e s) member
  | item {e : (ι → Expr) → Expr} (index : Nat) : Uniform e → Uniform fun s => .item (e s) index
  | call {f : (ι → Expr) → Expr} {args : List ((ι → Expr) → Expr)} :
      Uniform f → (∀ e ∈ args, Uniform e) → Uniform fun s => .call (f s) (args.map (· s))
  | orList {e : (ι → Expr) → Expr} : Uniform e → Uniform fun s => .orList (e s)
  | group {e : (ι → Expr) → Expr} : Uniform e → Uniform fun s => .group (e s)
  | list {items : List ((ι → Expr) → Expr)} :
      (∀ e ∈ items, Uniform e) → Uniform fun s => .list (items.map (· s))
  | listFor {body source : (ι → Expr) → Expr} (x : String) :
      Uniform body → Uniform source → Uniform fun s => .listFor (body s) x (source s)
  | dictFor {key value source : (ι → Expr) → Expr} (x : String) :
      Uniform key → Uniform value → Uniform source →
        Uniform fun s => .dictFor (key s) (value s) x (source s)
  | function {body : (ι → Expr) → Expr} (x : String) :
      Uniform body → Uniform fun s => .function x (body s)

/-- Expressions, as many for anything that fills the holes, each of them uniform. -/
def UniformEach {ι : Type} (es : (ι → Expr) → List Expr) : Prop :=
  ∃ gs : List ((ι → Expr) → Expr), (∀ g ∈ gs, Uniform g) ∧ ∀ s, es s = gs.map (· s)

namespace UniformEach
variable {ι : Type} {es : (ι → Expr) → List Expr}

theorem fixed (es : List Expr) : UniformEach fun _ : ι → Expr => es := by
  refine ⟨es.map fun e _ => e, ?_, ?_⟩
  · intro g hg
    obtain ⟨e, _, rfl⟩ := List.mem_map.mp hg
    exact .fixed e
  · intro s
    rw [List.map_map]
    exact (List.map_id es).symm

theorem cons {e : (ι → Expr) → Expr} (he : Uniform e) (hes : UniformEach es) :
    UniformEach fun s => e s :: es s := by
  obtain ⟨gs, hgs, heq⟩ := hes
  refine ⟨e :: gs, List.forall_mem_cons.mpr ⟨he, hgs⟩, ?_⟩
  intro s
  exact congrArg (e s :: ·) (heq s)

theorem single {e : (ι → Expr) → Expr} (he : Uniform e) : UniformEach fun s => [e s] :=
  .cons he (.fixed [])

theorem map {α : Type} {e : α → (ι → Expr) → Expr} {as : List α}
    (he : ∀ a ∈ as, Uniform (e a)) : UniformEach fun s => as.map fun a => e a s := by
  refine ⟨as.map e, ?_, ?_⟩
  · intro g hg
    obtain ⟨a, ha, rfl⟩ := List.mem_map.mp hg
    exact he a ha
  · intro s
    rw [List.map_map]
    rfl

theorem headD {e : (ι → Expr) → Expr} (hes : UniformEach es) (he : Uniform e) :
    Uniform fun s => (es s).headD (e s) := by
  obtain ⟨gs, hgs, heq⟩ := hes
  cases gs with
  | nil => simpa [heq] using he
  | cons g gs => simpa [heq] using hgs g List.mem_cons_self

theorem call {f : (ι → Expr) → Expr} (hf : Uniform f) (hes : UniformEach es) :
    Uniform fun s => .call (f s) (es s) := by
  obtain ⟨gs, hgs, heq⟩ := hes
  have h := Uniform.call hf hgs
  simpa only [← heq] using h

theorem list (hes : UniformEach es) : Uniform fun s => .list (es s) := by
  obtain ⟨gs, hgs, heq⟩ := hes
  have h := Uniform.list hgs
  simpa only [← heq] using h

end UniformEach

namespace Uniform
variable {ι : Type} {e : (ι → Expr) → Expr}

theorem fills_texts {gs : List ((ι → Expr) → Expr)}
    (h : ∀ g ∈ gs, Fills fun s => (g s).text) :
    Fills fun s => ", ".intercalate (Expr.texts (gs.map (· s))) := by
  induction gs with
  | nil => exact .const _
  | cons g gs ih =>
    obtain ⟨hg, hgs⟩ := List.forall_mem_cons.mp h
    cases gs with
    | nil => exact hg
    | cons g' gs =>
      obtain ⟨c, hc⟩ := (hg.append (.const ", ")).append (ih hgs)
      refine ⟨c, ?_⟩
      intro s
      rw [← hc s]
      exact String.intercalate_cons_cons

/-- The text of a uniform expression is one context, whatever fills its holes. -/
theorem text (h : Uniform e) : Fills fun s => (e s).text := by
  induction h with
  | hole i => exact .hole i
  | fixed e => exact .const _
  | attr member _ ih => exact (ih.append (.const ".")).append (.const member)
  | item index _ ih =>
    exact ((ih.append (.const "[")).append (.const (toString index))).append (.const "]")
  | call _ _ ihf ihargs =>
    exact ((ihf.append (.const "(")).append (fills_texts ihargs)).append (.const ")")
  | orList _ ih => exact ih.append (.const " or []")
  | group _ ih => exact ((Fills.const "(").append ih).append (.const ")")
  | list _ ih => exact ((Fills.const "[").append (fills_texts ih)).append (.const "]")
  | listFor x _ _ ihbody ihsource =>
    have hbody := ((Fills.const "[").append ihbody).append (.const " for ")
    exact (((hbody.append (.const x)).append (.const " in ")).append ihsource).append (.const "]")
  | dictFor x _ _ _ ihkey ihvalue ihsource =>
    have hkey := ((Fills.const "\x7b").append ihkey).append (.const ": ")
    have hentry := ((hkey.append ihvalue).append (.const " for ")).append (.const x)
    exact ((hentry.append (.const " in ")).append ihsource).append (.const "\x7d")
  | function x _ ih =>
    exact (((Fills.const "lambda ").append (.const x)).append (.const ": ")).append ih

/-- Holes filled with a text, in which no name is free. -/
def blank : ι → Expr := fun _ => .str ""

theorem mem_freeEach_map {gs : List ((ι → Expr) → Expr)} {s : ι → Expr} {n : String} :
    n ∈ Expr.freeEach (gs.map (· s)) ↔ ∃ g ∈ gs, n ∈ (g s).free := by
  simp [Expr.mem_freeEach]

theorem free_subset (h : Uniform e) {s : ι → Expr} {n : String} (hn : n ∈ (e s).free) :
    n ∈ (e blank).free ∨ ∃ i, n ∈ (s i).free := by
  induction h generalizing n with
  | hole i => exact .inr ⟨i, hn⟩
  | fixed e => exact .inl hn
  | attr _ _ ih => exact ih hn
  | item _ _ ih => exact ih hn
  | orList _ ih => exact ih hn
  | group _ ih => exact ih hn
  | call _ _ ihf ihargs =>
    rcases List.mem_append.mp hn with hn | hn
    · exact (ihf hn).imp_left (List.mem_append_left _)
    · obtain ⟨g, hg, hn⟩ := mem_freeEach_map.mp hn
      refine (ihargs g hg hn).imp_left ?_
      intro hblank
      exact List.mem_append_right _ (mem_freeEach_map.mpr ⟨g, hg, hblank⟩)
  | list _ ih =>
    obtain ⟨g, hg, hn⟩ := mem_freeEach_map.mp hn
    exact (ih g hg hn).imp_left fun hblank => mem_freeEach_map.mpr ⟨g, hg, hblank⟩
  | listFor x _ _ ihbody ihsource =>
    rcases List.mem_append.mp hn with hn | hn
    · obtain ⟨hn, hx⟩ := List.mem_filter.mp hn
      refine (ihbody hn).imp_left ?_
      intro hblank
      exact List.mem_append_left _ (List.mem_filter.mpr ⟨hblank, hx⟩)
    · exact (ihsource hn).imp_left (List.mem_append_right _)
  | dictFor x _ _ _ ihkey ihvalue ihsource =>
    rcases List.mem_append.mp hn with hn | hn
    · obtain ⟨hn, hx⟩ := List.mem_filter.mp hn
      rcases List.mem_append.mp hn with hn | hn
      · refine (ihkey hn).imp_left ?_
        intro hblank
        exact List.mem_append_left _ (List.mem_filter.mpr ⟨List.mem_append_left _ hblank, hx⟩)
      · refine (ihvalue hn).imp_left ?_
        intro hblank
        exact List.mem_append_left _ (List.mem_filter.mpr ⟨List.mem_append_right _ hblank, hx⟩)
    · exact (ihsource hn).imp_left (List.mem_append_right _)
  | function x _ ih =>
    obtain ⟨hn, hx⟩ := List.mem_filter.mp hn
    exact (ih hn).imp_left fun hblank => List.mem_filter.mpr ⟨hblank, hx⟩

theorem append_subset_append {as bs cs ds : List String} (hab : as ⊆ bs) (hcd : cs ⊆ ds) :
    as ++ cs ⊆ bs ++ ds :=
  List.append_subset.mpr
    ⟨List.subset_append_of_subset_left _ hab, List.subset_append_of_subset_right _ hcd⟩

/-- What is free around the holes of a uniform expression is free whatever fills them. -/
theorem free_blank_subset (h : Uniform e) (s : ι → Expr) : (e blank).free ⊆ (e s).free := by
  induction h with
  | hole i => exact List.nil_subset _
  | fixed e => exact List.Subset.refl _
  | attr _ _ ih => exact ih
  | item _ _ ih => exact ih
  | orList _ ih => exact ih
  | group _ ih => exact ih
  | call _ _ ihf ihargs =>
    intro n hn
    rcases List.mem_append.mp hn with hn | hn
    · exact List.mem_append_left _ (ihf hn)
    · obtain ⟨g, hg, hn⟩ := mem_freeEach_map.mp hn
      exact List.mem_append_right _ (mem_freeEach_map.mpr ⟨g, hg, ihargs g hg hn⟩)
  | list _ ih =>
    intro n hn
    obtain ⟨g, hg, hn⟩ := mem_freeEach_map.mp hn
    exact mem_freeEach_map.mpr ⟨g, hg, ih g hg hn⟩
  | listFor x _ _ ihbody ihsource =>
    exact append_subset_append (List.filter_subset _ ihbody) ihsource
  | dictFor x _ _ _ ihkey ihvalue ihsource =>
    have hentry := append_subset_append ihkey ihvalue
    exact append_subset_append (List.filter_subset _ hentry) ihsource
  | function x _ ih => exact List.filter_subset _ ih

end Uniform

namespace UniformEach
variable {ι : Type} {es : (ι → Expr) → List Expr} {s : ι → Expr} {n : String}
open Code.Uniform (blank mem_freeEach_map)

theorem free_subset (h : UniformEach es) (hn : n ∈ Expr.freeEach (es s)) :
    n ∈ Expr.freeEach (es blank) ∨ ∃ i, n ∈ (s i).free := by
  obtain ⟨gs, hgs, heq⟩ := h
  rw [heq s] at hn
  obtain ⟨g, hg, hn⟩ := mem_freeEach_map.mp hn
  refine ((hgs g hg).free_subset hn).imp_left ?_
  intro hblank
  rw [heq blank]
  exact mem_freeEach_map.mpr ⟨g, hg, hblank⟩

theorem free_blank_subset (h : UniformEach es) (s : ι → Expr) :
    Expr.freeEach (es blank) ⊆ Expr.freeEach (es s) := by
  obtain ⟨gs, hgs, heq⟩ := h
  rw [heq s, heq blank]
  intro n hn
  obtain ⟨g, hg, hn⟩ := mem_freeEach_map.mp hn
  exact mem_freeEach_map.mpr ⟨g, hg, (hgs g hg).free_blank_subset s hn⟩

end UniformEach

end Marshal.Code
