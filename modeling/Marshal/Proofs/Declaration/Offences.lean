import Marshal.Proofs.Declaration.Meaning
import Mathlib.Data.List.Infix
import Mathlib.Tactic.Push

/-!
# The first offence

What is wrong with declarations has a place: the indices of a module, of one of its datatypes or
functions, of a variant and of a field. Places are ordered like words in a dictionary, so an item
stands before what is inside it and all of it before the next item. Of all repeated names the one at
the first place is reported; only if there is none, the first function without a result is.
-/

namespace Marshal.Declaration
set_option autoImplicit false

/-- The way to an item of a document, as indices from the outside to the inside. -/
abbrev Place := List Nat

section Finding
variable {ε ε' : Type} {R R' : Place → ε → Prop} {found : Option ε}

/-- What is wrong at the first of all places where something is. -/
def First (R : Place → ε → Prop) (e : ε) : Prop :=
  ∃ p, R p e ∧ ∀ q e', R q e' → List.le p q

/-- A search comes to what is first, and to nothing only if there is nothing. -/
structure Finds (R : Place → ε → Prop) (found : Option ε) : Prop where
  first : ∀ e, found = some e → First R e
  complete : found = none → ∀ p e, ¬ R p e

theorem Finds.congr (h : Finds R found) (hR : ∀ p e, R' p e ↔ R p e) : Finds R' found := by
  obtain rfl : R' = R := by
    funext p e
    exact propext (hR p e)
  exact h

theorem finds_none : Finds (fun _ (_ : ε) => False) none where
  first e h := by cases h
  complete _ p e := id

/-- Where nothing else is wrong at a place, a search finds something exactly if it is first. -/
theorem Finds.eq_some_iff (h : Finds R found) (hR : ∀ p e e', R p e → R p e' → e = e') {e : ε} :
    found = some e ↔ First R e := by
  constructor
  · exact h.first e
  · rintro ⟨p, hp, hleast⟩
    cases hfound : found with
    | none => exact absurd hp (h.complete hfound p e)
    | some e' =>
      obtain ⟨q, hq, hleast'⟩ := h.first e' hfound
      obtain rfl := List.le_antisymm (hleast q e' hq) (hleast' p e hp)
      rw [hR p e e' hp hq]

theorem Finds.eq_none_iff (h : Finds R found) : found = none ↔ ∀ p e, ¬ R p e := by
  constructor
  · exact h.complete
  · intro hnone
    refine Option.eq_none_iff_forall_ne_some.mpr fun e he => ?_
    obtain ⟨p, hp, -⟩ := h.first e he
    exact hnone p e hp

theorem Finds.isSome_iff (h : Finds R found) : found.isSome ↔ ∃ p e, R p e := by
  rw [Option.isSome_iff_ne_none, Ne, h.eq_none_iff]
  push Not
  rfl

theorem Finds.map (h : Finds R found) (f : ε → ε') :
    Finds (fun p e => ∃ x, R p x ∧ e = f x) (found.map f) where
  first e he := by
    obtain ⟨x, hx, rfl⟩ := Option.map_eq_some_iff.mp he
    obtain ⟨p, hp, hleast⟩ := h.first x hx
    refine ⟨p, ⟨x, hp, rfl⟩, ?_⟩
    rintro q _ ⟨y, hy, rfl⟩
    exact hleast q y hy
  complete hnone p e := by
    rintro ⟨x, hx, rfl⟩
    exact h.complete (Option.map_eq_none_iff.mp hnone) p x hx

/-- What is wrong with an item itself stands before all that is wrong inside it. -/
theorem Finds.own (h : Finds R found) (wrong : Prop) [Decidable wrong] (own : ε) :
    Finds (fun p e => (p = [] ∧ wrong ∧ e = own) ∨ R p e) (if wrong then some own else found) where
  first e he := by
    split at he
    · rename_i hwrong
      cases he
      exact ⟨[], .inl ⟨rfl, hwrong, rfl⟩, fun q _ _ => List.nil_le q⟩
    · rename_i hfine
      obtain ⟨p, hp, hleast⟩ := h.first e he
      refine ⟨p, .inr hp, ?_⟩
      rintro q e' (⟨-, hwrong, -⟩ | hq)
      · exact absurd hwrong hfine
      · exact hleast q e' hq
  complete hnone p e := by
    split at hnone
    · cases hnone
    · rename_i hfine
      rintro (⟨-, hwrong, -⟩ | hp)
      · exact hfine hwrong
      · exact h.complete hnone p e hp

end Finding

section Faults
variable {α ε : Type}

/--
What is wrong in a list of items: at the index of one, and then wherever it is wrong there. It may
depend on the names that were seen before.
-/
inductive Faults (name : α → String) (R : List String → α → Place → ε → Prop)
    (seen : List String) (xs : List α) : Place → ε → Prop
  | intro {i : Nat} {x : α} {p : Place} {e : ε} :
      xs[i]? = some x → R (((xs.take i).map name).reverse ++ seen) x p e →
        Faults name R seen xs (i :: p) e

variable {name : α → String} {R : List String → α → Place → ε → Prop} {seen : List String}
  {x : α} {xs : List α} {found rest : Option ε}

theorem faults_cons_iff {p : Place} {e : ε} :
    Faults name R seen (x :: xs) p e ↔
      (∃ q, p = 0 :: q ∧ R seen x q e) ∨
        ∃ i q, p = (i + 1) :: q ∧ Faults name R (name x :: seen) xs (i :: q) e := by
  constructor
  · rintro ⟨hx, hR⟩
    rename_i i y q
    cases i with
    | zero =>
      obtain rfl := Option.some_inj.mp hx
      exact .inl ⟨q, rfl, hR⟩
    | succ i =>
      refine .inr ⟨i, q, rfl, hx, ?_⟩
      simpa using hR
  · rintro (⟨q, rfl, hR⟩ | ⟨i, q, rfl, hrest⟩)
    · exact .intro rfl hR
    · cases hrest with
      | intro hx hR => exact .intro hx (by simpa using hR)

theorem finds_nil : Finds (Faults name R seen []) none where
  first e h := by cases h
  complete _ p e := by rintro ⟨hx, -⟩; cases hx

/-- The first item comes first, then the others. -/
theorem finds_cons (hx : Finds (R seen x) found)
    (hxs : Finds (Faults name R (name x :: seen) xs) rest) :
    Finds (Faults name R seen (x :: xs)) (found.or rest) where
  first e he := by
    cases hfound : found with
    | some e' =>
      rw [hfound] at he
      cases he
      obtain ⟨p, hp, hleast⟩ := hx.first e hfound
      refine ⟨0 :: p, faults_cons_iff.mpr (.inl ⟨p, rfl, hp⟩), ?_⟩
      intro q e' hq
      rcases faults_cons_iff.mp hq with ⟨q, rfl, hinner⟩ | ⟨i, q, rfl, -⟩
      · exact List.cons_le_cons_iff.mpr (.inr ⟨rfl, hleast q e' hinner⟩)
      · exact List.cons_le_cons_iff.mpr (.inl (Nat.succ_pos i))
    | none =>
      rw [hfound, Option.none_or] at he
      obtain ⟨p, hp, hleast⟩ := hxs.first e he
      obtain ⟨i, p, rfl⟩ : ∃ i q, p = i :: q := by
        cases hp
        exact ⟨_, _, rfl⟩
      refine ⟨(i + 1) :: p, faults_cons_iff.mpr (.inr ⟨i, p, rfl, hp⟩), ?_⟩
      intro q e' hq
      rcases faults_cons_iff.mp hq with ⟨q, rfl, hinner⟩ | ⟨j, q, rfl, hlater⟩
      · exact absurd hinner (hx.complete hfound q e')
      · rcases List.cons_le_cons_iff.mp (hleast _ e' hlater) with hlt | ⟨rfl, hle⟩
        · exact List.cons_le_cons_iff.mpr (.inl (Nat.succ_lt_succ hlt))
        · exact List.cons_le_cons_iff.mpr (.inr ⟨rfl, hle⟩)
  complete hnone p e hp := by
    obtain ⟨hfound, hrest⟩ := Option.or_eq_none_iff.mp hnone
    rcases faults_cons_iff.mp hp with ⟨q, -, hq⟩ | ⟨i, q, -, hq⟩
    · exact hx.complete hfound q e hq
    · exact hxs.complete hrest _ e hq

theorem finds_findSome? {f : α → Option ε} (hf : ∀ seen x, Finds (R seen x) (f x))
    (seen : List String) (xs : List α) : Finds (Faults name R seen xs) (xs.findSome? f) := by
  induction xs generalizing seen with
  | nil => exact finds_nil
  | cons x xs ih =>
    have hfind := finds_cons (hf seen x) (ih (name x :: seen))
    rw [List.findSome?_cons]
    cases hx : f x with
    | none => rwa [hx] at hfind
    | some e => rwa [hx] at hfind

end Faults

def RepeatedField (v : VariantDecl) : Place → String → Prop :=
  Faults id (fun seen n p e => p = [] ∧ n ∈ seen ∧ e = n) [] (v.fieldList.map (·.name))

def WrongVariant (moduleName datatypeName : String) (seen : List String) (v : VariantDecl)
    (p : Place) (e : Invalid) : Prop :=
  (p = [] ∧ v.name ∈ seen ∧ e = .duplicateVariant moduleName datatypeName v.name) ∨
    ∃ f, RepeatedField v p f ∧ e = .duplicateField moduleName datatypeName v.name f

def WrongDatatype (moduleName : String) (seen : List String) (d : DatatypeDecl) (p : Place)
    (e : Invalid) : Prop :=
  (p = [] ∧ d.name ∈ seen ∧ e = .duplicateDatatype moduleName d.name) ∨
    Faults (·.name) (WrongVariant moduleName d.name) [] d.variants p e

theorem firstRepeated?_cons (seen ns : List String) (n : String) :
    firstRepeated? seen (n :: ns) =
      (if n ∈ seen then some n else none).or (firstRepeated? (n :: seen) ns) := by
  rw [firstRepeated?]
  split <;> rfl

theorem offenceInVariants?_cons (moduleName datatypeName : String) (seen : List String)
    (v : VariantDecl) (vs : List VariantDecl) :
    offenceInVariants? moduleName datatypeName seen (v :: vs) =
      (if v.name ∈ seen then some (.duplicateVariant moduleName datatypeName v.name)
        else (firstRepeated? [] (v.fieldList.map (·.name))).map
          (.duplicateField moduleName datatypeName v.name)).or
        (offenceInVariants? moduleName datatypeName (v.name :: seen) vs) := by
  rw [offenceInVariants?]
  split
  · rfl
  · cases firstRepeated? [] (v.fieldList.map (·.name)) <;> rfl

theorem offenceInDatatypes?_cons (moduleName : String) (seen : List String) (d : DatatypeDecl)
    (ds : List DatatypeDecl) :
    offenceInDatatypes? moduleName seen (d :: ds) =
      (if d.name ∈ seen then some (.duplicateDatatype moduleName d.name)
        else offenceInVariants? moduleName d.name [] d.variants).or
        (offenceInDatatypes? moduleName (d.name :: seen) ds) := by
  rw [offenceInDatatypes?]
  split
  · rfl
  · cases offenceInVariants? moduleName d.name [] d.variants <;> rfl

theorem finds_firstRepeated? (seen ns : List String) :
    Finds (Faults id (fun seen n p e => p = [] ∧ n ∈ seen ∧ e = n) seen ns)
      (firstRepeated? seen ns) := by
  induction ns generalizing seen with
  | nil => exact finds_nil
  | cons n ns ih =>
    have hn : Finds (fun p e => p = [] ∧ n ∈ seen ∧ e = n) (if n ∈ seen then some n else none) :=
      (finds_none.own (n ∈ seen) n).congr fun p e => (or_iff_left id).symm
    rw [firstRepeated?_cons]
    exact finds_cons hn (ih (n :: seen))

theorem finds_offenceInVariants? (moduleName datatypeName : String) (seen : List String)
    (vs : List VariantDecl) :
    Finds (Faults (·.name) (WrongVariant moduleName datatypeName) seen vs)
      (offenceInVariants? moduleName datatypeName seen vs) := by
  induction vs generalizing seen with
  | nil => exact finds_nil
  | cons v vs ih =>
    have hfields := (finds_firstRepeated? [] (v.fieldList.map (·.name))).map
      (Invalid.duplicateField moduleName datatypeName v.name)
    have hv := hfields.own (v.name ∈ seen) (.duplicateVariant moduleName datatypeName v.name)
    rw [offenceInVariants?_cons]
    exact finds_cons hv (ih (v.name :: seen))

theorem finds_offenceInDatatypes? (moduleName : String) (seen : List String)
    (ds : List DatatypeDecl) :
    Finds (Faults (·.name) (WrongDatatype moduleName) seen ds)
      (offenceInDatatypes? moduleName seen ds) := by
  induction ds generalizing seen with
  | nil => exact finds_nil
  | cons d ds ih =>
    have hd := (finds_offenceInVariants? moduleName d.name [] d.variants).own (d.name ∈ seen)
      (.duplicateDatatype moduleName d.name)
    rw [offenceInDatatypes?_cons]
    exact finds_cons hd (ih (d.name :: seen))

/-- A name that an earlier item of the same list has: of a datatype, of a variant, of a field. -/
inductive Repeats (ms : List ModuleDecl) : Place → Invalid → Prop
  | datatype {i j : Nat} {m : ModuleDecl} {d : DatatypeDecl} :
      ms[i]? = some m → m.datatypes[j]? = some d →
      d.name ∈ (m.datatypes.take j).map (·.name) →
      Repeats ms [i, j] (.duplicateDatatype m.name.text d.name)
  | variant {i j k : Nat} {m : ModuleDecl} {d : DatatypeDecl} {v : VariantDecl} :
      ms[i]? = some m → m.datatypes[j]? = some d → d.variants[k]? = some v →
      v.name ∈ (d.variants.take k).map (·.name) →
      Repeats ms [i, j, k] (.duplicateVariant m.name.text d.name v.name)
  | field {i j k l : Nat} {m : ModuleDecl} {d : DatatypeDecl} {v : VariantDecl} {f : FieldDecl} :
      ms[i]? = some m → m.datatypes[j]? = some d → d.variants[k]? = some v →
      v.fieldList[l]? = some f → f.name ∈ (v.fieldList.take l).map (·.name) →
      Repeats ms [i, j, k, l] (.duplicateField m.name.text d.name v.name f.name)

theorem mem_seen_iff {α : Type} {name : α → String} {xs : List α} {n : String} :
    n ∈ (xs.map name).reverse ++ [] ↔ n ∈ xs.map name := by
  rw [List.append_nil, List.mem_reverse]

theorem repeatedField_iff {v : VariantDecl} {p : Place} {n : String} :
    RepeatedField v p n ↔
      ∃ l f, p = [l] ∧ v.fieldList[l]? = some f ∧ f.name ∈ (v.fieldList.take l).map (·.name) ∧
        n = f.name := by
  constructor
  · rintro ⟨hx, rfl, hseen, rfl⟩
    rw [List.getElem?_map] at hx
    obtain ⟨f, hf, rfl⟩ := Option.map_eq_some_iff.mp hx
    refine ⟨_, f, rfl, hf, ?_, rfl⟩
    simpa using hseen
  · rintro ⟨l, f, rfl, hf, hseen, rfl⟩
    refine .intro (x := f.name) ?_ ⟨rfl, ?_, rfl⟩
    · rw [List.getElem?_map, hf]
      rfl
    · simpa using hseen

theorem repeats_iff {ms : List ModuleDecl} {p : Place} {e : Invalid} :
    Repeats ms p e ↔
      Faults (fun m : ModuleDecl => m.name.text)
        (fun _ m => Faults (·.name) (WrongDatatype m.name.text) [] m.datatypes) [] ms p e := by
  constructor
  · rintro (⟨hm, hd, hseen⟩ | ⟨hm, hd, hv, hseen⟩ | ⟨hm, hd, hv, hf, hseen⟩)
    · exact .intro hm (.intro hd (.inl ⟨rfl, mem_seen_iff.mpr hseen, rfl⟩))
    · exact .intro hm (.intro hd (.inr (.intro hv (.inl ⟨rfl, mem_seen_iff.mpr hseen, rfl⟩))))
    · have hfield := repeatedField_iff.mpr ⟨_, _, rfl, hf, hseen, rfl⟩
      exact .intro hm (.intro hd (.inr (.intro hv (.inr ⟨_, hfield, rfl⟩))))
  · rintro ⟨hm, ⟨hd, ⟨rfl, hseen, rfl⟩ | ⟨hv, ⟨rfl, hseen, rfl⟩ | ⟨n, hn, rfl⟩⟩⟩⟩
    · exact .datatype hm hd (mem_seen_iff.mp hseen)
    · exact .variant hm hd hv (mem_seen_iff.mp hseen)
    · obtain ⟨l, f, rfl, hf, hseen, rfl⟩ := repeatedField_iff.mp hn
      exact .field hm hd hv hf hseen

theorem finds_duplicate? (ms : List ModuleDecl) : Finds (Repeats ms) (duplicate? ms) := by
  refine (finds_findSome? ?_ [] ms).congr fun p e => repeats_iff
  intro _ m
  exact finds_offenceInDatatypes? m.name.text [] m.datatypes

/-- At one place only one thing is wrong. -/
theorem Repeats.unique {ms : List ModuleDecl} {p : Place} {e e' : Invalid} (h : Repeats ms p e)
    (h' : Repeats ms p e') : e = e' := by
  cases h with
  | datatype hm hd _ =>
    cases h' with
    | datatype hm' hd' _ =>
      obtain rfl := Option.some_inj.mp (hm.symm.trans hm')
      obtain rfl := Option.some_inj.mp (hd.symm.trans hd')
      rfl
  | variant hm hd hv _ =>
    cases h' with
    | variant hm' hd' hv' _ =>
      obtain rfl := Option.some_inj.mp (hm.symm.trans hm')
      obtain rfl := Option.some_inj.mp (hd.symm.trans hd')
      obtain rfl := Option.some_inj.mp (hv.symm.trans hv')
      rfl
  | field hm hd hv hf _ =>
    cases h' with
    | field hm' hd' hv' hf' _ =>
      obtain rfl := Option.some_inj.mp (hm.symm.trans hm')
      obtain rfl := Option.some_inj.mp (hd.symm.trans hd')
      obtain rfl := Option.some_inj.mp (hv.symm.trans hv')
      obtain rfl := Option.some_inj.mp (hf.symm.trans hf')
      rfl

/-- A function that callers are offered and that has no result type, though it is no predicate. -/
inductive Lacks (ms : List ModuleDecl) : Place → Invalid → Prop
  | function {i j : Nat} {m : ModuleDecl} {f : FunctionDecl} :
      ms[i]? = some m → m.isAbstract = false → m.functions[j]? = some f → f.isGhost = false →
      f.kind = .function → f.result = none → Lacks ms [i, j] (.noResult m.name.text f.name)

/-- What the resolution of a function comes to a failure with. -/
def FunctionDecl.lack? (moduleName : String) (f : FunctionDecl) : Option Invalid :=
  if f.isGhost = false ∧ f.kind = .function ∧ f.result = none then
    some (.noResult moduleName f.name)
  else none

def ModuleDecl.lack? (m : ModuleDecl) : Option Invalid :=
  if m.isAbstract then none else m.functions.findSome? (·.lack? m.name.text)

def WrongFunction (moduleName : String) (_ : List String) (f : FunctionDecl) (p : Place)
    (e : Invalid) : Prop :=
  p = [] ∧ (f.isGhost = false ∧ f.kind = .function ∧ f.result = none) ∧
    e = .noResult moduleName f.name

def WrongModule (_ : List String) (m : ModuleDecl) (p : Place) (e : Invalid) : Prop :=
  m.isAbstract = false ∧ Faults (·.name) (WrongFunction m.name.text) [] m.functions p e

theorem lacks_iff {ms : List ModuleDecl} {p : Place} {e : Invalid} :
    Lacks ms p e ↔ Faults (·.name.text) WrongModule [] ms p e := by
  constructor
  · rintro ⟨hm, habstract, hf, hghost, hkind, hresult⟩
    exact .intro hm ⟨habstract, .intro hf ⟨rfl, ⟨hghost, hkind, hresult⟩, rfl⟩⟩
  · rintro ⟨hm, habstract, ⟨hf, rfl, ⟨hghost, hkind, hresult⟩, rfl⟩⟩
    exact .function hm habstract hf hghost hkind hresult

theorem FunctionDecl.finds_lack? (moduleName : String) (seen : List String) (f : FunctionDecl) :
    Finds (WrongFunction moduleName seen f) (f.lack? moduleName) :=
  (finds_none.own _ _).congr fun _ _ => (or_iff_left id).symm

theorem ModuleDecl.finds_lack? (seen : List String) (m : ModuleDecl) :
    Finds (WrongModule seen m) m.lack? := by
  have hfunctions : Finds (Faults (·.name) (WrongFunction m.name.text) [] m.functions)
      (m.functions.findSome? (·.lack? m.name.text)) :=
    finds_findSome? (fun seen f => f.finds_lack? m.name.text seen) [] m.functions
  unfold ModuleDecl.lack?
  split
  · rename_i habstract
    refine finds_none.congr fun p e => iff_false_intro ?_
    rintro ⟨hconcrete, -⟩
    rw [habstract] at hconcrete
    cases hconcrete
  · rename_i hconcrete
    exact hfunctions.congr fun p e => and_iff_right (eq_false_of_ne_true hconcrete)

theorem finds_lack? (ms : List ModuleDecl) : Finds (Lacks ms) (ms.findSome? (·.lack?)) :=
  (finds_findSome? (fun seen m => m.finds_lack? seen) [] ms).congr fun _ _ => lacks_iff

theorem Lacks.unique {ms : List ModuleDecl} {p : Place} {e e' : Invalid} (h : Lacks ms p e)
    (h' : Lacks ms p e') : e = e' := by
  obtain ⟨hm, -, hf, -⟩ := h
  obtain ⟨hm', -, hf', -⟩ := h'
  obtain rfl := Option.some_inj.mp (hm.symm.trans hm')
  obtain rfl := Option.some_inj.mp (hf.symm.trans hf')
  rfl

theorem failure?_resolveFields (known params : List String) (fs : List FieldDecl) :
    (resolveFields known params fs).failure? = none :=
  Report.failure?_mapM_eq_none fun _ => rfl

theorem DatatypeDecl.failure?_resolve (known : List String) (moduleName : String)
    (d : DatatypeDecl) : (d.resolve known moduleName).failure? = none := by
  unfold resolve
  rw [Report.failure?_bind_pure]
  refine Report.failure?_mapM_eq_none fun v => ?_
  rw [Report.failure?_bind_pure, failure?_resolveFields]

theorem FunctionDecl.failure?_resolve (known : List String) (moduleName : String)
    (f : FunctionDecl) (hf : f.isGhost = false) :
    (f.resolve known moduleName).failure? = f.lack? moduleName := by
  have hparams : ∀ result : TypeDescriptor, (do
      let parameters ← resolveFields known f.typeParams f.params
      return ⟨moduleName, f.name, parameters, result⟩ :
        Report Invalid Signature).failure? = none := by
    intro result
    rw [Report.failure?_bind_pure, failure?_resolveFields]
  unfold resolve
  rw [Report.failure?_bind hparams, Option.or_none]
  unfold resolveResult lack?
  cases hresult : f.result with
  | some t => simp [Report.failure?, TypeExpr.resolve]
  | none =>
    cases hkind : f.kind with
    | predicate => simp [Report.failure?]
    | function => simp [Report.failure?, hf]

theorem failure?_resolveFunctions (known : List String) (moduleName : String)
    (fs : List FunctionDecl) :
    (resolveFunctions known moduleName fs).failure? = fs.findSome? (·.lack? moduleName) := by
  induction fs with
  | nil => rfl
  | cons f fs ih =>
    unfold resolveFunctions
    cases hf : f.isGhost with
    | true =>
      rw [if_pos rfl, Report.failure?_bind fun _ => ih, List.findSome?_cons]
      simp [FunctionDecl.lack?, hf, Report.failure?]
    | false =>
      have hrest : ∀ s : Signature, (do
          let rest ← resolveFunctions known moduleName fs
          return s :: rest : Report Invalid (List Signature)).failure? =
            fs.findSome? (·.lack? moduleName) := by
        intro s
        rw [Report.failure?_bind_pure, ih]
      rw [if_neg Bool.false_ne_true, Report.failure?_bind hrest, f.failure?_resolve known _ hf,
        List.findSome?_cons]
      cases f.lack? moduleName <;> rfl

theorem ModuleDecl.failure?_resolve (known : List String) (m : ModuleDecl)
    (hm : m.isAbstract = false) : (m.resolve known).failure? = m.lack? := by
  have hfunctions : ∀ definitions : List Definition, (do
      let functions ← resolveFunctions known m.name.text m.functions
      return ⟨definitions, functions⟩ : Report Invalid Catalog).failure? =
        m.functions.findSome? (·.lack? m.name.text) := by
    intro definitions
    rw [Report.failure?_bind_pure, failure?_resolveFunctions]
  unfold resolve lack?
  rw [Report.failure?_bind hfunctions,
    Report.failure?_mapM_eq_none fun d => d.failure?_resolve known m.name.text, Option.none_or,
    hm]
  rfl

theorem findSome?_concreteModules (known : List String) (ms : List ModuleDecl) :
    (concreteModules ms).findSome? (fun m => (m.resolve known).failure?) =
      ms.findSome? (·.lack?) := by
  induction ms with
  | nil => rfl
  | cons m ms ih =>
    unfold concreteModules at ih ⊢
    rw [List.findSome?_cons]
    cases hm : m.isAbstract with
    | true =>
      have hlack : m.lack? = none := if_pos hm
      rw [List.filter_cons_of_neg (by simp [hm]), hlack, ih]
    | false =>
      rw [List.filter_cons_of_pos (by simp [hm]), List.findSome?_cons, m.failure?_resolve known hm,
        ih]

/-- Declarations fail with what is repeated, or else with what has no result. -/
theorem failure?_catalogOf (ms : List ModuleDecl) :
    (catalogOf ms).failure? = (duplicate? ms).or (ms.findSome? (·.lack?)) := by
  unfold catalogOf
  cases duplicate? ms with
  | some e => rfl
  | none =>
    simp only [Option.none_or]
    rw [Report.failure?_bind (r := Report.tell _) fun _ => ?_]
    · rfl
    · rw [Report.failure?_bind_pure, Report.failure?_mapM, findSome?_concreteModules]

def Invalid.names : Invalid → List String
  | .duplicateDatatype m d => [m, d]
  | .duplicateVariant m d v => [m, d, v]
  | .duplicateField m d v f => [m, d, v, f]
  | .noResult m f => [m, f]

theorem isInfix_join {n : String} {parts : List String} (h : n ∈ parts) :
    n.toList <:+: (String.join parts).toList := by
  rw [String.toList_join, List.flatMap_def]
  exact List.infix_of_mem_flatten (List.mem_map_of_mem h)

/-- A message is pieces in a row, and the names are among them. -/
theorem Invalid.message_eq_join (e : Invalid) :
    ∃ parts, e.message = String.join parts ∧ e.names ⊆ parts := by
  unfold message
  cases e with
  | duplicateDatatype m d =>
    refine ⟨["Datatype ", m, ".", d, " declared twice"], ?_, by simp [names]⟩
    simp [String.append_assoc]
  | duplicateVariant m d v =>
    refine ⟨["Duplicate variant ", v, " in ", m, ".", d], ?_, by simp [names]⟩
    simp [String.append_assoc]
  | duplicateField m d v f =>
    refine ⟨["Duplicate field ", f, " in ", m, ".", d, ".", v], ?_, by simp [names]⟩
    simp [String.append_assoc]
  | noResult m f =>
    refine ⟨["Function ", m, ".", f, " has no return type"], ?_, by simp [names]⟩
    simp [String.append_assoc]

theorem Invalid.isInfix_message (e : Invalid) :
    ∀ n ∈ e.names, n.toList <:+: e.message.toList := by
  intro n hn
  obtain ⟨parts, hmessage, hnames⟩ := e.message_eq_join
  rw [hmessage]
  exact isInfix_join (hnames hn)

theorem parse_outcome_eq_invalid_iff {text : String} {ms : List ModuleDecl}
    (hms : Renders ms text.toList) {e : Invalid} :
    (parse text).outcome = .error (.invalid e) ↔ (catalogOf ms).failure? = some e := by
  rw [parse, read_eq_ok_iff.mpr hms, Report.failure?_eq_some_iff]
  cases h : (catalogOf ms).outcome <;> simp [Report.mapError, h, Except.mapError]

/--
A text that renders modules is refused exactly if some name is repeated or some result is missing.
Then the first of all repeated names is reported, or if there is none, the first missing result; the
message has the names that it is about.
-/
theorem first_offence_reported {text : String} {ms : List ModuleDecl}
    (hms : Renders ms text.toList) :
    ((∃ e, (parse text).outcome = .error (.invalid e)) ↔
      (∃ p e, Repeats ms p e) ∨ ∃ p e, Lacks ms p e) ∧
    (∀ e, (parse text).outcome = .error (.invalid e) ↔
      First (Repeats ms) e ∨ (∀ p e', ¬ Repeats ms p e') ∧ First (Lacks ms) e) ∧
    ∀ e, (parse text).outcome = .error (.invalid e) →
      ∀ n ∈ e.names, n.toList <:+: e.message.toList := by
  have hrepeats := finds_duplicate? ms
  have hlacks := finds_lack? ms
  have hparse (e : Invalid) : (parse text).outcome = .error (.invalid e) ↔
      (duplicate? ms).or (ms.findSome? (·.lack?)) = some e := by
    rw [parse_outcome_eq_invalid_iff hms, failure?_catalogOf]
  refine ⟨?_, ?_, fun e _ => e.isInfix_message⟩
  · simp only [hparse]
    rw [← hrepeats.isSome_iff, ← hlacks.isSome_iff, ← Option.isSome_iff_exists, Option.isSome_or,
      Bool.or_eq_true]
  · intro e
    rw [hparse, Option.or_eq_some_iff, hrepeats.eq_some_iff fun p e e' => Repeats.unique,
      hlacks.eq_some_iff fun p e e' => Lacks.unique, hrepeats.eq_none_iff]

/-- A field repeated in an abstract module, and then a function without a result. -/
def twoOffences : String :=
  "abstract module A { datatype D = V(x: int, ghost x: int) } module M { function F(n: int) }"

def twoOffencesModules : List ModuleDecl :=
  [⟨true, ⟨["A"]⟩, [.datatype ⟨"D", [], false,
      [⟨"V", some [⟨false, "x", .named ⟨["int"]⟩ []⟩, ⟨true, "x", .named ⟨["int"]⟩ []⟩]⟩]⟩]⟩,
    ⟨false, ⟨["M"]⟩,
      [.function ⟨false, .function, "F", [], [⟨false, "n", .named ⟨["int"]⟩ []⟩], none⟩]⟩]

theorem first_offence_twoOffences :
    ∃ e, Renders twoOffencesModules twoOffences.toList ∧
      (parse twoOffences).outcome = .error (.invalid e) ∧ First (Repeats twoOffencesModules) e ∧
      (∃ p e', Lacks twoOffencesModules p e') ∧ ∀ n ∈ e.names, n.toList <:+: e.message.toList := by
  have hms : Renders twoOffencesModules twoOffences.toList := read_eq_ok_iff.mp (by decide +kernel)
  obtain ⟨-, hfirst, hnames⟩ := first_offence_reported hms
  have he : (parse twoOffences).outcome = .error (.invalid (.duplicateField "A" "D" "V" "x")) := by
    rw [parse, read_eq_ok_iff.mpr hms]
    decide
  have hlacks := (finds_lack? twoOffencesModules).isSome_iff.mp (by decide)
  rcases (hfirst _).mp he with h | ⟨hnone, -⟩
  · exact ⟨_, hms, he, h, hlacks, hnames _ he⟩
  · exact absurd ((finds_duplicate? twoOffencesModules).eq_none_iff.mpr hnone) (by decide)

end Marshal.Declaration
