import Marshal.Proofs.Catalog.References
import Marshal.Proofs.Code.Free
import Marshal.Proofs.Naming.ConverterName

/-!
# Hygiene of conversions

Conversions bind fresh variables: no variable hides another one or a name of the source, and every
name that is not bound is known.
-/

namespace Marshal.Conversion
set_option autoImplicit false

open Code (Expr)

/-- What the names in a conversion may come from. -/
structure Setting where
  /-- The expressions that are converted. -/
  sources : List Expr
  /-- The names that occur free in them. -/
  names : List String
  runtime : String
  globals : List String
  /-- The nesting depth at which the conversion begins. -/
  depth : Int

/--
An expression in the scope of some bound variables. Every variable that it binds is new there and
belongs to the depth of the setting or a greater one, and no bound variable hides a name of a
source or a global name.
-/
inductive Hygienic (w : Setting) : List String → Expr → Prop where
  | source {bound : List String} {e : Expr} (h : e ∈ w.sources) (hfree : ∀ n ∈ w.names, n ∉ bound) :
    Hygienic w bound e
  | bound {bound : List String} {n : String} (h : n ∈ bound) : Hygienic w bound (.name n)
  | global {bound : List String} {n : String} (h : n ∈ w.globals) (hfree : n ∉ bound) :
    Hygienic w bound (.name n)
  | runtime {bound : List String} (member : String) : Hygienic w bound (.attr (.name w.runtime) member)
  | attr {bound : List String} {e : Expr} (h : Hygienic w bound e) (member : String) :
    Hygienic w bound (.attr e member)
  | item {bound : List String} {e : Expr} (h : Hygienic w bound e) (i : Nat) :
    Hygienic w bound (.item e i)
  | call {bound : List String} {f : Expr} {args : List Expr} (hf : Hygienic w bound f)
    (hargs : ∀ e ∈ args, Hygienic w bound e) : Hygienic w bound (.call f args)
  | orList {bound : List String} {e : Expr} (h : Hygienic w bound e) : Hygienic w bound (.orList e)
  | group {bound : List String} {e : Expr} (h : Hygienic w bound e) : Hygienic w bound (.group e)
  | list {bound : List String} {es : List Expr} (h : ∀ e ∈ es, Hygienic w bound e) :
    Hygienic w bound (.list es)
  | listFor {bound : List String} {x : String} {b s : Expr} (hx : IsPlaceholder w.depth x)
    (hnew : x ∉ bound) (hb : Hygienic w (x :: bound) b) (hs : Hygienic w bound s) :
    Hygienic w bound (.listFor b x s)
  | dictFor {bound : List String} {x : String} {k v s : Expr} (hx : IsPlaceholder w.depth x)
    (hnew : x ∉ bound) (hk : Hygienic w (x :: bound) k) (hv : Hygienic w (x :: bound) v)
    (hs : Hygienic w bound s) : Hygienic w bound (.dictFor k v x s)
  | function {bound : List String} {x : String} {b : Expr} (hx : IsPlaceholder w.depth x)
    (hnew : x ∉ bound) (hb : Hygienic w (x :: bound) b) : Hygienic w bound (.function x b)

variable {w : Setting} {bound : List String} {depth : Int} {dir : Direction} {s : Scope}

/-- Every free name is bound around the expression or comes from the setting. -/
theorem Hygienic.free {e : Expr} (h : Hygienic w bound e) {n : String} (hn : n ∈ e.free) :
    n ∈ bound ∨ (∃ source ∈ w.sources, n ∈ source.free) ∨ n = w.runtime ∨ n ∈ w.globals := by
  induction h with
  | source h _ => exact .inr (.inl ⟨_, h, hn⟩)
  | bound h =>
    obtain rfl := List.mem_singleton.mp hn
    exact .inl h
  | global h _ =>
    obtain rfl := List.mem_singleton.mp hn
    exact .inr (.inr (.inr h))
  | runtime member => exact .inr (.inr (.inl (List.mem_singleton.mp hn)))
  | attr _ _ ih => exact ih hn
  | item _ _ ih => exact ih hn
  | call _ _ ihf ihargs =>
    rcases List.mem_append.mp hn with hn | hn
    · exact ihf hn
    · obtain ⟨e, he, hn⟩ := Expr.mem_freeEach.mp hn
      exact ihargs e he hn
  | orList _ ih => exact ih hn
  | group _ ih => exact ih hn
  | list _ ih =>
    obtain ⟨e, he, hn⟩ := Expr.mem_freeEach.mp hn
    exact ih e he hn
  | listFor _ _ _ _ ihb ihs =>
    rcases List.mem_append.mp hn with hn | hn
    · obtain ⟨hn, hne⟩ := List.mem_filter.mp hn
      exact (ihb hn).imp_left (List.mem_of_ne_of_mem (bne_iff_ne.mp hne))
    · exact ihs hn
  | dictFor _ _ _ _ _ ihk ihv ihs =>
    rcases List.mem_append.mp hn with hn | hn
    · obtain ⟨hn, hne⟩ := List.mem_filter.mp hn
      refine Or.imp_left (List.mem_of_ne_of_mem (bne_iff_ne.mp hne)) ?_
      exact (List.mem_append.mp hn).elim ihk ihv
    · exact ihs hn
  | function _ _ _ ih =>
    obtain ⟨hn, hne⟩ := List.mem_filter.mp hn
    exact (ih hn).imp_left (List.mem_of_ne_of_mem (bne_iff_ne.mp hne))

/-- Bound variables of depths from that of the setting up to, but without, a given one. -/
def Encloses (w : Setting) (depth : Int) (bound : List String) : Prop :=
  ∀ n ∈ bound, ∃ base ∈ bases, ∃ e, w.depth ≤ e ∧ e < depth ∧ n = placeholder base e

theorem encloses_nil : Encloses w depth [] := fun _ hn => absurd hn List.not_mem_nil

theorem Encloses.isPlaceholder (h : Encloses w depth bound) :
    ∀ n ∈ bound, IsPlaceholder w.depth n := by
  intro n hn
  obtain ⟨base, hb, e, he, -, rfl⟩ := h n hn
  exact ⟨base, hb, e, he, rfl⟩

theorem isPlaceholder_current (hd : w.depth ≤ depth) {base : String} (hb : base ∈ bases) :
    IsPlaceholder w.depth (placeholder base depth) := ⟨base, hb, depth, hd, rfl⟩

/-- A variable of the current depth is new. -/
theorem Encloses.fresh (h : Encloses w depth bound) {base : String} (hb : base ∈ bases) :
    placeholder base depth ∉ bound := by
  intro hn
  obtain ⟨base', hb', e, -, he, heq⟩ := h _ hn
  have hdepth := (placeholder_inj hb hb' heq).2
  omega

/-- Under a variable of the current depth, the next depth is current. -/
theorem Encloses.cons (h : Encloses w depth bound) (hd : w.depth ≤ depth) {base : String}
    (hb : base ∈ bases) : Encloses w (depth + 1) (placeholder base depth :: bound) := by
  intro n hn
  rcases List.mem_cons.mp hn with rfl | hn
  · exact ⟨base, hb, depth, hd, by omega, rfl⟩
  · obtain ⟨base', hb', e, he, hlt, rfl⟩ := h n hn
    exact ⟨base', hb', e, he, by omega, rfl⟩

/-- An expression that stays hygienic under further bound variables. -/
def Stable (w : Setting) (bound : List String) (e : Expr) : Prop :=
  ∀ bound', bound ⊆ bound' → (∀ n ∈ bound', IsPlaceholder w.depth n) → Hygienic w bound' e

variable {source : Expr}

theorem Stable.hygienic (h : Stable w bound source) (hb : Encloses w depth bound) :
    Hygienic w bound source := h bound (List.Subset.refl bound) hb.isPlaceholder

theorem Stable.mono {inner : List String} (h : Stable w bound source) (hsub : bound ⊆ inner) :
    Stable w inner source := fun bound' hb hp => h bound' (List.Subset.trans hsub hb) hp

theorem stable_name {n : String} (h : n ∈ bound) : Stable w bound (.name n) :=
  fun _ hsub _ => .bound (hsub h)

theorem Stable.item (h : Stable w bound source) (i : Nat) : Stable w bound (.item source i) :=
  fun bound' hsub hp => .item (h bound' hsub hp) i

def entryVariable (dir : Direction) (k v : String) : String :=
  match dir with
  | .toExternal => k
  | .fromExternal => v

theorem entryVariable_eq (dir : Direction) (depth : Int) : ∃ base ∈ bases,
    entryVariable dir (placeholder "k" depth) (placeholder "v" depth) = placeholder base depth := by
  cases dir with
  | toExternal => exact ⟨"k", by decide, rfl⟩
  | fromExternal => exact ⟨"v", by decide, rfl⟩

theorem Stable.entryValue (h : Stable w bound source) (dir : Direction) (k v : String) :
    Stable w (entryVariable dir k v :: bound) (entryValue dir source k v) := by
  cases dir with
  | toExternal =>
    intro bound' hsub hp
    have hsource := h.mono (List.subset_cons_self k bound) bound' hsub hp
    refine .call (.attr hsource "get") fun e he => ?_
    obtain rfl := List.mem_singleton.mp he
    exact .bound (hsub List.mem_cons_self)
  | fromExternal => exact stable_name List.mem_cons_self

/-- The global names of a setting are those that conversions in a scope use, and never bound. -/
structure Offers (w : Setting) (s : Scope) : Prop where
  runtime : w.runtime = s.runtime
  builtin : ∀ n ∈ builtins, n ∈ w.globals
  param : ∀ c ∈ s.converters, c.2 ∈ w.globals
  free : ∀ n ∈ w.globals, ¬ IsPlaceholder w.depth n

section Forms
variable (ho : Offers w s) (hb : Encloses w depth bound) (hs : Hygienic w bound source)
include ho

theorem Offers.rt (member : String) : Hygienic w bound (s.rt member) := by
  rw [Scope.rt, ← ho.runtime]
  exact .runtime member

include hb

theorem Offers.global {n : String} (hn : n ∈ w.globals) : Hygienic w bound (.name n) :=
  .global hn fun hbound => ho.free n hn (hb.isPlaceholder n hbound)

theorem Offers.converter? {param f : String} (hf : s.converter? param = some f) :
    Hygienic w bound (.name f) := by
  obtain ⟨before, after, hs, -⟩ := List.lookup_eq_some_iff.mp hf
  exact ho.global hb (ho.param (param, f) (hs ▸ List.mem_append_right _ List.mem_cons_self))

/-- A call of one of the functions that conversions use. -/
theorem Offers.call {n : String} (hn : n ∈ builtins) {args : List Expr}
    (hargs : ∀ e ∈ args, Hygienic w bound e) : Hygienic w bound (.call (.name n) args) :=
  .call (ho.global hb (ho.builtin n hn)) hargs

include hs

theorem ofInt_hygienic : Hygienic w bound (ofInt dir source) := by
  cases dir with
  | toExternal => exact ho.call hb (by decide) (by simpa using hs)
  | fromExternal => exact ho.call hb (by decide) (by simpa using hs)

theorem ofString_hygienic : Hygienic w bound (ofString dir s source) := by
  cases dir with
  | toExternal => exact ho.call hb (by decide) (by simpa using hs)
  | fromExternal => exact .call (.attr (ho.rt "Seq") "from_string") (by simpa using hs)

theorem seqList_hygienic : Hygienic w bound (seqList source) :=
  ho.call hb (by decide) (by simpa using hs)

theorem ofSeq_hygienic : Hygienic w bound (ofSeq dir s source) := by
  cases dir with
  | toExternal => exact seqList_hygienic ho hb hs
  | fromExternal => exact .call (ho.rt "Seq") (by simpa using hs.orList)

theorem ofSet_hygienic : Hygienic w bound (ofSet dir s source) := by
  cases dir with
  | toExternal => exact ho.call hb (by decide) (by simpa using hs.attr "Elements")
  | fromExternal => exact .call (ho.rt "Set") (by simpa using hs.orList)

theorem externalKey_hygienic (kind : TypeKind) : Hygienic w bound (externalKey kind source) := by
  rw [externalKey]
  split
  · exact hs
  · exact ho.call hb (by decide) (by simpa using hs)

theorem ofParam_hygienic (param : String) : Hygienic w bound (ofParam s param source) := by
  rw [ofParam]
  split
  · rename_i f hf
    split
    · exact hs
    · exact .call (ho.converter? hb hf) (by simpa using hs)
  · exact hs

variable (hd : w.depth ≤ depth)
include hd

theorem ofSeqOf_hygienic {elem : Expr}
    (he : Hygienic w (placeholder "x" depth :: bound) elem) :
    Hygienic w bound (ofSeqOf dir s source elem (placeholder "x" depth)) := by
  have hx := isPlaceholder_current hd (List.mem_of_elem_eq_true rfl : "x" ∈ bases)
  have hnew : placeholder "x" depth ∉ bound := hb.fresh (by decide)
  cases dir with
  | toExternal => exact .listFor hx hnew he (seqList_hygienic ho hb hs)
  | fromExternal =>
    have hlist := Hygienic.listFor hx hnew he hs.orList.group
    exact .call (ho.rt "Seq") (by simpa using hlist)

theorem ofSetOf_hygienic {elem : Expr}
    (he : Hygienic w (placeholder "x" depth :: bound) elem) :
    Hygienic w bound (ofSetOf dir s source elem (placeholder "x" depth)) := by
  have hx := isPlaceholder_current hd (List.mem_of_elem_eq_true rfl : "x" ∈ bases)
  have hnew : placeholder "x" depth ∉ bound := hb.fresh (by decide)
  cases dir with
  | toExternal => exact .listFor hx hnew he (hs.attr "Elements")
  | fromExternal =>
    have hlist := Hygienic.listFor hx hnew he hs.orList.group
    exact .call (ho.rt "Set") (by simpa using hlist)

theorem ofMapOf_hygienic (kind : TypeKind) {key value : Expr}
    (hkey : Hygienic w (placeholder "k" depth :: bound) key)
    (hvalue : Hygienic w
      (entryVariable dir (placeholder "k" depth) (placeholder "v" depth) :: bound) value) :
    Hygienic w bound
      (ofMapOf dir source kind key value (placeholder "k" depth) (placeholder "v" depth)) := by
  have hk := isPlaceholder_current hd (List.mem_of_elem_eq_true rfl : "k" ∈ bases)
  have hv := isPlaceholder_current hd (List.mem_of_elem_eq_true rfl : "v" ∈ bases)
  have hknew : placeholder "k" depth ∉ bound := hb.fresh (by decide)
  have hvnew : placeholder "v" depth ∉ bound := hb.fresh (by decide)
  cases dir with
  | toExternal =>
    have hkey := externalKey_hygienic ho (hb.cons hd (by decide)) hkey kind
    exact .dictFor hk hknew hkey hvalue ((hs.attr "Keys").attr "Elements")
  | fromExternal =>
    refine ho.call hb (by decide) ?_
    simpa using ⟨hs, Hygienic.function hk hknew hkey, Hygienic.function hv hvnew hvalue⟩

omit hs in
theorem asFunction_hygienic {t : TypeDescriptor} {body : Expr}
    (hr : ∀ r ∈ t.references, dir.converterName r ∈ w.globals)
    (hbody : Hygienic w (placeholder "x" depth :: bound) body) :
    Hygienic w bound (asFunction dir s t (placeholder "x" depth) body) := by
  obtain ⟨kind, name, args⟩ := t
  rw [asFunction]
  split
  · rename_i hk _
    obtain rfl : kind = .datatype := hk
    exact ho.global hb (hr name (TypeDescriptor.references_self name args))
  · rename_i hf
    exact ho.converter? hb hf
  · exact .function (isPlaceholder_current hd (by decide)) (hb.fresh (by decide)) hbody

end Forms

theorem ofTuple_hygienic (ho : Offers w s) {items : List Expr}
    (hi : ∀ e ∈ items, Hygienic w bound e) : Hygienic w bound (ofTuple dir s items) := by
  cases dir with
  | toExternal => exact .list hi
  | fromExternal => exact .call (ho.rt _) hi

theorem convertItems_hygienic {as : List TypeDescriptor}
    (ha : ∀ a ∈ as, ∀ source, Stable w bound source →
      Hygienic w bound (convert dir s a source depth))
    (hs : Stable w bound source) (i : Nat) :
    ∀ e ∈ convertItems dir s as source i depth, Hygienic w bound e := by
  induction as generalizing i with
  | nil => simp [convertItems]
  | cons a as ih =>
    rw [convertItems, List.forall_mem_cons]
    refine ⟨ha a List.mem_cons_self _ (hs.item i), ?_⟩
    exact ih (fun b hb => ha b (List.mem_cons_of_mem a hb)) (i + 1)

theorem converters_hygienic (ho : Offers w s) (hb : Encloses w depth bound)
    (hd : w.depth ≤ depth) {as : List TypeDescriptor}
    (hr : ∀ a ∈ as, ∀ r ∈ a.references, dir.converterName r ∈ w.globals)
    (ha : ∀ a ∈ as, Hygienic w (placeholder "x" depth :: bound)
      (convert dir s a (.name (placeholder "x" depth)) (depth + 1))) :
    ∀ e ∈ converters dir s as depth, Hygienic w bound e := by
  induction as with
  | nil => simp [converters]
  | cons a as ih =>
    rw [converters, List.forall_mem_cons]
    refine ⟨?_, ih (fun b hb => hr b (List.mem_cons_of_mem a hb))
      fun b hb => ha b (List.mem_cons_of_mem a hb)⟩
    exact asFunction_hygienic ho hb hd (hr a List.mem_cons_self) (ha a List.mem_cons_self)

/--
In a scope of variables of lesser depths, the conversion of an expression that further variables do
not hide is hygienic.
-/
theorem Offers.convert (ho : Offers w s) (hb : Encloses w depth bound) (hd : w.depth ≤ depth)
    {t : TypeDescriptor} (hr : ∀ r ∈ t.references, dir.converterName r ∈ w.globals)
    (hs : Stable w bound source) : Hygienic w bound (convert dir s t source depth) := by
  induction t using TypeDescriptor.induction generalizing source depth bound with
  | step kind name args ih =>
    have hsource := hs.hygienic hb
    -- arguments are converted at the same depth, or one deeper under a variable of this depth
    have ha : ∀ a ∈ args, ∀ source, Stable w bound source →
        Hygienic w bound (Conversion.convert dir s a source depth) := fun a ha source hs =>
      ih a ha hb hd (fun r hr' => hr r (TypeDescriptor.references_of_arg ha hr')) hs
    have hinner (base : String) (hbase : base ∈ bases) : ∀ a ∈ args, ∀ source,
        Stable w (placeholder base depth :: bound) source →
        Hygienic w (placeholder base depth :: bound)
          (Conversion.convert dir s a source (depth + 1)) := fun a ha source hs =>
      ih a ha (hb.cons hd hbase) (by omega)
        (fun r hr' => hr r (TypeDescriptor.references_of_arg ha hr')) hs
    have hname (n : String) : Stable w (n :: bound) (.name n) := stable_name List.mem_cons_self
    cases kind with
    | int => exact ofInt_hygienic ho hb hsource
    | bool => exact hsource
    | string => exact ofString_hygienic ho hb hsource
    | seq =>
      cases args with
      | nil => exact ofSeq_hygienic ho hb hsource
      | cons a args =>
        rw [Conversion.convert]
        split
        · exact ofSeq_hygienic ho hb hsource
        · refine ofSeqOf_hygienic ho hb hsource hd ?_
          exact hinner "x" (by decide) a List.mem_cons_self _ (hname _)
    | set =>
      cases args with
      | nil => exact ofSet_hygienic ho hb hsource
      | cons a args =>
        rw [Conversion.convert]
        split
        · exact ofSet_hygienic ho hb hsource
        · refine ofSetOf_hygienic ho hb hsource hd ?_
          exact hinner "x" (by decide) a List.mem_cons_self _ (hname _)
    | map =>
      have hk := (hname (placeholder "k" depth)).hygienic (hb.cons hd (by decide))
      have hentry := hs.entryValue dir (placeholder "k" depth) (placeholder "v" depth)
      obtain ⟨base, hbase, heq⟩ := entryVariable_eq dir depth
      have hcopied := hentry.hygienic (heq ▸ hb.cons hd hbase)
      obtain _ | ⟨a, _ | ⟨b, args⟩⟩ := args
      · exact ofMapOf_hygienic ho hb hsource hd _ hk hcopied
      · exact ofMapOf_hygienic ho hb hsource hd _ hk hcopied
      · rw [Conversion.convert]
        refine ofMapOf_hygienic ho hb hsource hd _ ?_ ?_
        · exact hinner "k" (by decide) a List.mem_cons_self _ (hname _)
        · rw [heq] at hentry ⊢
          exact hinner base hbase b (List.mem_cons_of_mem a List.mem_cons_self) _ hentry
    | tuple =>
      cases args with
      | nil => exact hsource
      | cons a args =>
        rw [Conversion.convert]
        refine ofTuple_hygienic ho (List.forall_mem_cons.mpr ⟨?_, ?_⟩)
        · exact ha a List.mem_cons_self _ (hs.item 0)
        · exact convertItems_hygienic (fun b hb => ha b (List.mem_cons_of_mem a hb)) hs 1
    | datatype =>
      rw [Conversion.convert]
      refine .call (ho.global hb (hr name (TypeDescriptor.references_self name args))) ?_
      refine List.forall_mem_cons.mpr ⟨hsource, converters_hygienic ho hb hd ?_ ?_⟩
      · exact fun a ha r hr' => hr r (TypeDescriptor.references_of_arg ha hr')
      · exact fun a ha => hinner "x" (by decide) a ha _ (hname _)
    | typeParam => exact ofParam_hygienic ho hb hsource name
    | foreign => exact hsource

def globals (dir : Direction) (s : Scope) (t : TypeDescriptor) : List String :=
  builtins ++ s.converters.map (·.2) ++ t.references.map dir.converterName

def setting (dir : Direction) (s : Scope) (t : TypeDescriptor) (depth : Int) (sources : List Expr)
    (names : List String) : Setting where
  sources := sources
  names := names
  runtime := s.runtime
  globals := globals dir s t
  depth := depth

section Closed
variable {t : TypeDescriptor} {sources : List Expr} {names : List String}

theorem converterName_mem_globals {r : String} (hr : r ∈ t.references) :
    dir.converterName r ∈ (setting dir s t depth sources names).globals :=
  List.mem_append_right _ (List.mem_map_of_mem hr)

theorem offers_setting (hparams : ∀ c ∈ s.converters, ¬ IsPlaceholder depth c.2) :
    Offers (setting dir s t depth sources names) s where
  runtime := rfl
  builtin n hn := List.mem_append_left _ (List.mem_append_left _ hn)
  param c hc := List.mem_append_left _ (List.mem_append_right _ (List.mem_map.mpr ⟨c, hc, rfl⟩))
  free n hn := by
    rcases List.mem_append.mp hn with hn | hn
    · rcases List.mem_append.mp hn with hn | hn
      · exact not_isPlaceholder_of_builtins hn depth
      · obtain ⟨c, hc, rfl⟩ := List.mem_map.mp hn
        exact hparams c hc
    · obtain ⟨r, -, rfl⟩ := List.mem_map.mp hn
      rintro ⟨base, hbase, e, -, heq⟩
      exact Naming.not_isConverterName_placeholder hbase e ⟨dir, r, heq.symm⟩

/-- Functions that convert have no source. -/
theorem converter_setting (hparams : ∀ c ∈ s.converters, ¬ IsPlaceholder depth c.2) :
    Hygienic (setting dir s t depth [] []) [] (converter dir s t depth) := by
  have ho : Offers (setting dir s t depth [] []) s := offers_setting hparams
  have hb := (encloses_nil : Encloses (setting dir s t depth [] []) depth []).cons (Int.le_refl _)
    (List.mem_of_elem_eq_true rfl : "x" ∈ bases)
  refine asFunction_hygienic ho encloses_nil (Int.le_refl _)
    (fun r hr => converterName_mem_globals hr) ?_
  refine ho.convert hb (Int.le_add_one (Int.le_refl _)) (fun r hr => converterName_mem_globals hr) ?_
  exact stable_name List.mem_cons_self

theorem convert_setting (hparams : ∀ c ∈ s.converters, ¬ IsPlaceholder depth c.2)
    (hfree : ∀ n ∈ names, ¬ IsPlaceholder depth n) :
    Hygienic (setting dir s t depth [source] names) [] (convert dir s t source depth) := by
  refine (offers_setting hparams).convert encloses_nil (Int.le_refl _)
    (fun r hr => converterName_mem_globals hr) ?_
  -- whatever is bound around the source, it is a variable that the source does not use
  exact fun bound _ hp => .source List.mem_cons_self fun n hn hbound => hfree n hn (hp n hbound)

/--
Conversions are hygienic and closed if no variable that they may bind is the converter of a type
parameter or a name that the source uses; so are functions that convert.
-/
theorem convert_hygienic (hparams : ∀ c ∈ s.converters, ¬ IsPlaceholder depth c.2)
    (hnames : source.free ⊆ names) (hfree : ∀ n ∈ names, ¬ IsPlaceholder depth n) :
    (Hygienic (setting dir s t depth [source] names) [] (convert dir s t source depth) ∧
      ∀ n ∈ (convert dir s t source depth).free,
        n ∈ names ∨ n = s.runtime ∨ n ∈ globals dir s t) ∧
    (Hygienic (setting dir s t depth [] []) [] (converter dir s t depth) ∧
      ∀ n ∈ (converter dir s t depth).free, n = s.runtime ∨ n ∈ globals dir s t) := by
  refine ⟨⟨convert_setting hparams hfree, fun n hn => ?_⟩,
    ⟨converter_setting hparams, fun n hn => ?_⟩⟩
  · rcases (convert_setting hparams hfree).free hn with h | ⟨e, he, h⟩ | h
    · exact absurd h List.not_mem_nil
    · obtain rfl := List.mem_singleton.mp he
      exact .inl (hnames h)
    · exact .inr h
  · rcases (converter_setting hparams).free hn with h | ⟨e, he, -⟩ | h
    · exact absurd h List.not_mem_nil
    · exact absurd he List.not_mem_nil
    · exact h

end Closed

/-- Sequences of maps from the values of a type parameter to items. -/
def shelves : TypeDescriptor := .seq (.map (.typeParam "T") (.datatype "Item" [.typeParam "T"]))

def shelfScope : Scope := ⟨"_rt", [("T", "T_fromJson")]⟩

theorem shelfScope_converters : ∀ c ∈ shelfScope.converters, ¬ IsPlaceholder 0 c.2 := by
  intro c hc
  obtain rfl := List.mem_singleton.mp hc
  exact not_isPlaceholder rfl 0

theorem not_isPlaceholder_json : ∀ n ∈ ["json"], ¬ IsPlaceholder 0 n := by
  intro n hn
  obtain rfl := List.mem_singleton.mp hn
  exact not_isPlaceholder rfl 0

theorem free_json : (Expr.name "json").free ⊆ ["json"] := List.Subset.refl _

theorem convert_hygienic_shelves :
    (∀ c ∈ shelfScope.converters, ¬ IsPlaceholder 0 c.2) ∧
    (Expr.name "json").free ⊆ ["json"] ∧ (∀ n ∈ ["json"], ¬ IsPlaceholder 0 n) ∧
    Hygienic (setting .fromExternal shelfScope shelves 0 [.name "json"] ["json"]) []
      (convert .fromExternal shelfScope shelves (.name "json") 0) :=
  ⟨shelfScope_converters, free_json, not_isPlaceholder_json,
    (convert_hygienic shelfScope_converters free_json not_isPlaceholder_json).1.1⟩

end Marshal.Conversion
