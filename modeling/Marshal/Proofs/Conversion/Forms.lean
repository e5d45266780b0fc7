import Marshal.Proofs.Catalog.References
import Marshal.Proofs.Conversion.Placeholder

/-!
# Properties that conversions keep

A conversion puts a few forms together, whatever its type is. What every form keeps holds of the
whole conversion if it holds of the source.
-/

namespace Marshal.Conversion
set_option autoImplicit false

open Code (Expr)

/-- A property of expressions that each form keeps, where converters of some names may be used. -/
structure Kept (dir : Direction) (s : Scope) (R : String → Prop) (Q : Expr → Prop) : Prop where
  bound {base : String} (depth : Int) : base ∈ bases → Q (.name (placeholder base depth))
  item {source : Expr} (i : Nat) : Q source → Q (.item source i)
  int {source : Expr} : Q source → Q (ofInt dir source)
  string {source : Expr} : Q source → Q (ofString dir s source)
  seq {source : Expr} : Q source → Q (ofSeq dir s source)
  seqOf {source elem : Expr} (x : String) :
    Q source → Q elem → Q (ofSeqOf dir s source elem x)
  set {source : Expr} : Q source → Q (ofSet dir s source)
  setOf {source elem : Expr} (x : String) :
    Q source → Q elem → Q (ofSetOf dir s source elem x)
  entry {source : Expr} (depth : Int) :
    Q source → Q (entryValue dir source (placeholder "k" depth) (placeholder "v" depth))
  mapOf {source key value : Expr} (kind : TypeKind) (k v : String) :
    Q source → Q key → Q value → Q (ofMapOf dir source kind key value k v)
  tuple {items : List Expr} : (∀ e ∈ items, Q e) → Q (ofTuple dir s items)
  param {source : Expr} (p : String) : Q source → Q (ofParam s p source)
  call {n : String} {args : List Expr} :
    R n → (∀ e ∈ args, Q e) → Q (.call (.name (dir.converterName n)) args)
  function {t : TypeDescriptor} {body : Expr} (x : String) :
    (∀ r ∈ t.references, R r) → Q body → Q (asFunction dir s t x body)

/--
A property that every form keeps, where types of one class are converted. It may depend on what the
converter of a datatype is called with.
-/
structure Carried (dir : Direction) (s : Scope) (R : TypeDescriptor → Prop) (Q : Expr → Prop) :
    Prop where
  forms : Kept dir s (fun _ => False) Q
  arg {t a : TypeDescriptor} : R t → a ∈ t.args → R a
  call {name : String} {args : List TypeDescriptor} {source : Expr} (depth : Int) :
    R ⟨.datatype, name, args⟩ → Q source → (∀ e ∈ converters dir s args depth, Q e) →
      Q (.call (.name (dir.converterName name)) (source :: converters dir s args depth))
  function {t : TypeDescriptor} {body : Expr} (x : String) :
    R t → Q body → Q (asFunction dir s t x body)

variable {dir : Direction} {s : Scope} {Q : Expr → Prop}

namespace Carried

variable {R : TypeDescriptor → Prop}

theorem convertItems (h : Carried dir s R Q) {as : List TypeDescriptor} {source : Expr}
    {depth : Int} (ha : ∀ a ∈ as, ∀ source, Q source → Q (convert dir s a source depth))
    (hs : Q source) (i : Nat) : ∀ e ∈ Conversion.convertItems dir s as source i depth, Q e := by
  induction as generalizing i with
  | nil => exact nofun
  | cons a as ih =>
    rw [Conversion.convertItems, List.forall_mem_cons]
    refine ⟨ha a List.mem_cons_self _ (h.forms.item i hs), ?_⟩
    exact ih (fun b hb => ha b (List.mem_cons_of_mem a hb)) (i + 1)

theorem converters (h : Carried dir s R Q) {as : List TypeDescriptor} {depth : Int}
    (hr : ∀ a ∈ as, R a)
    (ha : ∀ a ∈ as, ∀ source, Q source → Q (convert dir s a source (depth + 1))) :
    ∀ e ∈ Conversion.converters dir s as depth, Q e := by
  induction as with
  | nil => exact nofun
  | cons a as ih =>
    rw [Conversion.converters, List.forall_mem_cons]
    refine ⟨h.function _ (hr a List.mem_cons_self) ?_, ?_⟩
    · exact ha a List.mem_cons_self _ (h.forms.bound depth (by decide))
    · exact ih (fun b hb => hr b (List.mem_cons_of_mem a hb))
        fun b hb => ha b (List.mem_cons_of_mem a hb)

/-- The induction on types: a conversion has the property if its source has it. -/
theorem convert (h : Carried dir s R Q) {t : TypeDescriptor} (hr : R t) {source : Expr}
    (hs : Q source) (depth : Int) : Q (convert dir s t source depth) := by
  induction t using TypeDescriptor.induction generalizing source depth with
  | step kind name args ih =>
    have hx (base : String) (hb : base ∈ bases) : Q (.name (placeholder base depth)) :=
      h.forms.bound depth hb
    have ha : ∀ a ∈ args, ∀ source depth, Q source → Q (Conversion.convert dir s a source depth) :=
      fun a ha source depth hs => ih a ha (h.arg hr ha) hs depth
    cases kind with
    | int => exact h.forms.int hs
    | bool => exact hs
    | string => exact h.forms.string hs
    | seq =>
      cases args with
      | nil => exact h.forms.seq hs
      | cons a args =>
        rw [Conversion.convert]
        split
        · exact h.forms.seq hs
        · exact h.forms.seqOf _ hs (ha a List.mem_cons_self _ _ (hx "x" (by decide)))
    | set =>
      cases args with
      | nil => exact h.forms.set hs
      | cons a args =>
        rw [Conversion.convert]
        split
        · exact h.forms.set hs
        · exact h.forms.setOf _ hs (ha a List.mem_cons_self _ _ (hx "x" (by decide)))
    | map =>
      have hentry := h.forms.entry depth hs
      obtain _ | ⟨a, _ | ⟨b, args⟩⟩ := args
      · exact h.forms.mapOf _ _ _ hs (hx "k" (by decide)) hentry
      · exact h.forms.mapOf _ _ _ hs (hx "k" (by decide)) hentry
      · rw [Conversion.convert]
        refine h.forms.mapOf _ _ _ hs (ha a List.mem_cons_self _ _ (hx "k" (by decide))) ?_
        exact ha b (List.mem_cons_of_mem a List.mem_cons_self) _ _ hentry
    | tuple =>
      cases args with
      | nil => exact hs
      | cons a args =>
        rw [Conversion.convert]
        refine h.forms.tuple (List.forall_mem_cons.mpr ⟨?_, ?_⟩)
        · exact ha a List.mem_cons_self _ _ (h.forms.item 0 hs)
        · exact h.convertItems
            (fun b hb source hs => ha b (List.mem_cons_of_mem a hb) source depth hs) hs 1
    | datatype =>
      rw [Conversion.convert]
      exact h.call depth hr hs (h.converters (fun a ha' => h.arg hr ha')
        fun a ha' source hs => ha a ha' source _ hs)
    | typeParam => exact h.forms.param name hs
    | foreign => exact hs

end Carried

namespace Kept

variable {R : String → Prop}

theorem mono (h : Kept dir s R Q) {R' : String → Prop} (hr : ∀ n, R' n → R n) :
    Kept dir s R' Q where
  bound := h.bound
  item := h.item
  int := h.int
  string := h.string
  seq := h.seq
  seqOf := h.seqOf
  set := h.set
  setOf := h.setOf
  entry := h.entry
  mapOf := h.mapOf
  tuple := h.tuple
  param := h.param
  call hn := h.call (hr _ hn)
  function x ht := h.function x fun r hr' => hr r (ht r hr')

theorem carried (h : Kept dir s R Q) : Carried dir s (fun t => ∀ r ∈ t.references, R r) Q where
  forms := h.mono fun _ => False.elim
  arg := fun {t _} hr ha r hr' => by
    obtain ⟨kind, name, args⟩ := t
    exact hr r (TypeDescriptor.references_of_arg ha hr')
  call _ hr hs hargs :=
    h.call (hr _ (TypeDescriptor.references_self _ _)) (List.forall_mem_cons.mpr ⟨hs, hargs⟩)
  function := h.function

theorem convert (h : Kept dir s R Q) {t : TypeDescriptor} (hr : ∀ r ∈ t.references, R r)
    {source : Expr} (hs : Q source) (depth : Int) : Q (convert dir s t source depth) :=
  h.carried.convert hr hs depth

end Kept

end Marshal.Conversion
