import Marshal.Proofs.Code.Part
import Marshal.Proofs.Conversion.Forms
import Marshal.Proofs.Naming.Usable

/-!
# Names and members that conversions write

Besides what its source is written with, a conversion is written with names that stand for
themselves, with those of converters and of the runtime, and with members of fixed names.
-/

namespace Marshal.Conversion
set_option autoImplicit false

open Code (Expr Stmt)
open Naming (Usable)

/-- A name, and a member together with the object that it is selected from, have properties. -/
@[simp] def WrittenWith (N : String → Prop) (A : Expr → String → Prop) : Expr → Prop
  | .name n => N n
  | .attr object member => A object member
  | _ => True

/-- The names and members that an expression is written with, at any depth, have properties. -/
def Writes (N : String → Prop) (A : Expr → String → Prop) (e : Expr) : Prop :=
  e.EachPart (WrittenWith N A)

variable {dir : Direction} {s : Scope} {source : Expr} {N : String → Prop}
  {A : Expr → String → Prop}

@[simp] theorem writes_name {n : String} : Writes N A (.name n) ↔ N n := by simp [Writes]

@[simp] theorem writes_str {v : String} : Writes N A (.str v) := by simp [Writes]

@[simp] theorem writes_attr {e : Expr} {a : String} :
    Writes N A (.attr e a) ↔ A e a ∧ Writes N A e := by simp [Writes]

@[simp] theorem writes_item {e : Expr} {i : Nat} : Writes N A (.item e i) ↔ Writes N A e := by
  simp [Writes]

@[simp] theorem writes_call {f : Expr} {args : List Expr} :
    Writes N A (.call f args) ↔ Writes N A f ∧ ∀ e ∈ args, Writes N A e := by simp [Writes]

@[simp] theorem writes_callAttr {e : Expr} {a : String} {args : List Expr} :
    Writes N A (.callAttr e a args) ↔ (A e a ∧ Writes N A e) ∧ ∀ x ∈ args, Writes N A x := by
  rw [Expr.callAttr, writes_call, writes_attr]

@[simp] theorem writes_orList {e : Expr} : Writes N A (.orList e) ↔ Writes N A e := by
  simp [Writes]

@[simp] theorem writes_orDict {e : Expr} : Writes N A (.orDict e) ↔ Writes N A e := by
  simp [Writes]

@[simp] theorem writes_group {e : Expr} : Writes N A (.group e) ↔ Writes N A e := by simp [Writes]

@[simp] theorem writes_list {es : List Expr} :
    Writes N A (.list es) ↔ ∀ e ∈ es, Writes N A e := by simp [Writes]

@[simp] theorem writes_dict {es : List (String × Expr)} :
    Writes N A (.dict es) ↔ ∀ e ∈ es, Writes N A e.2 := by simp [Writes]

@[simp] theorem writes_listFor {b e : Expr} {x : String} :
    Writes N A (.listFor b x e) ↔ Writes N A b ∧ Writes N A e := by simp [Writes]

@[simp] theorem writes_dictFor {k v e : Expr} {x : String} :
    Writes N A (.dictFor k v x e) ↔ Writes N A k ∧ Writes N A v ∧ Writes N A e := by simp [Writes]

@[simp] theorem writes_function {b : Expr} {x : String} :
    Writes N A (.function x b) ↔ Writes N A b := by simp [Writes]

@[simp] theorem writes_equal {a b : Expr} :
    Writes N A (.equal a b) ↔ Writes N A a ∧ Writes N A b := by simp [Writes]

@[simp] theorem writes_present {e : Expr} : Writes N A (.present e) ↔ Writes N A e := by
  simp [Writes]

def fixedMembers : List String :=
  ["Seq", "from_string", "Set", "Elements", "Keys", "get", "Map", "Empty", "items", "update"]

theorem usable_fixedMembers : ∀ a ∈ fixedMembers, Usable a := by decide

/-- What conversions are written with has the properties. -/
structure Affords (s : Scope) (N : String → Prop) (A : Expr → String → Prop) : Prop where
  builtin : ∀ n ∈ builtins, N n
  bound : ∀ base ∈ bases, ∀ depth, N (placeholder base depth)
  runtime : N s.runtime
  param : ∀ c ∈ s.converters, N c.2
  converter : ∀ (dir : Direction) (t : String), N (dir.converterName t)
  member : ∀ o a, Usable a → A o a

namespace Affords

variable (h : Affords s N A)
include h

theorem fixed {a : String} (ha : a ∈ fixedMembers) (o : Expr) : A o a :=
  h.member o a (usable_fixedMembers a ha)

theorem rt {a : String} (ha : Usable a) : Writes N A (s.rt a) :=
  writes_attr.mpr ⟨h.member _ _ ha, writes_name.mpr h.runtime⟩

theorem ofInt (hs : Writes N A source) : Writes N A (ofInt dir source) := by
  cases dir with
  | toExternal => simpa [Conversion.ofInt, h.builtin "_to_number" (by decide)] using hs
  | fromExternal => simpa [Conversion.ofInt, h.builtin "int" (by decide)] using hs

theorem ofString (hs : Writes N A source) : Writes N A (ofString dir s source) := by
  cases dir with
  | toExternal => simpa [Conversion.ofString, h.builtin "_string_to_json" (by decide)] using hs
  | fromExternal =>
    have hseq := h.rt (a := "Seq") (by decide)
    have hstring := h.fixed (a := "from_string") (by decide)
    simpa [Conversion.ofString, hseq, hstring] using hs

theorem seqList (hs : Writes N A source) : Writes N A (seqList source) := by
  simpa [Conversion.seqList, h.builtin "_seq_to_list" (by decide)] using hs

theorem ofSeq (hs : Writes N A source) : Writes N A (ofSeq dir s source) := by
  cases dir with
  | toExternal => exact h.seqList hs
  | fromExternal => simpa [Conversion.ofSeq, h.rt (a := "Seq") (by decide)] using hs

theorem ofSeqOf {elem : Expr} (hs : Writes N A source) (he : Writes N A elem) (x : String) :
    Writes N A (ofSeqOf dir s source elem x) := by
  cases dir with
  | toExternal => exact writes_listFor.mpr ⟨he, h.seqList hs⟩
  | fromExternal =>
    simpa [Conversion.ofSeqOf, h.rt (a := "Seq") (by decide)] using ⟨he, hs⟩

theorem ofSet (hs : Writes N A source) : Writes N A (ofSet dir s source) := by
  cases dir with
  | toExternal =>
    have helements := h.fixed (a := "Elements") (by decide)
    simpa [Conversion.ofSet, h.builtin "list" (by decide), helements] using hs
  | fromExternal => simpa [Conversion.ofSet, h.rt (a := "Set") (by decide)] using hs

theorem ofSetOf {elem : Expr} (hs : Writes N A source) (he : Writes N A elem) (x : String) :
    Writes N A (ofSetOf dir s source elem x) := by
  cases dir with
  | toExternal =>
    have helements := h.fixed (a := "Elements") (by decide)
    simpa [Conversion.ofSetOf, helements] using ⟨he, hs⟩
  | fromExternal =>
    simpa [Conversion.ofSetOf, h.rt (a := "Set") (by decide)] using ⟨he, hs⟩

theorem externalKey (kind : TypeKind) {key : Expr} (hk : Writes N A key) :
    Writes N A (externalKey kind key) := by
  rw [Conversion.externalKey]
  split
  · exact hk
  · simpa [h.builtin "str" (by decide)] using hk

theorem mapKeys (hs : Writes N A source) : Writes N A (mapKeys source) := by
  have hkeys := h.fixed (a := "Keys") (by decide)
  have helements := h.fixed (a := "Elements") (by decide)
  simpa [Conversion.mapKeys, hkeys, helements] using hs

theorem entryValue (hs : Writes N A source) (depth : Int) :
    Writes N A (entryValue dir source (placeholder "k" depth) (placeholder "v" depth)) := by
  cases dir with
  | toExternal =>
    have hk := h.bound "k" (by decide) depth
    simpa [Conversion.entryValue, h.fixed (a := "get") (by decide), hk] using hs
  | fromExternal => exact writes_name.mpr (h.bound "v" (by decide) depth)

theorem ofMapOf {key value : Expr} (hs : Writes N A source) (hk : Writes N A key)
    (hv : Writes N A value) (kind : TypeKind) (k v : String) :
    Writes N A (ofMapOf dir source kind key value k v) := by
  cases dir with
  | toExternal => exact writes_dictFor.mpr ⟨h.externalKey kind hk, hv, h.mapKeys hs⟩
  | fromExternal =>
    simp [Conversion.ofMapOf, h.builtin "_map_from_json" (by decide), hs, hk, hv]

theorem ofTuple {items : List Expr} (hi : ∀ e ∈ items, Writes N A e) :
    Writes N A (ofTuple dir s items) := by
  cases dir with
  | toExternal => exact writes_list.mpr hi
  | fromExternal => exact writes_call.mpr ⟨h.rt (Naming.usable_tuple items.length), hi⟩

theorem of_converter? {p f : String} (hf : s.converter? p = some f) : N f := by
  obtain ⟨before, after, hconverters, -⟩ := List.lookup_eq_some_iff.mp hf
  exact h.param (p, f) (hconverters ▸ List.mem_append_right _ List.mem_cons_self)

theorem ofParam (hs : Writes N A source) (p : String) : Writes N A (ofParam s p source) := by
  rw [Conversion.ofParam]
  split
  · rename_i f hf
    split
    · exact hs
    · simpa [h.of_converter? hf] using hs
  · exact hs

theorem asFunction {t : TypeDescriptor} {body : Expr} (hb : Writes N A body) (x : String) :
    Writes N A (asFunction dir s t x body) := by
  rw [Conversion.asFunction]
  split
  · exact writes_name.mpr (h.converter dir _)
  · rename_i hf
    exact writes_name.mpr (h.of_converter? hf)
  · exact writes_function.mpr hb

theorem kept : Kept dir s (fun _ => True) (Writes N A) where
  bound depth hb := writes_name.mpr (h.bound _ hb depth)
  item _ := writes_item.mpr
  int := h.ofInt
  string := h.ofString
  seq := h.ofSeq
  seqOf x hs he := h.ofSeqOf hs he x
  set := h.ofSet
  setOf x hs he := h.ofSetOf hs he x
  entry depth hs := h.entryValue hs depth
  mapOf kind k v hs hk hv := h.ofMapOf hs hk hv kind k v
  tuple := h.ofTuple
  param p hs := h.ofParam hs p
  call _ hargs := writes_call.mpr ⟨writes_name.mpr (h.converter dir _), hargs⟩
  function x _ hb := h.asFunction hb x

/-- A conversion is written with what its source is written with, and with what is afforded. -/
theorem convert {t : TypeDescriptor} (hs : Writes N A source) (depth : Int) :
    Writes N A (convert dir s t source depth) :=
  h.kept.convert (fun _ _ => trivial) hs depth

theorem convert_bound (dir : Direction) (t : TypeDescriptor) {x : String} (hx : x ∈ bases)
    (depth : Int) : Writes N A (Conversion.convert dir s t (.name x) depth) :=
  h.convert (writes_name.mpr (h.bound x hx 0)) depth

theorem readMap (t : TypeDescriptor) (hs : Writes N A source) {target : String} (ht : N target) :
    Stmt.EachPart (WrittenWith N A) (readMap s t source target) := by
  have hempty : Writes N A (.attr (s.rt "Map") "Empty") :=
    writes_attr.mpr ⟨h.fixed (by decide) _, h.rt (by decide)⟩
  have hitems : Writes N A (.callAttr (.group (.orDict source)) "items" []) := by
    simpa using ⟨h.fixed (by decide) _, hs⟩
  have hupdate : Writes N A (.callAttr (.name target) "update"
      [Conversion.convert .fromExternal s t.keyValue.1 (.name "k") 1,
        Conversion.convert .fromExternal s t.keyValue.2 (.name "v") 1]) := by
    have hk := h.convert_bound .fromExternal t.keyValue.1 (x := "k") (by decide) 1
    have hv := h.convert_bound .fromExternal t.keyValue.2 (x := "v") (by decide) 1
    simpa [hk, hv, ht] using h.fixed (by decide) _
  rw [Conversion.readMap, Stmt.eachPart_assign, Stmt.eachPart_forEach, Stmt.eachPart_assign]
  exact ⟨hempty, ⟨hitems, hupdate, Stmt.eachPart_nil⟩, Stmt.eachPart_nil⟩

theorem writeMap (t : TypeDescriptor) (hs : Writes N A source) (target : String) :
    Stmt.EachPart (WrittenWith N A) (writeMap s t source target) := by
  have hempty : Writes N A (.dict []) := writes_dict.mpr (List.forall_mem_nil _)
  have hget : Writes N A (.callAttr source "get" [.name "k"]) := by
    simpa [hs, show N "k" from h.bound "k" (by decide) 0] using h.fixed (by decide) _
  have hk := h.externalKey t.keyValue.1.kind
    (h.convert_bound .toExternal t.keyValue.1 (x := "k") (by decide) 1)
  have hv := h.convert_bound .toExternal t.keyValue.2 (x := "v") (by decide) 1
  rw [Conversion.writeMap, Stmt.eachPart_assign, Stmt.eachPart_when, Stmt.eachPart_forEach,
    Stmt.eachPart_assign, Stmt.eachPart_assignItem]
  refine ⟨hempty, ⟨writes_present.mpr hs, ?_, Stmt.eachPart_nil⟩, Stmt.eachPart_nil⟩
  exact ⟨h.mapKeys hs, hget, hk, hv, Stmt.eachPart_nil⟩

end Affords

end Marshal.Conversion
