import Marshal.Proofs.Code.Part
import Marshal.Proofs.Conversion.Forms
import Marshal.Proofs.Naming.ConverterName

/-!
# Expressions inside conversions

There are no object displays inside a conversion, and converters are called in one way only: on the
value, and on functions that convert values of the arguments of the type.
-/

namespace Marshal.Conversion
set_option autoImplicit false

open Code (Expr Stmt)
open Naming (IsConverterName not_isConverterName_of_builtins)

/-- Neither an object display nor a call of a converter. -/
def Plain : Expr → Prop
  | .dict _ => False
  | .call (.name n) _ => ¬ IsConverterName n
  | _ => True

/--
A property of whatever is plain, of the empty display that maps are written into, and of calls of
converters for types of one class.
-/
structure Covers (dir : Direction) (s : Scope) (R : TypeDescriptor → Prop) (P : Expr → Prop) :
    Prop where
  plain {e : Expr} : Plain e → P e
  empty : P (.dict [])
  param : ∀ c ∈ s.converters, ¬ IsConverterName c.2
  arg {t a : TypeDescriptor} : R t → a ∈ t.args → R a
  call {name : String} {args : List TypeDescriptor} (source : Expr) (depth : Int) :
    R ⟨.datatype, name, args⟩ →
      P (.call (.name (dir.converterName name)) (source :: converters dir s args depth))

variable {dir : Direction} {s : Scope} {R : TypeDescriptor → Prop} {P : Expr → Prop}
  {source : Expr}

namespace Covers

theorem name (h : Covers dir s R P) (n : String) : (Expr.name n).EachPart P :=
  Expr.eachPart_name.mpr (h.plain trivial)

theorem attr (h : Covers dir s R P) {e : Expr} (he : e.EachPart P) (a : String) :
    (Expr.attr e a).EachPart P := Expr.eachPart_attr.mpr ⟨h.plain trivial, he⟩

theorem rt (h : Covers dir s R P) (member : String) : (s.rt member).EachPart P :=
  h.attr (h.name _) member

theorem call_name (h : Covers dir s R P) {n : String} (hn : ¬ IsConverterName n)
    {args : List Expr} (hargs : ∀ e ∈ args, e.EachPart P) :
    (Expr.call (.name n) args).EachPart P :=
  Expr.eachPart_call.mpr ⟨h.plain hn, h.name n, hargs⟩

theorem call_attr (h : Covers dir s R P) {e : Expr} (he : e.EachPart P) (a : String)
    {args : List Expr} (hargs : ∀ e ∈ args, e.EachPart P) :
    (Expr.call (.attr e a) args).EachPart P :=
  Expr.eachPart_call.mpr ⟨h.plain trivial, h.attr he a, hargs⟩

theorem builtin (h : Covers dir s R P) {n : String} (hn : n ∈ builtins) {args : List Expr}
    (hargs : ∀ e ∈ args, e.EachPart P) : (Expr.call (.name n) args).EachPart P :=
  h.call_name (not_isConverterName_of_builtins hn) hargs

theorem orList (h : Covers dir s R P) (hs : source.EachPart P) : (Expr.orList source).EachPart P :=
  Expr.eachPart_orList.mpr ⟨h.plain trivial, hs⟩

theorem orDict (h : Covers dir s R P) (hs : source.EachPart P) : (Expr.orDict source).EachPart P :=
  Expr.eachPart_orDict.mpr ⟨h.plain trivial, hs⟩

theorem group (h : Covers dir s R P) (hs : source.EachPart P) : (Expr.group source).EachPart P :=
  Expr.eachPart_group.mpr ⟨h.plain trivial, hs⟩

theorem listFor (h : Covers dir s R P) {body : Expr} (hb : body.EachPart P) (x : String)
    (hs : source.EachPart P) : (Expr.listFor body x source).EachPart P :=
  Expr.eachPart_listFor.mpr ⟨h.plain trivial, hb, hs⟩

theorem function (h : Covers dir s R P) {body : Expr} (hb : body.EachPart P) (x : String) :
    (Expr.function x body).EachPart P := Expr.eachPart_function.mpr ⟨h.plain trivial, hb⟩

theorem ofInt (h : Covers dir s R P) (hs : source.EachPart P) : (ofInt dir source).EachPart P := by
  have hargs := List.forall_mem_singleton.mpr hs
  cases dir with
  | toExternal => exact h.builtin (by decide) hargs
  | fromExternal => exact h.builtin (by decide) hargs

theorem ofString (h : Covers dir s R P) (hs : source.EachPart P) :
    (ofString dir s source).EachPart P := by
  have hargs := List.forall_mem_singleton.mpr hs
  cases dir with
  | toExternal => exact h.builtin (by decide) hargs
  | fromExternal => exact h.call_attr (h.rt "Seq") "from_string" hargs

theorem seqList (h : Covers dir s R P) (hs : source.EachPart P) : (seqList source).EachPart P :=
  h.builtin (by decide) (List.forall_mem_singleton.mpr hs)

theorem ofSeq (h : Covers dir s R P) (hs : source.EachPart P) :
    (ofSeq dir s source).EachPart P := by
  cases dir with
  | toExternal => exact h.seqList hs
  | fromExternal => exact h.call_attr (h.name _) "Seq" (List.forall_mem_singleton.mpr (h.orList hs))

theorem ofSeqOf (h : Covers dir s R P) {elem : Expr} (hs : source.EachPart P)
    (he : elem.EachPart P) (x : String) : (ofSeqOf dir s source elem x).EachPart P := by
  cases dir with
  | toExternal => exact h.listFor he x (h.seqList hs)
  | fromExternal =>
    refine h.call_attr (h.name _) "Seq" (List.forall_mem_singleton.mpr ?_)
    exact h.listFor he x (h.group (h.orList hs))

theorem ofSet (h : Covers dir s R P) (hs : source.EachPart P) :
    (ofSet dir s source).EachPart P := by
  cases dir with
  | toExternal => exact h.builtin (by decide) (List.forall_mem_singleton.mpr (h.attr hs "Elements"))
  | fromExternal => exact h.call_attr (h.name _) "Set" (List.forall_mem_singleton.mpr (h.orList hs))

theorem ofSetOf (h : Covers dir s R P) {elem : Expr} (hs : source.EachPart P)
    (he : elem.EachPart P) (x : String) : (ofSetOf dir s source elem x).EachPart P := by
  cases dir with
  | toExternal => exact h.listFor he x (h.attr hs "Elements")
  | fromExternal =>
    refine h.call_attr (h.name _) "Set" (List.forall_mem_singleton.mpr ?_)
    exact h.listFor he x (h.group (h.orList hs))

theorem externalKey (h : Covers dir s R P) (kind : TypeKind) {key : Expr} (hk : key.EachPart P) :
    (externalKey kind key).EachPart P := by
  rw [Conversion.externalKey]
  split
  · exact hk
  · exact h.builtin (by decide) (List.forall_mem_singleton.mpr hk)

theorem mapKeys (h : Covers dir s R P) (hs : source.EachPart P) : (mapKeys source).EachPart P :=
  h.attr (h.attr hs "Keys") "Elements"

theorem entryValue (h : Covers dir s R P) (hs : source.EachPart P) (k v : String) :
    (entryValue dir source k v).EachPart P := by
  cases dir with
  | toExternal => exact h.call_attr hs "get" (List.forall_mem_singleton.mpr (h.name k))
  | fromExternal => exact h.name v

theorem ofMapOf (h : Covers dir s R P) {key value : Expr} (hs : source.EachPart P)
    (hk : key.EachPart P) (hv : value.EachPart P) (kind : TypeKind) (k v : String) :
    (ofMapOf dir source kind key value k v).EachPart P := by
  cases dir with
  | toExternal =>
    exact Expr.eachPart_dictFor.mpr ⟨h.plain trivial, h.externalKey kind hk, hv, h.mapKeys hs⟩
  | fromExternal =>
    refine h.builtin (by decide) (List.forall_mem_cons.mpr ⟨hs, ?_⟩)
    refine List.forall_mem_cons.mpr ⟨h.function hk k, ?_⟩
    exact List.forall_mem_singleton.mpr (h.function hv v)

theorem ofTuple (h : Covers dir s R P) {items : List Expr} (hi : ∀ e ∈ items, e.EachPart P) :
    (ofTuple dir s items).EachPart P := by
  cases dir with
  | toExternal => exact Expr.eachPart_list.mpr ⟨h.plain trivial, hi⟩
  | fromExternal => exact h.call_attr (h.name _) _ hi

theorem ofParam (h : Covers dir s R P) (hs : source.EachPart P) (param : String) :
    (ofParam s param source).EachPart P := by
  rw [Conversion.ofParam]
  split
  · rename_i f hf
    split
    · exact hs
    · obtain ⟨before, after, hconverters, -⟩ := List.lookup_eq_some_iff.mp hf
      have hmem : (param, f) ∈ s.converters :=
        hconverters ▸ List.mem_append_right _ List.mem_cons_self
      exact h.call_name (h.param _ hmem) (List.forall_mem_singleton.mpr hs)
  · exact hs

theorem asFunction (h : Covers dir s R P) {t : TypeDescriptor} {body : Expr}
    (hb : body.EachPart P) (x : String) : (asFunction dir s t x body).EachPart P := by
  rw [Conversion.asFunction]
  split
  · exact h.name _
  · exact h.name _
  · exact h.function hb x

theorem kept (h : Covers dir s R P) : Kept dir s (fun _ => False) (Expr.EachPart P) where
  bound _ _ := h.name _
  item _ hs := Expr.eachPart_item.mpr ⟨h.plain trivial, hs⟩
  int := h.ofInt
  string := h.ofString
  seq := h.ofSeq
  seqOf x hs he := h.ofSeqOf hs he x
  set := h.ofSet
  setOf x hs he := h.ofSetOf hs he x
  entry _ hs := h.entryValue hs _ _
  mapOf kind k v hs hk hv := h.ofMapOf hs hk hv kind k v
  tuple := h.ofTuple
  param p hs := h.ofParam hs p
  call hn := hn.elim
  function x _ hb := h.asFunction hb x

theorem carried (h : Covers dir s R P) : Carried dir s R (Expr.EachPart P) where
  forms := h.kept
  arg := h.arg
  call depth hr hs hargs :=
    Expr.eachPart_call.mpr
      ⟨h.call _ depth hr, h.name _, List.forall_mem_cons.mpr ⟨hs, hargs⟩⟩
  function x _ hb := h.asFunction hb x

/-- Every part of a conversion has the property if the parts of its source have it. -/
theorem convert (h : Covers dir s R P) {t : TypeDescriptor} (ht : R t) (hs : source.EachPart P)
    (depth : Int) : (convert dir s t source depth).EachPart P :=
  h.carried.convert ht hs depth

theorem readMap (h : Covers .fromExternal s R P) {t : TypeDescriptor} (hkey : R t.keyValue.1)
    (hvalue : R t.keyValue.2) (hs : source.EachPart P) (target : String) :
    Stmt.EachPart P (readMap s t source target) := by
  have hempty : (Expr.attr (s.rt "Map") "Empty").EachPart P := h.attr (h.rt "Map") "Empty"
  have hitems : (Expr.callAttr (.group (.orDict source)) "items" []).EachPart P :=
    h.call_attr (h.group (h.orDict hs)) "items" (List.forall_mem_nil _)
  have hupdate : (Expr.callAttr (.name target) "update"
      [Conversion.convert .fromExternal s t.keyValue.1 (.name "k") 1,
        Conversion.convert .fromExternal s t.keyValue.2 (.name "v") 1]).EachPart P := by
    refine h.call_attr (h.name target) "update" (List.forall_mem_cons.mpr ⟨?_, ?_⟩)
    · exact h.convert hkey (h.name "k") 1
    · exact List.forall_mem_singleton.mpr (h.convert hvalue (h.name "v") 1)
  rw [Conversion.readMap, Stmt.eachPart_assign, Stmt.eachPart_forEach, Stmt.eachPart_assign]
  exact ⟨hempty, ⟨hitems, hupdate, Stmt.eachPart_nil⟩, Stmt.eachPart_nil⟩

theorem writeMap (h : Covers .toExternal s R P) {t : TypeDescriptor} (hkey : R t.keyValue.1)
    (hvalue : R t.keyValue.2) (hs : source.EachPart P) (target : String) :
    Stmt.EachPart P (writeMap s t source target) := by
  have hempty : (Expr.dict []).EachPart P :=
    Expr.eachPart_dict.mpr ⟨h.empty, List.forall_mem_nil _⟩
  have hpresent : (Expr.present source).EachPart P :=
    Expr.eachPart_present.mpr ⟨h.plain trivial, hs⟩
  have hget : (Expr.callAttr source "get" [.name "k"]).EachPart P :=
    h.call_attr hs "get" (List.forall_mem_singleton.mpr (h.name "k"))
  have hk := h.externalKey t.keyValue.1.kind (h.convert hkey (h.name "k") 1)
  have hv := h.convert hvalue (h.name "v") 1
  rw [Conversion.writeMap, Stmt.eachPart_assign, Stmt.eachPart_when, Stmt.eachPart_forEach,
    Stmt.eachPart_assign, Stmt.eachPart_assignItem]
  refine ⟨hempty, ⟨hpresent, ⟨h.mapKeys hs, hget, hk, hv, Stmt.eachPart_nil⟩, ?_⟩, ?_⟩
  · exact Stmt.eachPart_nil
  · exact Stmt.eachPart_nil

end Covers

end Marshal.Conversion
