import Marshal.Proofs.Code.Mention
import Marshal.Proofs.Conversion.Forms

/-!
# Names that conversions mention

Besides the names of its source, a conversion uses built-in names, bound variables, the converters
of type parameters, and the converters of the datatypes that its type refers to.
-/

namespace Marshal.Conversion
set_option autoImplicit false

open Code (Expr Stmt)

/-- What holds of every name that conversions in a scope use, whatever their type. -/
structure Permits (s : Scope) (P : String → Prop) : Prop where
  builtin : ∀ n ∈ builtins, P n
  bound : ∀ base ∈ bases, ∀ depth, P (placeholder base depth)
  param : ∀ c ∈ s.converters, P c.2

variable {dir : Direction} {s : Scope} {P : String → Prop}

theorem Permits.of_converter? (h : Permits s P) {param f : String}
    (hf : s.converter? param = some f) : P f := by
  obtain ⟨before, after, hs, -⟩ := List.lookup_eq_some_iff.mp hf
  exact h.param (param, f) (hs ▸ List.mem_append_right _ List.mem_cons_self)

@[simp] theorem rt_only {member : String} : (s.rt member).Only P := Expr.only_member

theorem ofInt_only (h : Permits s P) {source : Expr} (hs : source.Only P) :
    (ofInt dir source).Only P := by
  cases dir with
  | toExternal => simpa [ofInt, hs] using h.builtin "_to_number" (by decide)
  | fromExternal => simpa [ofInt, hs] using h.builtin "int" (by decide)

theorem ofString_only (h : Permits s P) {source : Expr} (hs : source.Only P) :
    (ofString dir s source).Only P := by
  cases dir with
  | toExternal => simpa [ofString, hs] using h.builtin "_string_to_json" (by decide)
  | fromExternal => exact rt_only.callAttr (by simpa using hs) "from_string"

theorem seqList_only (h : Permits s P) {source : Expr} (hs : source.Only P) :
    (seqList source).Only P := by
  simpa [seqList, hs] using h.builtin "_seq_to_list" (by decide)

theorem ofSeq_only (h : Permits s P) {source : Expr} (hs : source.Only P) :
    (ofSeq dir s source).Only P := by
  cases dir with
  | toExternal => exact seqList_only h hs
  | fromExternal => simpa [ofSeq] using hs

theorem ofSeqOf_only (h : Permits s P) {source elem : Expr} (hs : source.Only P)
    (he : elem.Only P) (x : String) : (ofSeqOf dir s source elem x).Only P := by
  cases dir with
  | toExternal => exact Expr.only_listFor.mpr ⟨he, seqList_only h hs⟩
  | fromExternal => simpa [ofSeqOf] using ⟨he, hs⟩

theorem ofSet_only (h : Permits s P) {source : Expr} (hs : source.Only P) :
    (ofSet dir s source).Only P := by
  cases dir with
  | toExternal => simpa [ofSet, hs.attr "Elements"] using h.builtin "list" (by decide)
  | fromExternal => simpa [ofSet] using hs

theorem ofSetOf_only {source elem : Expr} (hs : source.Only P) (he : elem.Only P) (x : String) :
    (ofSetOf dir s source elem x).Only P := by
  cases dir with
  | toExternal => exact Expr.only_listFor.mpr ⟨he, hs.attr "Elements"⟩
  | fromExternal => simpa [ofSetOf] using ⟨he, hs⟩

theorem externalKey_only (h : Permits s P) (kind : TypeKind) {key : Expr} (hk : key.Only P) :
    (externalKey kind key).Only P := by
  rw [externalKey]
  split
  · exact hk
  · simpa [hk] using h.builtin "str" (by decide)

theorem mapKeys_only {source : Expr} (hs : source.Only P) : (mapKeys source).Only P :=
  (hs.attr "Keys").attr "Elements"

theorem entryValue_only {source : Expr} (hs : source.Only P) {k v : String} (hk : P k) (hv : P v) :
    (entryValue dir source k v).Only P := by
  cases dir with
  | toExternal => exact hs.callAttr (by simpa using hk) "get"
  | fromExternal => simpa [entryValue] using hv

theorem ofMapOf_only (h : Permits s P) {source key value : Expr} (hs : source.Only P)
    (hk : key.Only P) (hv : value.Only P) (kind : TypeKind) (k v : String) :
    (ofMapOf dir source kind key value k v).Only P := by
  cases dir with
  | toExternal => exact Expr.only_dictFor.mpr ⟨⟨externalKey_only h kind hk, hv⟩, mapKeys_only hs⟩
  | fromExternal => simpa [ofMapOf, hs, hk, hv] using h.builtin "_map_from_json" (by decide)

theorem ofTuple_only {items : List Expr} (hi : ∀ e ∈ items, e.Only P) :
    (ofTuple dir s items).Only P := by
  cases dir <;> simpa [ofTuple] using hi

theorem ofParam_only (h : Permits s P) {source : Expr} (hs : source.Only P) (param : String) :
    (ofParam s param source).Only P := by
  rw [ofParam]
  split
  · rename_i f hf
    split
    · exact hs
    · simpa [hs] using h.of_converter? hf
  · exact hs

theorem asFunction_only (h : Permits s P) {t : TypeDescriptor}
    (ht : ∀ r ∈ t.references, P (dir.converterName r)) {body : Expr} (hb : body.Only P)
    (x : String) : (asFunction dir s t x body).Only P := by
  obtain ⟨kind, name, args⟩ := t
  rw [asFunction]
  split
  · rename_i hk _
    obtain rfl : kind = .datatype := hk
    exact Expr.only_name.mpr (ht name (TypeDescriptor.references_self name args))
  · rename_i hf
    exact Expr.only_name.mpr (h.of_converter? hf)
  · exact Expr.only_function.mpr hb

theorem kept_only (h : Permits s P) :
    Kept dir s (fun r => P (dir.converterName r)) (Expr.Only P) where
  bound depth hb := Expr.only_name.mpr (h.bound _ hb depth)
  item _ hs := Expr.only_item.mpr hs
  int := ofInt_only h
  string := ofString_only h
  seq := ofSeq_only h
  seqOf x hs he := ofSeqOf_only h hs he x
  set := ofSet_only h
  setOf x hs he := ofSetOf_only hs he x
  entry depth hs :=
    entryValue_only hs (h.bound "k" (by decide) depth) (h.bound "v" (by decide) depth)
  mapOf kind k v hs hk hv := ofMapOf_only h hs hk hv kind k v
  tuple := ofTuple_only
  param p hs := ofParam_only h hs p
  call hr hargs := Expr.only_call.mpr ⟨Expr.only_name.mpr hr, hargs⟩
  function x hr hb := asFunction_only h hr hb x

theorem convert_only (h : Permits s P) {t : TypeDescriptor}
    (hr : ∀ r ∈ t.references, P (dir.converterName r)) {source : Expr} (hs : source.Only P)
    (depth : Int) : (convert dir s t source depth).Only P :=
  (kept_only h).convert hr hs depth

theorem Permits.mono {Q : String → Prop} (h : Permits s P) (hq : ∀ n, P n → Q n) : Permits s Q where
  builtin n hn := hq n (h.builtin n hn)
  bound base hb depth := hq _ (h.bound base hb depth)
  param c hc := hq _ (h.param c hc)

theorem keyValue_references {t : TypeDescriptor} (r : String)
    (hr : r ∈ t.keyValue.1.references ∨ r ∈ t.keyValue.2.references) : r ∈ t.references := by
  obtain ⟨kind, name, args⟩ := t
  have hforeign : ∀ n, (TypeDescriptor.foreign n).references = [] := fun n => rfl
  obtain _ | ⟨a, _ | ⟨b, args⟩⟩ := args
  · simp [TypeDescriptor.keyValue, hforeign] at hr
  · simp [TypeDescriptor.keyValue, hforeign] at hr
  · rcases hr with hr | hr
    · exact TypeDescriptor.references_of_arg List.mem_cons_self hr
    · exact TypeDescriptor.references_of_arg (List.mem_cons_of_mem a List.mem_cons_self) hr

section Blocks
variable {given : List String} {t : TypeDescriptor} {source : Expr}

open Code.Stmt (Allows Closed)

theorem readMap_closed (h : Permits s (Allows given P))
    (hr : ∀ r ∈ t.references, Allows given P (Direction.fromExternal.converterName r))
    (hs : source.Only (Allows given P)) (target : String) :
    Closed given P (readMap s t source target) := by
  have hk : (Expr.name "k").Only (Allows given P) :=
    Expr.only_name.mpr (h.bound "k" (by decide) 0)
  have hv : (Expr.name "v").Only (Allows given P) :=
    Expr.only_name.mpr (h.bound "v" (by decide) 0)
  have hkey := convert_only h (fun r hr' => hr r (keyValue_references r (.inl hr'))) hk 1
  have hvalue := convert_only h (fun r hr' => hr r (keyValue_references r (.inr hr'))) hv 1
  have hitems : (Expr.callAttr (.group (.orDict source)) "items" []).Only (Allows given P) :=
    Expr.Only.callAttr (by simpa using hs) (by simp) "items"
  have hupdate : (Expr.callAttr (.name target) "update"
      [convert .fromExternal s t.keyValue.1 (.name "k") 1,
        convert .fromExternal s t.keyValue.2 (.name "v") 1]).Only (Allows given P) :=
    Expr.only_call.mpr ⟨Expr.only_member, by simp [hkey, hvalue]⟩
  have hstart : (Expr.attr (s.rt "Map") "Empty").Only (Allows given P) := rt_only.attr "Empty"
  refine .cons hstart (.forEach ?_ (.single ?_))
  · exact Code.Stmt.Allows.only hitems (by simp)
  · exact Code.Stmt.Allows.only hupdate (by simp)

theorem writeMap_closed (h : Permits s (Allows given P))
    (hr : ∀ r ∈ t.references, Allows given P (Direction.toExternal.converterName r))
    (hs : source.Only (Allows given P)) (target : String) :
    Closed given P (writeMap s t source target) := by
  have hk : (Expr.name "k").Only (Allows given P) :=
    Expr.only_name.mpr (h.bound "k" (by decide) 0)
  have hv : (Expr.name "v").Only (Allows given P) :=
    Expr.only_name.mpr (h.bound "v" (by decide) 0)
  have hkey := externalKey_only h t.keyValue.1.kind
    (convert_only h (fun r hr' => hr r (keyValue_references r (.inl hr'))) hk 1)
  have hvalue := convert_only h (fun r hr' => hr r (keyValue_references r (.inr hr'))) hv 1
  have hget : (Expr.callAttr source "get" [.name "k"]).Only (Allows given P) :=
    hs.callAttr (by simpa using hk) "get"
  have hempty : (Expr.dict []).Only (Allows given P) := by simp
  refine .cons hempty (.when ?_ (.forEach ?_ (.cons ?_ (.single ?_))))
  · exact Code.Stmt.Allows.only (Expr.only_present.mpr hs) (by simp)
  · exact Code.Stmt.Allows.only (mapKeys_only hs) (by simp)
  · exact Code.Stmt.Allows.only hget (by simp)
  · intro n hn
    rcases List.mem_cons.mp hn with rfl | hn
    · exact .inl (by simp [Code.Stmt.assigns])
    · rcases List.mem_append.mp hn with hn | hn
      · exact (hkey n hn).mono (by simp)
      · exact (hvalue n hn).mono (by simp)

end Blocks

end Marshal.Conversion
