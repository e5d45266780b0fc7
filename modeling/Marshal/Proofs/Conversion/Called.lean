import Marshal.Proofs.Code.Called
import Marshal.Proofs.Conversion.Forms
import Marshal.Proofs.Naming.Path
import Mathlib.Order.Basic

/-!
# Functions that conversions call

Besides what its source calls, a conversion calls functions by their names, and members of values
and of the runtime. None of these is reached in the way in which constructors are.
-/

namespace Marshal.Conversion
set_option autoImplicit false

open Code (Expr Stmt)
open Naming (Dotless Mangling)

/-- A function that is reached by one name, or as a member that builds no variant. -/
inductive Ordinary : Expr → Prop where
  | name {n : String} : Dotless n → Ordinary (.name n)
  | member (e : Expr) {a : String} :
    Dotless a → ¬ "create_".toList <+: a.toList → Ordinary (.attr e a)

theorem Ordinary.text_ne {f : Expr} (hf : Ordinary f) (m : Mangling) {v : String} (hv : Dotless v)
    (moduleName typeName : String) : f.text ≠ (m.constructor moduleName typeName v).text := by
  rw [m.text_constructor]
  intro h
  cases hf with
  | @name n hn =>
    have hdot : '.' ∈ (Expr.name n).text.toList := by
      rw [h]
      simp only [String.toList_append]
      exact List.mem_append_left _ (List.mem_append_right _ (by decide))
    exact hn hdot
  | member e ha hcreate =>
    obtain ⟨-, rfl⟩ := Naming.eq_of_append_dot ha (m.dotless_constructorName hv) h
    apply hcreate
    rw [Mangling.constructorName, String.toList_append]
    exact List.prefix_append _ _

theorem ordinary_of_builtins {n : String} (h : n ∈ builtins) : Ordinary (.name n) := by
  have hdotless : ∀ n ∈ builtins, Dotless n := by decide
  exact .name (hdotless n h)

theorem ordinary_converterName (dir : Direction) (t : String) :
    Ordinary (.name (dir.converterName t)) :=
  .name (Naming.dotless_of_isIdentifierChar
    (Naming.IsConverterName.isIdentifierChar ⟨dir, t, rfl⟩))

/-- The converters of type parameters are names of one part. -/
def Dotfree (s : Scope) : Prop := ∀ c ∈ s.converters, Dotless c.2

variable {dir : Direction} {s : Scope} {source : Expr} {P : Expr → Prop}

theorem ofInt_calls (hP : Ordinary ≤ P) (h : source.Calls P) : (ofInt dir source).Calls P := by
  cases dir with
  | toExternal => simpa [ofInt, h] using hP _ (ordinary_of_builtins (by decide))
  | fromExternal => simpa [ofInt, h] using hP _ (ordinary_of_builtins (by decide))

theorem ofString_calls (hP : Ordinary ≤ P) (h : source.Calls P) :
    (ofString dir s source).Calls P := by
  cases dir with
  | toExternal => simpa [ofString, h] using hP _ (ordinary_of_builtins (by decide))
  | fromExternal =>
    have hmember : Ordinary (.attr (s.rt "Seq") "from_string") := .member _ (by decide) (by decide)
    simpa [ofString, Scope.rt, h] using hP _ hmember

theorem seqList_calls (hP : Ordinary ≤ P) (h : source.Calls P) : (seqList source).Calls P := by
  simpa [seqList, h] using hP _ (ordinary_of_builtins (by decide))

theorem rt_ordinary {member : String} (hdotless : Dotless member)
    (hcreate : ¬ "create_".toList <+: member.toList) : Ordinary (s.rt member) :=
  .member _ hdotless hcreate

@[simp] theorem rt_calls {member : String} : (s.rt member).Calls P := nofun

theorem ofSeq_calls (hP : Ordinary ≤ P) (h : source.Calls P) : (ofSeq dir s source).Calls P := by
  cases dir with
  | toExternal => exact seqList_calls hP h
  | fromExternal => simpa [ofSeq, h] using hP _ (rt_ordinary (by decide) (by decide))

theorem ofSeqOf_calls (hP : Ordinary ≤ P) {elem : Expr} (h : source.Calls P)
    (helem : elem.Calls P) (x : String) : (ofSeqOf dir s source elem x).Calls P := by
  cases dir with
  | toExternal => exact Expr.calls_listFor.mpr ⟨helem, seqList_calls hP h⟩
  | fromExternal => simpa [ofSeqOf, h, helem] using hP _ (rt_ordinary (by decide) (by decide))

theorem ofSet_calls (hP : Ordinary ≤ P) (h : source.Calls P) : (ofSet dir s source).Calls P := by
  cases dir with
  | toExternal => simpa [ofSet, h] using hP _ (ordinary_of_builtins (by decide))
  | fromExternal => simpa [ofSet, h] using hP _ (rt_ordinary (by decide) (by decide))

theorem ofSetOf_calls (hP : Ordinary ≤ P) {elem : Expr} (h : source.Calls P)
    (helem : elem.Calls P) (x : String) : (ofSetOf dir s source elem x).Calls P := by
  cases dir with
  | toExternal => exact Expr.calls_listFor.mpr ⟨helem, h⟩
  | fromExternal => simpa [ofSetOf, h, helem] using hP _ (rt_ordinary (by decide) (by decide))

theorem externalKey_calls (hP : Ordinary ≤ P) (kind : TypeKind) {key : Expr} (h : key.Calls P) :
    (externalKey kind key).Calls P := by
  rw [externalKey]
  split
  · exact h
  · simpa [h] using hP _ (ordinary_of_builtins (by decide))

theorem entryValue_calls (hP : Ordinary ≤ P) (h : source.Calls P) (k v : String) :
    (entryValue dir source k v).Calls P := by
  cases dir with
  | toExternal => simpa [entryValue, h] using hP _ (.member source (by decide) (by decide))
  | fromExternal => exact Expr.calls_name

theorem ofMapOf_calls (hP : Ordinary ≤ P) {key value : Expr} (h : source.Calls P)
    (hkey : key.Calls P) (hvalue : value.Calls P) (kind : TypeKind) (k v : String) :
    (ofMapOf dir source kind key value k v).Calls P := by
  cases dir with
  | toExternal => exact Expr.calls_dictFor.mpr ⟨⟨externalKey_calls hP kind hkey, hvalue⟩, h⟩
  | fromExternal => simpa [ofMapOf, h, hkey, hvalue] using hP _ (ordinary_of_builtins (by decide))

theorem ofTuple_calls (hP : Ordinary ≤ P) {items : List Expr} (h : ∀ e ∈ items, e.Calls P) :
    (ofTuple dir s items).Calls P := by
  cases dir with
  | toExternal => exact Expr.calls_list.mpr h
  | fromExternal =>
    refine Expr.calls_call.mpr ⟨hP _ (rt_ordinary ?_ ?_), rt_calls, h⟩
    · apply Dotless.append (by decide)
      intro hdot
      cases isDigit_of_mem_toString hdot
    · rw [String.toList_append]
      rintro ⟨rest, h⟩
      cases h

theorem ofParam_calls (hP : Ordinary ≤ P) (hs : Dotfree s) (h : source.Calls P) (param : String) :
    (ofParam s param source).Calls P := by
  rw [ofParam]
  split
  · rename_i f hf
    split
    · exact h
    · obtain ⟨before, after, hconverters, -⟩ := List.lookup_eq_some_iff.mp hf
      have hdotless : Dotless f :=
        hs (param, f) (hconverters ▸ List.mem_append_right _ List.mem_cons_self)
      simpa [h] using hP _ (.name hdotless)
  · exact h

theorem asFunction_calls {t : TypeDescriptor} {body : Expr} (h : body.Calls P) (x : String) :
    (asFunction dir s t x body).Calls P := by
  rw [asFunction]
  split
  · exact Expr.calls_name
  · exact Expr.calls_name
  · exact Expr.calls_function.mpr h

theorem kept_calls (hP : Ordinary ≤ P) (hs : Dotfree s) :
    Kept dir s (fun _ => True) (Expr.Calls P) where
  bound _ _ := Expr.calls_name
  item _ h := Expr.calls_item.mpr h
  int := ofInt_calls hP
  string := ofString_calls hP
  seq := ofSeq_calls hP
  seqOf x h helem := ofSeqOf_calls hP h helem x
  set := ofSet_calls hP
  setOf x h helem := ofSetOf_calls hP h helem x
  entry _ h := entryValue_calls hP h _ _
  mapOf kind k v h hkey hvalue := ofMapOf_calls hP h hkey hvalue kind k v
  tuple := ofTuple_calls hP
  param p h := ofParam_calls hP hs h p
  call _ hargs :=
    Expr.calls_call.mpr ⟨hP _ (ordinary_converterName dir _), Expr.calls_name, hargs⟩
  function x _ h := asFunction_calls h x

/-- A conversion calls what its source calls, and ordinary functions. -/
theorem convert_calls (hP : Ordinary ≤ P) (hs : Dotfree s) {t : TypeDescriptor}
    (h : source.Calls P) (depth : Int) : (convert dir s t source depth).Calls P :=
  (kept_calls hP hs).convert (fun _ _ => trivial) h depth

theorem readMap_calls (hP : Ordinary ≤ P) (hs : Dotfree s) (t : TypeDescriptor)
    (h : source.Calls P) (target : String) : Stmt.CallsEach P (readMap s t source target) := by
  have hconvert (t : TypeDescriptor) (x : String) :
      (convert .fromExternal s t (.name x) 1).Calls P :=
    convert_calls hP hs Expr.calls_name 1
  have hitems : Ordinary (.attr (.group (.orDict source)) "items") :=
    .member _ (by decide) (by decide)
  have hupdate : Ordinary (.attr (.name target) "update") := .member _ (by decide) (by decide)
  simp [readMap, Scope.rt, hconvert, h, hP _ hitems, hP _ hupdate]

theorem writeMap_calls (hP : Ordinary ≤ P) (hs : Dotfree s) (t : TypeDescriptor)
    (h : source.Calls P) (target : String) : Stmt.CallsEach P (writeMap s t source target) := by
  have hconvert (t : TypeDescriptor) (x : String) :
      (convert .toExternal s t (.name x) 1).Calls P :=
    convert_calls hP hs Expr.calls_name 1
  have hget : Ordinary (.attr source "get") := .member _ (by decide) (by decide)
  have hkey := externalKey_calls hP t.keyValue.1.kind (hconvert t.keyValue.1 "k")
  simp [writeMap, mapKeys, hconvert, h, hP _ hget, hkey]

end Marshal.Conversion
