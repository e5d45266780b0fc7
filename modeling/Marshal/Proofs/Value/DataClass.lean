import Mathlib.Data.List.Forall2
import Mathlib.Data.List.Nodup
import Marshal.Catalog.Basic
import Marshal.Proofs.Assoc
import Marshal.Proofs.Naming.Mangling
import Marshal.Value.Call

/-!
# Classes of definitions

Generated code reaches the values of a datatype through members that it names by itself. The class
that is declared for the datatype has all of them, and they mean what generated code takes them for.
-/

namespace Marshal
set_option autoImplicit false

open Code (Expr)
open Naming (Mangling)

namespace Value

variable {name : String}

theorem reflected?_eq_none (h : name.toList.head? ≠ some '_') (v : Value) :
    v.reflected? name = none := by
  unfold reflected?
  split <;> first | rfl | exact absurd (by decide) h

theorem operation?_eq_none (h : name.toList.head? ≠ some '_') (c : LibraryClass) :
    c.operation? name = none := by
  apply List.find?_eq_none.mpr
  intro o _ ho
  obtain rfl := eq_of_beq ho
  cases o <;> exact absurd rfl h

theorem head?_of_furtherNames (v : Value) :
    ∀ n ∈ v.furtherNames, n.toList.head? = some '_' ∨ n.toList.head? = some 'm' := by
  unfold furtherNames
  split
  -- the names of all other values depend on whether these are classes
  all_goals first | decide | (split <;> decide)

theorem special?_eq_none (h : name.toList.head? ≠ some '_') (hm : name.toList.head? ≠ some 'm')
    (v : Value) : v.special? name = none := by
  have hcommon : name ∉ commonNames := by
    have hall : ∀ n ∈ commonNames, n.toList.head? = some '_' := by decide
    exact fun hn => h (hall name hn)
  have hfurther : name ∉ v.furtherNames := by
    intro hn
    rcases v.head?_of_furtherNames name hn with hn | hn
    · exact h hn
    · exact hm hn
  unfold special?
  cases v.libraryClass? with
  | none => simp [hcommon, hfurther]
  | some home => simp [operation?_eq_none h home, hcommon, hfurther]

/-- The members that generated code uses are none that all objects have. -/
theorem member_data (h : name.toList.head? ≠ some '_') (hm : name.toList.head? ≠ some 'm')
    (id : Identity) (c : DataClass) (variant : String) (vs : List Value) :
    (Value.data id c variant vs).member name = dataMember c variant vs name := by
  rw [member, reflected?_eq_none h, special?_eq_none h hm]
  rfl

theorem member_dataClass (h : name.toList.head? ≠ some '_') (hm : name.toList.head? ≠ some 'm')
    (c : DataClass) : (Value.dataClass c).member name = dataClassMember c name := by
  rw [member, reflected?_eq_none h, special?_eq_none h hm]
  rfl

end Value

theorem find?_of_injective {α : Type} {f : α → String} (hf : Function.Injective f) {xs : List α}
    {a : α} (ha : a ∈ xs) : xs.find? (fun x => f x == f a) = some a := by
  induction xs with
  | nil => exact absurd ha List.not_mem_nil
  | cons x xs ih =>
    by_cases hx : f x = f a
    · rw [List.find?_cons_of_pos (by simpa using hx), hf hx]
    · rw [List.find?_cons_of_neg (by simpa using hx)]
      rcases List.mem_cons.mp ha with rfl | ha
      · exact absurd rfl hx
      · exact ih ha

theorem find?_of_head? {α : Type} {f : α → String} {c : Char}
    (hf : ∀ x, (f x).toList.head? = some c) {name : String} (h : name.toList.head? ≠ some c)
    (xs : List α) : xs.find? (fun x => f x == name) = none := by
  apply List.find?_eq_none.mpr
  intro x _ hx
  obtain rfl := eq_of_beq hx
  exact h (hf x)

namespace DataClass

variable {c : DataClass} {name : String}

theorem built?_constructorName {v : String} (h : v ∈ c.variantNames) :
    c.built? (c.mangling.constructorName v) = some v :=
  find?_of_injective c.mangling.constructorName_injective (List.mem_reverse.mpr h)

theorem built?_eq_none (h : name.toList.head? ≠ some 'c') : c.built? name = none :=
  find?_of_head? c.mangling.head?_constructorName h _

theorem flagged?_variantFlag {v : String} (h : v ∈ c.variantNames) :
    c.flagged? (c.mangling.variantFlag v) = some v :=
  find?_of_injective c.mangling.variantFlag_injective (List.mem_reverse.mpr h)

theorem flagged?_eq_none (h : name.toList.head? ≠ some 'i') : c.flagged? name = none :=
  find?_of_head? c.mangling.head?_variantFlag h _

theorem held?_fieldAttribute {f : String} (h : f ∈ c.allFields) :
    c.held? (c.mangling.fieldAttribute f) = some f :=
  find?_of_injective c.mangling.fieldAttribute_injective h

end DataClass

namespace Value

variable {c : DataClass}

theorem member_constructorName {v : String} (h : v ∈ c.variantNames) :
    (Value.dataClass c).member (c.mangling.constructorName v) =
      .ok (.method (.dataClass c) (.create v)) := by
  rw [member_dataClass (by simp) (by simp)]
  unfold dataClassMember
  rw [c.built?_constructorName h]

theorem member_variantFlag {w : String} (h : w ∈ c.variantNames) (id : Identity)
    (variant : String) (vs : List Value) :
    (Value.data id c variant vs).member (c.mangling.variantFlag w) =
      .ok (.bool (variant == w)) := by
  rw [member_data (by simp) (by simp)]
  unfold dataMember
  rw [c.built?_eq_none (by simp), c.flagged?_variantFlag h]

theorem member_fieldAttribute {f : String} (h : f ∈ c.allFields) (id : Identity)
    (variant : String) (vs : List Value) :
    (Value.data id c variant vs).member (c.mangling.fieldAttribute f) =
      fieldOf c variant vs f := by
  rw [member_data (by simp) (by simp)]
  unfold dataMember
  rw [c.built?_eq_none (by simp), c.flagged?_eq_none (by simp), c.held?_fieldAttribute h]

end Value

/-- Two values are one object, or equal by content. -/
def Value.Equal (a b : Value) : Prop := Value.isOne a b ∨ Value.same a b

theorem Value.sameItems_iff {as bs : List Value} :
    Value.sameItems as bs ↔ List.Forall₂ Value.Equal as bs := by
  induction as generalizing bs with
  | nil => cases bs <;> simp [Value.sameItems]
  | cons a as ih =>
    cases bs with
    | nil => simp [Value.sameItems]
    | cons b bs => simp [Value.sameItems, ih, Value.Equal]

theorem Value.same_data {c : DataClass} {v w : String} {as bs : List Value} :
    Value.same (.data .fresh c v as) (.data .fresh c w bs) ↔
      v = w ∧ List.Forall₂ Value.Equal as bs := by
  rw [← Value.sameItems_iff]
  simp [Value.same]

theorem findIdx?_of_nodup {names : List String} (h : names.Nodup) {i : Nat} {name : String}
    (hi : names[i]? = some name) : names.findIdx? (· == name) = some i := by
  obtain ⟨hlt, hname⟩ := List.getElem?_eq_some_iff.mp hi
  refine List.findIdx?_eq_some_iff_getElem.mpr ⟨hlt, by simp [hname], ?_⟩
  intro j hj hsame
  have hsame : names[j] = names[i] := by rw [hname]; exact eq_of_beq hsame
  have hij := h.getElem_inj_iff.mp hsame
  omega

namespace Definition

variable {d : Definition} {serial : Nat} {m : Mangling}

def runtimeClass (d : Definition) (serial : Nat) (m : Mangling) : DataClass :=
  .declare serial d.name (d.variants.map fun v => (v.name, v.fields.map (·.name))) m

/-- A call of the member that the constructor of a variant names at its end comes to a result. -/
def Builds (d : Definition) (m : Mangling) (c : DataClass) (v : Variant) (vs : List Value)
    (r : Except Fault Value) : Prop :=
  ∃ owner name ctor, m.constructor d.moduleName d.name v.name = Expr.attr owner name ∧
    (Value.dataClass c).member name = .ok ctor ∧ ctor.apply vs = r

/-- The members of a class mean what generated code takes them for. -/
structure Serves (d : Definition) (m : Mangling) (c : DataClass) : Prop where
  builds : ∀ v ∈ d.variants, ∀ vs : List Value, vs.length = v.fields.length →
    ∃ x, d.Builds m c v vs (.ok x)
  rejects : ∀ v ∈ d.variants, ∀ vs : List Value, vs.length ≠ v.fields.length →
    d.Builds m c v vs (.error (.valueCount d.name v.name v.fields.length vs.length))
  flags : ∀ v ∈ d.variants, ∀ vs x, d.Builds m c v vs (.ok x) → ∀ w ∈ d.variants,
    ∃ b, x.member (m.variantFlag w.name) = .ok (.bool b) ∧ (b = true ↔ w = v)
  fields : ∀ v ∈ d.variants, ∀ vs x, d.Builds m c v vs (.ok x) → ∀ (i : Nat) (f : Field),
    v.fields[i]? = some f → ∃ y, vs[i]? = some y ∧ x.member (m.fieldAttribute f.name) = .ok y
  missing : ∀ v ∈ d.variants, ∀ vs x, d.Builds m c v vs (.ok x) → ∀ f ∈ d.fields,
    f.name ∉ v.fields.map (·.name) →
      x.member (m.fieldAttribute f.name) = .error (.noField d.name v.name f.name)
  equal : ∀ v ∈ d.variants, ∀ w ∈ d.variants, ∀ vs ws x y, d.Builds m c v vs (.ok x) →
    d.Builds m c w ws (.ok y) → (Value.same x y ↔ v = w ∧ List.Forall₂ Value.Equal vs ws)

theorem variants_runtimeClass (hv : (d.variants.map (·.name)).Nodup) :
    (d.runtimeClass serial m).variants =
      d.variants.map fun v => (v.name, v.fields.map (·.name)) := by
  apply Assoc.putAll_of_nodup
  rw [List.nil_append, List.map_map]
  exact hv

theorem mem_variantNames (hv : (d.variants.map (·.name)).Nodup) {v : Variant}
    (h : v ∈ d.variants) : v.name ∈ (d.runtimeClass serial m).variantNames := by
  rw [DataClass.variantNames, variants_runtimeClass hv, List.map_map]
  exact List.mem_map_of_mem h

theorem mem_allFields (hv : (d.variants.map (·.name)).Nodup) {f : Field} (h : f ∈ d.fields) :
    f.name ∈ (d.runtimeClass serial m).allFields := by
  obtain ⟨v, hmem, hf⟩ := List.mem_flatMap.mp h
  rw [DataClass.allFields, variants_runtimeClass hv, List.flatMap_map]
  exact List.mem_flatMap.mpr ⟨v, hmem, List.mem_map_of_mem hf⟩

theorem fields?_runtimeClass (hv : (d.variants.map (·.name)).Nodup) {v : Variant}
    (h : v ∈ d.variants) :
    (d.runtimeClass serial m).fields? v.name = some (v.fields.map (·.name)) := by
  rw [DataClass.fields?, variants_runtimeClass hv]
  apply Assoc.find?_of_mem
  · rw [List.map_map]
    exact hv
  · exact List.mem_map_of_mem h

theorem builds_iff (hv : (d.variants.map (·.name)).Nodup) {v : Variant} (h : v ∈ d.variants)
    {vs : List Value} {r : Except Fault Value} :
    d.Builds m (d.runtimeClass serial m) v vs r ↔
      Value.construct (d.runtimeClass serial m) v.name vs = r := by
  have hmember :=
    Value.member_constructorName (c := d.runtimeClass serial m) (mem_variantNames hv h)
  constructor
  · rintro ⟨owner, name, ctor, hname, hctor, hr⟩
    cases hname
    cases hmember.symm.trans hctor
    exact hr
  · intro hr
    exact ⟨_, _, _, rfl, hmember, hr⟩

theorem construct_of_length_eq (hv : (d.variants.map (·.name)).Nodup) {v : Variant}
    (h : v ∈ d.variants) {vs : List Value} (hvs : vs.length = v.fields.length) :
    Value.construct (d.runtimeClass serial m) v.name vs =
      .ok (.data .fresh (d.runtimeClass serial m) v.name vs) := by
  unfold Value.construct
  rw [fields?_runtimeClass hv h]
  simp [hvs, runtimeClass, DataClass.declare]

theorem construct_of_length_ne (hv : (d.variants.map (·.name)).Nodup) {v : Variant}
    (h : v ∈ d.variants) {vs : List Value} (hvs : vs.length ≠ v.fields.length) :
    Value.construct (d.runtimeClass serial m) v.name vs =
      .error (.valueCount d.name v.name v.fields.length vs.length) := by
  unfold Value.construct
  rw [fields?_runtimeClass hv h]
  simp [hvs, runtimeClass, DataClass.declare]

theorem eq_data_of_builds (hv : (d.variants.map (·.name)).Nodup) {v : Variant}
    (h : v ∈ d.variants) {vs : List Value} {x : Value}
    (hx : d.Builds m (d.runtimeClass serial m) v vs (.ok x)) :
    x = .data .fresh (d.runtimeClass serial m) v.name vs ∧ vs.length = v.fields.length := by
  have hx := (builds_iff hv h).mp hx
  by_cases hvs : vs.length = v.fields.length
  · rw [construct_of_length_eq hv h hvs] at hx
    exact ⟨(Except.ok.inj hx).symm, hvs⟩
  · rw [construct_of_length_ne hv h hvs] at hx
    cases hx

theorem fieldOf_of_getElem? (hv : (d.variants.map (·.name)).Nodup) {v : Variant}
    (h : v ∈ d.variants) (hf : (v.fields.map (·.name)).Nodup) {vs : List Value}
    {i : Nat} {f : Field} {y : Value} (hi : v.fields[i]? = some f) (hy : vs[i]? = some y) :
    Value.fieldOf (d.runtimeClass serial m) v.name vs f.name = .ok y := by
  have hname : (v.fields.map (·.name))[i]? = some f.name := by
    rw [List.getElem?_map, hi]
    rfl
  unfold Value.fieldOf
  rw [fields?_runtimeClass hv h]
  simp only [findIdx?_of_nodup hf hname, hy]

theorem fieldOf_of_not_mem (hv : (d.variants.map (·.name)).Nodup) {v : Variant}
    (h : v ∈ d.variants) (vs : List Value) {name : String}
    (hname : name ∉ v.fields.map (·.name)) :
    Value.fieldOf (d.runtimeClass serial m) v.name vs name =
      .error (.noField d.name v.name name) := by
  have hnone : (v.fields.map (·.name)).findIdx? (· == name) = none := by
    apply List.findIdx?_eq_none_iff.mpr
    intro other hother
    exact beq_false_of_ne fun hsame => hname (hsame ▸ hother)
  unfold Value.fieldOf
  rw [fields?_runtimeClass hv h]
  simp only [hnone]
  rfl

theorem variant_eq_iff (hv : (d.variants.map (·.name)).Nodup) {v w : Variant}
    (h : v ∈ d.variants) (hw : w ∈ d.variants) : v = w ↔ v.name = w.name :=
  ⟨congrArg _, List.inj_on_of_nodup_map hv h hw⟩

/-- The class that is declared for a definition has the members that generated code reaches into
its values by, and they mean what it takes them for. -/
theorem serves_runtimeClass (serial : Nat) (m : Mangling)
    (hv : (d.variants.map (·.name)).Nodup)
    (hf : ∀ v ∈ d.variants, (v.fields.map (·.name)).Nodup) :
    d.Serves m (d.runtimeClass serial m) where
  builds v h vs hvs := ⟨_, (builds_iff hv h).mpr (construct_of_length_eq hv h hvs)⟩
  rejects v h vs hvs := (builds_iff hv h).mpr (construct_of_length_ne hv h hvs)
  flags := by
    intro v h vs x hx w hw
    obtain ⟨rfl, -⟩ := eq_data_of_builds hv h hx
    refine ⟨v.name == w.name, ?_, ?_⟩
    · exact Value.member_variantFlag (c := d.runtimeClass serial m) (mem_variantNames hv hw) _ _ _
    · rw [variant_eq_iff hv hw h, beq_iff_eq, eq_comm]
  fields := by
    intro v h vs x hx i f hi
    obtain ⟨rfl, hvs⟩ := eq_data_of_builds hv h hx
    have hlt : i < vs.length := by
      rw [hvs]
      exact (List.getElem?_eq_some_iff.mp hi).1
    have hmem : f ∈ d.fields := List.mem_flatMap.mpr ⟨v, h, List.mem_of_getElem? hi⟩
    have hy : vs[i]? = some vs[i] := List.getElem?_eq_getElem hlt
    refine ⟨vs[i], hy, ?_⟩
    rw [← fieldOf_of_getElem? hv h (hf v h) hi hy]
    exact Value.member_fieldAttribute (c := d.runtimeClass serial m) (mem_allFields hv hmem) _ _ _
  missing := by
    intro v h vs x hx f hmem hname
    obtain ⟨rfl, -⟩ := eq_data_of_builds hv h hx
    rw [← fieldOf_of_not_mem hv h vs hname]
    exact Value.member_fieldAttribute (c := d.runtimeClass serial m) (mem_allFields hv hmem) _ _ _
  equal := by
    intro v h w hw vs ws x y hx hy
    obtain ⟨rfl, -⟩ := eq_data_of_builds hv h hx
    obtain ⟨rfl, -⟩ := eq_data_of_builds hv hw hy
    rw [Value.same_data, variant_eq_iff hv h hw]

/-- Ways of giving a place on a page; the offset stands second in one and first in another. -/
def place : Definition where
  moduleName := "Page"
  name := "Place"
  variants :=
    [⟨"Line", [⟨"number", .int "int"⟩, ⟨"offset'", .int "int"⟩]⟩,
      ⟨"Margin", [⟨"offset'", .int "int"⟩]⟩, ⟨"Nowhere?", []⟩]
  typeParams := []

theorem serves_place :
    place.Serves .escaping (place.runtimeClass 0 .escaping) ∧
      place.Serves .verbatim (place.runtimeClass 1 .verbatim) :=
  ⟨serves_runtimeClass 0 .escaping (by decide) (by decide),
    serves_runtimeClass 1 .verbatim (by decide) (by decide)⟩

end Definition

end Marshal
