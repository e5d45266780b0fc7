import Marshal.Proofs.Conversion.Writing
import Marshal.Proofs.Converter.Part
import Marshal.Proofs.Converter.Temporaries

/-!
# Names and members that converters write

A converter is written with its parameters and the variables it assigns, with the constructors,
flags and fields of its definition, with the error for values of no variant, and with conversions.
-/

namespace Marshal
set_option autoImplicit false

open Code (Expr Function Stmt)
open Conversion (Affords Writes WrittenWith writes_attr writes_call writes_callAttr writes_dict
  writes_equal writes_name writes_str)
open Naming (Mangling Usable sanitize)

/-- What a function may be written with has the properties: what conversions are written with, its
parameters, and the variables that it assigns. -/
structure Supplies (g : Function) (s : Scope) (N : String → Prop) (A : Expr → String → Prop) :
    Prop where
  affords : Affords s N A
  given : ∀ n ∈ g.params.map (·.name), N n
  assigned : ∀ n ∈ Stmt.assignsEach g.body, N n

/-- What the code for a definition may select has the properties. -/
structure Definition.Selectable (mangling : Mangling) (N : String → Prop)
    (A : Expr → String → Prop) (d : Definition) : Prop where
  moduleName : N d.moduleName
  type : A (.name d.moduleName) (sanitize d.name)
  constructor : ∀ v ∈ d.variants,
    A (.attr (.name d.moduleName) (sanitize d.name)) (mangling.constructorName v.name)
  flag : ∀ v ∈ d.variants, ∀ o, A o (mangling.variantFlag v.name)
  field : ∀ f ∈ d.fields, ∀ o, A o (mangling.fieldAttribute f.name)

namespace Converter

variable {N : String → Prop} {A : Expr → String → Prop} {mangling : Mangling} {runtime : String}
  {d : Definition} {v : Variant} {f : Field} {dir : Direction} {s : Scope} {ss : List Stmt}

section Fields
variable (h : Affords s N A)
include h

theorem readEntry_writes (hj : N "json") (f : Field) : Writes N A (readEntry f) := by
  simpa [readEntry, hj] using h.fixed (by decide) _

theorem readSetup_writes (hj : N "json") (hf : isBlockMap f → N (readTarget f)) :
    Stmt.EachPart (WrittenWith N A) (readSetup s f) := by
  rw [readSetup]
  split
  · rename_i hmap
    exact h.readMap f.type (readEntry_writes h hj f) (hf hmap)
  · exact Stmt.eachPart_nil

theorem readValue_writes (hj : N "json") (hf : isBlockMap f → N (readTarget f)) :
    Writes N A (readValue s f) := by
  rw [readValue]
  split
  · rename_i hmap
    exact writes_name.mpr (hf hmap)
  · exact h.convert (readEntry_writes h hj f) 0

theorem writeSetup_writes {source : Expr} (hs : Writes N A source) :
    Stmt.EachPart (WrittenWith N A) (writeSetup s f source) := by
  rw [writeSetup]
  split
  · exact h.writeMap f.type hs _
  · exact Stmt.eachPart_nil

theorem writeEntry_writes {source : Expr} (hs : Writes N A source)
    (hf : isBlockMap f → N (writeTarget f)) : Writes N A (writeEntry s f source).2 := by
  rw [writeEntry]
  dsimp only
  split
  · rename_i hmap
    exact writes_name.mpr (hf hmap)
  · exact h.convert hs 0

theorem raiseUnknown_writes {offending : String} (ho : N offending) :
    Stmt.EachPart (WrittenWith N A) [raiseUnknown s.runtime d offending] := by
  refine Stmt.eachPart_raise.mpr ⟨?_, Stmt.eachPart_nil⟩
  refine writes_callAttr.mpr ⟨⟨h.member _ _ (by decide), writes_name.mpr h.runtime⟩, ?_⟩
  exact List.forall_mem_cons.mpr
    ⟨writes_str, List.forall_mem_singleton.mpr (writes_name.mpr ho)⟩

end Fields

theorem returnEntries_writes {es : List (String × Expr)} (hes : ∀ e ∈ es, Writes N A e.2) :
    Stmt.EachPart (WrittenWith N A) [returnEntries es] := by
  rw [returnEntries]
  split
  · exact Stmt.eachPart_ret.mpr ⟨writes_dict.mpr (List.forall_mem_nil _), Stmt.eachPart_nil⟩
  · exact Stmt.eachPart_retDict.mpr ⟨writes_dict.mpr hes, Stmt.eachPart_nil⟩

theorem create_writes (hd : d.Selectable mangling N A) (hv : v ∈ d.variants) {args : List Expr}
    (hargs : ∀ e ∈ args, Writes N A e) :
    Writes N A (.call (constructor mangling d v) args) := by
  refine writes_call.mpr ⟨?_, hargs⟩
  rw [constructor, Mangling.constructor, writes_attr, writes_attr, writes_name]
  exact ⟨hd.constructor v hv, hd.type, hd.moduleName⟩

theorem construct_writes (h : Affords s N A) (hd : d.Selectable mangling N A)
    (hv : v ∈ d.variants) (hj : N "json")
    (hassigned : ∀ n ∈ Stmt.assignsEach (construct mangling s d v), N n) :
    Stmt.EachPart (WrittenWith N A) (construct mangling s d v) := by
  rw [construct] at hassigned ⊢
  split
  · exact Stmt.eachPart_ret.mpr ⟨create_writes hd hv (List.forall_mem_nil _), Stmt.eachPart_nil⟩
  · rename_i hsome
    rw [if_neg hsome] at hassigned
    have htarget : ∀ f ∈ v.fields, isBlockMap f → N (readTarget f) := by
      intro f hf hmap
      apply hassigned
      rw [Stmt.assignsEach_append]
      exact List.mem_append_left _ (Stmt.mem_assignsEach_flatMap hf (readTarget_assigned hmap))
    rw [Stmt.eachPart_append, Stmt.eachPart_flatMap, Stmt.eachPart_retCall]
    refine ⟨fun f hf => readSetup_writes h hj (htarget f hf), create_writes hd hv ?_,
      Stmt.eachPart_nil⟩
    intro e he
    obtain ⟨f, hf, rfl⟩ := List.mem_map.mp he
    exact readValue_writes h hj (htarget f hf)

theorem deconstruct_writes (h : Affords s N A) (hd : d.Selectable mangling N A)
    (hv : v ∈ d.variants) (hvalue : N "value") {tagged : Bool}
    (hassigned : ∀ n ∈ Stmt.assignsEach (deconstruct mangling s tagged v), N n) :
    Stmt.EachPart (WrittenWith N A) (deconstruct mangling s tagged v) := by
  have hsource : ∀ f ∈ v.fields, Writes N A (mangling.destructor (.name "value") f.name) := by
    intro f hf
    exact writes_attr.mpr ⟨hd.field f (mem_fields hv hf) _, writes_name.mpr hvalue⟩
  rw [deconstruct_eq] at hassigned ⊢
  rw [Stmt.eachPart_append, Stmt.eachPart_flatMap]
  refine ⟨fun f hf => writeSetup_writes h (hsource f hf), returnEntries_writes ?_⟩
  rw [entries, List.forall_mem_append]
  constructor
  · cases tagged with
    | false => exact List.forall_mem_nil _
    | true => exact List.forall_mem_singleton.mpr writes_str
  · intro e he
    obtain ⟨f, hf, rfl⟩ := List.mem_map.mp he
    refine writeEntry_writes h (hsource f hf) fun hmap => hassigned _ ?_
    rw [Stmt.assignsEach_append]
    exact List.mem_append_left _ (Stmt.mem_assignsEach_flatMap hf (writeTarget_assigned hmap _))

theorem holder_mem : holder dir ∈ (function mangling runtime d dir).params.map (·.name) := by
  rw [params_eq]
  exact List.mem_cons_self

section Bodies
variable (h : Affords (scope dir runtime d) N A) (hholder : N (holder dir))
include h hholder

theorem erasedBody_writes (hassigned : ∀ n ∈ Stmt.assignsEach (erasedBody runtime d f dir), N n) :
    Stmt.EachPart (WrittenWith N A) (erasedBody runtime d f dir) := by
  cases dir with
  | fromExternal =>
    have htarget : isBlockMap f → N (readTarget f) := by
      intro hmap
      apply hassigned
      rw [erasedBody, Stmt.assignsEach_append]
      exact List.mem_append_left _ (readTarget_assigned hmap)
    rw [erasedBody, Stmt.eachPart_append, Stmt.eachPart_ret]
    exact ⟨readSetup_writes h hholder htarget, readValue_writes h hholder htarget,
      Stmt.eachPart_nil⟩
  | toExternal =>
    have htarget : isBlockMap f → N (writeTarget f) := by
      intro hmap
      apply hassigned
      rw [erasedBody, Stmt.assignsEach_append]
      exact List.mem_append_left _ (writeTarget_assigned hmap _)
    have hvalue : Writes N A (.name "value") := writes_name.mpr hholder
    rw [erasedBody, Stmt.eachPart_append, Stmt.eachPart_ret]
    refine ⟨writeSetup_writes h hvalue, ?_, Stmt.eachPart_nil⟩
    exact writes_dict.mpr (List.forall_mem_singleton.mpr (writeEntry_writes h hvalue htarget))

theorem opening_writes : Stmt.EachPart (WrittenWith N A) (opening d dir) := by
  cases dir with
  | fromExternal =>
    rw [opening]
    split
    · exact Stmt.eachPart_nil
    · refine Stmt.eachPart_assign.mpr ⟨?_, Stmt.eachPart_nil⟩
      refine writes_callAttr.mpr ⟨⟨h.fixed (by decide) _, writes_name.mpr hholder⟩, ?_⟩
      exact List.forall_mem_singleton.mpr writes_str
  | toExternal => exact Stmt.eachPart_nil

variable (hd : d.Selectable mangling N A) (hv : v ∈ d.variants)
include hd hv

theorem soleBody_writes
    (hassigned : ∀ n ∈ Stmt.assignsEach (soleBody mangling runtime d v dir), N n) :
    Stmt.EachPart (WrittenWith N A) (soleBody mangling runtime d v dir) := by
  cases dir with
  | fromExternal => exact construct_writes h hd hv hholder hassigned
  | toExternal => exact deconstruct_writes h hd hv hholder hassigned

theorem branch_writes
    (hassigned : ∀ n ∈ Stmt.assignsEach (branch mangling runtime d v dir), N n) :
    Stmt.EachPart (WrittenWith N A) (branch mangling runtime d v dir) := by
  cases dir with
  | fromExternal =>
    rw [branch] at hassigned ⊢
    split
    · exact Stmt.eachPart_ret.mpr ⟨create_writes hd hv (List.forall_mem_nil _), Stmt.eachPart_nil⟩
    · rename_i henum
      rw [if_neg henum] at hassigned
      exact construct_writes h hd hv hholder hassigned
  | toExternal =>
    rw [branch] at hassigned ⊢
    split
    · exact Stmt.eachPart_ret.mpr ⟨writes_str, Stmt.eachPart_nil⟩
    · rename_i henum
      rw [if_neg henum] at hassigned
      exact deconstruct_writes h hd hv hholder hassigned

omit h hholder in
theorem guard_writes (hsubject : N (subject d dir)) : Writes N A (guard mangling d v dir) := by
  cases dir with
  | fromExternal => exact writes_equal.mpr ⟨writes_name.mpr hsubject, writes_str⟩
  | toExternal => exact writes_attr.mpr ⟨hd.flag v hv _, writes_name.mpr hsubject⟩

end Bodies

/-- What the guards look at is the value, or a variable that the opening assigns. -/
theorem subject_cases (d : Definition) (dir : Direction) : subject d dir = holder dir ∨
    subject d dir ∈ Stmt.assignsEach (opening d dir) := by
  cases dir with
  | fromExternal =>
    rw [subject, opening]
    split
    · exact Or.inl rfl
    · exact Or.inr List.mem_cons_self
  | toExternal => exact Or.inl rfl

theorem mem_assignsEach_map_when {guard : Variant → Expr} {branch : Variant → List Stmt}
    {vs : List Variant} {n : String} (hv : v ∈ vs) (hn : n ∈ Stmt.assignsEach (branch v)) :
    n ∈ Stmt.assignsEach (vs.map fun v => .when (guard v) (branch v)) := by
  induction vs with
  | nil => cases hv
  | cons w vs ih =>
    rw [List.map_cons, Stmt.assignsEach, Stmt.assigns, List.mem_append]
    rcases List.mem_cons.mp hv with rfl | hv
    · exact Or.inl hn
    · exact Or.inr (ih hv)

theorem body_writes
    (h : Supplies (function mangling runtime d dir) (scope dir runtime d) N A)
    (hd : d.Selectable mangling N A) :
    Stmt.EachPart (WrittenWith N A) (function mangling runtime d dir).body := by
  have hholder : N (holder dir) := h.given _ holder_mem
  have hassigned := h.assigned
  by_cases hone : d.variants.length = 1
  · obtain ⟨v, hv⟩ := List.length_eq_one_iff.mp hone
    by_cases hf : ∃ f, v.fields = [f]
    · obtain ⟨f, hf⟩ := hf
      rw [body_erased hv hf] at hassigned ⊢
      exact erasedBody_writes h.affords hholder hassigned
    · rw [body_sole hv fun f hf' => hf ⟨f, hf'⟩] at hassigned ⊢
      exact soleBody_writes h.affords hholder hd (hv ▸ List.mem_cons_self) hassigned
  · rw [body_eq hone, Stmt.assignsEach_append, Stmt.assignsEach_append] at hassigned
    obtain ⟨hopening, hrest⟩ := List.forall_mem_append.mp hassigned
    have hbranches := (List.forall_mem_append.mp hrest).1
    have hsubject : N (subject d dir) := by
      rcases subject_cases d dir with heq | hmem
      · exact heq ▸ hholder
      · exact hopening _ hmem
    rw [body_eq hone, Stmt.eachPart_append, Stmt.eachPart_append, Stmt.eachPart_map_when]
    refine ⟨opening_writes h.affords hholder, fun v hv => ⟨guard_writes hd hv hsubject, ?_⟩,
      raiseUnknown_writes h.affords hsubject⟩
    exact branch_writes h.affords hholder hd hv fun n hn =>
      hbranches n (mem_assignsEach_map_when hv hn)

end Converter

end Marshal
