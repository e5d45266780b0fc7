import Marshal.Proofs.Conversion.Called
import Marshal.Proofs.Converter.Dispatch

/-!
# Functions that converters call

The only constructors that a converter calls are those of its own definition, and the converter of
an erased wrapper calls none at all: there the field stands for the value.
-/

namespace Marshal
set_option autoImplicit false

theorem Definition.isErased_iff {d : Definition} :
    d.isErased ↔ ∃ v f, d.variants = [v] ∧ v.fields = [f] := by
  constructor
  · intro h
    have hs : d.shape = .erasedWrapper := eq_of_beq h
    have hne : d.variants ≠ [] := by
      intro hnone
      rw [shape, hnone] at hs
      cases hs
    rcases d.shape_cases hne with ⟨n, f, hv, -⟩ | ⟨v, -, hs'⟩ | ⟨v, w, vs, -, hs', -⟩ |
      ⟨v, w, vs, -, hs'⟩
    · exact ⟨_, f, hv, rfl⟩
    all_goals
      rw [hs] at hs'
      cases hs'
  · rintro ⟨⟨n, fields⟩, f, hv, rfl⟩
    rw [isErased, shape, hv]
    rfl

namespace Converter

open Code (Expr Function Stmt)
open Conversion (Dotfree Ordinary convert_calls)
open Naming (Mangling)

variable {mangling : Mangling} {runtime : String} {d : Definition} {v : Variant} {dir : Direction}
  {s : Scope}

theorem dotfree_scope (dir : Direction) (runtime : String) (d : Definition) :
    Dotfree (scope dir runtime d) := by
  intro c hc
  obtain ⟨p, -, rfl⟩ := List.mem_map.mp hc
  refine (Naming.dotless_sanitize p).append ?_
  cases dir <;> decide

theorem readEntry_calls (f : Field) : (readEntry f).Calls Ordinary := by
  have hget : Ordinary (.attr (.name "json") "get") := .member _ (by decide) (by decide)
  simpa [readEntry] using hget

theorem readSetup_calls (hs : Dotfree s) (f : Field) : Stmt.CallsEach Ordinary (readSetup s f) := by
  rw [readSetup]
  split
  · exact Conversion.readMap_calls le_rfl hs f.type (readEntry_calls f) _
  · exact Stmt.callsEach_nil

theorem readValue_calls (hs : Dotfree s) (f : Field) : (readValue s f).Calls Ordinary := by
  rw [readValue]
  split
  · exact Expr.calls_name
  · exact convert_calls le_rfl hs (readEntry_calls f) 0

theorem writeSetup_calls (hs : Dotfree s) (f : Field) {source : Expr}
    (h : source.Calls Ordinary) : Stmt.CallsEach Ordinary (writeSetup s f source) := by
  rw [writeSetup]
  split
  · exact Conversion.writeMap_calls le_rfl hs f.type h _
  · exact Stmt.callsEach_nil

theorem writeEntry_calls (hs : Dotfree s) (f : Field) {source : Expr}
    (h : source.Calls Ordinary) : (writeEntry s f source).2.Calls Ordinary := by
  rw [writeEntry]
  dsimp only
  split
  · exact Expr.calls_name
  · exact convert_calls le_rfl hs h 0

/-- An ordinary function, or the constructor of a variant. -/
def Permitted (mangling : Mangling) (d : Definition) (v : Variant) (f : Expr) : Prop :=
  Ordinary f ∨ f = constructor mangling d v

theorem construct_calls (hs : Dotfree s) :
    Stmt.CallsEach (Permitted mangling d v) (construct mangling s d v) := by
  rw [construct]
  split
  · simp [Permitted, constructor, Mangling.constructor]
  · rw [Stmt.callsEach_append, Stmt.callsEach_flatMap]
    constructor
    · exact fun f _ => (readSetup_calls hs f).mono fun _ => Or.inl
    · have hvalue : ∀ f ∈ v.fields, (readValue s f).Calls (Permitted mangling d v) :=
        fun f _ => (readValue_calls hs f).mono fun _ => Or.inl
      simpa [Permitted, constructor, Mangling.constructor] using hvalue

theorem deconstruct_calls (hs : Dotfree s) (tagged : Bool) :
    Stmt.CallsEach Ordinary (deconstruct mangling s tagged v) := by
  have hsource (f : Field) : (mangling.destructor (.name "value") f.name).Calls Ordinary :=
    Expr.calls_attr.mpr Expr.calls_name
  have hlast (entries : List (String × Expr)) (h : ∀ e ∈ entries, e.2.Calls Ordinary) :
      Stmt.CallsEach Ordinary
        [if entries.isEmpty then .ret (.dict []) else .retDict entries] := by
    split
    · simp
    · simpa using h
  rw [deconstruct, Stmt.callsEach_append, Stmt.callsEach_flatMap]
  refine ⟨fun f _ => writeSetup_calls hs f (hsource f), hlast _ ?_⟩
  rw [List.forall_mem_append]
  constructor
  · cases tagged with
    | false => exact nofun
    | true => simp
  · intro e he
    obtain ⟨f, -, rfl⟩ := List.mem_map.mp he
    exact writeEntry_calls hs f (hsource f)

theorem branch_calls :
    Stmt.CallsEach (Permitted mangling d v) (branch mangling runtime d v dir) := by
  cases dir with
  | fromExternal =>
    rw [branch]
    split
    · simp [Permitted, constructor, Mangling.constructor]
    · exact construct_calls (dotfree_scope _ runtime d)
  | toExternal =>
    rw [branch]
    split
    · simp
    · exact (deconstruct_calls (dotfree_scope _ runtime d) true).mono fun _ => Or.inl

theorem erasedBody_calls (f : Field) : Stmt.CallsEach Ordinary (erasedBody runtime d f dir) := by
  have hs := dotfree_scope dir runtime d
  cases dir with
  | fromExternal => simpa [erasedBody] using ⟨readSetup_calls hs f, readValue_calls hs f⟩
  | toExternal =>
    have hvalue : (Expr.name "value").Calls Ordinary := Expr.calls_name
    simpa [erasedBody] using ⟨writeSetup_calls hs f hvalue, writeEntry_calls hs f hvalue⟩

theorem soleBody_calls :
    Stmt.CallsEach (Permitted mangling d v) (soleBody mangling runtime d v dir) := by
  have hs := dotfree_scope dir runtime d
  cases dir with
  | fromExternal => exact construct_calls hs
  | toExternal => exact (deconstruct_calls hs false).mono fun _ => Or.inl

theorem guard_calls (v : Variant) : (guard mangling d v dir).Calls Ordinary := by
  cases dir with
  | fromExternal => simp [guard]
  | toExternal => simp [guard, Mangling.isVariant]

theorem opening_calls : Stmt.CallsEach Ordinary (opening d dir) := by
  have hget : Ordinary (.attr (.name "json") "get") := .member _ (by decide) (by decide)
  cases dir with
  | fromExternal =>
    rw [opening]
    split
    · exact Stmt.callsEach_nil
    · simpa using hget
  | toExternal => exact Stmt.callsEach_nil

theorem raiseUnknown_calls (offending : String) :
    Stmt.CallsEach Ordinary [raiseUnknown runtime d offending] := by
  have hraise : Ordinary (.attr (.name runtime) "UnknownVariantError") :=
    .member _ (by decide) (by decide)
  simpa [raiseUnknown] using hraise

/-- A converter calls constructors of its own definition only, and none if that is erased. -/
theorem called_function {f : Expr} (hf : f ∈ (function mangling runtime d dir).called) :
    Ordinary f ∨ d.isErased = false ∧ ∃ v ∈ d.variants, f = constructor mangling d v := by
  by_cases herased : d.isErased
  · obtain ⟨v, g, hv, hg⟩ := Definition.isErased_iff.mp herased
    rw [Function.called, body_erased hv hg] at hf
    exact Or.inl (erasedBody_calls g f hf)
  · suffices h : Ordinary f ∨ ∃ v ∈ d.variants, f = constructor mangling d v from
      h.imp_right fun h => ⟨Bool.eq_false_iff.mpr herased, h⟩
    by_cases hone : d.variants.length = 1
    · obtain ⟨v, hv⟩ := List.length_eq_one_iff.mp hone
      have hfields : ∀ g, v.fields ≠ [g] := fun g hg =>
        herased (Definition.isErased_iff.mpr ⟨v, g, hv, hg⟩)
      rw [Function.called, body_sole hv hfields] at hf
      exact (soleBody_calls f hf).imp_right fun h => ⟨v, hv ▸ List.mem_cons_self, h⟩
    · have hbody : Stmt.CallsEach
          (fun f => Ordinary f ∨ ∃ v ∈ d.variants, f = constructor mangling d v)
          (function mangling runtime d dir).body := by
        rw [body_eq hone, Stmt.callsEach_append, Stmt.callsEach_append]
        refine ⟨opening_calls.mono fun _ => Or.inl, ?_, (raiseUnknown_calls _).mono fun _ => Or.inl⟩
        rw [Stmt.callsEach_map_when]
        intro v hv
        exact ⟨(guard_calls v).mono fun _ => Or.inl,
          branch_calls.mono fun _ => Or.imp_right fun h => ⟨v, hv, h⟩⟩
      exact hbody f hf

end Converter

end Marshal
