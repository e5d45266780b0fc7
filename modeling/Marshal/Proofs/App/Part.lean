import Marshal.Proofs.Conversion.Part
import Marshal.Proofs.Generated.Erasure

/-!
# Expressions inside members

Members pass or convert what they are given, build variants, call functions and look entries up;
converters are called in conversions only.
-/

namespace Marshal.App
set_option autoImplicit false

open Code (Expr Function Param Stmt)
open Conversion (Covers)

variable {a : App} {R : TypeDescriptor → Prop} {P : Expr → Prop}

section Members
variable (h : ∀ dir, Covers dir a.scope R P)
include h

theorem parts_args {fs : List Field} {param : Field → Param × Expr}
    (hp : ∀ f, param f = a.passed f ∨ param f = a.converted f) (hr : ∀ f ∈ fs, R f.type) :
    ∀ e ∈ fs.map (fun f => (param f).2), e.EachPart P := by
  intro e he
  obtain ⟨f, hf, rfl⟩ := List.mem_map.mp he
  rcases hp f with hparam | hparam
  · rw [hparam]
    exact (h .fromExternal).name _
  · rw [hparam]
    exact (h .fromExternal).convert (hr f hf) ((h .fromExternal).name _) 0

theorem parts_constructor {v : Variant} (hr : ∀ f ∈ v.fields, R f.type) (isAction : Bool)
    (d : Definition) : Stmt.EachPart P (a.constructor isAction d v).body := by
  have hargs := parts_args h (constructorParam_cases isAction) hr
  have hbuilding : (a.building isAction d v).EachPart P :=
    (h .fromExternal).call_attr ((h .fromExternal).attr ((h .fromExternal).name _) _) _ hargs
  rw [body_constructor, Stmt.eachPart_ret]
  refine ⟨?_, Stmt.eachPart_nil⟩
  split
  · exact headD_of_forall hargs hbuilding
  · exact hbuilding

theorem parts_modelField (d : Definition) (f : Field) : (a.modelField d f).EachPart P := by
  rw [modelField]
  split
  · exact (h .toExternal).name _
  · exact (h .toExternal).attr ((h .toExternal).name _) _

theorem parts_accessor {f : Field} (hf : R f.type) (d : Definition) :
    Stmt.EachPart P (a.accessor d f).body := by
  have hfield := parts_modelField h d f
  rw [body_accessor, accessorBody]
  cases hmap : f.type.mapArgs? with
  | none => exact Stmt.eachPart_ret.mpr ⟨(h .toExternal).convert hf hfield 0, Stmt.eachPart_nil⟩
  | some found =>
    obtain ⟨key, value⟩ := found
    obtain ⟨hkey, hvalue⟩ := mapArgs?_mem hmap
    have hread := (h .fromExternal).convert ((h .fromExternal).arg hf hkey)
      ((h .fromExternal).name "key") 0
    have hwrite := (h .toExternal).convert ((h .toExternal).arg hf hvalue)
      ((h .toExternal).name "val") 0
    have hlookup (member : String) :
        (Expr.callAttr (a.modelField d f) member [.name "dafny_key"]).EachPart P :=
      (h .toExternal).call_attr hfield member
        (List.forall_mem_singleton.mpr ((h .toExternal).name _))
    rw [Stmt.eachPart_assign, Stmt.eachPart_when, Stmt.eachPart_assign, Stmt.eachPart_ret,
      Stmt.eachPart_ret]
    refine ⟨hread, ⟨hlookup "contains", hlookup "get", hwrite, Stmt.eachPart_nil⟩, ?_⟩
    exact ⟨(h .toExternal).name "None", Stmt.eachPart_nil⟩

theorem parts_wrapper {s : Signature} (hr : ∀ t ∈ s.types, R t) :
    Stmt.EachPart P (a.wrapper s).body := by
  have hparams : ∀ f ∈ s.parameters, R f.type := fun f hf =>
    hr _ (List.mem_append_left _ (List.mem_map.mpr ⟨f, hf, rfl⟩))
  have hargs := parts_args h wrapperParam_cases hparams
  have hcall : (a.delegating s).EachPart P :=
    (h .toExternal).call_attr ((h .toExternal).name _) _ hargs
  rw [body_wrapper, Stmt.eachPart_ret]
  refine ⟨?_, Stmt.eachPart_nil⟩
  split
  · exact (h .toExternal).convert (hr _ (List.mem_append_right _ List.mem_cons_self)) hcall 0
  · exact hcall

theorem parts_members (hd : ∀ d ∈ a.generationSet.definitions, ∀ f ∈ d.fields, R f.type)
    (hs : ∀ s ∈ a.functions, ∀ t ∈ s.types, R t) {g : Function} (hg : g ∈ a.members) :
    Stmt.EachPart P g.body := by
  rcases member_cases hg with ⟨d, hmem, v, hv, rfl⟩ | ⟨d, hmem, v, hv, rfl⟩ |
    ⟨d, hmem, f, hf, rfl⟩ | ⟨s, hmem, rfl⟩
  · exact parts_constructor h (fun f hf => hd d hmem f (mem_fields hv hf)) false d
  · exact parts_constructor h
      (fun f hf => hd d (domainType?_mem hmem) f (mem_fields hv hf)) true d
  · exact parts_accessor h (hd d (domainType?_mem hmem) f (mem_fields_of_modelFields hmem hf)) d
  · exact parts_wrapper h (hs s hmem)

end Members

end Marshal.App
