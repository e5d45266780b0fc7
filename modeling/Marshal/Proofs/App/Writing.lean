import Marshal.Proofs.Converter.Writing
import Marshal.Proofs.Generated.Erasure
import Marshal.Proofs.Generated.Scope

/-!
# Names and members that the App class writes

The members of the class are written with their parameters, with the constructors of definitions,
the fields of the model and the functions of the core, and with conversions.
-/

namespace Marshal.App
set_option autoImplicit false

open Code (Expr Function Param Stmt)
open Conversion (Affords Writes WrittenWith writes_attr writes_call writes_callAttr writes_name)
open Naming (Mangling Usable identifier)

variable {a : App} {N : String → Prop} {A : Expr → String → Prop} {d : Definition}

theorem args_write (h : Affords a.scope N A) {param : Field → Param × Expr}
    (hp : ∀ f, param f = a.passed f ∨ param f = a.converted f) {fs : List Field}
    (hfs : ∀ n ∈ (fs.map (·.name)).map identifier, N n) :
    ∀ e ∈ fs.map (fun f => (param f).2), Writes N A e := by
  intro e he
  obtain ⟨f, hf, rfl⟩ := List.mem_map.mp he
  have hname : Writes N A (.name (identifier f.name)) :=
    writes_name.mpr (hfs _ (List.mem_map_of_mem (List.mem_map_of_mem hf)))
  rcases hp f with hparam | hparam
  · rw [hparam]
    exact hname
  · rw [hparam]
    exact h.convert hname 0

theorem constructor_writes {v : Variant} {isAction : Bool}
    (h : Supplies (a.constructor isAction d v) a.scope N A) (hd : d.Selectable a.mangling N A)
    (hv : v ∈ d.variants) : Stmt.EachPart (WrittenWith N A) (a.constructor isAction d v).body := by
  have hparams : ∀ n ∈ (v.fields.map (·.name)).map identifier, N n := by
    rw [← paramNames_constructor (a := a) isAction d v]
    exact h.given
  have hargs := args_write h.affords (constructorParam_cases (a := a) isAction) hparams
  have hbuilding : Writes N A (a.building isAction d v) := Converter.create_writes hd hv hargs
  rw [body_constructor]
  refine Stmt.eachPart_ret.mpr ⟨?_, Stmt.eachPart_nil⟩
  split
  · exact headD_of_forall hargs hbuilding
  · exact hbuilding

theorem accessor_writes {f : Field} (h : Supplies (a.accessor d f) a.scope N A)
    (hnone : N "None") (hd : d.Selectable a.mangling N A) (hf : f ∈ d.fields) :
    Stmt.EachPart (WrittenWith N A) (a.accessor d f).body := by
  obtain ⟨haffords, hgiven, hassigned⟩ := h
  have hparams : ∀ n ∈ if f.type.mapArgs?.isSome then ["m", "key"] else ["m"], N n := by
    rw [← Origin.paramNames_accessor a d f]
    exact hgiven
  rw [body_accessor, accessorBody] at hassigned ⊢
  have hm : N "m" := hparams _ (by split <;> exact List.mem_cons_self)
  have hfield : Writes N A (a.modelField d f) := by
    rw [modelField]
    split
    · exact writes_name.mpr hm
    · exact writes_attr.mpr ⟨hd.field f hf _, writes_name.mpr hm⟩
  cases hmap : f.type.mapArgs? with
  | none => exact Stmt.eachPart_ret.mpr ⟨haffords.convert hfield 0, Stmt.eachPart_nil⟩
  | some found =>
    obtain ⟨key, value⟩ := found
    rw [hmap] at hassigned hparams
    have hkey : Writes N A (.name "key") :=
      writes_name.mpr (hparams _ (List.mem_cons_of_mem _ List.mem_cons_self))
    have hdafny : Writes N A (.name "dafny_key") := writes_name.mpr (hassigned _ List.mem_cons_self)
    have hval : Writes N A (.name "val") :=
      writes_name.mpr (hassigned _ (List.mem_cons_of_mem _ List.mem_cons_self))
    have hlookup {member : String} (hu : Usable member) :
        Writes N A (.callAttr (a.modelField d f) member [.name "dafny_key"]) :=
      writes_callAttr.mpr
        ⟨⟨haffords.member _ _ hu, hfield⟩, List.forall_mem_singleton.mpr hdafny⟩
    rw [Stmt.eachPart_assign, Stmt.eachPart_when, Stmt.eachPart_assign, Stmt.eachPart_ret,
      Stmt.eachPart_ret]
    refine ⟨haffords.convert hkey 0, ⟨hlookup (by decide), hlookup (by decide), ?_⟩,
      writes_name.mpr hnone, Stmt.eachPart_nil⟩
    exact ⟨haffords.convert hval 0, Stmt.eachPart_nil⟩

theorem wrapper_writes {s : Signature} (h : Supplies (a.wrapper s) a.scope N A)
    (hmodule : N a.options.appCoreModule)
    (hcore : A (.name a.options.appCoreModule) (a.mangling.apply s.name)) :
    Stmt.EachPart (WrittenWith N A) (a.wrapper s).body := by
  have hparams : ∀ n ∈ (s.parameters.map (·.name)).map identifier, N n := by
    rw [← paramNames_wrapper (a := a) s]
    exact h.given
  have hcall : Writes N A (a.delegating s) :=
    writes_call.mpr ⟨writes_attr.mpr ⟨hcore, writes_name.mpr hmodule⟩,
      args_write h.affords wrapperParam_cases hparams⟩
  rw [body_wrapper]
  refine Stmt.eachPart_ret.mpr ⟨?_, Stmt.eachPart_nil⟩
  split
  · exact h.affords.convert hcall 0
  · exact hcall

/-- A member is written with what is supplied to it, with what its definition has, and with the
functions of the core. -/
theorem member_writes {g : Function} (hg : g ∈ a.members) (h : Supplies g a.scope N A)
    (hnone : N "None") (hd : ∀ d ∈ a.generationSet.definitions, d.Selectable a.mangling N A)
    (hs : ∀ s ∈ a.functions, N a.options.appCoreModule ∧
      A (.name a.options.appCoreModule) (a.mangling.apply s.name)) :
    Stmt.EachPart (WrittenWith N A) g.body := by
  rcases member_cases hg with ⟨d, hmem, v, hv, rfl⟩ | ⟨d, hmem, v, hv, rfl⟩ |
    ⟨d, hmem, f, hf, rfl⟩ | ⟨s, hmem, rfl⟩
  · exact constructor_writes h (hd d hmem) hv
  · exact constructor_writes h (hd d (domainType?_mem hmem)) hv
  · exact accessor_writes h hnone (hd d (domainType?_mem hmem)) (mem_fields_of_modelFields hmem hf)
  · exact wrapper_writes h (hs s hmem).1 (hs s hmem).2

end Marshal.App
