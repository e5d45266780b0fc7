import Marshal.Proofs.Catalog.References
import Marshal.Proofs.Declaration.Meaning
import Marshal.Proofs.Matching

/-!
# References in declared catalogs

A written type only stands for references to datatypes of the text, so every datatype that a
declared catalog refers to has a definition there.
-/

namespace Marshal.Declaration
set_option autoImplicit false

open TypeDescriptor (forall_within_iff mem_namesOf_iff)

structure Resolved (known params : List String) (t : TypeDescriptor) : Prop where
  datatype : t.kind = .datatype → t.name ∈ known
  param : t.kind = .typeParam → t.name ∈ params

theorem Denotes.resolved {known params : List String} {e : TypeExpr} {t : TypeDescriptor}
    (h : Denotes known params e t) : ∀ u, t.Within u → Resolved known params u := by
  induction e using TypeExpr.induction generalizing t with
  | named n args ih =>
    have hargs {ts : List TypeDescriptor} (hts : List.Forall₂ (Denotes known params) args ts) :
        ∀ t ∈ ts, ∀ u, t.Within u → Resolved known params u := by
      intro t ht
      obtain ⟨e, he, hd⟩ := exists_of_mem_right hts ht
      exact ih e he hd
    cases h with
    | param hn => exact forall_within_iff.mpr ⟨⟨nofun, fun _ => hn⟩, nofun⟩
    | int _ _ => exact forall_within_iff.mpr ⟨⟨nofun, nofun⟩, nofun⟩
    | bool _ _ => exact forall_within_iff.mpr ⟨⟨nofun, nofun⟩, nofun⟩
    | string _ _ => exact forall_within_iff.mpr ⟨⟨nofun, nofun⟩, nofun⟩
    | seq _ _ ha =>
      have ha := ih _ List.mem_cons_self ha
      exact forall_within_iff.mpr ⟨⟨nofun, nofun⟩, List.forall_mem_singleton.mpr ha⟩
    | set _ _ ha =>
      have ha := ih _ List.mem_cons_self ha
      exact forall_within_iff.mpr ⟨⟨nofun, nofun⟩, List.forall_mem_singleton.mpr ha⟩
    | map _ _ ha hb =>
      have ha := ih _ List.mem_cons_self ha
      have hb := ih _ (List.mem_cons_of_mem _ List.mem_cons_self) hb
      refine forall_within_iff.mpr ⟨⟨nofun, nofun⟩, List.forall_mem_cons.mpr ⟨ha, ?_⟩⟩
      exact List.forall_mem_singleton.mpr hb
    | bareSeq _ _ => exact forall_within_iff.mpr ⟨⟨nofun, nofun⟩, nofun⟩
    | bareSet _ _ => exact forall_within_iff.mpr ⟨⟨nofun, nofun⟩, nofun⟩
    | bareMap _ _ _ hts => exact forall_within_iff.mpr ⟨⟨nofun, nofun⟩, hargs hts⟩
    | datatype _ _ hk hts => exact forall_within_iff.mpr ⟨⟨fun _ => hk, nofun⟩, hargs hts⟩
    | foreign _ _ _ => exact forall_within_iff.mpr ⟨⟨nofun, nofun⟩, nofun⟩
  | tuple items ih =>
    cases h with
    | paren h => exact ih _ List.mem_cons_self h
    | tuple _ hts =>
      refine forall_within_iff.mpr ⟨⟨nofun, nofun⟩, fun t ht => ?_⟩
      obtain ⟨e, he, hd⟩ := exists_of_mem_right hts ht
      exact ih e he hd

theorem Denotes.references_known {known params : List String} {e : TypeExpr} {t : TypeDescriptor}
    (h : Denotes known params e t) : ∀ r ∈ t.references, r ∈ known := by
  intro r hr
  obtain ⟨u, hu, hkind, rfl⟩ := mem_namesOf_iff.mp hr
  exact (h.resolved u hu).datatype hkind

theorem FieldsDenote.references_known {known params : List String} {fs : List FieldDecl}
    {gs : List Field} (h : FieldsDenote known params fs gs) :
    ∀ g ∈ gs, ∀ r ∈ g.type.references, r ∈ known := by
  intro g hg
  obtain ⟨f, -, -, ht⟩ := exists_of_mem_right h hg
  exact ht.references_known

theorem DatatypeDecl.Denotes.references_known {known : List String} {m : String} {d : DatatypeDecl}
    {def' : Definition} (h : d.Denotes known m def') :
    ∀ g ∈ def'.fields, ∀ r ∈ g.type.references, r ∈ known := by
  intro g hg
  obtain ⟨w, hw, hg⟩ := List.mem_flatMap.mp hg
  obtain ⟨v, -, -, hfields⟩ := exists_of_mem_right h.2.2.2 hw
  exact hfields.references_known g hg

theorem FunctionDecl.Denotes.references_known {known : List String} {m : String} {f : FunctionDecl}
    {s : Signature} (h : f.Denotes known m s) : ∀ r ∈ s.references, r ∈ known := by
  obtain ⟨-, -, hparams, hresult⟩ := h
  intro r hr
  obtain ⟨t, ht, hr⟩ := List.mem_flatMap.mp hr
  rcases List.mem_append.mp ht with ht | ht
  · obtain ⟨g, hg, rfl⟩ := List.mem_map.mp ht
    exact hparams.references_known g hg r hr
  · obtain rfl := List.mem_singleton.mp ht
    rw [ResultDenotes] at hresult
    split at hresult
    · exact hresult.references_known r hr
    · rw [hresult] at hr
      exact absurd hr List.not_mem_nil

theorem IsCatalogOf.defines {ms : List ModuleDecl} {c : Catalog} (h : IsCatalogOf ms c)
    {n : String} (hn : n ∈ knownNames (concreteModules ms)) : c.Defines n := by
  obtain ⟨parts, hparts, hdefinitions, -⟩ := h
  obtain ⟨m, hm, hn⟩ := List.mem_flatMap.mp hn
  obtain ⟨d, hd, rfl⟩ := List.mem_map.mp hn
  obtain ⟨part, hpart, hds, -⟩ := exists_of_mem_left hparts hm
  obtain ⟨def', hdef, -, hname, -⟩ := exists_of_mem_left hds hd
  exact ⟨def', hdefinitions ▸ List.mem_flatMap.mpr ⟨part, hpart, hdef⟩, hname⟩

theorem IsCatalogOf.namesDefined {ms : List ModuleDecl} {c : Catalog} (h : IsCatalogOf ms c) :
    c.NamesDefined := by
  have hdefines := fun n => @IsCatalogOf.defines ms c h n
  obtain ⟨parts, hparts, hdefinitions, hfunctions⟩ := h
  constructor
  · intro d hd f hf r hr
    obtain ⟨part, hpart, hd⟩ := List.mem_flatMap.mp (hdefinitions ▸ hd)
    obtain ⟨m, -, hds, -⟩ := exists_of_mem_right hparts hpart
    obtain ⟨decl, -, hdecl⟩ := exists_of_mem_right hds hd
    exact hdefines r (hdecl.references_known f hf r hr)
  · intro s hs r hr
    obtain ⟨part, hpart, hs⟩ := List.mem_flatMap.mp (hfunctions ▸ hs)
    obtain ⟨m, -, -, hss⟩ := exists_of_mem_right hparts hpart
    obtain ⟨decl, -, hdecl⟩ := exists_of_mem_right hss hs
    exact hdefines r (hdecl.references_known r hr)

/-- Every datatype that a declared catalog refers to has a definition. -/
theorem namesDefined_of_parse {text : String} {c : Catalog}
    (h : (parse text).outcome = .ok c) : c.NamesDefined := by
  unfold parse at h
  split at h
  · cases h
  · exact (catalogOf_outcome_eq_ok.mp (Report.mapError_outcome_eq_ok.mp h)).2.namesDefined

end Marshal.Declaration
