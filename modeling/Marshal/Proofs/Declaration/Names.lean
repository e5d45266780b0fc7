import Marshal.Proofs.Catalog.Collection
import Marshal.Proofs.Declaration.References
import Marshal.Proofs.Naming.Path

/-!
# Names in declared catalogs

Whatever a catalog of declarations calls a variant is a name of the grammar, so it holds no dot. The
fields of a variant are told apart by their names, and use the type parameters that are declared.
-/

namespace Marshal.Declaration
set_option autoImplicit false

open Naming (Dotless)

theorem IsName.dotless {n : String} (h : IsName n) : Dotless n := by
  obtain ⟨c, cs, hn, hc, hcs⟩ := h
  intro hdot
  rw [hn] at hdot
  rcases List.mem_cons.mp hdot with rfl | hdot
  · cases hc
  · cases hcs '.' hdot

theorem ModuleDecl.Formed.datatype {m : ModuleDecl} (h : m.Formed) {d : DatatypeDecl}
    (hd : d ∈ m.datatypes) : d.Formed := by
  obtain ⟨x, hx, hsome⟩ := List.mem_filterMap.mp hd
  cases x with
  | datatype e =>
    obtain rfl : e = d := Option.some.inj hsome
    exact h.2 _ hx
  | function f => cases hsome

theorem IsCatalogOf.datatype {ms : List ModuleDecl} {c : Catalog} (h : IsCatalogOf ms c)
    {d : Definition} (hd : d ∈ c.definitions) :
    ∃ m ∈ ms, ∃ decl ∈ m.datatypes,
      decl.Denotes (knownNames (concreteModules ms)) m.name.text d := by
  obtain ⟨parts, hparts, hdefinitions, -⟩ := h
  obtain ⟨part, hpart, hd⟩ := List.mem_flatMap.mp (hdefinitions ▸ hd)
  obtain ⟨m, hm, hds, -⟩ := exists_of_mem_right hparts hpart
  obtain ⟨decl, hdecl, hdenotes⟩ := exists_of_mem_right hds hd
  exact ⟨m, List.mem_of_mem_filter hm, decl, hdecl, hdenotes⟩

theorem IsCatalogOf.isName_variant {ms : List ModuleDecl} {c : Catalog} (h : IsCatalogOf ms c)
    (hms : ∀ m ∈ ms, m.Formed) {d : Definition} (hd : d ∈ c.definitions) {v : Variant}
    (hv : v ∈ d.variants) : IsName v.name := by
  obtain ⟨m, hm, decl, hdecl, hdenotes⟩ := h.datatype hd
  obtain ⟨w, hw, hname, -⟩ := exists_of_mem_right hdenotes.2.2.2 hv
  have hformed := (hms m hm).datatype hdecl
  rw [hname]
  exact (hformed.2.2.2 w hw).1

theorem dotless_variant_of_parse {text : String} {c : Catalog}
    (h : (parse text).outcome = .ok c) {d : Definition} (hd : d ∈ c.definitions) {v : Variant}
    (hv : v ∈ d.variants) : Dotless v.name := by
  obtain ⟨ms, hms, -, hc⟩ := modules_of_parse h
  exact (hc.isName_variant hms.1 hd hv).dotless

theorem FieldsDenote.names_eq {known params : List String} {fs : List FieldDecl} {gs : List Field}
    (h : FieldsDenote known params fs gs) :
    gs.map (·.name) = (fs.filter (!·.isGhost)).map (·.name) :=
  (forall₂_map_eq (fun _ _ hfield => hfield.1.symm) h).symm

/-- Fields of one variant have different names; those of ghosts are gone. -/
theorem IsCatalogOf.nodup_fields {ms : List ModuleDecl} {c : Catalog} (h : IsCatalogOf ms c)
    (hms : ∀ m ∈ ms, m.Distinct) {d : Definition} (hd : d ∈ c.definitions) {v : Variant}
    (hv : v ∈ d.variants) : (v.fields.map (·.name)).Nodup := by
  obtain ⟨m, hm, decl, hdecl, hdenotes⟩ := h.datatype hd
  obtain ⟨w, hw, -, hfields⟩ := exists_of_mem_right hdenotes.2.2.2 hv
  have hdistinct : (w.fieldList.map (·.name)).Nodup := ((hms m hm).2 decl hdecl).2 w hw
  rw [hfields.names_eq]
  exact hdistinct.sublist (List.filter_sublist.map _)

theorem nodup_fields_of_parse {text : String} {c : Catalog} (h : (parse text).outcome = .ok c)
    {d : Definition} (hd : d ∈ c.definitions) {v : Variant} (hv : v ∈ d.variants) :
    (v.fields.map (·.name)).Nodup := by
  obtain ⟨ms, -, hvalid, hc⟩ := modules_of_parse h
  exact hc.nodup_fields hvalid.distinct hd hv

theorem DatatypeDecl.Denotes.typeParams_declared {known : List String} {m : String}
    {d : DatatypeDecl} {def' : Definition} (h : d.Denotes known m def') {f : Field}
    (hf : f ∈ def'.fields) : ∀ p ∈ f.type.namesOf .typeParam, p ∈ def'.typeParams := by
  intro p hp
  obtain ⟨w, hw, hf⟩ := List.mem_flatMap.mp hf
  obtain ⟨v, -, -, hfields⟩ := exists_of_mem_right h.2.2.2 hw
  obtain ⟨g, -, -, htype⟩ := exists_of_mem_right hfields hf
  obtain ⟨u, hu, hkind, rfl⟩ := TypeDescriptor.mem_namesOf_iff.mp hp
  rw [h.2.2.1]
  exact (htype.resolved u hu).param hkind

theorem typeParams_declared_of_parse {text : String} {c : Catalog}
    (h : (parse text).outcome = .ok c) {d : Definition} (hd : d ∈ c.definitions) {f : Field}
    (hf : f ∈ d.fields) : ∀ p ∈ f.type.namesOf .typeParam, p ∈ d.typeParams := by
  obtain ⟨ms, -, -, hc⟩ := modules_of_parse h
  obtain ⟨m, -, decl, -, hdenotes⟩ := hc.datatype hd
  exact hdenotes.typeParams_declared hf

theorem genericParams_of_parse {text : String} {c : Catalog} (h : (parse text).outcome = .ok c)
    {d : Definition} (hd : d ∈ c.definitions) : d.genericParams = d.typeParams := by
  by_cases hnone : d.typeParams = []
  · -- nothing is declared, so there is nothing that the fields could use
    have hnames : TypeDescriptor.namesOfList .typeParam d.fieldTypes = [] := by
      rw [TypeDescriptor.namesOfList_eq_flatMap, List.flatMap_eq_nil_iff]
      intro t ht
      obtain ⟨f, hf, rfl⟩ := List.mem_map.mp ht
      refine List.eq_nil_iff_forall_not_mem.mpr fun p hp => ?_
      have hmem := typeParams_declared_of_parse h hd hf p hp
      rw [hnone] at hmem
      cases hmem
    rw [Definition.genericParams_eq hnone, hnames, hnone]
    rfl
  · rw [Definition.genericParams, if_neg fun h => hnone (List.isEmpty_iff.mp h)]

end Marshal.Declaration
