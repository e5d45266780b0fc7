import Marshal.Proofs.Declaration.Names

/-!
# Well-formed catalogs

Code is written for a catalog without a look at how its types are built: how many arguments a type
has, which datatypes it names, which type parameters it uses. Whatever types a text of declarations
has written in it, its catalog can be relied on at every depth.
-/

namespace Marshal
set_option autoImplicit false

/--
A type has no more arguments than its kind takes. Only datatypes take any number; the name of a
tuple tells how many there are, and there is no tuple of one component.
-/
def TypeDescriptor.Shaped (t : TypeDescriptor) : Prop :=
  match t.kind with
  | .int | .bool | .string | .typeParam | .foreign => t.args = []
  | .seq | .set => t.args.length ≤ 1
  | .map => t.args.length ≤ 2
  | .tuple => t.args.length ≠ 1 ∧ t.name = "Tuple" ++ toString t.args.length
  | .datatype => True

/-- All types inside a type are shaped, and the datatypes among them have definitions. -/
structure TypeDescriptor.Supported (c : Catalog) (t : TypeDescriptor) : Prop where
  shaped : ∀ u, t.Within u → u.Shaped
  defined : ∀ u, t.Within u → u.kind = .datatype → c.Defines u.name

/-- A definition has variants, which are told apart, and uses the type parameters it declares. -/
structure Definition.WellFormed (c : Catalog) (d : Definition) : Prop where
  types : ∀ t ∈ d.fieldTypes, t.Supported c
  params : ∀ t ∈ d.fieldTypes, ∀ u, t.Within u → u.kind = .typeParam → u.name ∈ d.typeParams
  generic : d.genericParams = d.typeParams
  inhabited : d.variants ≠ []
  variants : (d.variants.map (·.name)).Nodup
  fields : ∀ v ∈ d.variants, (v.fields.map (·.name)).Nodup

/-- Every definition is well-formed, and the types of every signature are supported. -/
structure Catalog.WellFormed (c : Catalog) : Prop where
  definitions : ∀ d ∈ c.definitions, d.WellFormed c
  signatures : ∀ s ∈ c.functions, ∀ t ∈ s.types, t.Supported c

namespace Declaration

open TypeDescriptor (Shaped Supported forall_within_iff mem_namesOf_iff)

/-- What a written type stands for is shaped at every depth, whatever arguments are written. -/
theorem Denotes.shaped {known params : List String} {e : TypeExpr} {t : TypeDescriptor}
    (h : Denotes known params e t) : ∀ u, t.Within u → u.Shaped := by
  induction e using TypeExpr.induction generalizing t with
  | named n args ih =>
    have hargs {ts : List TypeDescriptor} (hts : List.Forall₂ (Denotes known params) args ts) :
        ∀ t ∈ ts, ∀ u, t.Within u → u.Shaped := by
      intro t ht
      obtain ⟨e, he, hd⟩ := exists_of_mem_right hts ht
      exact ih e he hd
    cases h with
    | param _ => exact forall_within_iff.mpr ⟨rfl, nofun⟩
    | int _ _ => exact forall_within_iff.mpr ⟨rfl, nofun⟩
    | bool _ _ => exact forall_within_iff.mpr ⟨rfl, nofun⟩
    | string _ _ => exact forall_within_iff.mpr ⟨rfl, nofun⟩
    | seq _ _ ha =>
      have ha := ih _ List.mem_cons_self ha
      exact forall_within_iff.mpr ⟨Nat.le_refl 1, List.forall_mem_singleton.mpr ha⟩
    | set _ _ ha =>
      have ha := ih _ List.mem_cons_self ha
      exact forall_within_iff.mpr ⟨Nat.le_refl 1, List.forall_mem_singleton.mpr ha⟩
    | map _ _ ha hb =>
      have ha := ih _ List.mem_cons_self ha
      have hb := ih _ (List.mem_cons_of_mem _ List.mem_cons_self) hb
      refine forall_within_iff.mpr ⟨Nat.le_refl 2, List.forall_mem_cons.mpr ⟨ha, ?_⟩⟩
      exact List.forall_mem_singleton.mpr hb
    | bareSeq _ _ => exact forall_within_iff.mpr ⟨Nat.zero_le 1, nofun⟩
    | bareSet _ _ => exact forall_within_iff.mpr ⟨Nat.zero_le 1, nofun⟩
    | bareMap _ _ hlength hts =>
      have hle : _ ≤ 2 := (hts.length_eq ▸ hlength).le
      exact forall_within_iff.mpr ⟨hle, hargs hts⟩
    | datatype _ _ _ hts => exact forall_within_iff.mpr ⟨trivial, hargs hts⟩
    | foreign _ _ _ => exact forall_within_iff.mpr ⟨rfl, nofun⟩
  | tuple items ih =>
    cases h with
    | paren h => exact ih _ List.mem_cons_self h
    | tuple hlength hts =>
      refine forall_within_iff.mpr ⟨⟨hts.length_eq ▸ hlength, rfl⟩, fun t ht => ?_⟩
      obtain ⟨e, he, hd⟩ := exists_of_mem_right hts ht
      exact ih e he hd

theorem IsCatalogOf.supported {ms : List ModuleDecl} {c : Catalog} (h : IsCatalogOf ms c)
    {params : List String} {e : TypeExpr} {t : TypeDescriptor}
    (ht : Denotes (knownNames (concreteModules ms)) params e t) : t.Supported c :=
  ⟨ht.shaped, fun u hu hkind => h.defines ((ht.resolved u hu).datatype hkind)⟩

theorem DatatypeDecl.Denotes.type {known : List String} {m : String} {decl : DatatypeDecl}
    {d : Definition} (h : decl.Denotes known m d) {t : TypeDescriptor} (ht : t ∈ d.fieldTypes) :
    ∃ e, Declaration.Denotes known decl.typeParams e t := by
  obtain ⟨f, hf, rfl⟩ := List.mem_map.mp ht
  obtain ⟨w, hw, hf⟩ := List.mem_flatMap.mp hf
  obtain ⟨v, -, -, hfields⟩ := exists_of_mem_right h.2.2.2 hw
  obtain ⟨g, -, -, htype⟩ := exists_of_mem_right hfields hf
  exact ⟨g.type, htype⟩

theorem DatatypeDecl.Denotes.names_eq {known : List String} {m : String} {decl : DatatypeDecl}
    {d : Definition} (h : decl.Denotes known m d) :
    d.variants.map (·.name) = decl.variants.map (·.name) :=
  (forall₂_map_eq (fun _ _ hv => hv.1.symm) h.2.2.2).symm

/-- The result of a predicate may be left out; it is no written type then. -/
theorem FunctionDecl.Denotes.type {known : List String} {m : String} {f : FunctionDecl}
    {s : Signature} (h : f.Denotes known m s) {t : TypeDescriptor} (ht : t ∈ s.types) :
    t = .bool ∨ ∃ e, Declaration.Denotes known f.typeParams e t := by
  obtain ⟨-, -, hparams, hresult⟩ := h
  rcases List.mem_append.mp ht with ht | ht
  · obtain ⟨g, hg, rfl⟩ := List.mem_map.mp ht
    obtain ⟨p, -, -, htype⟩ := exists_of_mem_right hparams hg
    exact .inr ⟨p.type, htype⟩
  · obtain rfl := List.mem_singleton.mp ht
    rw [ResultDenotes] at hresult
    split at hresult
    · exact .inr ⟨_, hresult⟩
    · exact .inl hresult

theorem IsCatalogOf.function {ms : List ModuleDecl} {c : Catalog} (h : IsCatalogOf ms c)
    {s : Signature} (hs : s ∈ c.functions) :
    ∃ m ∈ ms, ∃ f ∈ m.functions, f.Denotes (knownNames (concreteModules ms)) m.name.text s := by
  obtain ⟨parts, hparts, -, hfunctions⟩ := h
  obtain ⟨part, hpart, hs⟩ := List.mem_flatMap.mp (hfunctions ▸ hs)
  obtain ⟨m, hm, -, hss⟩ := exists_of_mem_right hparts hpart
  obtain ⟨f, hf, hdenotes⟩ := exists_of_mem_right hss hs
  exact ⟨m, List.mem_of_mem_filter hm, f, List.mem_of_mem_filter hf, hdenotes⟩

theorem IsCatalogOf.wellFormed_definition {ms : List ModuleDecl} {c : Catalog}
    (h : IsCatalogOf ms c) (hformed : ∀ m ∈ ms, m.Formed) (hdistinct : ∀ m ∈ ms, m.Distinct)
    {d : Definition} (hd : d ∈ c.definitions) (hgeneric : d.genericParams = d.typeParams) :
    d.WellFormed c := by
  obtain ⟨m, hm, decl, hdecl, hdenotes⟩ := h.datatype hd
  refine ⟨?_, ?_, hgeneric, ?_, ?_, ?_⟩
  · intro t ht
    obtain ⟨e, he⟩ := hdenotes.type ht
    exact h.supported he
  · intro t ht u hu hkind
    obtain ⟨e, he⟩ := hdenotes.type ht
    rw [hdenotes.2.2.1]
    exact (he.resolved u hu).param hkind
  · intro hnone
    have hvariants := hdenotes.names_eq
    rw [hnone, List.map_nil, eq_comm, List.map_eq_nil_iff] at hvariants
    exact ((hformed m hm).datatype hdecl).2.2.1 hvariants
  · rw [hdenotes.names_eq]
    exact ((hdistinct m hm).2 decl hdecl).1
  · intro v hv
    exact h.nodup_fields hdistinct hd hv

/-- The catalog of a text is well-formed. -/
theorem wellFormed_of_parse {text : String} {c : Catalog} (h : (parse text).outcome = .ok c) :
    c.WellFormed := by
  obtain ⟨ms, hms, hvalid, hc⟩ := modules_of_parse h
  constructor
  · intro d hd
    exact hc.wellFormed_definition hms.1 hvalid.distinct hd (genericParams_of_parse h hd)
  · intro s hs t ht
    obtain ⟨m, -, f, -, hdenotes⟩ := hc.function hs
    obtain rfl | ⟨e, he⟩ := hdenotes.type ht
    · exact ⟨forall_within_iff.mpr ⟨rfl, nofun⟩, forall_within_iff.mpr ⟨nofun, nofun⟩⟩
    · exact hc.supported he

def crowdedDatatype : Definition := ⟨"M", "D",
  [⟨"X", [⟨"a", .typeParam "T"⟩, ⟨"b", .seq (.typeParam "T")⟩,
    ⟨"c", .datatype "D" [⟨.set, "set", []⟩]⟩]⟩, ⟨"Y", []⟩], ["T"]⟩

def crowdedFunction : Signature := ⟨"M", "P",
  [⟨"d", ⟨.map, "map", [.int "int"]⟩⟩, ⟨"e", .tuple []⟩, ⟨"f", .foreign "q?"⟩], .bool⟩

/-- Surplus and missing arguments, qualified and unknown names, a tuple of one component. -/
theorem wellFormed_crowded :
    ∃ c, (parse "module M{datatype D<T>=X(a:T<int>,b:seq<T,bool>,c:(M.D<set>))|Y
        predicate P(d:map<int>,e:(),f:q?)}").outcome = .ok c ∧
      c.definitions.length = 1 ∧ c.functions.length = 1 ∧ c.WellFormed := by
  have hc : (parse "module M{datatype D<T>=X(a:T<int>,b:seq<T,bool>,c:(M.D<set>))|Y
        predicate P(d:map<int>,e:(),f:q?)}").outcome =
      .ok ⟨[crowdedDatatype], [crowdedFunction]⟩ := by decide +kernel
  exact ⟨_, hc, rfl, rfl, wellFormed_of_parse hc⟩

end Declaration

end Marshal
