import Marshal.Proofs.Declaration.Meaning

/-!
# What is visible of declarations

Abstract modules, ghost functions and ghost fields are checked like everything else, but then they
leave no trace: deleting them keeps declarations valid and keeps their catalog. So declarations that
are the same without them, apart from how they are laid out, have the same catalog.
-/

namespace Marshal.Declaration
set_option autoImplicit false

mutual
/-- A written type without the parentheses around single types. -/
def TypeExpr.plain : TypeExpr → TypeExpr
  | .named n args => .named n (TypeExpr.plainEach args)
  | .tuple [t] => t.plain
  | .tuple items => .tuple (TypeExpr.plainEach items)

/-- Written types without the parentheses around single types. -/
def TypeExpr.plainEach : List TypeExpr → List TypeExpr
  | [] => []
  | t :: ts => t.plain :: TypeExpr.plainEach ts
end

def visibleFields (fs : List FieldDecl) : List FieldDecl :=
  (fs.filter (!·.isGhost)).map fun f => { f with type := f.type.plain }

/-- A variant without its ghosts; that it has no fields can be written in two ways. -/
def VariantDecl.visible (v : VariantDecl) : VariantDecl :=
  { v with fields := some (visibleFields v.fieldList) }

/-- A datatype without its ghosts; a bar in front of the first variant makes no difference. -/
def DatatypeDecl.visible (d : DatatypeDecl) : DatatypeDecl :=
  { d with leadingBar := false, variants := d.variants.map (·.visible) }

def FunctionDecl.visible (f : FunctionDecl) : FunctionDecl :=
  { f with params := visibleFields f.params, result := f.result.map (·.plain) }

/-- A module without its ghosts; how datatypes and functions alternate makes no difference. -/
def ModuleDecl.visible (m : ModuleDecl) : ModuleDecl :=
  { m with members := m.datatypes.map (.datatype ·.visible) ++ m.offered.map (.function ·.visible) }

/-- The modules that are not abstract, without their ghosts. -/
def visibleModules (ms : List ModuleDecl) : List ModuleDecl := (concreteModules ms).map (·.visible)

theorem TypeExpr.plainEach_eq_map (ts : List TypeExpr) :
    TypeExpr.plainEach ts = ts.map (·.plain) := by
  induction ts with
  | nil => rfl
  | cons t ts ih => rw [plainEach, ih, List.map_cons]

theorem ModuleDecl.datatypes_visible (m : ModuleDecl) :
    m.visible.datatypes = m.datatypes.map (·.visible) := by
  simp [visible, datatypes]

theorem ModuleDecl.functions_visible (m : ModuleDecl) :
    m.visible.functions = m.offered.map (·.visible) := by
  simp [visible, functions]

theorem visibleFields_of_visibleFields (fs : List FieldDecl) :
    (visibleFields fs).filter (!·.isGhost) = visibleFields fs := by
  refine List.filter_eq_self.mpr fun f hf => ?_
  obtain ⟨g, hg, rfl⟩ := List.mem_map.mp hf
  exact (List.mem_filter.mp hg).2

theorem ModuleDecl.offered_visible (m : ModuleDecl) :
    m.visible.offered = m.offered.map (·.visible) := by
  rw [offered, functions_visible]
  refine List.filter_eq_self.mpr fun f hf => ?_
  obtain ⟨g, hg, rfl⟩ := List.mem_map.mp hf
  exact (List.mem_filter.mp hg).2

theorem concreteModules_visibleModules (ms : List ModuleDecl) :
    concreteModules (visibleModules ms) = visibleModules ms := by
  refine List.filter_eq_self.mpr fun m hm => ?_
  obtain ⟨n, hn, rfl⟩ := List.mem_map.mp hm
  exact (List.mem_filter.mp hn).2

/-- The names that types can refer to are those of visible datatypes. -/
theorem knownNames_visibleModules (ms : List ModuleDecl) :
    knownNames (visibleModules ms) = knownNames (concreteModules ms) := by
  simp only [knownNames, visibleModules, List.flatMap_map, ModuleDecl.datatypes_visible,
    List.map_map]
  rfl

theorem VariantDecl.Distinct.visible {v : VariantDecl} (h : v.Distinct) : v.visible.Distinct := by
  have hnames : v.visible.fieldList.map (·.name) =
      (v.fieldList.filter (!·.isGhost)).map (·.name) := by
    simp only [VariantDecl.visible, fieldList, Option.getD_some, visibleFields, List.map_map]
    rfl
  rw [Distinct, hnames]
  exact h.sublist (List.filter_sublist.map _)

theorem DatatypeDecl.Distinct.visible {d : DatatypeDecl} (h : d.Distinct) :
    d.visible.Distinct := by
  refine ⟨?_, ?_⟩
  · rw [DatatypeDecl.visible, List.map_map]
    exact h.1
  · intro v hv
    obtain ⟨w, hw, rfl⟩ := List.mem_map.mp hv
    exact (h.2 w hw).visible

theorem ModuleDecl.Distinct.visible {m : ModuleDecl} (h : m.Distinct) : m.visible.Distinct := by
  refine ⟨?_, ?_⟩
  · rw [datatypes_visible, List.map_map]
    exact h.1
  · rw [datatypes_visible]
    intro d hd
    obtain ⟨e, he, rfl⟩ := List.mem_map.mp hd
    exact (h.2 e he).visible

theorem FunctionDecl.HasResult.visible {f : FunctionDecl} (h : f.HasResult) :
    f.visible.HasResult :=
  fun hnone => h (Option.map_eq_none_iff.mp hnone)

theorem Valid.visible {ms : List ModuleDecl} (h : Valid ms) : Valid (visibleModules ms) := by
  refine ⟨?_, ?_⟩
  · intro m hm
    obtain ⟨n, hn, rfl⟩ := List.mem_map.mp hm
    exact (h.distinct n (List.mem_of_mem_filter hn)).visible
  · rw [concreteModules_visibleModules]
    intro m hm f hf
    obtain ⟨n, hn, rfl⟩ := List.mem_map.mp hm
    rw [ModuleDecl.offered_visible] at hf
    obtain ⟨g, hg, rfl⟩ := List.mem_map.mp hf
    exact (h.results n hn g hg).visible

section Meaning
variable {known params : List String} {moduleName : String}

theorem TypeExpr.descriptors_plainEach {es : List TypeExpr}
    (h : ∀ e ∈ es, e.plain.descriptor known params = e.descriptor known params) :
    TypeExpr.descriptors known params (TypeExpr.plainEach es) =
      TypeExpr.descriptors known params es := by
  rw [plainEach_eq_map, descriptors_eq_map, descriptors_eq_map, List.map_map]
  exact List.map_congr_left h

/-- Parentheses around a type do not change what it stands for. -/
theorem TypeExpr.descriptor_plain (e : TypeExpr) :
    e.plain.descriptor known params = e.descriptor known params := by
  induction e using TypeExpr.induction with
  | named n args ih => rw [plain, descriptor, descriptor, descriptors_plainEach ih]
  | tuple items ih =>
    obtain _ | ⟨a, _ | ⟨b, items⟩⟩ := items
    · rfl
    · exact ih a List.mem_cons_self
    · exact congrArg TypeDescriptor.tuple (descriptors_plainEach ih)

theorem denotes_plain_iff {e : TypeExpr} {t : TypeDescriptor} :
    Denotes known params e.plain t ↔ Denotes known params e t := by
  rw [denotes_iff, denotes_iff, e.descriptor_plain]

theorem fieldsDenote_visible_iff {fs : List FieldDecl} {gs : List Field} :
    FieldsDenote known params (visibleFields fs) gs ↔ FieldsDenote known params fs gs := by
  rw [FieldsDenote, FieldsDenote, visibleFields_of_visibleFields, visibleFields,
    List.forall₂_map_left_iff]
  simp only [FieldDecl.Denotes, denotes_plain_iff]
  rfl

theorem VariantDecl.denotes_visible_iff {v : VariantDecl} {w : Variant} :
    v.visible.Denotes known params w ↔ v.Denotes known params w :=
  and_congr_right fun _ => fieldsDenote_visible_iff

theorem DatatypeDecl.denotes_visible_iff {d : DatatypeDecl} {def' : Definition} :
    d.visible.Denotes known moduleName def' ↔ d.Denotes known moduleName def' := by
  simp only [Denotes, visible, List.forall₂_map_left_iff, VariantDecl.denotes_visible_iff]

theorem FunctionDecl.resultDenotes_visible_iff {f : FunctionDecl} {t : TypeDescriptor} :
    f.visible.ResultDenotes known t ↔ f.ResultDenotes known t := by
  cases h : f.result with
  | none => simp [ResultDenotes, visible, h]
  | some e => simp [ResultDenotes, visible, h, denotes_plain_iff]

theorem FunctionDecl.denotes_visible_iff {f : FunctionDecl} {s : Signature} :
    f.visible.Denotes known moduleName s ↔ f.Denotes known moduleName s := by
  simp only [Denotes, resultDenotes_visible_iff]
  simp only [visible, fieldsDenote_visible_iff]

theorem ModuleDecl.denotes_visible_iff {m : ModuleDecl} {part : Catalog} :
    m.visible.Denotes known part ↔ m.Denotes known part := by
  simp only [Denotes, datatypes_visible, offered_visible, List.forall₂_map_left_iff]
  simp only [visible, DatatypeDecl.denotes_visible_iff, FunctionDecl.denotes_visible_iff]

end Meaning

theorem isCatalogOf_visible_iff {ms : List ModuleDecl} {c : Catalog} :
    IsCatalogOf (visibleModules ms) c ↔ IsCatalogOf ms c := by
  rw [IsCatalogOf, IsCatalogOf, concreteModules_visibleModules, knownNames_visibleModules,
    visibleModules]
  simp only [List.forall₂_map_left_iff, ModuleDecl.denotes_visible_iff]

theorem catalogOf_visibleModules {ms : List ModuleDecl} {c : Catalog}
    (h : (catalogOf ms).outcome = .ok c) : (catalogOf (visibleModules ms)).outcome = .ok c := by
  obtain ⟨hv, hc⟩ := catalogOf_outcome_eq_ok.mp h
  exact catalogOf_outcome_eq_ok.mpr ⟨hv.visible, isCatalogOf_visible_iff.mpr hc⟩

/-- Texts whose declarations are the same but for abstract modules and ghosts have the same catalog,
if they have one at all. -/
theorem parse_eq_of_visibleModules_eq {text text' : String} {ms ms' : List ModuleDecl}
    {c c' : Catalog} (hms : Renders ms text.toList) (hms' : Renders ms' text'.toList)
    (hvisible : visibleModules ms = visibleModules ms') (hc : (parse text).outcome = .ok c)
    (hc' : (parse text').outcome = .ok c') : c = c' := by
  have h := catalogOf_visibleModules ((parse_of_renders hms).mp hc)
  have h' := catalogOf_visibleModules ((parse_of_renders hms').mp hc')
  rw [hvisible, h'] at h
  exact (Except.ok.inj h).symm

/-- Boxes with ghosts. `T` is declared in an abstract module only. -/
def ghostlyBoxes : String :=
  "abstract module P { datatype T = U }" ++
  "module S { datatype Box = Full(t: T, ghost u: T) ghost function f(): Box }" ++
  "module Q { function g(ghost k: Box): (T) }"

/-- The same boxes without ghosts, laid out in another way. -/
def plainBoxes : String := "module S { datatype Box = | Full(t: T) } module Q { function g(): T }"

def bareType (n : String) : TypeExpr := .named ⟨[n]⟩ []

def ghostlyBoxesModules : List ModuleDecl :=
  [⟨true, ⟨["P"]⟩, [.datatype ⟨"T", [], false, [⟨"U", none⟩]⟩]⟩,
    ⟨false, ⟨["S"]⟩,
      [.datatype ⟨"Box", [], false,
          [⟨"Full", some [⟨false, "t", bareType "T"⟩, ⟨true, "u", bareType "T"⟩]⟩]⟩,
        .function ⟨true, .function, "f", [], [], some (bareType "Box")⟩]⟩,
    ⟨false, ⟨["Q"]⟩,
      [.function ⟨false, .function, "g", [], [⟨true, "k", bareType "Box"⟩],
        some (.tuple [bareType "T"])⟩]⟩]

def plainBoxesModules : List ModuleDecl :=
  [⟨false, ⟨["S"]⟩,
      [.datatype ⟨"Box", [], true, [⟨"Full", some [⟨false, "t", bareType "T"⟩]⟩]⟩]⟩,
    ⟨false, ⟨["Q"]⟩, [.function ⟨false, .function, "g", [], [], some (bareType "T")⟩]⟩]

theorem parse_eq_boxes :
    ∃ c c', Renders ghostlyBoxesModules ghostlyBoxes.toList ∧
      Renders plainBoxesModules plainBoxes.toList ∧
      visibleModules ghostlyBoxesModules = visibleModules plainBoxesModules ∧
      (parse ghostlyBoxes).outcome = .ok c ∧ (parse plainBoxes).outcome = .ok c' ∧ c = c' := by
  have hread : read ghostlyBoxes.toList = .ok ghostlyBoxesModules := by decide +kernel
  have hread' : read plainBoxes.toList = .ok plainBoxesModules := by decide +kernel
  have hvisible : visibleModules ghostlyBoxesModules = visibleModules plainBoxesModules := rfl
  have hc : (parse ghostlyBoxes).outcome = .ok
      ⟨[⟨"S", "Box", [⟨"Full", [⟨"t", .foreign "T"⟩]⟩], []⟩], [⟨"Q", "g", [], .foreign "T"⟩]⟩ := by
    rw [parse, hread]
    decide
  have hc' : (parse plainBoxes).outcome = .ok
      ⟨[⟨"S", "Box", [⟨"Full", [⟨"t", .foreign "T"⟩]⟩], []⟩], [⟨"Q", "g", [], .foreign "T"⟩]⟩ := by
    rw [parse, hread']
    decide
  have hms := read_eq_ok_iff.mp hread
  have hms' := read_eq_ok_iff.mp hread'
  exact ⟨_, _, hms, hms', hvisible, hc, hc',
    parse_eq_of_visibleModules_eq hms hms' hvisible hc hc'⟩

end Marshal.Declaration
