import Marshal.Proofs.Closure.Members
import Marshal.Proofs.Declaration.Blocks
import Marshal.Proofs.Generated.Converters
import Marshal.Proofs.Naming.Alike

/-!
# Converters of one name

Definitions with alike names have converters of one name: the module defines all of them, and the
last one is in force. Definitions of one bare name are kept apart by resolution, unless two blocks of
the root module declare it; names that are merely alike are not compared at all.
-/

namespace Marshal

open Code (Behind Function)
open Declaration (ModuleDecl Renders concreteModules parse read_eq_ok_iff)
open Naming (Alike IsConverterName lowerName lowerName_eq_iff)

set_option autoImplicit false

theorem Direction.converterName_eq_iff {dir dir' : Direction} {a b : String} :
    dir.converterName a = dir'.converterName b ↔ Alike a b ∧ dir = dir' := by
  rw [Naming.converterName_eq, Naming.converterName_eq, ← lowerName_eq_iff]
  constructor
  · exact Naming.append_converterEnding_inj
  · rintro ⟨h, rfl⟩
    rw [h]

namespace Generated.Module

variable {m : Module} {n : String}

/-- The definitions of the generation set with a name like the given one. -/
def alike (m : Module) (n : String) : List Definition :=
  m.generationSet.definitions.filter fun d => Alike d.name n

/-- The converter that a name refers to behind all definitions: the last one of that name. -/
def inForce? (m : Module) (n : String) : Option Function :=
  m.converters.reverse.find? (·.name == n)

/-- Whether a line begins the definition of a function of some name. -/
def begins (n line : String) : Bool := ("def " ++ n ++ "(").toList.isPrefixOf line.toList

/-- How often the converter section defines a function of some name. -/
def definedTimes (m : Module) (n : String) : Nat := m.converterLines.countP (begins n)

theorem filter_converters (dir : Direction) (n : String) :
    m.converters.filter (·.name == dir.converterName n) =
      (m.alike n).map (m.converter · dir) := by
  rw [converters, alike, List.filter_flatMap]
  induction m.generationSet.definitions with
  | nil => rfl
  | cons d ds ih =>
    rw [List.flatMap_cons, ih, List.filter_cons]
    have hname (dir' : Direction) : ((m.converter d dir').name == dir.converterName n) =
        (decide (Alike d.name n) && decide (dir' = dir)) := by
      rw [Bool.eq_iff_iff, beq_iff_eq, converter_name, Direction.converterName_eq_iff,
        Bool.and_eq_true, decide_eq_true_iff, decide_eq_true_iff]
    simp only [List.filter_cons, hname, List.filter_nil]
    by_cases h : Alike d.name n
    · cases dir <;> simp [h]
    · simp [h]

theorem inForce?_eq (dir : Direction) (n : String) :
    m.inForce? (dir.converterName n) = (m.alike n).getLast?.map (m.converter · dir) := by
  rw [inForce?, ← List.getLast?_filter, filter_converters, List.getLast?_map]

theorem begins_iff {line : String} :
    begins n line ↔ ∃ rest, line = "def " ++ n ++ "(" ++ rest := by
  rw [begins, List.isPrefixOf_iff_prefix]
  constructor
  · rintro ⟨rest, h⟩
    refine ⟨String.ofList rest, String.toList_inj.mp ?_⟩
    rw [← h, String.toList_append (s := "def " ++ n ++ "("), String.toList_ofList]
  · rintro ⟨rest, rfl⟩
    exact ⟨rest.toList, (String.toList_append ..).symm⟩

theorem begins_header {f : Function} (hf : IsConverterName f.name) (hn : IsConverterName n)
    (typed : Bool) : begins n ("" ++ f.header typed) = (f.name == n) := by
  obtain ⟨rest, hheader⟩ := behind_header f typed
  rw [Bool.eq_iff_iff, begins_iff, beq_iff_eq, hheader]
  constructor
  · rintro ⟨rest', h⟩
    exact eq_of_append_parenthesis hf hn h
  · rintro rfl
    exact ⟨rest, rfl⟩

theorem not_begins_of_behind {line : String} (h : Behind Code.indent line) : begins n line = false := by
  obtain ⟨rest, rfl⟩ := h
  rw [begins, Code.indent]
  simp [List.isPrefixOf]

theorem countP_lines {f : Function} (hf : IsConverterName f.name) (hn : IsConverterName n)
    (typed : Bool) : (f.lines typed "").countP (begins n) = if f.name == n then 1 else 0 := by
  have hbody : (Code.Stmt.blockLines ("" ++ Code.indent) f.body).countP (begins n) = 0 := by
    rw [List.countP_eq_zero]
    intro line hline
    rw [not_begins_of_behind (Code.Stmt.behind_of_blockLines f.body _ hline)]
    decide
  rw [Function.lines, List.countP_cons, hbody, begins_header hf hn, Nat.zero_add]

theorem definedTimes_eq (dir : Direction) (n : String) :
    m.definedTimes (dir.converterName n) = (m.alike n).length := by
  have hn : IsConverterName (dir.converterName n) := ⟨dir, n, rfl⟩
  have hpair (d : Definition) :
      (Converter.pairLines m.options.typed m.mangling m.options.runtimeAlias d).countP
          (begins (dir.converterName n)) =
        ([m.converter d .fromExternal, m.converter d .toExternal].filter
          (·.name == dir.converterName n)).length := by
    have hname (dir' : Direction) : IsConverterName (m.converter d dir').name :=
      ⟨dir', d.name, converter_name dir'⟩
    have hfrom := countP_lines (hname .fromExternal) hn m.options.typed
    have hto := countP_lines (hname .toExternal) hn m.options.typed
    have hblank : ["", ""].countP (begins (dir.converterName n)) = 0 := by simp [begins]
    rw [Converter.pairLines, List.countP_append, List.countP_append, hblank]
    change (Function.lines _ _ (m.converter d .fromExternal)).countP _ + 0 +
      (Function.lines _ _ (m.converter d .toExternal)).countP _ = _
    rw [hfrom, hto, ← List.countP_eq_length_filter, List.countP_cons, List.countP_cons]
    simp only [List.countP_nil]
    omega
  rw [← List.length_map (m.converter · dir), ← filter_converters, converters, List.filter_flatMap,
    definedTimes, converterLines, List.countP_flatMap, List.length_flatMap]
  simp only [Function.comp_def, hpair]

/-- A definition whose converters share their names with no others is the only one like itself. -/
theorem alike_self {dir : Direction}
    (h : (m.generationSet.names.map dir.converterName).Nodup) {d : Definition}
    (hd : d ∈ m.generationSet.definitions) : m.alike d.name = [d] := by
  rw [GenerationSet.names, List.map_map] at h
  have heq : m.alike d.name = m.generationSet.definitions.filter (· == d) := by
    refine List.filter_congr fun e he => ?_
    rw [Bool.eq_iff_iff, decide_eq_true_iff, beq_iff_eq]
    constructor
    · intro halike
      exact List.inj_on_of_nodup_map h he hd (Direction.converterName_eq_iff.mpr ⟨halike, rfl⟩)
    · rintro rfl
      exact lowerName_eq_iff.mp rfl
  rw [heq, List.filter_beq, (List.Nodup.of_map _ h).count, if_pos hd]
  rfl

/-- Converter names differ if bare names do, and alike ones are the same. -/
theorem nodup_converterNames_iff (names : List String) (dir : Direction) :
    (names.map dir.converterName).Nodup ↔
      names.Nodup ∧ ∀ a ∈ names, ∀ b ∈ names, Alike a b → a = b := by
  have hname (a b : String) : dir.converterName a = dir.converterName b ↔ Alike a b := by
    rw [Direction.converterName_eq_iff, and_iff_left rfl]
  constructor
  · intro h
    have hnames := List.Nodup.of_map _ h
    refine ⟨hnames, fun a ha b hb hab => ?_⟩
    exact (List.nodup_map_iff_inj_on hnames).mp h a ha b hb ((hname a b).mpr hab)
  · rintro ⟨hnames, h⟩
    exact (List.nodup_map_iff_inj_on hnames).mpr fun a ha b hb hab =>
      h a ha b hb ((hname a b).mp hab)

end Generated.Module

namespace Generated

/--
For a declared catalog, converter names identify the definitions of the generation set exactly if no
two blocks of the root module declare the same datatype, and no two names in the set are alike
without being the same. In any case the section defines a name once for every definition with an
alike name, and a call by that name reaches the converter of the last one.
-/
theorem converters_named {text : String} {ms : List ModuleDecl} {c : Catalog} {o : Options}
    {m : Module} (hms : Renders ms text.toList) (hc : (parse text).outcome = .ok c)
    (hm : (module c o).outcome = .ok m) :
    (∀ dir : Direction, (m.generationSet.names.map dir.converterName).Nodup ↔
        ((concreteModules ms).filter
          (·.name.text == m.generationSet.rootModule)).Pairwise ModuleDecl.Apart ∧
        ∀ a ∈ m.generationSet.names, ∀ b ∈ m.generationSet.names, Alike a b → a = b) ∧
      (∀ (dir : Direction) (n : String),
        m.definedTimes (dir.converterName n) = (m.alike n).length ∧
        m.inForce? (dir.converterName n) = (m.alike n).getLast?.map (m.converter · dir)) ∧
      ∀ dir : Direction, (m.generationSet.names.map dir.converterName).Nodup →
        ∀ d ∈ m.generationSet.definitions,
          m.definedTimes (dir.converterName d.name) = 1 ∧
          m.inForce? (dir.converterName d.name) = some (m.converter d dir) := by
  refine ⟨fun dir => ?_, fun dir n => ⟨m.definedTimes_eq dir n, m.inForce?_eq dir n⟩,
    fun dir h d hd => ?_⟩
  · obtain ⟨hv, hcatalog⟩ :=
      Declaration.catalogOf_outcome_eq_ok.mp ((Declaration.parse_of_renders hms).mp hc)
    have hset := (module_eq hm).1
    rw [Module.nodup_converterNames_iff, Catalog.nodup_names_of_resolve hset,
      hcatalog.nodup_names_iff hv, Catalog.rootModule_of_resolve hset]
  · rw [m.definedTimes_eq, m.inForce?_eq, Module.alike_self h hd]
    exact ⟨rfl, rfl⟩

def boxes : String := "module M { datatype Box = Box(lid: Lid) datatype Lid = Open | Shut }"

def boxBlocks : List ModuleDecl :=
  [⟨false, ⟨["M"]⟩,
    [.datatype ⟨"Box", [], false, [⟨"Box", some [⟨false, "lid", .named ⟨["Lid"]⟩ []⟩]⟩]⟩,
      .datatype ⟨"Lid", [], false, [⟨"Open", none⟩, ⟨"Shut", none⟩]⟩]⟩]

def boxCatalog : Catalog :=
  ⟨[⟨"M", "Box", [⟨"Box", [⟨"lid", .datatype "Lid" []⟩]⟩], []⟩,
    ⟨"M", "Lid", [⟨"Open", []⟩, ⟨"Shut", []⟩], []⟩], []⟩

def boxModule : Module := ⟨⟨"M", boxCatalog.definitions, []⟩, [], {}, .escaping⟩

theorem converters_named_boxes :
    ∃ ms c m, Renders ms boxes.toList ∧ (parse boxes).outcome = .ok c ∧
      (module c {}).outcome = .ok m ∧ m.generationSet.names = ["Box", "Lid"] ∧
      ∀ dir : Direction, (m.generationSet.names.map dir.converterName).Nodup := by
  have hms : Renders boxBlocks boxes.toList := read_eq_ok_iff.mp (by decide +kernel)
  have hc : (parse boxes).outcome = .ok boxCatalog := by decide +kernel
  have hm : (module boxCatalog {}).outcome = .ok boxModule := rfl
  have hapart :
      ((concreteModules boxBlocks).filter (·.name.text == "M")).Pairwise ModuleDecl.Apart :=
    List.pairwise_singleton _ _
  have halike : ∀ a ∈ ["Box", "Lid"], ∀ b ∈ ["Box", "Lid"], Alike a b → a = b := by decide
  exact ⟨boxBlocks, boxCatalog, boxModule, hms, hc, hm, rfl,
    fun dir => ((converters_named hms hc hm).1 dir).mpr ⟨hapart, halike⟩⟩

def upperBox : Definition := ⟨"M", "Box", [⟨"Empty", []⟩, ⟨"Full", []⟩], []⟩

def lowerBox : Definition := ⟨"M", "box", [⟨"Open", []⟩, ⟨"Shut", []⟩], []⟩

def casedModule : Module := ⟨⟨"M", [upperBox, lowerBox], []⟩, [], {}, .escaping⟩

/-- Two enumerations whose names differ in case only have the same converters: those of the second. -/
theorem converters_clash :
    ∃ c m d e,
      (parse "module M { datatype Box = Empty | Full datatype box = Open | Shut }").outcome = .ok c ∧
      (module c {}).outcome = .ok m ∧ m.generationSet.definitions = [d, e] ∧ d.name ≠ e.name ∧
      ∀ dir : Direction, dir.converterName d.name = dir.converterName e.name ∧
        m.definedTimes (dir.converterName d.name) = 2 ∧
        m.inForce? (dir.converterName d.name) = some (m.converter e dir) := by
  have halike : casedModule.alike upperBox.name = [upperBox, lowerBox] := by decide
  refine ⟨⟨[upperBox, lowerBox], []⟩, casedModule, upperBox, lowerBox, by decide +kernel, rfl, rfl,
    by decide, fun dir => ?_⟩
  rw [Module.definedTimes_eq, Module.inForce?_eq, halike]
  exact ⟨Direction.converterName_eq_iff.mpr ⟨by decide, rfl⟩, rfl, rfl⟩

end Generated

end Marshal
