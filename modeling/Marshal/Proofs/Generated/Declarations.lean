import Marshal.Proofs.App.ClassBody
import Marshal.Proofs.Declaration.WellFormed
import Marshal.Proofs.Generated.Identifiers

/-!
# Names of type declarations

Every type is declared in two forms, and a type of several forms has one more for each variant.
Their names are those of types, or those of a type and a variant joined. The variant of one type may
so get the name of another type; what is declared last is then meant wherever the name stands in an
annotation.
-/

namespace Marshal
set_option autoImplicit false

open App (dropPrefix?_append dropPrefix?_eq_none leadingName leadingName_append)
open Declaration (IsCatalogOf modules_of_parse parse)
open Naming (Mangling Matching Unmatched isIdentifierChar jsonTypeName sanitize sanitize_append
  sanitize_eq_iff valueTypeName)

namespace Naming

def IsViewName (n : String) : Prop := ∃ t, n = jsonTypeName t ∨ n = valueTypeName t

theorem IsViewName.chars {n : String} (h : IsViewName n) : ∀ c ∈ n.toList, isIdentifierChar c := by
  have happend {t ending : String} (hending : ∀ c ∈ ending.toList, isIdentifierChar c) :
      ∀ c ∈ (sanitize t ++ ending).toList, isIdentifierChar c := by
    rw [String.toList_append, List.forall_mem_append]
    exact ⟨isIdentifierChar_sanitize t, hending⟩
  obtain ⟨t, rfl | rfl⟩ := h
  · exact happend (List.all_eq_true.mp rfl)
  · exact happend (List.all_eq_true.mp rfl)

/-- A name of a form has a letter that the word in front of a class has not. -/
theorem IsViewName.exists_not_mem {n : String} (h : IsViewName n) :
    ∃ c ∈ n.toList, c ∉ "class ".toList := by
  obtain ⟨t, rfl | rfl⟩ := h
  · refine ⟨'J', ?_, by decide⟩
    rw [jsonTypeName, String.toList_append]
    exact List.mem_append_right _ (by decide)
  · refine ⟨'V', ?_, by decide⟩
    rw [valueTypeName, String.toList_append]
    exact List.mem_append_right _ (by decide)

theorem jsonTypeName_eq_iff {a b : String} : jsonTypeName a = jsonTypeName b ↔ Matching a b := by
  rw [jsonTypeName, jsonTypeName, String.append_left_inj, sanitize_eq_iff]

theorem valueTypeName_eq_iff {a b : String} : valueTypeName a = valueTypeName b ↔ Matching a b := by
  rw [valueTypeName, valueTypeName, String.append_left_inj, sanitize_eq_iff]

theorem jsonTypeName_ne_valueTypeName (a b : String) : jsonTypeName a ≠ valueTypeName b := by
  intro h
  have hlast := congrArg (·.toList.getLast?) h
  simp [jsonTypeName, valueTypeName] at hlast

end Naming

open Naming (IsViewName jsonTypeName_eq_iff jsonTypeName_ne_valueTypeName valueTypeName_eq_iff)

namespace View

/-- The name that a line of the section binds, by a class or by an assignment. -/
def declaredName? (line : String) : Option String :=
  match line.toList.dropPrefix? "class ".toList with
  | some rest => some (leadingName rest)
  | none =>
    if " = ".toList <+: line.toList.dropWhile isIdentifierChar then some (leadingName line.toList)
    else none

theorem declaredName?_assign {n rest : String} (hn : IsViewName n)
    (hrest : " = ".toList <+: rest.toList) : declaredName? (n ++ rest) = some n := by
  have hclass : ¬ "class ".toList <+: (n ++ rest).toList := by
    intro h
    rw [String.toList_append] at h
    -- the name would have to hold the blank behind the word, or be a part of the word
    rcases List.prefix_or_prefix_of_prefix h (List.prefix_append _ _) with hlong | hshort
    · exact absurd (hn.chars ' ' (hlong.subset (by decide))) (by decide)
    · obtain ⟨c, hc, hnot⟩ := hn.exists_not_mem
      exact hnot (hshort.subset hc)
  obtain ⟨cs, hcs⟩ := hrest
  have hblank : rest.toList = ' ' :: ("= ".toList ++ cs) := hcs.symm
  rw [declaredName?, dropPrefix?_eq_none hclass, String.toList_append, hblank,
    List.dropWhile_append_of_pos hn.chars, List.dropWhile_cons_of_neg (by decide),
    leadingName_append hn.chars rfl]
  exact if_pos ⟨cs, rfl⟩

theorem declaredName?_class {n : String} (hn : IsViewName n) :
    declaredName? ("class " ++ n ++ "(Protocol):") = some n := by
  have hline : ("class " ++ n ++ "(Protocol):").toList =
      "class ".toList ++ (n.toList ++ '(' :: "Protocol):".toList) := by
    simp only [String.toList_append, List.append_assoc]
    rfl
  rw [declaredName?, hline, dropPrefix?_append]
  exact congrArg some (leadingName_append hn.chars rfl _)

theorem declaredName?_indent (code : String) : declaredName? (Code.indent ++ code) = none := by
  have hline : (Code.indent ++ code).toList = ' ' :: ("   ".toList ++ code.toList) := by
    rw [String.toList_append]
    rfl
  have hclass : ¬ "class ".toList <+: ' ' :: ("   ".toList ++ code.toList) := by
    rintro ⟨rest, h⟩
    cases h
  rw [declaredName?, hline, dropPrefix?_eq_none hclass, List.dropWhile_cons_of_neg (by decide)]
  apply if_neg
  rintro ⟨rest, h⟩
  cases h

theorem lines_cases (v : View) : (∃ rest, v.lines = [v.name ++ (" = " ++ rest)]) ∨
    ∃ ms : List String,
      v.lines = ("class " ++ v.name ++ "(Protocol):") :: ms.map (Code.indent ++ ·) := by
  cases v with
  | literals n tags => exact Or.inl ⟨literal tags, by rw [lines, String.append_assoc, name]⟩
  | record n tag es =>
    have hopen : " = TypedDict(\"" = " = " ++ "TypedDict(\"" := by decide
    refine Or.inl ⟨"TypedDict(\"" ++ n ++ "\", \x7b" ++ ", ".intercalate (entryTexts tag es) ++
      "\x7d)", ?_⟩
    simp only [lines, name, hopen, String.append_assoc]
  | union n ms =>
    have hopen : " = Union[" = " = " ++ "Union[" := by decide
    refine Or.inl ⟨"Union[" ++ ", ".intercalate ms ++ "]", ?_⟩
    simp only [lines, name, hopen, String.append_assoc]
  | «alias» n form => exact Or.inl ⟨form.text, by rw [lines, String.append_assoc, name]⟩
  | protocol n ms =>
    refine Or.inr ⟨ms.map fun m => m.1 ++ ": " ++ m.2.text, ?_⟩
    rw [lines, name, List.map_map]
    simp only [Function.comp_def, String.append_assoc]

theorem filterMap_lines {v : View} (hv : IsViewName v.name) :
    v.lines.filterMap declaredName? = [v.name] := by
  rcases v.lines_cases with ⟨rest, hlines⟩ | ⟨ms, hlines⟩
  · have hrest : " = ".toList <+: (" = " ++ rest).toList := by
      rw [String.toList_append]
      exact List.prefix_append _ _
    rw [hlines, List.filterMap_cons_some (declaredName?_assign hv hrest), List.filterMap_nil]
  · have hmembers : (ms.map (Code.indent ++ ·)).filterMap declaredName? = [] := by
      rw [List.filterMap_map, List.filterMap_eq_nil_iff]
      exact fun m _ => declaredName?_indent m
    rw [hlines, List.filterMap_cons_some (declaredName?_class hv), hmembers]

/-- The declaration that a name refers to behind some declarations: the last one of that name. -/
def latest? (vs : List View) (n : String) : Option View := vs.reverse.find? (·.name == n)

theorem latest?_of_nodup {vs : List View} (above : List View) (h : (vs.map (·.name)).Nodup)
    {v : View} (hv : v ∈ vs) : latest? (above ++ vs) v.name = some v := by
  obtain ⟨before, after, rfl⟩ := List.append_of_mem hv
  rw [List.map_append, List.map_cons, List.nodup_middle] at h
  -- read from the end, nothing of the name comes before it
  have hafter : after.reverse.find? (·.name == v.name) = none := by
    rw [List.find?_eq_none]
    intro w hw heq
    have hmem : w.name ∈ after.map (·.name) := List.mem_map_of_mem (List.mem_reverse.mp hw)
    exact (List.nodup_cons.mp h).1 (eq_of_beq heq ▸ List.mem_append_right _ hmem)
  rw [latest?, ← List.append_assoc, List.reverse_append, List.reverse_cons, List.append_assoc,
    List.find?_append, hafter, Option.none_or, List.singleton_append]
  exact List.find?_cons_of_pos (beq_self_eq_true v.name)

end View

open View (declaredName? latest? latest?_of_nodup)

namespace Definition

/-- Whether the external form has a declared form for each variant. -/
def isTagged (d : Definition) : Bool := !d.isEnumLike && d.variants.length != 1

def views (mangling : Mangling) (runtime : String) (d : Definition) : List View :=
  d.externalViews ++ [d.internalView mangling runtime]

/-- What the declarations of the external form are named after: variants, then the type. -/
def titles (d : Definition) : List String :=
  (if d.isTagged then d.variants.map (d.name ++ ·.name) else []) ++ [d.name]

def variantView (d : Definition) (v : Variant) : View :=
  .record (d.variantViewName v) (some v.name) (viewEntries v.fields)

def unionView (d : Definition) : View :=
  .union (jsonTypeName d.name) (d.variants.map d.variantViewName)

variable {d : Definition} {mangling : Mangling} {runtime : String}

theorem externalViews_of_isTagged (h : d.isTagged) :
    d.externalViews = d.variants.map d.variantView ++ [d.unionView] := by
  rw [isTagged, Bool.and_eq_true, Bool.not_eq_true', bne_iff_ne] at h
  rw [externalViews, h.1, if_neg Bool.false_ne_true]
  split
  · rename_i v hv
    rw [hv] at h
    exact absurd rfl h.2
  · rfl

theorem externalViews_of_not_isTagged (h : d.isTagged = false) :
    ∃ v, d.externalViews = [v] ∧ v.name = jsonTypeName d.name := by
  rw [externalViews]
  split
  · exact ⟨_, rfl, rfl⟩
  · rename_i henum
    split
    · exact ⟨_, rfl, rfl⟩
    · rename_i hmany
      have hone : d.variants.length = 1 := by
        by_contra hne
        rw [isTagged, Bool.eq_false_iff.mpr henum, Bool.not_false, Bool.true_and,
          bne_eq_false_iff_eq] at h
        exact hne h
      obtain ⟨v, hv⟩ := List.length_eq_one_iff.mp hone
      exact absurd hv (hmany v)

theorem variantViewName_eq (d : Definition) (v : Variant) :
    d.variantViewName v = jsonTypeName (d.name ++ v.name) := by
  rw [variantViewName, jsonTypeName, sanitize_append]

theorem names_externalViews (d : Definition) :
    d.externalViews.map (·.name) = d.titles.map jsonTypeName := by
  cases h : d.isTagged with
  | true =>
    rw [externalViews_of_isTagged h, titles, h, if_pos rfl, List.map_append, List.map_append,
      List.map_map, List.map_map]
    refine congrArg (· ++ [_]) (List.map_congr_left fun v _ => ?_)
    exact d.variantViewName_eq v
  | false =>
    obtain ⟨v, hv, hname⟩ := externalViews_of_not_isTagged h
    rw [hv, titles, h, if_neg Bool.false_ne_true, List.map_singleton, hname]
    rfl

theorem name_internalView : (d.internalView mangling runtime).name = valueTypeName d.name := by
  rw [internalView]
  split <;> rfl

theorem names_views : (d.views mangling runtime).map (·.name) =
    d.titles.map jsonTypeName ++ [valueTypeName d.name] := by
  rw [views, List.map_append, names_externalViews, List.map_singleton, name_internalView]

theorem isViewName_of_views {v : View} (hv : v ∈ d.views mangling runtime) : IsViewName v.name := by
  have hname := List.mem_map_of_mem (f := View.name) hv
  rw [names_views] at hname
  rcases List.mem_append.mp hname with h | h
  · obtain ⟨t, -, ht⟩ := List.mem_map.mp h
    exact ⟨t, Or.inl ht.symm⟩
  · exact ⟨d.name, Or.inr (List.mem_singleton.mp h)⟩

theorem filterMap_viewLines : (d.viewLines mangling runtime).filterMap declaredName? =
    (d.views mangling runtime).map (·.name) := by
  have hblank : [""].filterMap declaredName? = [] := rfl
  have hview : ∀ v ∈ d.views mangling runtime, v.lines.filterMap declaredName? = [v.name] :=
    fun v hv => View.filterMap_lines (isViewName_of_views hv)
  obtain ⟨hexternal, hinternal⟩ := List.forall_mem_append.mp hview
  rw [viewLines, List.filterMap_append, List.filterMap_append, hblank, List.append_nil,
    List.filterMap_flatMap, List.flatMap_congr hexternal, List.forall_mem_singleton.mp hinternal,
    ← List.map_eq_flatMap, views, List.map_append, List.map_singleton]

/-- The variants of a type have forms of different names if they do not match themselves. -/
theorem nodup_names_variantViews_iff (hvariants : (d.variants.map (·.name)).Nodup) :
    ((d.variants.map d.variantView).map (·.name)).Nodup ↔
      Unmatched id (d.variants.map (·.name)) := by
  have hjoined (a b : String) :
      jsonTypeName (d.name ++ a) = jsonTypeName (d.name ++ b) ↔ Matching (id a) (id b) := by
    rw [jsonTypeName, jsonTypeName, String.append_left_inj, sanitize_append, sanitize_append,
      String.append_right_inj, sanitize_eq_iff]
    rfl
  have hnames : (d.variants.map d.variantView).map (·.name) =
      (d.variants.map (·.name)).map fun n => jsonTypeName (d.name ++ n) := by
    rw [List.map_map, List.map_map]
    exact List.map_congr_left fun v _ => d.variantViewName_eq v
  rw [hnames, Naming.nodup_map_iff hjoined, and_iff_right hvariants]

theorem variantViewName_ne {v : Variant} (hv : v.name ≠ "") :
    d.variantViewName v ≠ jsonTypeName d.name := by
  rw [variantViewName, jsonTypeName, Ne, String.append_left_inj]
  intro h
  have hlength := congrArg (·.toList.length) h
  have hsanitize : (sanitize v.name).toList ≠ [] := fun hnil =>
    Naming.sanitize_ne_empty hv (String.toList_inj.mp hnil)
  rw [String.toList_append, List.length_append] at hlength
  exact hsanitize (List.eq_nil_of_length_eq_zero (by omega))

/-- The declarations of one type have different names if those of its variants do not match. -/
theorem nodup_names_views_iff (hnames : ∀ v ∈ d.variants, v.name ≠ "")
    (hvariants : (d.variants.map (·.name)).Nodup) :
    ((d.views mangling runtime).map (·.name)).Nodup ↔
      (d.isTagged → Unmatched id (d.variants.map (·.name))) := by
  have hvalue : valueTypeName d.name ∉ d.externalViews.map (·.name) := by
    rw [names_externalViews]
    intro h
    obtain ⟨t, -, ht⟩ := List.mem_map.mp h
    exact jsonTypeName_ne_valueTypeName t d.name ht
  rw [views, List.map_append, List.map_singleton, name_internalView, List.nodup_append_comm,
    List.singleton_append, List.nodup_cons, and_iff_right hvalue]
  cases h : d.isTagged with
  | false =>
    obtain ⟨v, hv, -⟩ := externalViews_of_not_isTagged h
    simp [hv]
  | true =>
    have hunion : d.unionView.name ∉ (d.variants.map d.variantView).map (·.name) := by
      rw [List.map_map]
      intro hmem
      obtain ⟨v, hv, heq⟩ := List.mem_map.mp hmem
      exact variantViewName_ne (hnames v hv) heq
    rw [externalViews_of_isTagged h, List.map_append, List.map_singleton, List.nodup_append_comm,
      List.singleton_append, List.nodup_cons, and_iff_right hunion,
      nodup_names_variantViews_iff hvariants]
    exact ⟨fun hunmatched _ => hunmatched, fun hunmatched => hunmatched rfl⟩

end Definition

namespace Generated

variable {c : Catalog} {o : Options} {m : Module}

namespace Module

def views (m : Module) : List View :=
  m.generationSet.definitions.flatMap (·.views m.mangling m.options.runtimeAlias)

/-- What the declarations of external forms are named after, in order. -/
def titles (m : Module) : List String := m.generationSet.definitions.flatMap (·.titles)

theorem filterMap_viewLines : m.viewLines.filterMap declaredName? = m.views.map (·.name) := by
  rw [viewLines, List.filterMap_flatMap, views, List.map_flatMap]
  exact List.flatMap_congr fun d _ => Definition.filterMap_viewLines

theorem names_views : (m.views.map (·.name)).Perm
    (m.titles.map jsonTypeName ++ m.generationSet.names.map valueTypeName) := by
  have hnames (d : Definition) : (d.views m.mangling m.options.runtimeAlias).map (·.name) =
      d.titles.map jsonTypeName ++ [valueTypeName d.name] := Definition.names_views
  rw [views, List.map_flatMap, titles, List.map_flatMap, GenerationSet.names, List.map_map,
    List.map_eq_flatMap]
  simp only [hnames]
  exact (List.flatMap_append_perm _ _ _).symm

theorem names_sublist_titles : m.generationSet.names.Sublist m.titles := by
  rw [GenerationSet.names, titles, List.map_eq_flatMap]
  induction m.generationSet.definitions with
  | nil => exact List.Sublist.refl _
  | cons d ds ih =>
    rw [List.flatMap_cons, List.flatMap_cons]
    exact (List.sublist_append_right _ _).append ih

theorem nodup_names_views_iff :
    (m.views.map (·.name)).Nodup ↔ m.titles.Nodup ∧ Unmatched id m.titles := by
  have hdisjoint :
      (m.titles.map jsonTypeName).Disjoint (m.generationSet.names.map valueTypeName) := by
    intro n hjson hvalue
    obtain ⟨a, -, rfl⟩ := List.mem_map.mp hjson
    obtain ⟨b, -, hb⟩ := List.mem_map.mp hvalue
    exact jsonTypeName_ne_valueTypeName a b hb.symm
  have hjson (a b : String) : jsonTypeName a = jsonTypeName b ↔ Matching (id a) (id b) :=
    jsonTypeName_eq_iff
  have hvalue (a b : String) : valueTypeName a = valueTypeName b ↔ Matching (id a) (id b) :=
    valueTypeName_eq_iff
  rw [m.names_views.nodup_iff, List.nodup_append', and_iff_left hdisjoint,
    Naming.nodup_map_iff hjson, Naming.nodup_map_iff hvalue]
  -- what runtime forms are named after is among the titles
  refine and_iff_left_of_imp fun ⟨htitles, hunmatched⟩ => ?_
  have hsublist := m.names_sublist_titles
  exact ⟨htitles.sublist hsublist, fun a ha b hb =>
    hunmatched a (hsublist.subset ha) b (hsublist.subset hb)⟩

/-- The forms of the variants of a type stand right above the form that joins them. -/
theorem views_of_isTagged {d : Definition} (hd : d ∈ m.generationSet.definitions)
    (htagged : d.isTagged) :
    ∃ above below, m.views = above ++ d.variants.map d.variantView ++ d.unionView :: below := by
  obtain ⟨before, after, hset⟩ := List.append_of_mem hd
  rw [views, hset, List.flatMap_append, List.flatMap_cons, Definition.views,
    Definition.externalViews_of_isTagged htagged]
  simp only [List.append_assoc, List.singleton_append]
  exact ⟨_, _, rfl⟩

theorem latest?_views (h : (m.views.map (·.name)).Nodup) {v : View} (hv : v ∈ m.views) :
    latest? m.views v.name = some v := latest?_of_nodup [] h hv

/--
The section of type declarations binds the names of the views and no others. Two of them are the
same exactly if two titles are, or match; that takes variants that match or more than one type. A
type with a form for each variant joins these forms, whatever other types are declared. Annotations
mean the views of the type that they are made for if no name is bound twice.
-/
structure DeclaresViews (m : Module) : Prop where
  part : m.options.typed → m.generationSet.definitions ≠ [] →
    ∃ before after, m.lines = before ++ sectionLines "Type Declarations" m.viewLines ++ after
  declared : m.viewLines.filterMap declaredName? = m.views.map (·.name)
  distinct : (m.views.map (·.name)).Nodup ↔ m.titles.Nodup ∧ Unmatched id m.titles
  alone : ∀ d ∈ m.generationSet.definitions,
    ((d.views m.mangling m.options.runtimeAlias).map (·.name)).Nodup ↔
      (d.isTagged → Unmatched id (d.variants.map (·.name)))
  member : ∀ d ∈ m.generationSet.definitions, d.isTagged →
    Unmatched id (d.variants.map (·.name)) →
    ∃ above below, m.views = above ++ d.unionView :: below ∧
      ∀ v ∈ d.variants, latest? above (d.variantViewName v) = some (d.variantView v)
  annotation : (m.views.map (·.name)).Nodup →
    ∀ d ∈ m.generationSet.definitions, ∀ args,
      (∃ n, (TypeDescriptor.datatype d.name args).externalView = .forward n ∧
        ∃ v ∈ d.externalViews, latest? m.views n = some v) ∧
      ∃ n, (TypeDescriptor.datatype d.name args).internalView m.options.runtimeAlias = .forward n ∧
        latest? m.views n = some (d.internalView m.mangling m.options.runtimeAlias)

theorem lines_eq_append_viewLines (ho : m.options.typed)
    (hd : m.generationSet.definitions ≠ []) :
    ∃ before after, m.lines = before ++ sectionLines "Type Declarations" m.viewLines ++ after := by
  have hsome : m.generationSet.definitions.isEmpty = false := List.isEmpty_eq_false_iff.mpr hd
  refine ⟨[""] ++ m.headerLines ++ m.importLines ++
      sectionLines "Helpers" ("" :: Helper.allLines true m.options.runtimeAlias),
    sectionLines "Datatype Conversions" m.converterLines ++
      sectionLines "API Wrapper" m.app.lines, ?_⟩
  rw [lines, ho, hsome]
  simp only [Bool.not_false, Bool.and_self, if_true, List.append_assoc]

theorem latest?_variantViewName {d : Definition} (hd : d ∈ m.generationSet.definitions)
    (htagged : d.isTagged) (hvariants : (d.variants.map (·.name)).Nodup)
    (hunmatched : Unmatched id (d.variants.map (·.name))) :
    ∃ above below, m.views = above ++ d.unionView :: below ∧
      ∀ v ∈ d.variants, latest? above (d.variantViewName v) = some (d.variantView v) := by
  obtain ⟨above, below, hviews⟩ := m.views_of_isTagged hd htagged
  have hnodup := (Definition.nodup_names_variantViews_iff hvariants).mpr hunmatched
  exact ⟨_, below, hviews, fun v hv => latest?_of_nodup above hnodup (List.mem_map_of_mem hv)⟩

theorem latest?_externalView (h : (m.views.map (·.name)).Nodup) {d : Definition}
    (hd : d ∈ m.generationSet.definitions) :
    ∃ v ∈ d.externalViews, latest? m.views (jsonTypeName d.name) = some v := by
  have hname : jsonTypeName d.name ∈ d.externalViews.map (·.name) := by
    rw [Definition.names_externalViews]
    exact List.mem_map_of_mem (List.mem_append_right _ List.mem_cons_self)
  obtain ⟨v, hv, heq⟩ := List.mem_map.mp hname
  have hmem : v ∈ m.views := List.mem_flatMap.mpr ⟨d, hd, List.mem_append_left _ hv⟩
  exact ⟨v, hv, heq ▸ m.latest?_views h hmem⟩

theorem latest?_internalView (h : (m.views.map (·.name)).Nodup) {d : Definition}
    (hd : d ∈ m.generationSet.definitions) : latest? m.views (valueTypeName d.name) =
      some (d.internalView m.mangling m.options.runtimeAlias) := by
  have hmem : d.internalView m.mangling m.options.runtimeAlias ∈ m.views :=
    List.mem_flatMap.mpr ⟨d, hd, List.mem_append_right _ List.mem_cons_self⟩
  have hlatest := m.latest?_views h hmem
  rwa [Definition.name_internalView] at hlatest

end Module

/-- What the typed module for a declared catalog declares. -/
theorem declaresViews_of_parse {text : String} (hc : (parse text).outcome = .ok c)
    (hm : (module c o).outcome = .ok m) : m.DeclaresViews := by
  obtain ⟨ms, hms, hvalid, hcatalog⟩ := modules_of_parse hc
  have hwellFormed : ∀ d ∈ m.generationSet.definitions, d.WellFormed c := by
    intro d hd
    have hmem := (Catalog.mem_of_resolve (module_eq hm).1 hd).1
    exact hcatalog.wellFormed_definition hms.1 hvalid.distinct hmem
      (Declaration.genericParams_of_parse hc hmem)
  have hnames : ∀ d ∈ m.generationSet.definitions, ∀ v ∈ d.variants, v.name ≠ "" :=
    fun d hd v hv => (((named_of_module hc hm).1 d hd).1.variant v hv).ne_empty
  exact
    { part := Module.lines_eq_append_viewLines
      declared := Module.filterMap_viewLines
      distinct := Module.nodup_names_views_iff
      alone := fun d hd =>
        Definition.nodup_names_views_iff (hnames d hd) (hwellFormed d hd).variants
      member := fun d hd htagged =>
        Module.latest?_variantViewName hd htagged (hwellFormed d hd).variants
      annotation := fun h d hd args =>
        ⟨⟨_, rfl, Module.latest?_externalView h hd⟩, ⟨_, rfl, Module.latest?_internalView h hd⟩⟩ }

def dimmer : Definition := ⟨"M", "Lamp", [⟨"Off", []⟩, ⟨"Dim", [⟨"n", .int "int"⟩]⟩], []⟩

def dimmerRoom : Definition := ⟨"M", "Room", [⟨"In", [⟨"l", .datatype "Lamp" []⟩]⟩], []⟩

/-- A lamp in its variants, and a room with a lamp. -/
def dimmerModule : Module :=
  ⟨⟨"M", [dimmer, dimmerRoom], []⟩, [], { profile := .typed }, .escaping⟩

/-- A lamp in its variants, and a room with a lamp. -/
theorem declaresViews_lamp :
    ∃ c m,
      (parse "module M { datatype Lamp = Off | Dim(n: int) datatype Room = In(l: Lamp) }").outcome =
        .ok c ∧
      (module c { profile := .typed }).outcome = .ok m ∧
      m.views.map (·.name) =
        ["LampOffJson", "LampDimJson", "LampJson", "LampValue", "RoomJson", "RoomValue"] ∧
      m.DeclaresViews := by
  have hc :
      (parse "module M { datatype Lamp = Off | Dim(n: int) datatype Room = In(l: Lamp) }").outcome =
        .ok ⟨[dimmer, dimmerRoom], []⟩ := by decide +kernel
  have hm : (module ⟨[dimmer, dimmerRoom], []⟩ { profile := .typed }).outcome =
      .ok dimmerModule := rfl
  exact ⟨_, dimmerModule, hc, hm, by decide +kernel, declaresViews_of_parse hc hm⟩

def lettersDatatype : Definition := ⟨"M", "AB", [⟨"D", []⟩, ⟨"E", []⟩], []⟩

/-- The name of its first variant, with its own, is that of another type. -/
def joiningDatatype : Definition :=
  ⟨"M", "A", [⟨"B", [⟨"x", .datatype "AB" []⟩]⟩, ⟨"C", []⟩], []⟩

def joinedViews : Module :=
  ⟨⟨"M", [lettersDatatype, joiningDatatype], []⟩, [], { profile := .typed }, .escaping⟩

/-- The variant of one type takes the name of another type, and means itself by it. -/
theorem views_joined :
    ∃ c m, (parse "module M { datatype AB = D | E datatype A = B(x: AB) | C }").outcome = .ok c ∧
      (module c { profile := .typed }).outcome = .ok m ∧
      m.viewLines.filterMap declaredName? =
        ["ABJson", "ABValue", "ABJson", "ACJson", "AJson", "AValue"] ∧
      (latest? m.views "ABJson").map (·.lines) = some ["ABJson = TypedDict(\"ABJson\", " ++
        "\x7b\"type\": Literal[\"B\"], \"x\": \"ABJson\"\x7d)"] := by
  have hc : (parse "module M { datatype AB = D | E datatype A = B(x: AB) | C }").outcome =
      .ok ⟨[lettersDatatype, joiningDatatype], []⟩ := by decide +kernel
  have hm : (module ⟨[lettersDatatype, joiningDatatype], []⟩ { profile := .typed }).outcome =
      .ok joinedViews := rfl
  refine ⟨_, joinedViews, hc, hm, ?_, by decide +kernel⟩
  rw [Module.filterMap_viewLines]
  decide +kernel

end Generated

end Marshal
