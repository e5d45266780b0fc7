import Marshal.Declaration.Meaning
import Marshal.Proofs.App.Offering
import Marshal.Proofs.Generated.Exports
import Marshal.Proofs.Generated.Document
import Marshal.Proofs.Naming.Identifier

/-!
# The names that the App class binds

Members and exports are made apart from each other, members without repetition and exports without
repetition. A name is bound twice only where a converter has the name of a constructor, an action or
a function; its line then finds the member and not the converter.
-/

namespace Marshal.App
set_option autoImplicit false

open Code (Behind)
open Declaration (parse)
open Naming (IsConverterName accessorName identifier isIdentifierChar)

def leadingName (code : List Char) : String := String.ofList (code.takeWhile isIdentifierChar)

/-- The name that a line of a class body binds, by a definition or by an assignment. -/
def boundName? (line : String) : Option String :=
  (line.toList.dropPrefix? Code.indent.toList).bind fun code =>
    match code.dropPrefix? "def ".toList with
    | some rest => some (leadingName rest)
    | none =>
      if " = ".toList <+: code.dropWhile isIdentifierChar then some (leadingName code) else none

theorem dropPrefix?_append (start rest : List Char) :
    (start ++ rest).dropPrefix? start = some rest :=
  List.dropPrefix?_append_of_beq rest (beq_self_eq_true start)

/-- Text that goes on with some other character does not begin with the prefix. -/
theorem dropPrefix?_eq_none {code start : List Char} (h : ¬ start <+: code) :
    code.dropPrefix? start = none := by
  apply Option.eq_none_iff_forall_ne_some.mpr
  intro rest hrest
  obtain ⟨start', rfl, hstart⟩ := List.dropPrefix?_eq_some_iff.mp hrest
  exact h (eq_of_beq hstart ▸ List.prefix_append start' rest)

theorem boundName?_indent (code : String) :
    boundName? (Code.indent ++ code) =
      match code.toList.dropPrefix? "def ".toList with
      | some rest => some (leadingName rest)
      | none =>
        if " = ".toList <+: code.toList.dropWhile isIdentifierChar then
          some (leadingName code.toList)
        else none := by
  rw [boundName?, String.toList_append, dropPrefix?_append, Option.bind_some]

theorem leadingName_append {n : String} (hn : ∀ c ∈ n.toList, isIdentifierChar c) {c : Char}
    (hc : isIdentifierChar c = false) (rest : List Char) :
    leadingName (n.toList ++ c :: rest) = n := by
  rw [leadingName, List.takeWhile_append_of_pos hn, List.takeWhile_cons_of_neg (by simp [hc]),
    List.append_nil, String.ofList_toList]

theorem boundName?_header (typed : Bool) {f : Code.Function}
    (hf : ∀ c ∈ f.name.toList, isIdentifierChar c) :
    boundName? (Code.indent ++ f.header typed) = some f.name := by
  have hheader : ∃ rest, (f.header typed).toList =
      "def ".toList ++ (f.name.toList ++ '(' :: rest) := by
    rw [Code.Function.header]
    simp only [String.toList_append, List.append_assoc]
    exact ⟨_, rfl⟩
  obtain ⟨rest, hheader⟩ := hheader
  rw [boundName?_indent, hheader, dropPrefix?_append]
  exact congrArg some (leadingName_append hf rfl rest)

theorem boundName?_exportLine {n : String} (hn : IsConverterName n) :
    boundName? (exportLine n) = some n := by
  have hline : exportLine n = Code.indent ++ (n ++ (" = staticmethod(" ++ n ++ ")")) := by
    simp only [exportLine, String.append_assoc]
  obtain ⟨rest, hrest⟩ : ∃ rest, (" = staticmethod(" ++ n ++ ")").toList = ' ' :: rest := by
    simp only [String.toList_append, List.append_assoc]
    exact ⟨_, rfl⟩
  have hdef : ¬ "def ".toList <+: (n ++ (" = staticmethod(" ++ n ++ ")")).toList := by
    -- the blank would have to stand within the name
    intro h
    rw [String.toList_append] at h
    have hname := List.prefix_of_prefix_length_le h (List.prefix_append _ _)
      ((Nat.le_of_ble_eq_true rfl : 4 ≤ 6).trans hn.length)
    exact absurd (hn.isIdentifierChar ' ' (hname.subset (by decide))) (by decide)
  rw [hline, boundName?_indent, dropPrefix?_eq_none hdef, String.toList_append, hrest,
    List.dropWhile_append_of_pos hn.isIdentifierChar, List.dropWhile_cons_of_neg (by decide),
    leadingName_append hn.isIdentifierChar rfl]
  apply if_pos
  rw [← hrest]
  simp only [String.toList_append, List.append_assoc]
  exact List.prefix_append " = ".toList _

/-- Behind a blank or a mark nothing is bound. -/
theorem boundName?_eq_none {c : Char} (hc : isIdentifierChar c = false) {code : String}
    {cs : List Char} (h : code.toList = c :: cs) (hassign : ¬ " = ".toList <+: c :: cs) :
    boundName? (Code.indent ++ code) = none := by
  have hdef : ¬ "def ".toList <+: c :: cs := by
    rintro ⟨rest, h⟩
    obtain rfl : 'd' = c := (List.cons.inj h).1
    cases hc
  rw [boundName?_indent, h, dropPrefix?_eq_none hdef, List.dropWhile_cons_of_neg (by simp [hc])]
  exact if_neg hassign

theorem boundName?_behind {line : String} (h : Behind (Code.indent ++ Code.indent) line) :
    boundName? line = none := by
  obtain ⟨rest, rfl⟩ := h
  rw [String.append_assoc]
  have htext : (Code.indent ++ rest).toList = ' ' :: ("   ".toList ++ rest.toList) := by
    rw [String.toList_append]
    rfl
  refine boundName?_eq_none rfl htext ?_
  rintro ⟨rest, h⟩
  cases h

variable {a : App}

theorem isIdentifierChar_member {n : String} (hn : n ∈ a.members.map (·.name)) :
    ∀ c ∈ n.toList, isIdentifierChar c := by
  rcases mem_names_members.mp hn with h | h | h | h
  all_goals
    obtain ⟨x, -, rfl⟩ := List.mem_map.mp h
    exact Naming.isIdentifierChar_identifier _

theorem filterMap_memberLines (typed : Bool) {f : Code.Function}
    (hf : ∀ c ∈ f.name.toList, isIdentifierChar c) :
    (memberLines typed f).filterMap boundName? = [f.name] := by
  have hmethod : boundName? (Code.indent ++ "@staticmethod") = none := by decide
  have hbody : (Code.Stmt.blockLines (Code.indent ++ Code.indent) f.body).filterMap boundName? =
      [] := by
    refine List.filterMap_eq_nil_iff.mpr fun line hline => ?_
    exact boundName?_behind (Code.Stmt.behind_of_blockLines f.body _ hline)
  rw [memberLines, List.filterMap_cons_none hmethod, Code.Function.lines,
    List.filterMap_cons_some (boundName?_header typed hf), hbody]

theorem boundName?_title (title : String) : boundName? (Code.indent ++ "# " ++ title) = none := by
  rw [String.append_assoc]
  have htext : ("# " ++ title).toList = '#' :: (' ' :: title.toList) := by
    rw [String.toList_append]
    rfl
  refine boundName?_eq_none rfl htext ?_
  rintro ⟨rest, h⟩
  cases h

theorem boundName?_empty : boundName? "" = none := rfl

theorem filterMap_sectionLines (typed : Bool) {s : Section} (hs : s ∈ a.sections) :
    (sectionLines typed s).filterMap boundName? = s.members.map (·.name) := by
  rw [sectionLines, List.filterMap_cons_none (boundName?_title s.title), List.filterMap_flatMap]
  have hmember : ∀ f ∈ s.members,
      (memberLines typed f ++ [""]).filterMap boundName? = [f.name] := by
    intro f hf
    have hname : f.name ∈ a.members.map (·.name) :=
      List.mem_map_of_mem (List.mem_flatMap.mpr ⟨s, hs, hf⟩)
    rw [List.filterMap_append, filterMap_memberLines typed (isIdentifierChar_member hname)]
    rfl
  rw [List.flatMap_congr hmember, ← List.map_eq_flatMap]

theorem filterMap_memberSections (a : App) :
    (a.sections.flatMap (sectionLines a.options.typed)).filterMap boundName? =
      a.members.map (·.name) := by
  rw [List.filterMap_flatMap, members, List.map_flatMap]
  exact List.flatMap_congr fun s hs => filterMap_sectionLines a.options.typed hs

theorem filterMap_exportLines {ns : List String} (hns : ∀ n ∈ ns, IsConverterName n) :
    (ns.map exportLine).filterMap boundName? = ns := by
  rw [List.filterMap_map]
  refine (List.filterMap_congr fun n hn => ?_).trans List.filterMap_some
  exact boundName?_exportLine (hns n hn)

theorem isConverterName_exported {n : String} (hn : n ∈ a.exported) : IsConverterName n := by
  obtain ⟨d, -, dir, rfl⟩ := mem_exported.mp hn
  exact ⟨dir, d.name, rfl⟩

theorem boundName?_conversions : boundName? (Code.indent ++ "# Conversion functions") = none :=
  boundName?_title "Conversion functions"

theorem filterMap_exportSection (a : App) :
    (if a.exportLines.isEmpty then []
      else (Code.indent ++ "# Conversion functions") :: a.exportLines).filterMap boundName? =
      a.exported := by
  have hlines : a.exportLines.filterMap boundName? = a.exported := by
    rw [exportLines_eq]
    exact filterMap_exportLines fun n hn => isConverterName_exported hn
  split
  · rename_i hempty
    rw [List.isEmpty_iff.mp hempty] at hlines
    exact hlines
  · rw [List.filterMap_cons_none boundName?_conversions, hlines]

theorem filterMap_dropWhile_isEmpty (ls : List String) :
    (ls.dropWhile (·.isEmpty)).filterMap boundName? = ls.filterMap boundName? := by
  induction ls with
  | nil => rfl
  | cons l ls ih =>
    cases hl : l.isEmpty with
    | true =>
      obtain rfl : l = "" := String.isEmpty_iff.mp hl
      rw [List.dropWhile_cons_of_pos (by decide), ih, List.filterMap_cons_none boundName?_empty]
    | false => rw [List.dropWhile_cons_of_neg (by simp [hl])]

/-- Blank lines at the end bind nothing. -/
theorem filterMap_trimmed (ls : List String) :
    (Generated.trimmed ls).filterMap boundName? = ls.filterMap boundName? := by
  rw [Generated.trimmed, List.filterMap_reverse, filterMap_dropWhile_isEmpty,
    List.filterMap_reverse, List.reverse_reverse]

/-- The names that the lines of the class bind, line by line. -/
def boundNames (a : App) : List String := a.lines.filterMap boundName?

def boundAbove (a : App) (line : String) : List String :=
  (a.lines.takeWhile (· != line)).filterMap boundName?

theorem boundNames_eq (a : App) : a.boundNames = a.members.map (·.name) ++ a.exported := by
  have hclass : boundName? "class App:" = none := by decide
  have hpass : boundName? (Code.indent ++ "pass") = none := by decide
  have hbody (ls : List String) :
      (if (Generated.trimmed ls).isEmpty then [Code.indent ++ "pass"]
        else Generated.trimmed ls).filterMap boundName? = ls.filterMap boundName? := by
    rw [← filterMap_trimmed ls]
    split
    · rename_i hempty
      rw [List.isEmpty_iff.mp hempty, List.filterMap_cons_none hpass]
    · rfl
  rw [boundNames, lines, List.filterMap_cons_none hclass]
  refine (hbody _).trans ?_
  rw [List.filterMap_append, filterMap_memberSections, filterMap_exportSection]

theorem exportLine_ne_empty (n : String) : exportLine n ≠ "" := by
  rw [exportLine, Code.indent]
  simp

/-- Where there are exports, no line of the body is dropped. -/
theorem lines_eq {ns : List String} {n : String} (h : a.exported = ns ++ [n]) :
    a.lines = "class App:" :: (a.sections.flatMap (sectionLines a.options.typed) ++
      (Code.indent ++ "# Conversion functions") :: a.exported.map exportLine) := by
  have hlast : a.exportLines = ns.map exportLine ++ [exportLine n] := by
    rw [exportLines_eq, h, List.map_append, List.map_singleton]
  have hsome : a.exportLines.isEmpty = false := by
    rw [List.isEmpty_eq_false_iff, hlast]
    exact List.append_ne_nil_of_right_ne_nil _ (List.cons_ne_nil _ _)
  rw [lines, bodyLines, hsome]
  have htrimmed := Generated.trimmed_append
    (a.sections.flatMap (sectionLines a.options.typed) ++
      (Code.indent ++ "# Conversion functions") :: ns.map exportLine) (exportLine_ne_empty n)
  rw [List.append_assoc, List.cons_append, ← hlast, Generated.trimmed] at htrimmed
  simp only [Bool.false_eq_true, if_false, htrimmed, ← exportLines_eq]
  rw [if_neg (by simp)]

/-- The lines of the class above the export that follows those of some names. -/
def linesAbove (a : App) (exported : List String) : List String :=
  "class App:" :: (a.sections.flatMap (sectionLines a.options.typed) ++
    (Code.indent ++ "# Conversion functions") :: exported.map exportLine)

/-- Nothing is exported twice, so what an export finds above its line is a member. -/
theorem mem_boundAbove {n : String} (hn : n ∈ a.exported) :
    n ∈ a.boundAbove (exportLine n) ↔ n ∈ a.members.map (·.name) := by
  obtain ⟨before, after, hsplit⟩ := List.append_of_mem hn
  have hnodup := a.nodup_exported
  rw [hsplit] at hnodup
  -- what comes before the line of the name: the class, the members, and exports of other names
  have hbefore : n ∉ before := fun h =>
    (List.nodup_append'.mp hnodup).2.2 h List.mem_cons_self
  have hconverter : IsConverterName n := isConverterName_exported hn
  have hlines : a.lines = a.linesAbove before ++ exportLine n :: after.map exportLine := by
    obtain ⟨ns, m, hlast⟩ : ∃ ns m, a.exported = ns ++ [m] := by
      rcases List.eq_nil_or_concat a.exported with h | ⟨ns, m, h⟩
      · rw [h] at hn
        cases hn
      · exact ⟨ns, m, by rw [h, List.concat_eq_append]⟩
    rw [lines_eq hlast, hsplit, List.map_append, List.map_cons]
    simp only [linesAbove, List.cons_append, List.append_assoc]
  have habove : exportLine n ∉ a.linesAbove before := by
    simp only [linesAbove, List.mem_cons, List.mem_append, List.mem_map, not_or]
    refine ⟨exportLine_ne_of_length hconverter (by decide), ?_,
      exportLine_ne hconverter "# " "Conversion functions" ⟨by decide, rfl⟩, ?_⟩
    · intro h
      obtain ⟨s, -, h⟩ := List.mem_flatMap.mp h
      exact not_mem_sectionLines hconverter _ s h
    · rintro ⟨m, hm, h⟩
      exact hbefore (exportLine_injective h ▸ hm)
  have hbound : a.boundAbove (exportLine n) = a.members.map (·.name) ++ before := by
    have hne : ∀ l ∈ a.linesAbove before, (l != exportLine n) = true := by
      intro l hl
      exact bne_iff_ne.mpr fun h => habove (h ▸ hl)
    rw [boundAbove, hlines, List.takeWhile_append_of_pos hne,
      List.takeWhile_cons_of_neg (by simp), List.append_nil]
    have hclass : boundName? "class App:" = none := by decide
    rw [linesAbove, List.filterMap_cons_none hclass, List.filterMap_append, filterMap_memberSections,
      List.filterMap_cons_none boundName?_conversions, filterMap_exportLines]
    intro m hm
    exact isConverterName_exported (hsplit ▸ List.mem_append_left _ hm)
  rw [hbound, List.mem_append, or_iff_left hbefore]

theorem mem_names_members_converter {n : String} (hn : IsConverterName n) :
    n ∈ a.members.map (·.name) ↔
      n ∈ a.plainVariants.map (fun p => identifier p.2.name) ∨
        n ∈ a.actionVariants.map (fun v => identifier v.name) ∨ n ∈ a.functionNames := by
  have haccessor : n ∉ a.modelFields.map fun f => identifier (accessorName f.name) := by
    intro h
    obtain ⟨f, -, rfl⟩ := List.mem_map.mp h
    exact Naming.not_isConverterName_accessor f.name hn
  rw [mem_names_members, or_iff_left haccessor]

theorem nodup_boundNames_iff :
    a.boundNames.Nodup ↔ ∀ n ∈ a.exported, n ∉ a.members.map (·.name) := by
  rw [boundNames_eq, List.nodup_append']
  constructor
  · rintro ⟨-, -, h⟩ n hn hmember
    exact h hmember hn
  · intro h
    exact ⟨a.nodup_names_members, a.nodup_exported, fun n hmember hn => h n hn hmember⟩

/--
The class binds the names of its members, one after the other, and then those of the converters. A
name is bound twice exactly if a converter of the generation set has the name of a constructor, an
action or a function; and exactly then the line of an export finds the name bound above it.
-/
theorem bound_once_iff (a : App) :
    a.boundNames = a.members.map (·.name) ++ a.exported ∧
      (a.boundNames.Nodup ↔ ∀ d ∈ a.generationSet.definitions, ∀ dir : Direction,
        dir.converterName d.name ∉ a.plainVariants.map (fun p => identifier p.2.name) ∧
        dir.converterName d.name ∉ a.actionVariants.map (fun v => identifier v.name) ∧
        dir.converterName d.name ∉ a.functionNames) ∧
      ∀ n ∈ a.exported, n ∈ a.boundAbove (exportLine n) ↔ n ∈ a.members.map (·.name) := by
  refine ⟨a.boundNames_eq, ?_, fun n hn => mem_boundAbove hn⟩
  rw [nodup_boundNames_iff]
  constructor
  · intro h d hd dir
    have hfree := h _ (mem_exported.mpr ⟨d, hd, dir, rfl⟩)
    rw [mem_names_members_converter ⟨dir, d.name, rfl⟩, not_or, not_or] at hfree
    exact hfree
  · intro h n hn
    obtain ⟨d, hd, dir, rfl⟩ := mem_exported.mp hn
    rw [mem_names_members_converter ⟨dir, d.name, rfl⟩, not_or, not_or]
    exact h d hd dir

def rebindingBox : Definition := ⟨"M", "Box", [⟨"boxToJson", []⟩, ⟨"Full", []⟩], []⟩

def reboundModule : Generated.Module := ⟨⟨"M", [rebindingBox], []⟩, [], {}, .escaping⟩

/-- A variant with the name of a converter: its constructor takes the place of the converter. -/
theorem bound_twice :
    ∃ c m,
      (parse "module M { datatype Box = boxToJson | Full }").outcome = .ok c ∧
      (Generated.module c {}).outcome = .ok m ∧
      m.app.boundNames = ["boxToJson", "Full", "boxToJson", "boxFromJson"] ∧
      ¬ m.app.boundNames.Nodup := by
  have hbound : reboundModule.app.boundNames =
      ["boxToJson", "Full", "boxToJson", "boxFromJson"] := by
    rw [boundNames_eq]
    decide +kernel
  refine ⟨⟨[rebindingBox], []⟩, reboundModule, by decide +kernel, rfl, hbound, ?_⟩
  rw [hbound]
  decide

end Marshal.App
