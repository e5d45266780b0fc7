import Marshal.App
import Marshal.Proofs.Closure.Reachable
import Marshal.Proofs.Code.Margin
import Marshal.Proofs.Naming.ConverterName
import Mathlib.Data.List.TakeWhile

/-!
# Exports

The App class has one line for every converter of its generation set: converter names share no line
with each other, and no line of a member or of a title has the form of an export.
-/

namespace Marshal.App
set_option autoImplicit false

open Code (Behind Function)
open Naming (IsConverterName converterEnding isIdentifierChar lowerName)

theorem toList_exportLine (n : String) :
    (exportLine n).toList = Code.indent.toList ++
      (n.toList ++ (" = staticmethod(".toList ++ (n.toList ++ ")".toList))) := by
  simp only [exportLine, String.toList_append, List.append_assoc]

theorem exportLine_injective : Function.Injective exportLine := by
  intro m n h
  have h := congrArg String.toList h
  rw [toList_exportLine, toList_exportLine] at h
  have htail := (List.append_inj h rfl).2
  have hlength := congrArg List.length htail
  simp only [List.length_append] at hlength
  exact String.toList_inj.mp (List.append_inj htail (by omega)).1

/-- Converter names do not begin with text that holds another character early on. -/
theorem exportLine_ne {n : String} (hn : IsConverterName n) (start rest : String)
    (hstart : start.toList.length ≤ 6 ∧ start.toList.all isIdentifierChar = false) :
    exportLine n ≠ Code.indent ++ (start ++ rest) := by
  intro h
  have h := congrArg String.toList h
  rw [toList_exportLine, String.toList_append, String.toList_append] at h
  have htail := (List.append_inj h rfl).2
  have hbegin : start.toList <+: n.toList := by
    refine List.prefix_of_prefix_length_le ⟨_, htail.symm⟩ (List.prefix_append _ _) ?_
    exact hstart.1.trans hn.length
  have hall := List.all_eq_true.mpr fun c hc => hn.isIdentifierChar c (hbegin.subset hc)
  rw [hall] at hstart
  exact absurd hstart.2 (by decide)

theorem exportLine_ne_of_length {n line : String} (hn : IsConverterName n)
    (h : line.toList.length ≤ 20) : exportLine n ≠ line := by
  rintro rfl
  have hlength := congrArg List.length (toList_exportLine n)
  have hn := hn.length
  have hindent : Code.indent.toList.length = 4 := rfl
  have hassign : " = staticmethod(".toList.length = 16 := rfl
  simp only [List.length_append] at hlength
  omega

theorem not_mem_memberLines {n : String} (hn : IsConverterName n) (typed : Bool) (f : Function) :
    exportLine n ∉ memberLines typed f := by
  intro h
  rcases List.mem_cons.mp h with h | h
  · exact exportLine_ne hn "@" "staticmethod" ⟨by decide, rfl⟩ h
  · rcases Code.Function.mem_lines h with h | ⟨rest, h⟩
    · simp only [Code.Function.header, String.append_assoc] at h
      exact exportLine_ne hn "def " _ ⟨by decide, rfl⟩ h
    · rw [String.append_assoc] at h
      exact exportLine_ne hn Code.indent rest ⟨by decide, rfl⟩ h

theorem not_mem_sectionLines {n : String} (hn : IsConverterName n) (typed : Bool) (s : Section) :
    exportLine n ∉ sectionLines typed s := by
  intro h
  rcases List.mem_cons.mp h with h | h
  · rw [String.append_assoc] at h
    exact exportLine_ne hn "# " _ ⟨by decide, rfl⟩ h
  · obtain ⟨f, -, h⟩ := List.mem_flatMap.mp h
    rcases List.mem_append.mp h with h | h
    · exact not_mem_memberLines hn typed f h
    · exact exportLine_ne_of_length hn (by decide) (List.mem_singleton.mp h)

variable {a : App}

theorem mem_exportNames {x : String} :
    x ∈ a.exportNames ↔ ∃ d ∈ a.generationSet.definitions, lowerName d.name = x := by
  simp [exportNames, mem_extendFresh, GenerationSet.names]

/-- The names of the converters that are offered, line by line. -/
def exported (a : App) : List String :=
  a.exportNames.flatMap fun x => [Direction.toExternal, .fromExternal].map (x ++ converterEnding ·)

theorem exportLines_eq (a : App) : a.exportLines = a.exported.map exportLine := by
  rw [exportLines, exported, List.map_flatMap]
  rfl

theorem mem_exported {n : String} :
    n ∈ a.exported ↔ ∃ d ∈ a.generationSet.definitions, ∃ dir : Direction,
      n = dir.converterName d.name := by
  constructor
  · intro h
    obtain ⟨x, hx, h⟩ := List.mem_flatMap.mp h
    obtain ⟨d, hd, rfl⟩ := mem_exportNames.mp hx
    obtain ⟨dir, -, rfl⟩ := List.mem_map.mp h
    exact ⟨d, hd, dir, (Naming.converterName_eq dir d.name).symm⟩
  · rintro ⟨d, hd, dir, rfl⟩
    refine List.mem_flatMap.mpr ⟨lowerName d.name, mem_exportNames.mpr ⟨d, hd, rfl⟩, ?_⟩
    refine List.mem_map.mpr ⟨dir, ?_, (Naming.converterName_eq dir d.name).symm⟩
    cases dir <;> simp

theorem nodup_exported (a : App) : a.exported.Nodup := by
  refine List.nodup_flatMap.mpr ⟨fun x _ => ?_, ?_⟩
  · refine List.Nodup.map (fun dir dir' h => (Naming.append_converterEnding_inj h).2) ?_
    decide
  · refine (nodup_extendFresh List.nodup_nil).imp fun {x y} hxy n hx hy => ?_
    obtain ⟨dir, -, rfl⟩ := List.mem_map.mp hx
    obtain ⟨dir', -, h⟩ := List.mem_map.mp hy
    exact hxy (Naming.append_converterEnding_inj h).1.symm

theorem count_trimmed {lines : List String} {line : String} (h : line.isEmpty = false) :
    ((lines.reverse.dropWhile (·.isEmpty)).reverse).count line = lines.count line := by
  have hdropped : (lines.reverse.takeWhile (·.isEmpty)).count line = 0 := by
    refine List.count_eq_zero.mpr fun hmem => ?_
    rw [List.mem_takeWhile_imp hmem] at h
    cases h
  calc
    _ = (lines.reverse.dropWhile (·.isEmpty)).count line := List.count_reverse
    _ = (lines.reverse.takeWhile (·.isEmpty) ++ lines.reverse.dropWhile (·.isEmpty)).count line := by
      rw [List.count_append, hdropped, Nat.zero_add]
    _ = lines.reverse.count line := by rw [List.takeWhile_append_dropWhile]
    _ = lines.count line := List.count_reverse

theorem count_exportLine {n : String} (h : n ∈ a.exported) : a.lines.count (exportLine n) = 1 := by
  obtain ⟨d, -, dir, hname⟩ := mem_exported.mp h
  have hn : IsConverterName n := ⟨dir, d.name, hname⟩
  have hmembers : (a.sections.flatMap (sectionLines a.options.typed)).count (exportLine n) = 0 := by
    refine List.count_eq_zero.mpr fun hmem => ?_
    obtain ⟨s, -, hmem⟩ := List.mem_flatMap.mp hmem
    exact not_mem_sectionLines hn _ s hmem
  have hmem : exportLine n ∈ a.exportLines := a.exportLines_eq ▸ List.mem_map_of_mem h
  have hexports : a.exportLines.count (exportLine n) = 1 := by
    refine List.count_eq_one_of_mem ?_ hmem
    rw [exportLines_eq]
    exact a.nodup_exported.map exportLine_injective
  have hsome : a.exportLines.isEmpty = false := by
    rw [List.isEmpty_eq_false_iff]
    exact List.ne_nil_of_mem hmem
  have hfull : (exportLine n).isEmpty = false := by
    rw [exportLine, Code.indent]
    simp
  have htitle : (Code.indent ++ "# Conversion functions") ≠ exportLine n :=
    (exportLine_ne hn "# " "Conversion functions" ⟨by decide, rfl⟩).symm
  have hbody := @count_trimmed (a.sections.flatMap (sectionLines a.options.typed) ++
    (Code.indent ++ "# Conversion functions") :: a.exportLines) _ hfull
  rw [List.count_append, hmembers, List.count_cons_of_ne htitle, hexports] at hbody
  have hclass : "class App:" ≠ exportLine n := (exportLine_ne_of_length hn (by decide)).symm
  rw [lines, List.count_cons_of_ne hclass]
  simp only [bodyLines, hsome, Bool.false_eq_true, if_false]
  split
  · rename_i hempty
    rw [List.isEmpty_iff.mp hempty] at hbody
    cases hbody
  · exact hbody

end Marshal.App
