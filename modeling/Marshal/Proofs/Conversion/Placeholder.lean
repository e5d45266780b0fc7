import Marshal.Conversion
import Mathlib

/-!
# Bound variables

The name of a bound variable tells its base and its nesting depth, so variables of different depths
differ. The functions that conversions use as they are are no bound variables.
-/

namespace Marshal.Conversion
set_option autoImplicit false

def builtins : List String :=
  ["int", "str", "list", "_to_number", "_string_to_json", "_seq_to_list", "_map_from_json"]

/-- The names with which bound variables begin. -/
def bases : List String := ["x", "k", "v"]

/-- A bound variable of a nesting depth that is not less than the given one. -/
def IsPlaceholder (depth : Int) (n : String) : Prop :=
  ∃ base ∈ bases, ∃ e, depth ≤ e ∧ n = placeholder base e

theorem isDigit_of_mem_toString {n : Nat} {c : Char} (h : c ∈ (toString n).toList) : c.isDigit :=
  Nat.isDigit_of_mem_toDigits (by decide) (by decide) (String.toList_ofList ▸ h)

theorem toString_ne_empty {i : Int} : toString i ≠ "" := by
  cases i with
  | ofNat n => exact Nat.repr_ne_empty
  | negSucc n => exact fun h => absurd (String.append_eq_empty_iff.mp h).1 (by decide)

/-- A bound variable begins with the character of its base. -/
theorem placeholder_eq (base : String) (depth : Int) :
    placeholder base depth = base ++ if depth = 0 then "" else toString depth := by
  rw [placeholder]
  split
  · rw [String.append_empty]
  · rfl

theorem length_of_bases {base : String} (h : base ∈ bases) : base.toList.length = 1 := by
  have hall : bases.all fun base => base.toList.length == 1 := rfl
  exact beq_iff_eq.mp (List.all_eq_true.mp hall base h)

theorem placeholder_inj {base base' : String} (hb : base ∈ bases) (hb' : base' ∈ bases)
    {d e : Int} (h : placeholder base d = placeholder base' e) : base = base' ∧ d = e := by
  rw [placeholder_eq, placeholder_eq] at h
  have hlist := congrArg String.toList h
  rw [String.toList_append, String.toList_append] at hlist
  have hlength := (length_of_bases hb).trans (length_of_bases hb').symm
  obtain ⟨hbase, hdepth⟩ := List.append_inj hlist hlength
  refine ⟨String.toList_inj.mp hbase, ?_⟩
  have hdepth := String.toList_inj.mp hdepth
  split at hdepth
  · split at hdepth
    · omega
    · exact absurd hdepth.symm toString_ne_empty
  · split at hdepth
    · exact absurd hdepth toString_ne_empty
    · exact Int.repr_injective hdepth

theorem not_isPlaceholder {n : String}
    (h : bases.all fun base => !base.toList.isPrefixOf n.toList) (d : Int) :
    ¬ IsPlaceholder d n := by
  rintro ⟨base, hb, e, -, rfl⟩
  have hbase := List.all_eq_true.mp h base hb
  have hbegin : base.toList <+: (placeholder base e).toList := by
    rw [placeholder_eq, String.toList_append]
    exact List.prefix_append _ _
  rw [List.isPrefixOf_iff_prefix.mpr hbegin] at hbase
  cases hbase

/-- No function that conversions use begins like a bound variable. -/
theorem not_isPlaceholder_of_builtins {n : String} (h : n ∈ builtins) (d : Int) :
    ¬ IsPlaceholder d n := by
  have hall : builtins.all fun n => bases.all fun base => !base.toList.isPrefixOf n.toList := rfl
  exact not_isPlaceholder (List.all_eq_true.mp hall n h) d

end Marshal.Conversion
