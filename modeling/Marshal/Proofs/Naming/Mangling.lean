import Marshal.Naming.Mangling
import Marshal.Naming.Member
import Mathlib.Logic.Function.Basic

/-!
# Mangling keeps names apart

A mangled name tells which name it stands for. An underscore in an escaped name is followed by the
letter of the escape, or by a digit if it is only there to stand in front of the digit.
-/

namespace Marshal.Naming
set_option autoImplicit false

/-- The characters that an escaped name stands for. -/
def unescape : List Char → List Char
  | '_' :: 'k' :: cs => '\'' :: unescape cs
  | '_' :: '_' :: cs => '_' :: unescape cs
  | '_' :: 'q' :: cs => '?' :: unescape cs
  | '_' :: 'h' :: cs => '#' :: unescape cs
  | '_' :: cs => cs
  | c :: cs => c :: unescape cs
  | [] => []

theorem unescape_escapeChar (c : Char) (cs : List Char) :
    unescape (escapeChar c ++ cs) = c :: unescape cs := by
  by_cases h₁ : c = '\''
  · subst c
    rfl
  by_cases h₂ : c = '_'
  · subst c
    rfl
  by_cases h₃ : c = '?'
  · subst c
    rfl
  by_cases h₄ : c = '#'
  · subst c
    rfl
  simp [escapeChar, unescape, h₁, h₂, h₃, h₄]

theorem unescape_flatMap (cs : List Char) : unescape (cs.flatMap escapeChar) = cs := by
  induction cs with
  | nil => rfl
  | cons c cs ih => rw [List.flatMap_cons, unescape_escapeChar, ih]

theorem unescape_digit {c : Char} (hc : Text.isAnyDigit c) (cs : List Char) :
    unescape ('_' :: c :: cs) = c :: cs := by
  have hne : ∀ d, Text.isAnyDigit d = false → c ≠ d := by
    rintro d hd rfl
    exact Bool.noConfusion (hd.symm.trans hc)
  have hk := hne 'k' (by decide)
  have hu := hne '_' (by decide)
  have hq := hne 'q' (by decide)
  have hh := hne 'h' (by decide)
  simp [unescape, hk, hu, hq, hh]

theorem unescape_escapeName (name : String) :
    unescape (escapeName name).toList = name.toList := by
  unfold escapeName
  split
  · rename_i h
    rw [h]
    rfl
  · rename_i c cs h
    rw [h]
    split
    · rename_i hc
      rw [String.toList_ofList, unescape_digit hc]
    · rw [String.toList_ofList, unescape_flatMap]

theorem escapeName_injective : Function.Injective escapeName := by
  intro a b h
  apply String.toList_inj.mp
  rw [← unescape_escapeName a, h, unescape_escapeName]

theorem Mangling.apply_injective (m : Mangling) : Function.Injective m.apply := by
  cases m with
  | escaping => exact escapeName_injective
  | verbatim => exact fun _ _ h => h

namespace Mangling

variable (m : Mangling)

@[simp] theorem head?_constructorName (v : String) :
    (m.constructorName v).toList.head? = some 'c' := by
  rw [constructorName, String.toList_append]
  rfl

@[simp] theorem head?_variantFlag (v : String) :
    (m.variantFlag v).toList.head? = some 'i' := by
  rw [variantFlag, String.toList_append]
  rfl

@[simp] theorem head?_fieldAttribute (f : String) :
    (m.fieldAttribute f).toList.head? = some 'd' := by
  rw [fieldAttribute, String.toList_append]
  rfl

theorem eq_of_append_apply {mark a b : String} (h : mark ++ m.apply a = mark ++ m.apply b) :
    a = b := by
  have hlist := congrArg String.toList h
  rw [String.toList_append, String.toList_append] at hlist
  exact m.apply_injective (String.toList_inj.mp (List.append_cancel_left hlist))

theorem constructorName_injective : Function.Injective m.constructorName :=
  fun _ _ => m.eq_of_append_apply

theorem variantFlag_injective : Function.Injective m.variantFlag :=
  fun _ _ => m.eq_of_append_apply

theorem fieldAttribute_injective : Function.Injective m.fieldAttribute :=
  fun _ _ => m.eq_of_append_apply

end Mangling

end Marshal.Naming
