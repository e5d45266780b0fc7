import Marshal.Proofs.Naming.ConverterName

/-!
# Names of parameters and members

They hold identifier characters only, and they begin with the character that the name begins with,
if that is no digit. So no accessor has the name of a converter.
-/

namespace Marshal.Naming
set_option autoImplicit false

theorem isIdentifierChar_guardDigit {name : String} (h : ∀ c ∈ name.toList, isIdentifierChar c) :
    ∀ c ∈ (guardDigit name).toList, isIdentifierChar c := by
  rw [guardDigit]
  split
  · split
    · rw [String.toList_append, List.forall_mem_append]
      exact ⟨List.all_eq_true.mp rfl, h⟩
    · exact h
  · exact h

theorem isIdentifierChar_identifier (name : String) :
    ∀ c ∈ (identifier name).toList, isIdentifierChar c := by
  have hguarded := isIdentifierChar_guardDigit (isIdentifierChar_sanitize name)
  rw [identifier]
  split
  · rw [String.toList_append, List.forall_mem_append]
    exact ⟨hguarded, List.all_eq_true.mp rfl⟩
  · exact hguarded

/-- Neither an underscore for a reserved word nor one for a digit changes the first character. -/
theorem head?_identifier {name : String} {c : Char} {cs : List Char} (h : name.toList = c :: cs)
    (hc : isIdentifierChar c) (hdigit : ('0' ≤ c && c ≤ '9') = false) :
    (identifier name).toList.head? = some c := by
  obtain ⟨ds, hsanitized⟩ : ∃ ds, (sanitize name).toList = c :: ds := by
    refine ⟨cs.map fun c => if isIdentifierChar c then c else '_', ?_⟩
    rw [sanitize, h, String.toList_ofList, List.map_cons, if_pos hc]
  have hguarded : guardDigit (sanitize name) = sanitize name := by
    rw [guardDigit, hsanitized]
    simp [hdigit]
  rw [identifier, hguarded]
  split
  · rw [String.toList_append, hsanitized]
    rfl
  · rw [hsanitized]
    rfl

theorem head?_accessor (field : String) :
    (identifier (accessorName field)).toList.head? = some 'G' := by
  obtain ⟨cs, h⟩ : ∃ cs, (accessorName field).toList = 'G' :: cs := by
    rw [accessorName]
    split
    · rw [String.toList_append]
      exact ⟨_, rfl⟩
    · exact ⟨_, rfl⟩
  exact head?_identifier h rfl rfl

theorem lowerLetter_ne_G (c : Char) : lowerLetter c ≠ 'G' := by
  rw [lowerLetter]
  split
  · rename_i hc
    obtain ⟨hA, hZ⟩ := Bool.and_eq_true_iff.mp hc
    have hlow : 65 ≤ c.toNat := (of_decide_eq_true hA : 'A' ≤ c)
    have hhigh : c.toNat ≤ 90 := (of_decide_eq_true hZ : c ≤ 'Z')
    generalize c.toNat = n at hlow hhigh
    interval_cases n <;> decide
  · rintro rfl
    contradiction

theorem IsConverterName.head?_ne_G {n : String} (h : IsConverterName n) :
    n.toList.head? ≠ some 'G' := by
  obtain ⟨dir, t, rfl⟩ := h
  rw [toList_converterName, lowerName, String.toList_ofList]
  cases (sanitize t).toList with
  | nil => cases dir <;> decide
  | cons c cs =>
    intro hG
    exact lowerLetter_ne_G c (Option.some_inj.mp hG)

/-- Accessors begin with an upper-case letter that no converter begins with. -/
theorem not_isConverterName_accessor (field : String) :
    ¬ IsConverterName (identifier (accessorName field)) :=
  fun h => h.head?_ne_G (head?_accessor field)

end Marshal.Naming
