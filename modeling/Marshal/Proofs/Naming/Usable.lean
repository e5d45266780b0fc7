import Marshal.Converter
import Marshal.Proofs.Naming.Path
import Marshal.Proofs.Naming.Spelling
import Marshal.Text.Split

/-!
# Usable names

The generated language takes a name for an identifier if it holds identifier characters only, begins
with none that is a digit, and is no reserved word. Reserved words hold letters only, so whatever
has an underscore in it is safe; what is only sanitized is not.
-/

namespace Marshal.Naming
set_option autoImplicit false

def Leading (n : String) : Prop := (n.toList.head?.any fun c => !('0' ≤ c && c ≤ '9')) = true

instance (n : String) : Decidable (Leading n) := inferInstanceAs (Decidable (_ = true))

/-- What looks like an identifier; it may be a reserved word. -/
structure Wordlike (n : String) : Prop where
  leading : Leading n
  chars : ∀ c ∈ n.toList, isIdentifierChar c

instance (n : String) : Decidable (Wordlike n) :=
  decidable_of_iff (Leading n ∧ n.toList.all isIdentifierChar)
    ⟨fun h => ⟨h.1, List.all_eq_true.mp h.2⟩, fun h => ⟨h.1, List.all_eq_true.mpr h.2⟩⟩

structure Usable (n : String) : Prop where
  wordlike : Wordlike n
  unreserved : n ∉ reservedWords

instance (n : String) : Decidable (Usable n) :=
  decidable_of_iff (Wordlike n ∧ n ∉ reservedWords) ⟨fun h => ⟨h.1, h.2⟩, fun h => ⟨h.1, h.2⟩⟩

theorem Leading.append {n : String} (h : Leading n) (r : String) : Leading (n ++ r) := by
  rw [Leading] at h ⊢
  rw [String.toList_append]
  cases hn : n.toList with
  | nil =>
    rw [hn] at h
    cases h
  | cons c cs => rwa [hn] at h

theorem Wordlike.append {n r : String} (h : Wordlike n) (hr : ∀ c ∈ r.toList, isIdentifierChar c) :
    Wordlike (n ++ r) := by
  refine ⟨h.leading.append r, ?_⟩
  rw [String.toList_append, List.forall_mem_append]
  exact ⟨h.chars, hr⟩

/-- A character that no reserved word holds. -/
theorem not_reserved_of_mem {n : String} {c : Char}
    (hc : reservedWords.all fun w => !w.toList.contains c) (h : c ∈ n.toList) :
    n ∉ reservedWords :=
  fun hn => not_mem_of_all hc hn h

/-- A beginning that no reserved word has. -/
theorem usable_append {p r : String} (hp : Wordlike p)
    (hnone : ∀ w ∈ reservedWords, ¬ p.toList <+: w.toList)
    (hr : ∀ c ∈ r.toList, isIdentifierChar c) : Usable (p ++ r) := by
  refine ⟨hp.append hr, fun h => hnone _ h ?_⟩
  rw [String.toList_append]
  exact List.prefix_append _ _

theorem leading_sanitize {n : String} (h : Leading n) : Leading (sanitize n) := by
  rw [Leading] at h ⊢
  rw [toList_sanitize]
  cases hn : n.toList with
  | nil =>
    rw [hn] at h
    cases h
  | cons c cs =>
    rw [hn] at h
    rw [List.map_cons, List.head?_cons, Option.any_some, isDigitChar_keptChar]
    exact h

theorem wordlike_sanitize {n : String} (h : Leading n) : Wordlike (sanitize n) :=
  ⟨leading_sanitize h, isIdentifierChar_sanitize n⟩

theorem usable_sanitize_iff {n : String} (h : Leading n) :
    Usable (sanitize n) ↔ n ∉ reservedWords := by
  rw [← sanitize_mem_reservedWords]
  exact ⟨fun hn => hn.unreserved, fun hn => ⟨wordlike_sanitize h, hn⟩⟩

theorem leading_guardDigit {n : String} (h : n ≠ "") : Leading (guardDigit n) := by
  rw [guardDigit]
  split
  · rename_i c cs hn
    split
    · exact Leading.append (by decide) n
    · rename_i hdigit
      rw [Leading, hn, List.head?_cons, Option.any_some, Bool.not_eq_true']
      exact Bool.eq_false_iff.mpr hdigit
  · rename_i hn
    exact absurd (String.toList_inj.mp hn) h

theorem sanitize_ne_empty {n : String} (h : n ≠ "") : sanitize n ≠ "" := by
  intro hn
  apply h
  rw [← String.toList_inj, toList_sanitize] at hn
  exact String.toList_inj.mp (List.map_eq_nil_iff.mp hn)

/-- Whatever a name is, what it becomes as a parameter or member can be used. -/
theorem usable_identifier {n : String} (h : n ≠ "") : Usable (identifier n) := by
  have hguarded : Wordlike (guardDigit (sanitize n)) :=
    ⟨leading_guardDigit (sanitize_ne_empty h),
      isIdentifierChar_guardDigit (isIdentifierChar_sanitize n)⟩
  rw [identifier]
  split
  · refine ⟨hguarded.append (List.all_eq_true.mp rfl), ?_⟩
    refine not_reserved_of_mem (c := '_') rfl ?_
    rw [String.toList_append]
    exact List.mem_append_right _ List.mem_cons_self
  · rename_i hreserved
    exact ⟨hguarded, hreserved⟩

theorem accessorName_ne_empty (field : String) : accessorName field ≠ "" := by
  intro h
  have hhead := head?_accessor field
  rw [h] at hhead
  revert hhead
  decide

theorem leading_lowerName {t : String} (h : Leading t) : Leading (lowerName t) := by
  have hletter {c : Char} (hc : ('0' ≤ c && c ≤ '9') = false) :
      ('0' ≤ lowerLetter c && lowerLetter c ≤ '9') = false := by
    rw [lowerLetter]
    split
    · rename_i hupper
      obtain ⟨hA, hZ⟩ := Bool.and_eq_true_iff.mp hupper
      have hlow : 65 ≤ c.toNat := (of_decide_eq_true hA : 'A' ≤ c)
      have hhigh : c.toNat ≤ 90 := (of_decide_eq_true hZ : c ≤ 'Z')
      generalize c.toNat = n at hlow hhigh
      interval_cases n <;> rfl
    · exact hc
  have hs := leading_sanitize h
  rw [Leading] at hs ⊢
  rw [lowerName, String.toList_ofList]
  cases hn : (sanitize t).toList with
  | nil =>
    rw [hn] at hs
    cases hs
  | cons c cs =>
    rw [hn, List.head?_cons, Option.any_some, Bool.not_eq_true'] at hs
    rw [List.map_cons, List.head?_cons, Option.any_some, hletter hs]
    rfl

theorem usable_converterName {t : String} (h : Leading t) (dir : Direction) :
    Usable (dir.converterName t) := by
  have hname : IsConverterName (dir.converterName t) := ⟨dir, t, rfl⟩
  refine ⟨⟨?_, hname.isIdentifierChar⟩, not_reserved_of_mem (c := 'J') rfl hname.mem_J⟩
  rw [converterName_eq]
  exact (leading_lowerName h).append _

theorem usable_converterParam {p : String} (h : Leading p) (dir : Direction) :
    Usable (sanitize p ++ Converter.paramEnding dir) := by
  refine ⟨(wordlike_sanitize h).append ?_, not_reserved_of_mem (c := '_') rfl ?_⟩
  · cases dir <;> exact List.all_eq_true.mp rfl
  · rw [String.toList_append]
    refine List.mem_append_right _ ?_
    cases dir <;> exact List.mem_of_elem_eq_true rfl

/-- Names of runtime tuples. -/
theorem usable_tuple (n : Nat) : Usable ("Tuple" ++ toString n) := by
  refine usable_append (by decide) (by decide) fun c hc => ?_
  have hdigit := Conversion.isDigit_of_mem_toString hc
  rw [Char.isDigit, Bool.and_eq_true] at hdigit
  rw [isIdentifierChar, Bool.or_eq_true, Bool.or_eq_true, Bool.or_eq_true, Bool.and_eq_true]
  refine Or.inl (Or.inl (Or.inl ⟨?_, ?_⟩))
  · exact hdigit.1
  · exact hdigit.2

theorem escapeName_reserved {w : String} (h : w ∈ reservedWords) : escapeName w = w := by
  revert w
  decide +kernel

/-- Escapes hold underscores, so no name is escaped to a reserved word but itself. -/
theorem escapeName_mem_reservedWords {n : String} :
    escapeName n ∈ reservedWords ↔ n ∈ reservedWords := by
  constructor
  · intro h
    rwa [← escapeName_injective (escapeName_reserved h)]
  · intro h
    rwa [escapeName_reserved h]

def components (path : String) : List String := Text.split '.' path

theorem splitChars_append (cs ds : List Char) :
    Text.splitChars '.' (cs ++ '.' :: ds) = Text.splitChars '.' cs ++ Text.splitChars '.' ds := by
  induction cs with
  | nil => rfl
  | cons c cs ih =>
    rw [List.cons_append, Text.splitChars, Text.splitChars, ih]
    split
    · rfl
    · have hne : Text.splitChars '.' cs ≠ [] := by
        cases cs with
        | nil => exact List.cons_ne_nil _ _
        | cons d cs =>
          rw [Text.splitChars]
          split
          · exact List.cons_ne_nil _ _
          · split <;> exact List.cons_ne_nil _ _
      obtain ⟨p, ps, hp⟩ := List.exists_cons_of_ne_nil hne
      rw [hp]
      rfl

theorem splitChars_of_not_mem {cs : List Char} (h : '.' ∉ cs) :
    Text.splitChars '.' cs = [cs] := by
  induction cs with
  | nil => rfl
  | cons c cs ih =>
    obtain ⟨hc, hcs⟩ := List.ne_and_not_mem_of_not_mem_cons h
    rw [Text.splitChars, if_neg hc.symm, ih hcs]

theorem components_of_dotless {n : String} (h : Dotless n) : components n = [n] := by
  rw [components, Text.split, splitChars_of_not_mem h, List.map_singleton, String.ofList_toList]

theorem components_append (a b : String) :
    components (a ++ "." ++ b) = components a ++ components b := by
  rw [components, Text.split, String.toList_append, String.toList_append, List.append_assoc]
  exact (congrArg _ (splitChars_append a.toList b.toList)).trans List.map_append

theorem components_intercalate {ns : List String} (hne : ns ≠ []) (h : ∀ n ∈ ns, Dotless n) :
    components (".".intercalate ns) = ns := by
  induction ns with
  | nil => exact absurd rfl hne
  | cons n ns ih =>
    obtain ⟨hn, hns⟩ := List.forall_mem_cons.mp h
    cases ns with
    | nil => exact components_of_dotless hn
    | cons n' ns =>
      rw [String.intercalate_cons_cons, components_append, components_of_dotless hn,
        ih (List.cons_ne_nil _ _) hns]
      rfl

end Marshal.Naming
