import Marshal.Proofs.Naming.Identifier
import Marshal.Proofs.Naming.Mangling

/-!
# Paths of constructors

A constructor is reached through its module and its type. Mangling puts no dots into names and
sanitizing leaves none there, so the last two parts of such a path can be told from the rest.
-/

namespace Marshal.Naming
set_option autoImplicit false

def Dotless (n : String) : Prop := '.' ∉ n.toList

instance (n : String) : Decidable (Dotless n) := inferInstanceAs (Decidable ('.' ∉ n.toList))

theorem Dotless.append {m n : String} (hm : Dotless m) (hn : Dotless n) : Dotless (m ++ n) := by
  rw [Dotless, String.toList_append, List.mem_append, not_or]
  exact ⟨hm, hn⟩

theorem dotless_of_isIdentifierChar {n : String} (h : ∀ c ∈ n.toList, isIdentifierChar c) :
    Dotless n := by
  intro hdot
  cases h '.' hdot

theorem dotless_sanitize (n : String) : Dotless (sanitize n) :=
  dotless_of_isIdentifierChar (isIdentifierChar_sanitize n)

/-- An escape is made of other characters, and what needs none stays as it is. -/
theorem mem_escapeChar {c d : Char} (h : d ∈ escapeChar c) : d = c ∨ d ∈ ['_', 'k', 'q', 'h'] := by
  unfold escapeChar at h
  split_ifs at h
  all_goals
    simp only [List.mem_cons, List.not_mem_nil, or_false] at h ⊢
    tauto

theorem dotless_escapeName {n : String} (h : Dotless n) : Dotless (escapeName n) := by
  unfold escapeName
  split
  · decide
  · rename_i c cs hn
    rw [Dotless, hn] at h
    split
    · rw [Dotless, String.toList_ofList, List.mem_cons, not_or]
      exact ⟨by decide, h⟩
    · rw [Dotless, String.toList_ofList, List.mem_flatMap]
      rintro ⟨d, hd, hdot⟩
      rcases mem_escapeChar hdot with rfl | hdot
      · exact h hd
      · exact absurd hdot (by decide)

theorem Mangling.dotless_apply (m : Mangling) {n : String} (h : Dotless n) :
    Dotless (m.apply n) := by
  cases m with
  | escaping => exact dotless_escapeName h
  | verbatim => exact h

/-- A path is cut at its last dot in one way only. -/
theorem eq_of_append_dot {a b m n : String} (hm : Dotless m) (hn : Dotless n)
    (h : a ++ "." ++ m = b ++ "." ++ n) : a = b ∧ m = n := by
  have h := congrArg String.toList h
  simp only [String.toList_append, List.append_assoc] at h
  -- whichever prefix is the longer one, what it has more would be a dot within the last part
  have hshort {x y : String} {rest : List Char} (hx : Dotless x)
      (h : ".".toList ++ x.toList = rest ++ (".".toList ++ y.toList)) : rest = [] := by
    cases rest with
    | nil => rfl
    | cons c rest =>
      have hx' : x.toList = rest ++ (".".toList ++ y.toList) := (List.cons.inj h).2
      apply absurd _ hx
      rw [hx']
      exact List.mem_append_right _ List.mem_cons_self
  rcases List.append_eq_append_iff.mp h with ⟨rest, hb, hmn⟩ | ⟨rest, ha, hmn⟩
  · obtain rfl := hshort hm hmn
    rw [List.append_nil] at hb
    exact ⟨(String.toList_inj.mp hb).symm, String.toList_inj.mp (List.cons.inj hmn).2⟩
  · obtain rfl := hshort hn hmn
    rw [List.append_nil] at ha
    exact ⟨String.toList_inj.mp ha, (String.toList_inj.mp (List.cons.inj hmn).2).symm⟩

namespace Mangling

variable (m : Mangling)

theorem text_constructor (moduleName typeName variant : String) :
    (m.constructor moduleName typeName variant).text =
      moduleName ++ "." ++ sanitize typeName ++ "." ++ m.constructorName variant := rfl

theorem dotless_constructorName {variant : String} (h : Dotless variant) :
    Dotless (m.constructorName variant) :=
  Dotless.append (by decide) (m.dotless_apply h)

/-- The text of a constructor tells its module, its type up to sanitizing, and its variant. -/
theorem text_constructor_inj {moduleName moduleName' typeName typeName' v w : String}
    (hv : Dotless v) (hw : Dotless w) :
    (m.constructor moduleName typeName v).text = (m.constructor moduleName' typeName' w).text ↔
      moduleName = moduleName' ∧ sanitize typeName = sanitize typeName' ∧ v = w := by
  rw [text_constructor, text_constructor]
  constructor
  · intro h
    obtain ⟨htype, hvariant⟩ :=
      eq_of_append_dot (m.dotless_constructorName hv) (m.dotless_constructorName hw) h
    obtain ⟨hmodule, htype⟩ :=
      eq_of_append_dot (dotless_sanitize typeName) (dotless_sanitize typeName') htype
    exact ⟨hmodule, htype, m.constructorName_injective hvariant⟩
  · rintro ⟨rfl, htype, rfl⟩
    rw [htype]

end Mangling

end Marshal.Naming
