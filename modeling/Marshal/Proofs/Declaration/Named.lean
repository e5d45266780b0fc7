import Marshal.Proofs.Declaration.WellFormed
import Marshal.Proofs.Naming.Usable

/-!
# Names of the grammar

All names in a declared catalog are names that the grammar has, those of modules part by part. They
begin with a letter or an underscore; marks that identifiers do not hold stand behind that only.
-/

namespace Marshal
set_option autoImplicit false

open Declaration (DottedName IsName)

def IsModuleName (n : String) : Prop := ∃ q : DottedName, q.Formed ∧ q.text = n

structure Definition.Named (d : Definition) : Prop where
  moduleName : IsModuleName d.moduleName
  name : IsName d.name
  variant : ∀ v ∈ d.variants, IsName v.name
  field : ∀ f ∈ d.fields, IsName f.name
  typeParam : ∀ p ∈ d.typeParams, IsName p

structure Signature.Named (s : Signature) : Prop where
  moduleName : IsModuleName s.moduleName
  name : IsName s.name
  parameter : ∀ p ∈ s.parameters, IsName p.name

structure Catalog.Named (c : Catalog) : Prop where
  definition : ∀ d ∈ c.definitions, d.Named
  function : ∀ s ∈ c.functions, s.Named

namespace Declaration

open Naming (Dotless Leading Usable Wordlike components escapeChar escapeName isIdentifierChar
  reservedWords)

theorem FieldsDenote.isName {known params : List String} {fs : List FieldDecl} {gs : List Field}
    (h : FieldsDenote known params fs gs) (hfs : ∀ f ∈ fs, f.Formed) : ∀ g ∈ gs, IsName g.name := by
  intro g hg
  obtain ⟨f, hf, hname, -⟩ := exists_of_mem_right h hg
  rw [hname]
  exact (hfs f (List.mem_of_mem_filter hf)).1

theorem DatatypeDecl.Denotes.named {known : List String} {m : DottedName} {decl : DatatypeDecl}
    {d : Definition} (h : decl.Denotes known m.text d) (hm : m.Formed) (hdecl : decl.Formed) :
    d.Named := by
  obtain ⟨hmodule, hname, hparams, hvariants⟩ := h
  obtain ⟨hdname, hdparams, -, hdvariants⟩ := hdecl
  refine ⟨⟨m, hm, hmodule.symm⟩, hname ▸ hdname, ?_, ?_, hparams ▸ hdparams⟩
  · intro w hw
    obtain ⟨v, hv, hvname, -⟩ := exists_of_mem_right hvariants hw
    rw [hvname]
    exact (hdvariants v hv).1
  · intro f hf
    obtain ⟨w, hw, hf⟩ := List.mem_flatMap.mp hf
    obtain ⟨v, hv, -, hfields⟩ := exists_of_mem_right hvariants hw
    exact hfields.isName (hdvariants v hv).2 f hf

theorem FunctionDecl.Denotes.named {known : List String} {m : DottedName} {f : FunctionDecl}
    {s : Signature} (h : f.Denotes known m.text s) (hm : m.Formed) (hf : f.Formed) : s.Named := by
  obtain ⟨hmodule, hname, hparams, -⟩ := h
  exact ⟨⟨m, hm, hmodule.symm⟩, hname ▸ hf.1, hparams.isName hf.2.2.1⟩

theorem ModuleDecl.Formed.function {m : ModuleDecl} (h : m.Formed) {f : FunctionDecl}
    (hf : f ∈ m.functions) : f.Formed := by
  obtain ⟨x, hx, hsome⟩ := List.mem_filterMap.mp hf
  cases x with
  | datatype d => cases hsome
  | function g =>
    obtain rfl : g = f := Option.some.inj hsome
    exact h.2 _ hx

theorem named_of_parse {text : String} {c : Catalog} (h : (parse text).outcome = .ok c) :
    c.Named := by
  obtain ⟨ms, hms, -, hc⟩ := modules_of_parse h
  constructor
  · intro d hd
    obtain ⟨m, hm, decl, hdecl, hdenotes⟩ := hc.datatype hd
    exact hdenotes.named (hms.1 m hm).1 ((hms.1 m hm).datatype hdecl)
  · intro s hs
    obtain ⟨m, hm, f, hf, hdenotes⟩ := hc.function hs
    exact hdenotes.named (hms.1 m hm).1 ((hms.1 m hm).function hf)

/-- A name begins with a character that is no digit of any script. -/
theorem toNat_of_isNameStart {c : Char} (h : isNameStart c) : 65 ≤ c.toNat ∧ c.toNat ≤ 122 := by
  rw [isNameStart, isLetter, Bool.or_eq_true, Bool.or_eq_true, Bool.and_eq_true,
    Bool.and_eq_true] at h
  obtain (⟨hlow, hhigh⟩ | ⟨hlow, hhigh⟩) | h := h
  · have hlow : 97 ≤ c.toNat := (of_decide_eq_true hlow : 'a' ≤ c)
    have hhigh : c.toNat ≤ 122 := (of_decide_eq_true hhigh : c ≤ 'z')
    omega
  · have hlow : 65 ≤ c.toNat := (of_decide_eq_true hlow : 'A' ≤ c)
    have hhigh : c.toNat ≤ 90 := (of_decide_eq_true hhigh : c ≤ 'Z')
    omega
  · obtain rfl := eq_of_beq h
    decide

theorem not_isAnyDigit {c : Char} (h : isNameStart c) : Text.isAnyDigit c = false := by
  obtain ⟨hlow, hhigh⟩ := toNat_of_isNameStart h
  generalize hn : c.toNat = n at hlow hhigh
  rw [Text.isAnyDigit, Text.isDecimal, Text.decimalValue?, hn]
  clear hn h
  interval_cases n <;> rfl

theorem isIdentifierChar_of_isNameStart {c : Char} (h : isNameStart c) : isIdentifierChar c := by
  rw [isNameStart, isLetter, Bool.or_eq_true, Bool.or_eq_true] at h
  rw [isIdentifierChar, Bool.or_eq_true, Bool.or_eq_true, Bool.or_eq_true]
  tauto

/-- The characters of names that identifiers do not hold. -/
theorem isIdentifierChar_of_isNameChar {c : Char} (h : isNameChar c) :
    isIdentifierChar c ∨ c ∈ ['\'', '?', '#'] := by
  simp only [isNameChar, Bool.or_eq_true, beq_iff_eq] at h
  obtain (((h | h) | h) | h) | h := h
  · exact Or.inl (isIdentifierChar_of_isNameStart h)
  · exact Or.inl (by simp only [isIdentifierChar, h, Bool.true_or])
  · exact Or.inr (by simp [h])
  · exact Or.inr (by simp [h])
  · exact Or.inr (by simp [h])

theorem isIdentifierChar_escapeChar {c : Char} (h : isNameChar c) :
    ∀ d ∈ escapeChar c, isIdentifierChar d := by
  have hescape : ∀ d ∈ ['_', 'k', 'q', 'h'], isIdentifierChar d := List.all_eq_true.mp rfl
  have hmark : ∀ c ∈ ['\'', '?', '#'], (escapeChar c).all isIdentifierChar :=
    List.all_eq_true.mp rfl
  rcases isIdentifierChar_of_isNameChar h with hc | hc
  · intro d hd
    rcases Naming.mem_escapeChar hd with rfl | hd
    · exact hc
    · exact hescape d hd
  · exact List.all_eq_true.mp (hmark c hc)

namespace IsName

variable {n : String}

theorem ne_empty (h : IsName n) : n ≠ "" := by
  obtain ⟨c, cs, hn, -⟩ := h
  rintro rfl
  cases hn

theorem leading (h : IsName n) : Leading n := by
  obtain ⟨c, cs, hn, hc, -⟩ := h
  have hlow := (toNat_of_isNameStart hc).1
  rw [Leading, hn, List.head?_cons, Option.any_some, Bool.not_eq_true', Bool.and_eq_false_iff]
  refine Or.inr (decide_eq_false fun h => ?_)
  have h : c.toNat ≤ 57 := h
  omega

theorem usable_iff (h : IsName n) :
    Usable n ↔ (∀ c ∈ n.toList, isIdentifierChar c) ∧ n ∉ reservedWords :=
  ⟨fun hn => ⟨hn.wordlike.chars, hn.unreserved⟩, fun hn => ⟨⟨h.leading, hn.1⟩, hn.2⟩⟩

/-- No name begins with a digit, so it is escaped character by character. -/
theorem toList_escapeName (h : IsName n) : (escapeName n).toList = n.toList.flatMap escapeChar := by
  obtain ⟨c, cs, hn, hc, -⟩ := h
  rw [escapeName, hn]
  dsimp only
  rw [not_isAnyDigit hc, if_neg Bool.false_ne_true, String.toList_ofList]

theorem chars_escapeName (h : IsName n) : ∀ c ∈ (escapeName n).toList, isIdentifierChar c := by
  intro d hd
  rw [h.toList_escapeName] at hd
  obtain ⟨c, hc, hd⟩ := List.mem_flatMap.mp hd
  obtain ⟨b, bs, hn, hb, hbs⟩ := h
  refine isIdentifierChar_escapeChar ?_ d hd
  rw [hn] at hc
  rcases List.mem_cons.mp hc with rfl | hc
  · simp only [isNameChar, hb, Bool.true_or]
  · exact hbs c hc

theorem wordlike_escapeName (h : IsName n) : Wordlike (escapeName n) := by
  refine ⟨?_, h.chars_escapeName⟩
  have hhead : (escapeName n).toList.head? = n.toList.head? := by
    rw [h.toList_escapeName]
    obtain ⟨c, cs, hn, hc, -⟩ := h
    rw [hn, List.flatMap_cons, escapeChar]
    have hne : c ≠ '\'' ∧ c ≠ '?' ∧ c ≠ '#' := by
      refine ⟨?_, ?_, ?_⟩ <;>
      · rintro rfl
        cases hc
    rw [if_neg hne.1, if_neg hne.2.1, if_neg hne.2.2]
    split
    · rename_i hmark
      rw [hmark]
      rfl
    · rfl
  rw [Leading, hhead]
  exact h.leading

theorem usable_escapeName_iff (h : IsName n) : Usable (escapeName n) ↔ n ∉ reservedWords := by
  rw [← Naming.escapeName_mem_reservedWords]
  exact ⟨fun hn => hn.unreserved, fun hn => ⟨h.wordlike_escapeName, hn⟩⟩

end IsName

/--
Escaping tells all names apart, those that begin with a digit or look like escaped ones too, and what
becomes of a name of the grammar holds identifier characters only.
-/
theorem escaped_names_apart :
    (∀ a b, escapeName a = escapeName b → a = b) ∧
      ∀ n, IsName n → ∀ c ∈ (escapeName n).toList, isIdentifierChar c := by
  refine ⟨fun a b h => ?_, fun n hn => ?_⟩
  · exact Naming.escapeName_injective h
  · exact hn.chars_escapeName

/-- A name that looks escaped, a superscript digit, and a name with every mark. -/
theorem escaped_names_apart_marks :
    escapeName "a'" = "a_k" ∧ escapeName "a_k" ≠ escapeName "a'" ∧
      escapeName "²" = "_²" ∧ escapeName "_²" ≠ escapeName "²" ∧
      IsName "a'_k?#" ∧ ∀ c ∈ (escapeName "a'_k?#").toList, isIdentifierChar c := by
  obtain ⟨happart, hchars⟩ := escaped_names_apart
  have hname : IsName "a'_k?#" := ⟨_, _, rfl, rfl, List.all_eq_true.mp rfl⟩
  refine ⟨rfl, ?_, rfl, ?_, hname, hchars _ hname⟩
  · exact fun h => absurd (happart _ _ h) (by decide)
  · exact fun h => absurd (happart _ _ h) (by decide)

theorem components_text {q : DottedName} (h : q.Formed) : components q.text = q.parts :=
  Naming.components_intercalate h.1 fun p hp => (h.2 p hp).dotless

end Declaration

open Naming (components)

theorem IsModuleName.components {n : String} (h : IsModuleName n) :
    ∀ p ∈ components n, IsName p := by
  obtain ⟨q, hq, rfl⟩ := h
  rw [Declaration.components_text hq]
  exact hq.2

end Marshal
