import Marshal.Proofs.Closure.Members
import Mathlib.Data.List.Perm.Basic

/-!
# The order of a catalog

Which definitions are kept and merged, and which ambiguity is reported, depends on the order of the
catalog. Whether resolution fails does not, and neither do the names of the generation set, its root
definitions and the structure behind every name: names are reachable in any order, and structures
are compared as equal or different outlines, so that one of them can stand for all.
-/

namespace Marshal
set_option autoImplicit false

def Field.outline (f : Field) : String × String × TypeKind := (f.name, f.type.name, f.type.kind)

def Variant.outline (v : Variant) : String × List (String × String × TypeKind) :=
  (v.name, v.fields.map (·.outline))

def Definition.outline (d : Definition) : List (String × List (String × String × TypeKind)) :=
  d.variants.map (·.outline)

/-- Lists agree member by member if they have the same images, where equal images mean agreement. -/
theorem agree_iff_map_eq {α β : Type} {same : α → α → Bool} {f : α → β}
    (h : ∀ a b, same a b ↔ f a = f b) {as bs : List α} :
    agree same as bs ↔ as.map f = bs.map f := by
  induction as generalizing bs with
  | nil => cases bs <;> simp [agree]
  | cons a as ih =>
    cases bs with
    | nil => simp [agree]
    | cons b bs => simp [agree, h a b, ih]

theorem Field.sameStructure_iff (f g : Field) : f.sameStructure g ↔ f.outline = g.outline := by
  simp [sameStructure, outline, and_assoc]

theorem Variant.sameStructure_iff (v w : Variant) : v.sameStructure w ↔ v.outline = w.outline := by
  simp [sameStructure, outline, agree_iff_map_eq Field.sameStructure_iff]

theorem Definition.sameStructure_iff {d e : Definition} :
    d.sameStructure e ↔ d.outline = e.outline :=
  agree_iff_map_eq Variant.sameStructure_iff

namespace Catalog

variable {c c' : Catalog} {m n : String} {signatures : List Signature} {d : Definition}

/-- Some two definitions of a name differ in structure. -/
def Clashes (c : Catalog) (n : String) : Prop :=
  ∃ d ∈ c.lookup n, ∃ e ∈ c.lookup n, d.outline ≠ e.outline

theorem rootNamed?_of_mem (hc : c.UniqueNames) (hd : d ∈ c.lookup n) (hm : d.moduleName = m) :
    rootNamed? (c.definitionsIn m) n = some d := by
  obtain ⟨hmem, rfl⟩ := mem_lookup.mp hd
  have hroot : d ∈ (c.definitionsIn m).filter (·.name == d.name) := by
    simp [mem_definitionsIn, hmem, hm]
  cases hlast : rootNamed? (c.definitionsIn m) d.name with
  | none =>
    rw [rootNamed?, List.getLast?_eq_none_iff] at hlast
    rw [hlast] at hroot
    exact absurd hroot List.not_mem_nil
  | some e =>
    obtain ⟨he, hname⟩ := List.mem_filter.mp (List.mem_of_getLast? hlast)
    obtain ⟨he, hmodule⟩ := mem_definitionsIn.mp he
    rw [hc.eq he hmem (hmodule.trans hm.symm) (by simpa using hname)]

theorem mem_of_kept {k : Definition} (h : c.kept? m (c.definitionsIn m) n = some k) :
    k ∈ c.lookup n := by
  rw [kept?, Option.or_eq_some_iff] at h
  rcases h with h | ⟨-, h⟩
  · obtain ⟨hmem, hname⟩ := List.mem_filter.mp (List.mem_of_getLast? h)
    exact mem_lookup.mpr ⟨(mem_definitionsIn.mp hmem).1, by simpa using hname⟩
  · exact mem_lookup.mpr (mem_candidates.mp (List.mem_of_mem_head? h)).1

theorem kept_or_candidate (hc : c.UniqueNames) (hd : d ∈ c.lookup n) :
    c.kept? m (c.definitionsIn m) n = some d ∨ d ∈ c.candidates m n := by
  by_cases hm : d.moduleName = m
  · left
    rw [kept?, rootNamed?_of_mem hc hd hm]
    rfl
  · right
    exact mem_candidates.mpr ⟨mem_lookup.mp hd, hm⟩

/-- A name has conflicts exactly if some two of its definitions differ: comparing all of them with
the one that is kept is enough. -/
theorem conflicts_ne_nil_iff (hc : c.UniqueNames) :
    c.conflicts m (c.definitionsIn m) n ≠ [] ↔ c.Clashes n := by
  rw [conflicts_ne_nil]
  constructor
  · rintro ⟨k, hk, d, hd, hdiffer⟩
    refine ⟨k, mem_of_kept hk, d, mem_lookup.mpr (mem_candidates.mp hd).1, fun h => ?_⟩
    rw [Definition.sameStructure_iff.mpr h] at hdiffer
    cases hdiffer
  · rintro ⟨d, hd, e, he, hdiffer⟩
    obtain ⟨k, hk⟩ : ∃ k, c.kept? m (c.definitionsIn m) n = some k := by
      rcases kept_or_candidate (m := m) hc hd with h | h
      · exact ⟨d, h⟩
      · exact Option.isSome_iff_exists.mp (by simp [kept?, List.ne_nil_of_mem h])
    -- if nothing conflicted, everything would have the outline of what is kept
    by_contra hnone
    have hsame : ∀ x ∈ c.lookup n, k.outline = x.outline := by
      intro x hx
      rcases kept_or_candidate (m := m) hc hx with h | h
      · rw [Option.some.inj (hk.symm.trans h)]
      · by_contra hx
        refine hnone ⟨k, hk, x, h, ?_⟩
        simpa [← Definition.sameStructure_iff] using hx
    exact hdiffer ((hsame d hd).symm.trans (hsame e he))

/-- Resolution fails exactly if two definitions of one reachable name differ in structure. -/
theorem resolve_fails_iff (hc : c.UniqueNames) :
    (∃ a, (c.resolve (c.definitionsIn m) signatures (some m)).outcome = .error a) ↔
      ∃ n, c.Reaches (c.definitionsIn m) signatures n ∧ c.Clashes n := by
  have hout := resolveFrom_outcome c m (c.definitionsIn m) signatures
  simp only [filter_definitionsIn] at hout
  have hnames : (c.reachable (c.definitionsIn m) signatures).flatMap
      (c.conflicts m (c.definitionsIn m)) ≠ [] ↔
      ∃ n, c.Reaches (c.definitionsIn m) signatures n ∧ c.Clashes n := by
    simp only [Ne, List.flatMap_eq_nil_iff, not_forall, ← mem_reachable_iff,
      ← conflicts_ne_nil_iff (m := m) hc, exists_prop]
  rw [← hnames]
  change (∃ a, (c.resolveFrom m (c.definitionsIn m) signatures).outcome = .error a) ↔ _
  rw [hout]
  split
  · rename_i a as h
    simp [h]
  · rename_i h
    simp [h]

section Permutation
variable (hp : c'.definitions.Perm c.definitions)
include hp

theorem UniqueNames.perm (hc : c.UniqueNames) : c'.UniqueNames := (hp.map _).nodup_iff.mpr hc

theorem mem_lookup_perm : d ∈ c'.lookup n ↔ d ∈ c.lookup n := (hp.filter _).mem_iff

theorem clashes_perm : c'.Clashes n ↔ c.Clashes n := by
  simp only [Clashes, mem_lookup_perm hp]

theorem mem_referencesOf_perm {k : String} : k ∈ c'.referencesOf n ↔ k ∈ c.referencesOf n := by
  simp only [referencesOf, List.mem_flatMap, mem_lookup_perm hp]

theorem reaches_perm : c'.Reaches (c'.definitionsIn m) signatures n ↔
    c.Reaches (c.definitionsIn m) signatures n := by
  have hstart (n : String) : n ∈ startNames (c'.definitionsIn m) signatures ↔
      n ∈ startNames (c.definitionsIn m) signatures := by
    simp only [mem_startNames, mem_definitionsIn, hp.mem_iff]
  constructor
  · intro h
    induction h with
    | start h => exact .start ((hstart _).mp h)
    | reference _ hk ih => exact .reference ih ((mem_referencesOf_perm hp).mp hk)
  · intro h
    induction h with
    | start h => exact .start ((hstart _).mpr h)
    | reference _ hk ih => exact .reference ih ((mem_referencesOf_perm hp).mpr hk)

end Permutation

theorem mem_names_iff {set : GenerationSet}
    (h : (c.resolve (c.definitionsIn m) signatures (some m)).outcome = .ok set) :
    n ∈ set.names ↔ c.Reaches (c.definitionsIn m) signatures n ∧ c.Defines n := by
  rw [← mem_reachable_iff, GenerationSet.names, List.mem_map]
  constructor
  · rintro ⟨d, hd, rfl⟩
    obtain ⟨hmem, hname⟩ := mem_of_resolve h hd
    exact ⟨hname, d, hmem, rfl⟩
  · rintro ⟨hn, hd⟩
    exact exists_of_reachable h hn hd

/-- Generation sets of one root module that hold the same up to order, and up to which of several
definitions of the same structure is kept for a name. -/
structure SameUpToOrder (m : String) (set set' : GenerationSet) : Prop where
  names : ∀ n, n ∈ set'.names ↔ n ∈ set.names
  roots : (set'.definitions.filter (·.moduleName == m)).Perm
    (set.definitions.filter (·.moduleName == m))
  structures : ∀ d ∈ set.definitions, ∀ d' ∈ set'.definitions, d.name = d'.name →
    d.sameStructure d'

/-- With the definitions of a module as roots, two catalogs resolve to the same or both not. -/
structure ResolveAlike (c c' : Catalog) (signatures : List Signature) (m : String) : Prop where
  fails : (∃ a, (c'.resolve (c'.definitionsIn m) signatures (some m)).outcome = .error a) ↔
    ∃ a, (c.resolve (c.definitionsIn m) signatures (some m)).outcome = .error a
  agrees : ∀ set set', (c.resolve (c.definitionsIn m) signatures (some m)).outcome = .ok set →
    (c'.resolve (c'.definitionsIn m) signatures (some m)).outcome = .ok set' →
    SameUpToOrder m set set'

/-- What is kept for one name has the same structure, whatever the order it was chosen in. -/
theorem sameStructure_of_resolve (hc : c.UniqueNames) (hp : c'.definitions.Perm c.definitions)
    {set set' : GenerationSet}
    (h : (c.resolve (c.definitionsIn m) signatures (some m)).outcome = .ok set)
    (h' : (c'.resolve (c'.definitionsIn m) signatures (some m)).outcome = .ok set')
    {d d' : Definition} (hd : d ∈ set.definitions) (hd' : d' ∈ set'.definitions)
    (hname : d.name = d'.name) : d.sameStructure d' := by
  obtain ⟨hmem, hreach⟩ := mem_of_resolve h hd
  have hmem' := hp.mem_iff.mp (mem_of_resolve h' hd').1
  rw [Definition.sameStructure_iff]
  by_contra hdiffer
  have hclash : c.Clashes d.name :=
    ⟨d, mem_lookup.mpr ⟨hmem, rfl⟩, d', mem_lookup.mpr ⟨hmem', hname.symm⟩, hdiffer⟩
  obtain ⟨a, ha⟩ := (resolve_fails_iff hc).mpr ⟨d.name, mem_reachable_iff.mp hreach, hclash⟩
  rw [h] at ha
  cases ha

/-- Resolution does not depend on the order of the definitions in a catalog. -/
theorem resolve_perm (hc : c.UniqueNames) (hp : c'.definitions.Perm c.definitions)
    (signatures : List Signature) (m : String) : ResolveAlike c c' signatures m := by
  constructor
  · rw [resolve_fails_iff hc, resolve_fails_iff (hc.perm hp)]
    simp only [reaches_perm hp, clashes_perm hp]
  · intro set set' h h'
    constructor
    · intro n
      rw [mem_names_iff h, mem_names_iff h', reaches_perm hp]
      simp only [Defines, hp.mem_iff]
    · rw [filter_of_resolve h, filter_of_resolve h']
      exact hp.filter _
    · exact fun d hd d' hd' hname => sameStructure_of_resolve hc hp h h' hd hd' hname

/-- Stocks of books, with two kinds of labels that are the same but for a type argument. -/
def stocks : Catalog where
  definitions :=
    [⟨"Shop", "Label", [⟨"Label", [⟨"lines", .seq .string⟩]⟩], []⟩,
      ⟨"Stock", "Book", [⟨"Book", [⟨"label", .datatype "Label" []⟩, ⟨"count", .int "nat"⟩]⟩], []⟩,
      ⟨"Print", "Label", [⟨"Label", [⟨"lines", .seq (.int "int")⟩]⟩], []⟩]
  functions := []

/-- The same stocks, declared the other way round. -/
def stocksReversed : Catalog := { stocks with definitions := stocks.definitions.reverse }

theorem resolve_perm_stocks :
    stocks.UniqueNames ∧ stocksReversed.definitions.Perm stocks.definitions ∧
      ((stocks.resolve (stocks.definitionsIn "Stock") [] (some "Stock")).outcome.map
        (·.definitions.map (·.fullName))) = .ok ["Stock.Book", "Shop.Label"] ∧
      ((stocksReversed.resolve (stocksReversed.definitionsIn "Stock") [] (some "Stock")).outcome.map
        (·.definitions.map (·.fullName))) = .ok ["Stock.Book", "Print.Label"] ∧
      ResolveAlike stocks stocksReversed [] "Stock" :=
  ⟨by decide, List.reverse_perm _, by decide, by decide,
    resolve_perm (by decide) (List.reverse_perm _) [] "Stock"⟩

end Catalog

end Marshal
