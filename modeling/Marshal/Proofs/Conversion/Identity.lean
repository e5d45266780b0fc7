import Marshal.Proofs.Catalog.References
import Marshal.Proofs.Code.Part
import Marshal.Proofs.Conversion.Transfer

/-!
# Conversions that change nothing

Some types are passed through: their conversion is its source, in either direction. Any other
conversion has its source inside, so it is longer. Whether the elements of a collection are gone
through is decided by that difference (`skips_iff`), hence by the type of the elements and not by
the direction.
-/

namespace Marshal.Conversion
set_option autoImplicit false

open Code (Env Expr)

/-- The types that conversions pass through, where some type parameters have converters. -/
def Passes (s : Scope) (t : TypeDescriptor) : Prop :=
  t.kind = .bool ∨ t.kind = .foreign ∨ t.kind = .tuple ∧ t.args = [] ∨
    t.kind = .typeParam ∧ ∀ f, s.converter? t.name = some f → f = ""

variable {dir : Direction} {s : Scope} {t : TypeDescriptor} {source : Expr} {depth : Int}

theorem convert_of_passes (h : Passes s t) : convert dir s t source depth = source := by
  obtain ⟨kind, name, args⟩ := t
  rcases h with h | h | ⟨h, hargs⟩ | ⟨h, hname⟩
  · obtain rfl : kind = .bool := h
    rw [convert]
  · obtain rfl : kind = .foreign := h
    rw [convert]
  · obtain rfl : kind = .tuple := h
    obtain rfl : args = [] := hargs
    rw [convert]
  · obtain rfl : kind = .typeParam := h
    rw [convert, ofParam]
    split
    · rename_i f hf
      rw [hname f hf]
      rfl
    · rfl

section Forms

theorem mem_inner_ofInt : source ∈ (ofInt dir source).inner := by
  cases dir <;> simp [ofInt, Expr.inner, Expr.partsEach]

theorem mem_inner_ofString : source ∈ (ofString dir s source).inner := by
  cases dir <;> simp [ofString, Expr.callAttr, Expr.inner, Expr.partsEach]

theorem mem_inner_ofSeq : source ∈ (ofSeq dir s source).inner := by
  cases dir <;> simp [ofSeq, seqList, Expr.inner, Expr.partsEach]

theorem mem_inner_ofSeqOf (elem : Expr) (x : String) :
    source ∈ (ofSeqOf dir s source elem x).inner := by
  cases dir <;> simp [ofSeqOf, seqList, Expr.inner, Expr.partsEach]

theorem mem_inner_ofSet : source ∈ (ofSet dir s source).inner := by
  cases dir <;> simp [ofSet, Expr.inner, Expr.partsEach]

theorem mem_inner_ofSetOf (elem : Expr) (x : String) :
    source ∈ (ofSetOf dir s source elem x).inner := by
  cases dir <;> simp [ofSetOf, Expr.inner, Expr.partsEach]

theorem mem_inner_ofMapOf (kind : TypeKind) (key value : Expr) (k v : String) :
    source ∈ (ofMapOf dir source kind key value k v).inner := by
  cases dir <;> simp [ofMapOf, mapKeys, Expr.inner, Expr.partsEach]

theorem mem_inner_ofTuple (first : Expr) (items : List Expr) :
    first ∈ (ofTuple dir s (first :: items)).inner := by
  cases dir <;> simp [ofTuple, Expr.inner, Expr.partsEach]

theorem mem_inner_ofParam {p f : String} (hf : s.converter? p = some f) (hne : f ≠ "") :
    source ∈ (ofParam s p source).inner := by
  simp [ofParam, hf, hne, Expr.inner, Expr.partsEach]

end Forms

/-- A conversion that is not its source has it inside. -/
theorem length_lt_convert (h : ¬ Passes s t) :
    source.text.length < (convert dir s t source depth).text.length := by
  induction t using TypeDescriptor.induction generalizing source depth with
  | step kind name args ih =>
    cases kind with
    | int => exact Expr.length_lt_of_mem_inner mem_inner_ofInt
    | bool => exact absurd (.inl rfl) h
    | string => exact Expr.length_lt_of_mem_inner mem_inner_ofString
    | seq =>
      cases args with
      | nil => exact Expr.length_lt_of_mem_inner mem_inner_ofSeq
      | cons a args =>
        rw [convert]
        split
        · exact Expr.length_lt_of_mem_inner mem_inner_ofSeq
        · exact Expr.length_lt_of_mem_inner (mem_inner_ofSeqOf _ _)
    | set =>
      cases args with
      | nil => exact Expr.length_lt_of_mem_inner mem_inner_ofSet
      | cons a args =>
        rw [convert]
        split
        · exact Expr.length_lt_of_mem_inner mem_inner_ofSet
        · exact Expr.length_lt_of_mem_inner (mem_inner_ofSetOf _ _)
    | map =>
      obtain _ | ⟨a, _ | ⟨b, args⟩⟩ := args
      · exact Expr.length_lt_of_mem_inner (mem_inner_ofMapOf _ _ _ _ _)
      · exact Expr.length_lt_of_mem_inner (mem_inner_ofMapOf _ _ _ _ _)
      · rw [convert]
        exact Expr.length_lt_of_mem_inner (mem_inner_ofMapOf _ _ _ _ _)
    | tuple =>
      cases args with
      | nil => exact absurd (.inr (.inr (.inl ⟨rfl, rfl⟩))) h
      | cons a args =>
        -- the first item is inside the whole, and holds the source whether or not it is converted
        have hitem : source.text.length < (Expr.item source 0).text.length :=
          Expr.length_lt_of_mem_inner List.mem_cons_self
        have hfirst : (Expr.item source 0).text.length ≤
            (convert dir s a (.item source 0) depth).text.length := by
          by_cases ha : Passes s a
          · exact Nat.le_of_eq (by rw [convert_of_passes ha])
          · exact Nat.le_of_lt (ih a List.mem_cons_self ha)
        rw [convert]
        calc source.text.length
            < (Expr.item source 0).text.length := hitem
          _ ≤ (convert dir s a (.item source 0) depth).text.length := hfirst
          _ < _ := Expr.length_lt_of_mem_inner (mem_inner_ofTuple _ _)
    | datatype =>
      rw [convert]
      exact Expr.length_lt_of_mem_inner (by simp [Expr.inner, Expr.partsEach])
    | typeParam =>
      obtain ⟨f, hf, hne⟩ : ∃ f, s.converter? name = some f ∧ f ≠ "" := by
        by_contra hnone
        refine h (.inr (.inr (.inr ⟨rfl, fun f hf => ?_⟩)))
        by_contra hne
        exact hnone ⟨f, hf, hne⟩
      exact Expr.length_lt_of_mem_inner (mem_inner_ofParam hf hne)
    | foreign => exact absurd (.inr (.inl rfl)) h

theorem text_convert_eq_iff : (convert dir s t source depth).text = source.text ↔ Passes s t := by
  constructor
  · intro h
    by_contra hpasses
    have hlt : source.text.length < (convert dir s t source depth).text.length :=
      length_lt_convert hpasses
    rw [h] at hlt
    exact Nat.lt_irrefl _ hlt
  · intro h
    rw [convert_of_passes h]

/-- A conversion is told to be the bound variable by its text as well as by its form. -/
theorem isName_convert_iff {x : String} :
    (convert dir s t (.name x) depth).isName x ↔ Passes s t := by
  constructor
  · intro h
    have htext : (convert dir s t (.name x) depth).text = (Expr.name x).text := by
      cases hconvert : convert dir s t (.name x) depth with
      | name n =>
        rw [hconvert] at h
        rw [beq_iff_eq.mp (h : (n == x) = true)]
      | _ =>
        rw [hconvert] at h
        cases h
    exact text_convert_eq_iff.mp htext
  · intro h
    rw [convert_of_passes h]
    exact beq_self_eq_true x

/-- A collection is converted without a look at its elements, as if their type was not given. -/
def Skips (dir : Direction) (s : Scope) (t : TypeDescriptor) (source : Expr) (depth : Int) : Prop :=
  (convert dir s t source depth).text = (convert dir s ⟨t.kind, t.name, []⟩ source depth).text

theorem length_ofSeq_lt (elem : Expr) (x : String) :
    (ofSeq dir s source).text.toList.length < (ofSeqOf dir s source elem x).text.toList.length := by
  cases dir with
  | toExternal => exact Expr.length_chars_lt _ (by simp [ofSeq, ofSeqOf, Expr.inner])
  | fromExternal =>
    have hlt := Expr.length_chars_lt (d := .orList source)
      (.listFor elem x (.group (.orList source))) (by simp [Expr.inner])
    simp only [ofSeq, ofSeqOf, Expr.length_chars_call]
    omega

theorem length_ofSet_lt (elem : Expr) (x : String) :
    (ofSet dir s source).text.toList.length < (ofSetOf dir s source elem x).text.toList.length := by
  cases dir with
  | toExternal =>
    have hlist : (Expr.name "list").text.toList.length = 4 := rfl
    simp only [ofSet, ofSetOf, Expr.length_chars_call, Expr.length_chars_listFor]
    omega
  | fromExternal =>
    have hlt := Expr.length_chars_lt (d := .orList source)
      (.listFor elem x (.group (.orList source))) (by simp [Expr.inner])
    simp only [ofSet, ofSetOf, Expr.length_chars_call]
    omega

/-- Elements are skipped exactly if their type is passed through. -/
theorem skips_iff (ht : t.kind = .seq ∨ t.kind = .set) :
    Skips dir s t source depth ↔ ∀ a ∈ t.args.head?, Passes s a := by
  obtain ⟨kind, name, args⟩ := t
  cases args with
  | nil => exact iff_of_true rfl nofun
  | cons a args =>
    have helem : (∀ b ∈ (a :: args).head?, Passes s b) ↔ Passes s a := by simp
    rw [helem, Skips]
    by_cases ha : Passes s a
    · refine iff_of_true ?_ ha
      rcases ht with rfl | rfl <;> simp only [convert, isName_convert_iff.mpr ha, if_true]
    · refine iff_of_false ?_ ha
      have hx : (convert dir s a (.name (placeholder "x" depth)) (depth + 1)).isName
          (placeholder "x" depth) = false := by
        rw [← Bool.not_eq_true, isName_convert_iff]
        exact ha
      intro h
      have hlength := congrArg (·.toList.length) h
      rcases ht with rfl | rfl
      · simp only [convert, hx] at hlength
        exact absurd hlength.symm (Nat.ne_of_lt (length_ofSeq_lt _ _))
      · simp only [convert, hx] at hlength
        exact absurd hlength.symm (Nat.ne_of_lt (length_ofSet_lt _ _))

theorem noConverter_iff (hs : ∀ c ∈ s.converters, c.2 ≠ "") {p : String} :
    (∀ f, s.converter? p = some f → f = "") ↔ p ∉ s.converters.map (·.1) := by
  constructor
  · intro h hp
    obtain ⟨c, hc, rfl⟩ := List.mem_map.mp hp
    cases hf : s.converter? c.1 with
    | none =>
      have hne := List.lookup_eq_none_iff.mp hf c hc
      simp at hne
    | some f =>
      obtain ⟨before, after, heq, -⟩ := List.lookup_eq_some_iff.mp hf
      exact hs (c.1, f) (heq ▸ List.mem_append_right _ List.mem_cons_self) (h f hf)
  · intro hp f hf
    obtain ⟨before, after, heq, -⟩ := List.lookup_eq_some_iff.mp hf
    have hmem : (p, f) ∈ s.converters := heq ▸ List.mem_append_right _ List.mem_cons_self
    exact absurd (List.mem_map_of_mem hmem) hp

/-- Scopes with converters for the same type parameters, none of them empty. -/
structure Paired (s s' : Scope) : Prop where
  keys : ∀ p, p ∈ s.converters.map (·.1) ↔ p ∈ s'.converters.map (·.1)
  left : ∀ c ∈ s.converters, c.2 ≠ ""
  right : ∀ c ∈ s'.converters, c.2 ≠ ""

theorem Paired.passes_iff {s' : Scope} (h : Paired s s') : Passes s t ↔ Passes s' t := by
  rw [Passes, Passes, noConverter_iff h.left, noConverter_iff h.right, h.keys]

/--
The text of a conversion is that of its source exactly if its type is one of those passed through,
and longer otherwise. So the elements of a sequence or set, at whatever depth it stands, are skipped
exactly if the conversion of one is the text of its variable; this is so in one direction exactly if
it is in the other, where the same type parameters have converters; and then every element would be
converted to itself.
-/
theorem identity_skip_exact (s : Scope) (t : TypeDescriptor) :
    (∀ dir source depth,
      ((convert dir s t source depth).text = source.text ↔ Passes s t) ∧
        (¬ Passes s t → source.text.length < (convert dir s t source depth).text.length)) ∧
    (t.kind = .seq ∨ t.kind = .set →
      (∀ dir source depth, Skips dir s t source depth ↔ ∀ a ∈ t.args.head?,
        (convert dir s a (.name (placeholder "x" depth)) (depth + 1)).text =
          placeholder "x" depth) ∧
      (∀ s', Paired s s' → ∀ source source' depth depth',
        Skips .fromExternal s t source depth ↔ Skips .toExternal s' t source' depth') ∧
      ∀ dir source depth, Skips dir s t source depth → ∀ a ∈ t.args.head?,
        (∀ element depth', convert dir s a element depth' = element) ∧
        ∀ (env : Env) v, (convert dir s a (.name (placeholder "x" depth)) (depth + 1)).value
          (env.bind (placeholder "x" depth) v) = some v) := by
  refine ⟨fun dir source depth => ⟨text_convert_eq_iff, length_lt_convert⟩, fun ht => ?_⟩
  refine ⟨?_, ?_, ?_⟩
  · intro dir source depth
    rw [skips_iff ht]
    exact forall₂_congr fun a _ => text_convert_eq_iff.symm
  · intro s' hpaired source source' depth depth'
    rw [skips_iff ht, skips_iff ht]
    exact forall₂_congr fun a _ => hpaired.passes_iff
  · intro dir source depth hskips a ha
    have hpasses : Passes s a := (skips_iff ht).mp hskips a ha
    refine ⟨fun element depth' => convert_of_passes hpasses, fun env v => ?_⟩
    rw [convert_of_passes hpasses, value_name_bind]

/-- A sequence of a parameter that has no converter, in scopes where another one has. -/
def untouched : TypeDescriptor := .seq (.typeParam "U")

def readScope : Scope := ⟨"_rt", [("T", "T_fromJson")]⟩

def writeScope : Scope := ⟨"_rt", [("T", "T_toJson")]⟩

theorem identity_skip_exact_untouched :
    (untouched.kind = .seq ∨ untouched.kind = .set) ∧ ¬ Passes readScope untouched ∧
      Paired readScope writeScope ∧ Skips .fromExternal readScope untouched (.name "json") 0 ∧
      Skips .toExternal writeScope untouched (.name "value.dtor_items") 2 ∧
      (convert .fromExternal readScope (.typeParam "U") (.name "x") 1).value
        (Env.bind ⟨id, "_rt", []⟩ "x" (.int 7)) = some (.int 7) := by
  have hpaired : Paired readScope writeScope := ⟨fun _ => Iff.rfl, by decide, by decide⟩
  have hskips : Skips .fromExternal readScope untouched (.name "json") 0 := rfl
  obtain ⟨htext, hcollection⟩ := identity_skip_exact readScope untouched
  obtain ⟨-, hboth, hsame⟩ := hcollection (.inl rfl)
  refine ⟨.inl rfl, ?_, hpaired, hskips, ?_, ?_⟩
  · rw [← (htext .fromExternal (.name "json") 0).1]
    decide
  · exact (hboth writeScope hpaired (.name "json") _ 0 2).mp hskips
  · exact (hsame _ _ _ hskips _ rfl).2 _ _

end Marshal.Conversion
