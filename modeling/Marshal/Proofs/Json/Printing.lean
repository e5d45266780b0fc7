import Marshal.Json.Printer
import Marshal.Proofs.Json.Strings

/-!
# Printed JSON is read back

A value of strings, arrays and objects that is printed on one line is what the reader finds there,
whatever follows, as soon as the reader goes as deep as the value is nested.
-/

namespace Marshal.Json
set_option autoImplicit false

open Text (Plain plain_of_all Wide)

def Whole (w : Wide) : Prop := ∃ s : String, w = .text s

/-- A value that holds nothing but strings without halves of pairs. -/
inductive Textual : Json → Prop
  | str (s : String) : Textual (.str s)
  | arr {js : List Json} (h : ∀ j ∈ js, Textual j) : Textual (.arr js)
  | obj {es : List (Wide × Json)} (hk : ∀ e ∈ es, Whole e.1) (h : ∀ e ∈ es, Textual e.2) :
      Textual (.obj es)

mutual
/-- How many arrays and objects are in one another at most. -/
def nesting : Json → Nat
  | .arr js => nestingItems js + 1
  | .obj es => nestingEntries es + 1
  | _ => 0

def nestingItems : List Json → Nat
  | [] => 0
  | j :: js => max j.nesting (nestingItems js)

def nestingEntries : List (Wide × Json) → Nat
  | [] => 0
  | (_, j) :: es => max j.nesting (nestingEntries es)
end

def chars (j : Json) : List Char := j.print.toList

/-- The characters between the brackets of a printed array. -/
def itemsChars (js : List Json) : List Char := (", ".intercalate (printItems js)).toList

/-- The characters between the braces of a printed object. -/
def entriesChars (es : List (Wide × Json)) : List Char :=
  (", ".intercalate (printEntries es)).toList

/-- The characters of a printed key, and the colon and blank behind it. -/
def keyChars (key : Wide) : List Char := key.quoted.toList ++ [':', ' ']

theorem keyChars_text (s : String) :
    keyChars s = '"' :: (Text.quoteChars s.toList ++ ['"', ':', ' ']) := by
  simp [keyChars, Wide.quoted, Text.quoted]

theorem chars_str (s : String) :
    (Json.str s).chars = '"' :: (Text.quoteChars s.toList ++ ['"']) := by
  rw [chars, print, Wide.quoted, Text.quoted, String.toList_ofList]

theorem chars_arr (js : List Json) : (Json.arr js).chars = '[' :: (itemsChars js ++ [']']) := by
  rw [chars, print, String.toList_append, String.toList_append]
  rfl

theorem chars_obj (es : List (Wide × Json)) :
    (Json.obj es).chars = '\x7b' :: (entriesChars es ++ ['\x7d']) := by
  rw [chars, print, String.toList_append, String.toList_append]
  rfl

theorem itemsChars_singleton (j : Json) : itemsChars [j] = j.chars := by
  simp [itemsChars, printItems, chars]

theorem itemsChars_cons_cons (j k : Json) (js : List Json) :
    itemsChars (j :: k :: js) = j.chars ++ ',' :: ' ' :: itemsChars (k :: js) := by
  simp [itemsChars, printItems, chars, String.intercalate_cons_cons]

theorem entriesChars_singleton (key : Wide) (j : Json) :
    entriesChars [(key, j)] = keyChars key ++ j.chars := by
  simp [entriesChars, printEntries, chars, keyChars]

theorem entriesChars_cons_cons (key : Wide) (j : Json) (e : Wide × Json)
    (es : List (Wide × Json)) :
    entriesChars ((key, j) :: e :: es) =
      keyChars key ++ j.chars ++ ',' :: ' ' :: entriesChars (e :: es) := by
  simp [entriesChars, printEntries, chars, keyChars, String.intercalate_cons_cons]

theorem plain_itemsChars {js : List Json} (h : ∀ j ∈ js, ∀ c ∈ j.chars, Plain c) :
    ∀ c ∈ itemsChars js, Plain c := by
  induction js with
  | nil => exact nofun
  | cons j js ih =>
    obtain ⟨hj, hjs⟩ := List.forall_mem_cons.mp h
    cases js with
    | nil => rwa [itemsChars_singleton]
    | cons k js =>
      rw [itemsChars_cons_cons, List.forall_mem_append, List.forall_mem_cons, List.forall_mem_cons]
      exact ⟨hj, by decide, by decide, ih hjs⟩

theorem plain_keyChars {key : Wide} (h : Whole key) : ∀ c ∈ keyChars key, Plain c := by
  obtain ⟨s, rfl⟩ := h
  rw [keyChars_text, List.forall_mem_cons, List.forall_mem_append]
  exact ⟨by decide, Text.plain_quoteChars _, plain_of_all rfl⟩

theorem plain_entriesChars {es : List (Wide × Json)} (hk : ∀ e ∈ es, Whole e.1)
    (h : ∀ e ∈ es, ∀ c ∈ e.2.chars, Plain c) : ∀ c ∈ entriesChars es, Plain c := by
  induction es with
  | nil => exact nofun
  | cons e es ih =>
    obtain ⟨he, hes⟩ := List.forall_mem_cons.mp h
    obtain ⟨hkey, hkeys⟩ := List.forall_mem_cons.mp hk
    obtain ⟨key, j⟩ := e
    have hentry := List.forall_mem_append.mpr ⟨plain_keyChars hkey, he⟩
    cases es with
    | nil => rwa [entriesChars_singleton]
    | cons f es =>
      rw [entriesChars_cons_cons, List.forall_mem_append, List.forall_mem_cons,
        List.forall_mem_cons]
      exact ⟨hentry, by decide, by decide, ih hkeys hes⟩

/-- A printed value of texts is printable ASCII. -/
theorem Textual.plain {j : Json} (h : j.Textual) : ∀ c ∈ j.chars, Plain c := by
  induction h with
  | str s =>
    rw [chars_str, List.forall_mem_cons, List.forall_mem_append]
    exact ⟨by decide, Text.plain_quoteChars _, plain_of_all rfl⟩
  | arr _ ih =>
    rw [chars_arr, List.forall_mem_cons, List.forall_mem_append]
    exact ⟨by decide, plain_itemsChars ih, plain_of_all rfl⟩
  | obj hk _ ih =>
    rw [chars_obj, List.forall_mem_cons, List.forall_mem_append]
    exact ⟨by decide, plain_entriesChars hk ih, plain_of_all rfl⟩

section Skipping
variable {c : Char} {cs : List Char}

theorem skip_of_not_blank (h : isBlank c = false) : skip (c :: cs) = c :: cs := by
  simp [skip, h]

@[simp] theorem skip_space : skip (' ' :: cs) = skip cs := rfl

@[simp] theorem skip_comma : skip (',' :: cs) = ',' :: cs := rfl

@[simp] theorem skip_colon : skip (':' :: cs) = ':' :: cs := rfl

@[simp] theorem skip_brace : skip ('\x7d' :: cs) = '\x7d' :: cs := rfl

end Skipping

/-- The characters that values of texts begin with. -/
def openers : List Char := ['"', '[', '\x7b']

theorem opener_facts : ∀ c ∈ openers, isBlank c = false ∧ c ≠ ']' ∧ c ≠ '\ufeff' := by
  rw [openers, List.forall_mem_cons, List.forall_mem_cons, List.forall_mem_singleton]
  decide

theorem Textual.chars_eq_cons {j : Json} (h : j.Textual) :
    ∃ c ∈ openers, ∃ cs, j.chars = c :: cs := by
  cases h with
  | str s => exact ⟨_, by decide, _, chars_str s⟩
  | arr _ => exact ⟨_, by decide, _, chars_arr _⟩
  | obj _ _ => exact ⟨_, by decide, _, chars_obj _⟩

theorem itemsChars_eq_cons {j : Json} (h : j.Textual) (js : List Json) :
    ∃ c ∈ openers, ∃ cs, itemsChars (j :: js) = c :: cs := by
  obtain ⟨c, hc, cs, hcs⟩ := h.chars_eq_cons
  cases js with
  | nil => exact ⟨c, hc, cs, by rw [itemsChars_singleton, hcs]⟩
  | cons k js => exact ⟨c, hc, _, by rw [itemsChars_cons_cons, hcs, List.cons_append]⟩

theorem entriesChars_eq_cons {e : Wide × Json} (h : Whole e.1) (es : List (Wide × Json)) :
    ∃ cs, entriesChars (e :: es) = '"' :: cs := by
  obtain ⟨key, j⟩ := e
  obtain ⟨s, rfl⟩ := h
  cases es with
  | nil => exact ⟨_, by rw [entriesChars_singleton, keyChars_text, List.cons_append]⟩
  | cons f es =>
    exact ⟨_, by rw [entriesChars_cons_cons, keyChars_text, List.cons_append, List.cons_append]⟩

/-- Nothing is skipped in front of a value of texts. -/
theorem skip_opener {c : Char} (hc : c ∈ openers) (cs : List Char) : skip (c :: cs) = c :: cs :=
  skip_of_not_blank (opener_facts c hc).1

theorem Textual.skip_chars {j : Json} (h : j.Textual) (cs : List Char) :
    skip (j.chars ++ cs) = j.chars ++ cs := by
  obtain ⟨c, hc, ds, hds⟩ := h.chars_eq_cons
  rw [hds]
  exact skip_opener hc _

theorem skip_itemsChars {j : Json} (h : j.Textual) (js : List Json) (cs : List Char) :
    skip (itemsChars (j :: js) ++ cs) = itemsChars (j :: js) ++ cs := by
  obtain ⟨c, hc, ds, hds⟩ := itemsChars_eq_cons h js
  rw [hds]
  exact skip_opener hc _

theorem skip_entriesChars {e : Wide × Json} (h : Whole e.1) (es : List (Wide × Json))
    (cs : List Char) : skip (entriesChars (e :: es) ++ cs) = entriesChars (e :: es) ++ cs := by
  obtain ⟨ds, hds⟩ := entriesChars_eq_cons h es
  rw [hds]
  rfl

theorem keyChars_append (s : String) (cs : List Char) :
    keyChars s ++ cs = '"' :: (Text.quoteChars s.toList ++ '"' :: ':' :: ' ' :: cs) := by
  simp [keyChars_text]

/-- The reader finds the value in front of whatever follows its printed characters. -/
def ReadBack (j : Json) : Prop :=
  ∀ depth fuel rest, j.nesting ≤ depth → j.chars.length ≤ fuel →
    value depth fuel (j.chars ++ rest) = .ok (j, rest)

theorem items_chars {js : List Json} (hne : js ≠ []) (ht : ∀ j ∈ js, Textual j)
    (hr : ∀ j ∈ js, ReadBack j) {depth fuel : Nat} (hd : nestingItems js ≤ depth)
    (hf : (itemsChars js).length < fuel) (rest : List Char) :
    items depth fuel (itemsChars js ++ ']' :: rest) = .ok (js, rest) := by
  induction js generalizing fuel with
  | nil => contradiction
  | cons j js ih =>
    obtain ⟨fuel, rfl⟩ := Nat.exists_eq_add_one.mpr (Nat.zero_lt_of_lt hf)
    rw [nestingItems] at hd
    have hj := hr j List.mem_cons_self
    cases js with
    | nil =>
      rw [itemsChars_singleton] at hf ⊢
      have hvalue := hj depth fuel (']' :: rest) (by omega) (by omega)
      rw [items, hvalue]
      rfl
    | cons k js =>
      rw [itemsChars_cons_cons] at hf ⊢
      simp only [List.length_append, List.length_cons] at hf
      have hvalue := hj depth fuel (',' :: ' ' :: (itemsChars (k :: js) ++ ']' :: rest))
        (by omega) (by omega)
      have hmore : items depth fuel (itemsChars (k :: js) ++ ']' :: rest) = .ok (k :: js, rest) :=
        ih (List.cons_ne_nil k js) (fun i hi => ht i (List.mem_cons_of_mem _ hi))
          (fun i hi => hr i (List.mem_cons_of_mem _ hi)) (by omega) (by omega)
      have hk := ht k (List.mem_cons_of_mem _ List.mem_cons_self)
      rw [List.append_assoc, List.cons_append, List.cons_append, items, hvalue]
      simp only [bind, Except.bind, skip_comma, skip_space, skip_itemsChars hk, hmore]
      rfl

theorem entries_chars {es : List (Wide × Json)} (hne : es ≠ []) (hk : ∀ e ∈ es, Whole e.1)
    (ht : ∀ e ∈ es, Textual e.2) (hr : ∀ e ∈ es, ReadBack e.2) {depth fuel : Nat}
    (hd : nestingEntries es ≤ depth) (hf : (entriesChars es).length < fuel) (rest : List Char) :
    entries depth fuel (entriesChars es ++ '\x7d' :: rest) = .ok (es, rest) := by
  induction es generalizing fuel with
  | nil => contradiction
  | cons e es ih =>
    obtain ⟨key, j⟩ := e
    obtain ⟨fuel, rfl⟩ := Nat.exists_eq_add_one.mpr (Nat.zero_lt_of_lt hf)
    rw [nestingEntries] at hd
    have hj : ReadBack j := hr (key, j) List.mem_cons_self
    have hskip := (ht (key, j) List.mem_cons_self).skip_chars
    obtain ⟨key, rfl⟩ : Whole key := hk (key, j) List.mem_cons_self
    cases es with
    | nil =>
      rw [entriesChars_singleton] at hf ⊢
      simp only [List.length_append] at hf
      have hvalue := hj depth fuel ('\x7d' :: rest) (by omega) (by omega)
      rw [List.append_assoc, keyChars_append, entries, string_quoteChars]
      simp only [bind, Except.bind, skip_colon, skip_space, hskip, hvalue, skip_brace]
      rfl
    | cons e es =>
      rw [entriesChars_cons_cons] at hf ⊢
      simp only [List.length_append, List.length_cons] at hf
      have hvalue := hj depth fuel (',' :: ' ' :: (entriesChars (e :: es) ++ '\x7d' :: rest))
        (by omega) (by omega)
      have hmore : entries depth fuel (entriesChars (e :: es) ++ '\x7d' :: rest) =
          .ok (e :: es, rest) :=
        ih (List.cons_ne_nil e es) (fun i hi => hk i (List.mem_cons_of_mem _ hi))
          (fun i hi => ht i (List.mem_cons_of_mem _ hi))
          (fun i hi => hr i (List.mem_cons_of_mem _ hi)) (by omega) (by omega)
      have he := hk e (List.mem_cons_of_mem _ List.mem_cons_self)
      rw [List.append_assoc, List.append_assoc, keyChars_append, List.cons_append,
        List.cons_append, entries, string_quoteChars]
      simp only [bind, Except.bind, skip_colon, skip_space, hskip, hvalue, skip_comma,
        skip_entriesChars he, hmore]
      rfl

theorem readBack_arr {js : List Json} (ht : ∀ j ∈ js, Textual j) (hr : ∀ j ∈ js, ReadBack j) :
    ReadBack (.arr js) := by
  intro depth fuel rest hd hf
  rw [nesting] at hd
  rw [chars_arr] at hf ⊢
  simp only [List.length_cons, List.length_append, List.length_nil] at hf
  obtain ⟨depth, rfl⟩ := Nat.exists_eq_add_one.mpr (Nat.zero_lt_of_lt hd)
  obtain ⟨fuel, rfl⟩ := Nat.exists_eq_add_one.mpr (Nat.zero_lt_of_lt hf)
  rw [List.cons_append, List.append_assoc, List.singleton_append]
  cases js with
  | nil => rfl
  | cons j js =>
    have hitems : items depth fuel (itemsChars (j :: js) ++ ']' :: rest) = .ok (j :: js, rest) :=
      items_chars (List.cons_ne_nil j js) ht hr (by omega) (by omega) rest
    obtain ⟨c, hc, cs, hcs⟩ := itemsChars_eq_cons (ht j List.mem_cons_self) js
    rw [hcs, List.cons_append] at hitems ⊢
    rw [value, skip_opener hc]
    split
    · rename_i h
      exact absurd (List.cons.inj h).1 (opener_facts c hc).2.1
    · rw [hitems]
      rfl

theorem readBack_obj {es : List (Wide × Json)} (hk : ∀ e ∈ es, Whole e.1)
    (ht : ∀ e ∈ es, Textual e.2) (hr : ∀ e ∈ es, ReadBack e.2) : ReadBack (.obj es) := by
  intro depth fuel rest hd hf
  rw [nesting] at hd
  rw [chars_obj] at hf ⊢
  simp only [List.length_cons, List.length_append, List.length_nil] at hf
  obtain ⟨depth, rfl⟩ := Nat.exists_eq_add_one.mpr (Nat.zero_lt_of_lt hd)
  obtain ⟨fuel, rfl⟩ := Nat.exists_eq_add_one.mpr (Nat.zero_lt_of_lt hf)
  rw [List.cons_append, List.append_assoc, List.singleton_append]
  cases es with
  | nil => rfl
  | cons e es =>
    have hentries : entries depth fuel (entriesChars (e :: es) ++ '\x7d' :: rest) =
        .ok (e :: es, rest) :=
      entries_chars (List.cons_ne_nil e es) hk ht hr (by omega) (by omega) rest
    obtain ⟨cs, hcs⟩ := entriesChars_eq_cons (hk e List.mem_cons_self) es
    rw [hcs, List.cons_append] at hentries ⊢
    rw [value, skip_of_not_blank rfl]
    split
    · rename_i h
      exact absurd (List.cons.inj h).1 (by decide)
    · rw [hentries]
      rfl

theorem readBack_str (s : String) : ReadBack (.str s) := by
  intro depth fuel rest _ hf
  rw [chars_str] at hf ⊢
  obtain ⟨fuel, rfl⟩ := Nat.exists_eq_add_one.mpr (Nat.zero_lt_of_lt hf)
  rw [List.cons_append, List.append_assoc, List.singleton_append, value, string_quoteChars]
  rfl

theorem Textual.readBack {j : Json} (h : j.Textual) : ReadBack j := by
  induction h with
  | str s => exact readBack_str s
  | arr ht ih => exact readBack_arr ht ih
  | obj hk ht ih => exact readBack_obj hk ht ih

/-- What is printed is parsed again, unless it is nested too deeply. -/
theorem parse_print {j : Json} (ht : j.Textual) {depth : Nat} (hd : j.nesting ≤ depth) :
    parse depth j.print = .ok j := by
  have hvalue := ht.readBack depth (2 * j.chars.length + 2) [] hd (by omega)
  rw [List.append_nil] at hvalue
  have hdocument : document depth j.chars = .ok j := by
    obtain ⟨c, hc, cs, hcs⟩ := ht.chars_eq_cons
    rw [hcs] at hvalue ⊢
    rw [document, skip_opener hc, hvalue]
    · rfl
    · exact fun ds h => (opener_facts c hc).2.2 (List.cons.inj h).1
  change (document depth j.chars).mapError _ = _
  rw [hdocument]
  rfl

end Marshal.Json
