import Marshal.Proofs.Converter.ExternalForm
import Marshal.Proofs.Text.Literal

/-!
# Names as the literals of converters

The names of variants and fields stand in generated code as literals, where values are compared with
them, read by them and written under them, and where the external form is declared. What the code
then means by them is what these literals stand for, which are the names themselves as long as all
their characters lie in the basic plane.
-/

namespace Marshal
set_option autoImplicit false

open Naming (Mangling)
open Text (IsBasic points quoted readLiteral? readLiteral?_quoted units units_eq_points_iff)

/-- A form with its names as code points. -/
inductive DenotedForm where
  | name (points : List Nat)
  | object (tag : Option (List Nat)) (keys : List (List Nat))
deriving DecidableEq, Repr

/-- The code points that a text stands for which is a literal and nothing else. -/
def Code.denoted? (text : String) : Option (List Nat) :=
  match readLiteral? text.toList with
  | some (points, []) => some points
  | _ => none

namespace Alternative

def names : Alternative → List String
  | .name n => [n]
  | .object tag keys => tag.toList ++ keys

def denote (meaning : String → List Nat) : Alternative → DenotedForm
  | .name n => .name (meaning n)
  | .object tag keys => .object (tag.map meaning) (keys.map meaning)

/-- A form by what its names stand for where they are written as literals. -/
def denoted? : Alternative → Option DenotedForm
  | .name n => (Code.denoted? (Code.Expr.str n).text).map .name
  | .object tag keys => do
    let tag ← tag.mapM fun n => Code.denoted? (Code.Expr.str n).text
    let keys ← keys.mapM fun n => Code.denoted? (Code.Expr.str n).text
    return .object tag keys

/-- What is written as a literal stands for its units. -/
theorem denoted?_quoted (n : String) : Code.denoted? (Code.Expr.str n).text = some (units n) := by
  have hread : readLiteral? ((quoted n).toList ++ []) = some (units n, []) :=
    readLiteral?_quoted n nofun
  rw [List.append_nil] at hread
  rw [Code.denoted?, Code.Expr.text, hread]

theorem denoted?_eq (a : Alternative) : a.denoted? = some (a.denote units) := by
  have hkeys (keys : List String) :
      (keys.mapM fun n => Code.denoted? (Code.Expr.str n).text) = some (keys.map units) := by
    simp only [denoted?_quoted]
    exact List.mapM_pure
  cases a with
  | name n => rw [denoted?, denoted?_quoted]; rfl
  | object tag keys =>
    rw [denoted?, hkeys]
    cases tag with
    | none => rfl
    | some t => simp [denoted?_quoted, denote]

/-- Two meanings of all names in a form are the same if the form is the same by them. -/
theorem denote_eq_iff {a : Alternative} {f g : String → List Nat} :
    a.denote f = a.denote g ↔ ∀ n ∈ a.names, f n = g n := by
  cases a with
  | name n => simp [denote, names]
  | object tag keys =>
    cases tag <;> simp [denote, names]

end Alternative

/-- Forms mean what their names say exactly if the characters of these lie in the basic plane. -/
theorem denoted_forms_iff {forms : List Alternative} :
    forms.map Alternative.denoted? = forms.map (fun a => some (a.denote points)) ↔
      ∀ a ∈ forms, ∀ n ∈ a.names, IsBasic n := by
  simp only [List.map_inj_left, Alternative.denoted?_eq, Option.some.injEq,
    Alternative.denote_eq_iff, units_eq_points_iff]

namespace Definition

/-- The names that the external form of a definition consists of have no character beyond the basic
plane. -/
def HasBasicForm (d : Definition) : Prop := ∀ a ∈ d.formBy (·.fields), ∀ n ∈ a.names, IsBasic n

instance (d : Definition) : Decidable d.HasBasicForm :=
  inferInstanceAs (Decidable (∀ a ∈ d.formBy (·.fields), ∀ n ∈ a.names, IsBasic n))

theorem mem_readOrder {v : Variant} {f : Field} : f ∈ Converter.readOrder v ↔ f ∈ v.fields := by
  rw [Converter.readOrder, List.mem_append, List.mem_filter, List.mem_filter]
  cases Converter.isBlockMap f <;> simp

/-- The order of the fields does not matter for the names. -/
theorem basic_readOrder_iff {d : Definition} :
    (∀ a ∈ d.formBy Converter.readOrder, ∀ n ∈ a.names, IsBasic n) ↔ d.HasBasicForm := by
  rw [HasBasicForm, formBy, formBy]
  split
  · rfl
  · simp only [List.forall_mem_map, Alternative.names, List.forall_mem_append, mem_readOrder]

end Definition

namespace Converter

/--
What is written as a literal for a text stands for the sixteen-bit units of the text, and so for the
text exactly if no character of it lies beyond the basic plane. Exactly if this holds of the names
that the external form of a definition consists of, what the converters compare, read and write and
what is declared are these names.
-/
theorem literals_denote (mangling : Mangling) (runtime : String) {d : Definition}
    (h : d.variants ≠ []) :
    (∀ n rest, rest.head? ≠ some '"' →
        readLiteral? ((quoted n).toList ++ rest) = some (units n, rest)) ∧
      (∀ n, units n = points n ↔ IsBasic n) ∧
      ((Code.formRead (fromJson mangling runtime d).body).map Alternative.denoted? =
          (d.formBy readOrder).map (fun a => some (a.denote points)) ↔ d.HasBasicForm) ∧
      ((Code.formWritten (toJson mangling runtime d).body).map Alternative.denoted? =
          (d.formBy (·.fields)).map (fun a => some (a.denote points)) ↔ d.HasBasicForm) ∧
      ((d.externalViews.flatMap View.forms).map Alternative.denoted? =
          (d.formBy (·.fields)).map (fun a => some (a.denote points)) ↔ d.HasBasicForm) := by
  have hread : Code.formRead (fromJson mangling runtime d).body = d.formBy readOrder :=
    formRead_fromJsonBody mangling runtime h
  have hwritten : Code.formWritten (toJson mangling runtime d).body = d.formBy (·.fields) :=
    formWritten_toJsonBody mangling runtime h
  refine ⟨fun n rest => readLiteral?_quoted n, fun n => units_eq_points_iff, ?_, ?_, ?_⟩
  · rw [hread]
    exact denoted_forms_iff.trans Definition.basic_readOrder_iff
  · rw [hwritten]
    exact denoted_forms_iff
  · rw [d.forms_externalViews h]
    exact denoted_forms_iff

/-- Names with a quote, a backslash, a line feed and a letter beyond ASCII. -/
def remark : Definition :=
  ⟨"M", "Remark", [⟨"\"très\"", [⟨"back\\slash\n", .int "int"⟩]⟩, ⟨"None", []⟩], []⟩

theorem literals_denote_remark :
    remark.variants ≠ [] ∧ remark.HasBasicForm ∧
      (Code.formRead (fromJson .escaping "_rt" remark).body).map Alternative.denoted? =
        [some (.object (some (points "\"très\"")) [points "back\\slash\n"]),
          some (.object (some (points "None")) [])] := by
  have hne : remark.variants ≠ [] := List.cons_ne_nil _ _
  have hbasic : remark.HasBasicForm := by decide
  exact ⟨hne, hbasic, (literals_denote .escaping "_rt" hne).2.2.1.mpr hbasic⟩

/-- A name with a character beyond the basic plane. -/
def surname : Definition := ⟨"M", "Surname", [⟨"𠮷", []⟩, ⟨"吉", []⟩], []⟩

/-- The literal that values are compared with stands for two units where the name has one
character. -/
theorem literal_ne_name :
    surname.variants ≠ [] ∧
      (Code.formRead (fromJson .escaping "_rt" surname).body).map Alternative.denoted? =
        [some (.name [0xd842, 0xdfb7]), some (.name [0x5409])] ∧
      (Code.formRead (fromJson .escaping "_rt" surname).body).map Alternative.denoted? ≠
        (surname.formBy readOrder).map (fun a => some (a.denote points)) := by
  have hne : surname.variants ≠ [] := List.cons_ne_nil _ _
  have hread : Code.formRead (fromJson .escaping "_rt" surname).body =
      surname.formBy readOrder := formRead_fromJsonBody .escaping "_rt" hne
  have hdenoted : (Code.formRead (fromJson .escaping "_rt" surname).body).map
      Alternative.denoted? = [some (.name [0xd842, 0xdfb7]), some (.name [0x5409])] := by
    rw [hread, List.map_congr_left fun a _ => a.denoted?_eq]
    decide
  refine ⟨hne, hdenoted, ?_⟩
  rw [hdenoted]
  decide

end Converter

end Marshal
