import Marshal.Proofs.Converter.Keys
import Marshal.View

/-!
# The external form of a datatype

The form that values of a datatype have outside of the program stands in three places: what the
converter from it tests and reads, what the converter to it returns, and how it is declared. It can
be read off each of them, and it is the same.
-/

namespace Marshal
set_option autoImplicit false

open Code (Expr Function Stmt)
open Naming (Mangling)

/-- One form that a value of a datatype can have outside of the program. -/
inductive Alternative where
  /-- A string. -/
  | name (text : String)
  /-- An object with the given keys, behind a `type` entry if there is a tag. -/
  | object (tag : Option String) (keys : List String)
deriving DecidableEq, Repr

def Definition.formBy (d : Definition) (fields : Variant → List Field) : List Alternative :=
  if d.isEnumLike then d.variants.map fun v => .name v.name
  else d.variants.map fun v =>
    .object (if 1 < d.variants.length then some v.name else none) ((fields v).map (·.name))

namespace Code

def Stmt.comparedName? : Stmt → Option Alternative
  | .when (.equal (.name "json") (.str n)) _ => some (.name n)
  | _ => none

def Stmt.taggedObject? : Stmt → Option Alternative
  | .when (.equal (.name "tag") (.str n)) body => some (.object (some n) (Stmt.readsEach body))
  | _ => none

def formRead : List Stmt → List Alternative
  | .assign "tag" (.call (.attr (.name "json") "get") [.str "type"]) :: body =>
    body.filterMap Stmt.taggedObject?
  | body =>
    match body.filterMap Stmt.comparedName? with
    | [] => [.object none (Stmt.readsEach body)]
    | names => names

/-- The form of an object display; a string in front under the key `type` is a tag. -/
def objectForm : List (String × Expr) → Alternative
  | ("type", .str n) :: entries => .object (some n) (entries.map (·.1))
  | entries => .object none (entries.map (·.1))

def Stmt.returned? : Stmt → Option Alternative
  | .ret (.str n) => some (.name n)
  | .ret (.dict entries) => some (objectForm entries)
  | .retDict entries => some (objectForm entries)
  | _ => none

/-- What a statement returns, or a block under a condition at its end. -/
def Stmt.written? : Stmt → Option Alternative
  | .when _ body => body.getLast?.bind Stmt.returned?
  | s => s.returned?

def formWritten (body : List Stmt) : List Alternative := body.filterMap Stmt.written?

end Code

def View.forms : View → List Alternative
  | .literals _ tags => tags.map .name
  | .record _ tag entries => [.object tag (entries.map (·.1))]
  | .union .. | .alias .. | .protocol .. => []

namespace Converter

/-- The fields in the order in which they are read: maps come first, in statements of their own. -/
def readOrder (v : Variant) : List Field :=
  v.fields.filter isBlockMap ++ v.fields.filter (!isBlockMap ·)

end Converter

namespace Definition

/-- The four ways in which converters are written. -/
theorem shape_cases {d : Definition} (h : d.variants ≠ []) :
    (∃ n f, d.variants = [⟨n, [f]⟩] ∧ d.shape = .erasedWrapper ∧ d.erasedField? = some f) ∨
      (∃ v, d.variants = [v] ∧ d.shape = .general) ∨
      (∃ v w vs, d.variants = v :: w :: vs ∧ d.shape = .enumLike ∧
        ∀ u ∈ d.variants, u.fields = []) ∨
      ∃ v w vs, d.variants = v :: w :: vs ∧ d.shape = .general := by
  obtain ⟨moduleName, name, variants, typeParams⟩ := d
  obtain _ | ⟨v, _ | ⟨w, vs⟩⟩ := variants
  · exact absurd rfl h
  · obtain ⟨n, _ | ⟨f, _ | ⟨g, fs⟩⟩⟩ := v
    · exact .inr (.inl ⟨_, rfl, rfl⟩)
    · exact .inl ⟨n, f, rfl, rfl, rfl⟩
    · exact .inr (.inl ⟨_, rfl, rfl⟩)
  · have hshape : shape ⟨moduleName, name, v :: w :: vs, typeParams⟩ =
        if (v :: w :: vs).all (·.fields.isEmpty) then .enumLike else .general := by
      obtain ⟨n, _ | ⟨f, _ | ⟨g, fs⟩⟩⟩ := v <;> rfl
    by_cases hall : (v :: w :: vs).all (·.fields.isEmpty)
    · refine .inr (.inr (.inl ⟨v, w, vs, rfl, hshape.trans (if_pos hall), ?_⟩))
      intro u hu
      exact List.isEmpty_iff.mp (List.all_eq_true.mp hall u hu)
    · exact .inr (.inr (.inr ⟨v, w, vs, rfl, hshape.trans (if_neg hall)⟩))

theorem formBy_single {d : Definition} {v : Variant} (hv : d.variants = [v])
    (hs : d.shape ≠ .enumLike) (fields : Variant → List Field) :
    d.formBy fields = [.object none ((fields v).map (·.name))] := by
  simp [formBy, isEnumLike, hs, hv]

theorem formBy_names {d : Definition} (hs : d.shape = .enumLike)
    (fields : Variant → List Field) :
    d.formBy fields = d.variants.map fun v => .name v.name := by
  simp [formBy, isEnumLike, hs]

theorem formBy_tagged {d : Definition} (hv : 1 < d.variants.length) (hs : d.shape = .general)
    (fields : Variant → List Field) :
    d.formBy fields =
      d.variants.map fun v => .object (some v.name) ((fields v).map (·.name)) := by
  simp [formBy, isEnumLike, hs, hv]

end Definition

namespace Converter

variable {s : Scope}

theorem filterMap_alternatives {read : Stmt → Option Alternative} {f : Variant → Stmt}
    {g : Variant → Alternative} (h : ∀ v, read (f v) = some (g v)) (vs : List Variant) :
    (vs.map f).filterMap read = vs.map g := by
  have hcomp : read ∘ f = some ∘ g := funext h
  rw [List.filterMap_map, hcomp, List.filterMap_eq_map]

theorem reads_readSetup (f : Field) :
    Stmt.readsEach (readSetup s f) = if isBlockMap f then [f.name] else [] := by
  rw [readSetup]
  split
  · rw [Conversion.reads_readMap]
    rfl
  · rfl

theorem reads_readValue (f : Field) :
    (readValue s f).reads = if isBlockMap f then [] else [f.name] := by
  rw [readValue]
  split
  · rfl
  · apply Expr.reads_eq_singleton
    intro k
    rw [Conversion.mem_keys_convert]
    exact List.mem_singleton

theorem flatMap_ite_singleton (p : Field → Bool) (fs : List Field) :
    (fs.flatMap fun f => if p f then [f.name] else []) = (fs.filter p).map (·.name) := by
  induction fs with
  | nil => rfl
  | cons f fs ih =>
    rw [List.flatMap_cons, List.filter_cons, ih]
    split <;> rfl

/-- The statements that build a variant read its fields, the maps first. -/
theorem reads_construct (mangling : Mangling) (d : Definition) (v : Variant) :
    Stmt.readsEach (construct mangling s d v) = (readOrder v).map (·.name) := by
  have hctor : (constructor mangling d v).reads = [] := rfl
  rw [construct]
  split
  · rename_i hempty
    rw [readOrder, List.isEmpty_iff.mp hempty]
    rfl
  · have hvalues : (v.fields.map (readValue s)).flatMap Expr.reads =
        (v.fields.filter (!isBlockMap ·)).map (·.name) := by
      rw [List.flatMap_map, ← flatMap_ite_singleton]
      congr 1
      funext f
      rw [reads_readValue]
      cases isBlockMap f <;> rfl
    rw [Stmt.readsEach_append, Stmt.readsEach_flatMap, funext reads_readSetup,
      flatMap_ite_singleton, readOrder, List.map_append]
    simp [Stmt.readsEach, Stmt.reads, hctor, hvalues]

theorem readSetup_plain {f : Field} {st : Stmt} (h : st ∈ readSetup s f) :
    st.comparedName? = none ∧ ∀ g args, st ≠ .assign "tag" (.call g args) := by
  rw [readSetup] at h
  split at h
  · simp only [Conversion.readMap, List.mem_cons, List.not_mem_nil, or_false] at h
    rcases h with rfl | rfl
    · refine ⟨rfl, ?_⟩
      intro g args he
      injection he with _ he
      cases he
    · exact ⟨rfl, fun _ _ he => Stmt.noConfusion he⟩
  · cases h

theorem formRead_setups (fs : List Field) {last : Stmt} (hname : last.comparedName? = none)
    (htag : ∀ g args, last ≠ .assign "tag" (.call g args)) :
    Code.formRead (fs.flatMap (readSetup s) ++ [last]) =
      [.object none (Stmt.readsEach (fs.flatMap (readSetup s) ++ [last]))] := by
  have hplain : ∀ st ∈ fs.flatMap (readSetup s) ++ [last],
      st.comparedName? = none ∧ ∀ g args, st ≠ .assign "tag" (.call g args) := by
    intro st hst
    rcases List.mem_append.mp hst with hst | hst
    · obtain ⟨f, -, hst⟩ := List.mem_flatMap.mp hst
      exact readSetup_plain hst
    · obtain rfl := List.mem_singleton.mp hst
      exact ⟨hname, htag⟩
  generalize fs.flatMap (readSetup s) ++ [last] = body at hplain ⊢
  unfold Code.formRead
  split
  · exact absurd rfl ((hplain _ List.mem_cons_self).2 _ _)
  · rw [List.filterMap_eq_nil_iff.mpr fun st hst => (hplain st hst).1]

theorem formRead_construct (mangling : Mangling) (d : Definition) (v : Variant) :
    Code.formRead (construct mangling s d v) = [.object none ((readOrder v).map (·.name))] := by
  rw [← reads_construct (s := s) mangling d v, construct]
  split
  · exact formRead_setups (s := s) [] rfl (fun _ _ he => Stmt.noConfusion he)
  · exact formRead_setups v.fields rfl (fun _ _ he => Stmt.noConfusion he)

theorem formRead_wrapper (n : String) (f : Field) :
    Code.formRead (readSetup s f ++ [.ret (readValue s f)]) =
      [.object none ((readOrder ⟨n, [f]⟩).map (·.name))] := by
  have hname : (Stmt.ret (readValue s f)).comparedName? = none := rfl
  have hform := formRead_setups (s := s) [f] hname (fun _ _ he => Stmt.noConfusion he)
  rw [List.flatMap_singleton] at hform
  rw [hform, Stmt.readsEach_append, reads_readSetup, readOrder]
  cases hf : isBlockMap f <;> simp [Stmt.readsEach, Stmt.reads, reads_readValue, hf]

/-- The form that the converter from the external form takes. -/
theorem formRead_fromJsonBody (mangling : Mangling) (runtime : String) {d : Definition}
    (h : d.variants ≠ []) :
    Code.formRead (fromJsonBody mangling runtime d) = d.formBy readOrder := by
  rcases d.shape_cases h with ⟨n, f, hv, hs, hf⟩ | ⟨v, hv, hs⟩ | ⟨v, w, vs, hv, hs, -⟩ |
    ⟨v, w, vs, hv, hs⟩
  · rw [fromJsonBody, hs, hf, Definition.formBy_single hv (by simp [hs])]
    exact formRead_wrapper n f
  · rw [fromJsonBody, hs, hv, Definition.formBy_single hv (by simp [hs])]
    exact formRead_construct mangling d v
  · rw [fromJsonBody, hs, Definition.formBy_names hs, hv]
    have hnames : (vs.map fun v => Stmt.when (.equal (.name "json") (.str v.name))
        [.ret (.call (constructor mangling d v) [])]).filterMap Stmt.comparedName? =
          vs.map fun v => .name v.name :=
      filterMap_alternatives (fun _ => rfl) vs
    simp [Code.formRead, Stmt.comparedName?, raiseUnknown, hnames]
  · rw [fromJsonBody, hs, Definition.formBy_tagged (by simp [hv]) hs, hv]
    change List.filterMap Stmt.taggedObject? (_ ++ [_]) = _
    rw [List.filterMap_append,
      filterMap_alternatives (fun v => by rw [Stmt.taggedObject?, reads_construct])]
    exact List.append_nil _

theorem convert_ne_str {t : TypeDescriptor} {source : Expr} {depth : Int}
    (h : ∀ n, source ≠ .str n) (n : String) :
    Conversion.convert .toExternal s t source depth ≠ .str n := by
  obtain ⟨kind, name, args⟩ := t
  cases kind with
  | bool => exact h n
  | foreign => exact h n
  | typeParam =>
    rw [Conversion.convert, Conversion.ofParam]
    split
    · split
      · exact h n
      · exact fun he => Expr.noConfusion he
    · exact h n
  | tuple =>
    cases args with
    | nil => exact h n
    | cons a args => exact fun he => Expr.noConfusion he
  | int => exact fun he => Expr.noConfusion he
  | string => exact fun he => Expr.noConfusion he
  | seq =>
    cases args with
    | nil => exact fun he => Expr.noConfusion he
    | cons a args =>
      rw [Conversion.convert]
      split <;> exact fun he => Expr.noConfusion he
  | set =>
    cases args with
    | nil => exact fun he => Expr.noConfusion he
    | cons a args =>
      rw [Conversion.convert]
      split <;> exact fun he => Expr.noConfusion he
  | map =>
    obtain _ | ⟨a, _ | ⟨b, args⟩⟩ := args <;> exact fun he => Expr.noConfusion he
  | datatype => exact fun he => Expr.noConfusion he

theorem writeEntry_ne_str {f : Field} {source : Expr} (h : ∀ n, source ≠ .str n) (n : String) :
    (writeEntry s f source).2 ≠ .str n := by
  rw [writeEntry]
  split
  · exact fun he => Expr.noConfusion he
  · exact convert_ne_str h n

/-- Without a tag no string stands in front of the entries. -/
theorem objectForm_entries (source : Field → Expr) (hsource : ∀ f n, source f ≠ .str n)
    (fs : List Field) :
    Code.objectForm (fs.map fun f => writeEntry s f (source f)) =
      .object none (fs.map (·.name)) := by
  have hkeys : (fs.map fun f => writeEntry s f (source f)).map (·.1) = fs.map (·.name) := by
    rw [List.map_map]
    rfl
  unfold Code.objectForm
  split
  · rename_i n entries he
    have hmem : ("type", Expr.str n) ∈ fs.map fun f => writeEntry s f (source f) :=
      he ▸ List.mem_cons_self
    obtain ⟨f, -, hf⟩ := List.mem_map.mp hmem
    exact absurd (congrArg Prod.snd hf) (writeEntry_ne_str (hsource f) n)
  · rw [hkeys]

theorem writeSetup_plain {f : Field} {source : Expr} {st : Stmt}
    (h : st ∈ writeSetup s f source) : st.written? = none := by
  rw [writeSetup] at h
  split at h
  · simp only [Conversion.writeMap, List.mem_cons, List.not_mem_nil, or_false] at h
    rcases h with rfl | rfl <;> rfl
  · cases h

/-- A block that prepares fields returns what its last statement returns. -/
theorem formWritten_setups (fs : List Field) (source : Field → Expr) {last : Stmt}
    {a : Alternative} (h : last.written? = some a) :
    Code.formWritten (fs.flatMap (fun f => writeSetup s f (source f)) ++ [last]) = [a] := by
  have hnone : (fs.flatMap fun f => writeSetup s f (source f)).filterMap Stmt.written? = [] := by
    apply List.filterMap_eq_nil_iff.mpr
    intro st hst
    obtain ⟨f, -, hst⟩ := List.mem_flatMap.mp hst
    exact writeSetup_plain hst
  rw [Code.formWritten, List.filterMap_append, hnone]
  simp [h]

/-- The statement that returns the object of a variant. -/
def returnEntries (entries : List (String × Expr)) : Stmt :=
  if entries.isEmpty then .ret (.dict []) else .retDict entries

theorem returned?_returnEntries (entries : List (String × Expr)) :
    (returnEntries entries).returned? = some (Code.objectForm entries) := by
  rw [returnEntries]
  split
  · rename_i he
    rw [List.isEmpty_iff.mp he]
    rfl
  · rfl

theorem written?_returnEntries (entries : List (String × Expr)) :
    (returnEntries entries).written? = some (Code.objectForm entries) := by
  rw [← returned?_returnEntries, returnEntries]
  split <;> rfl

theorem formWritten_deconstruct (mangling : Mangling) (v : Variant) :
    Code.formWritten (deconstruct mangling s false v) =
      [.object none (v.fields.map (·.name))] := by
  rw [← objectForm_entries (s := s) (fun f => mangling.destructor (.name "value") f.name)
    (fun _ _ he => Expr.noConfusion he)]
  exact formWritten_setups v.fields _ (written?_returnEntries _)

theorem returned?_deconstruct (mangling : Mangling) (v : Variant) :
    (deconstruct mangling s true v).getLast?.bind Stmt.returned? =
      some (.object (some v.name) (v.fields.map (·.name))) := by
  have hlast : (deconstruct mangling s true v).getLast? =
      some (returnEntries (("type", .str v.name) :: v.fields.map fun f =>
        writeEntry s f (mangling.destructor (.name "value") f.name))) := List.getLast?_concat
  rw [hlast, Option.bind_some, returned?_returnEntries, Code.objectForm, List.map_map]
  rfl

/-- The form that the converter to the external form returns. -/
theorem formWritten_toJsonBody (mangling : Mangling) (runtime : String) {d : Definition}
    (h : d.variants ≠ []) :
    Code.formWritten (toJsonBody mangling runtime d) = d.formBy (·.fields) := by
  rcases d.shape_cases h with ⟨n, f, hv, hs, hf⟩ | ⟨v, hv, hs⟩ | ⟨v, w, vs, hv, hs, -⟩ |
    ⟨v, w, vs, hv, hs⟩
  · rw [toJsonBody, hs, hf, Definition.formBy_single hv (by simp [hs])]
    have hlast : (Stmt.ret (.dict [writeEntry (scope .toExternal runtime d) f
        (.name "value")])).written? = some (.object none [f.name]) :=
      congrArg some
        (objectForm_entries (fun _ => .name "value") (fun _ _ he => Expr.noConfusion he) [f])
    have hform := formWritten_setups (s := scope .toExternal runtime d) [f]
      (fun _ => .name "value") hlast
    rwa [List.flatMap_singleton] at hform
  · rw [toJsonBody, hs, hv, Definition.formBy_single hv (by simp [hs])]
    exact formWritten_deconstruct mangling v
  · rw [toJsonBody, hs, Definition.formBy_names hs]
    dsimp only
    rw [Code.formWritten, List.filterMap_append, filterMap_alternatives (fun _ => rfl)]
    exact List.append_nil _
  · rw [toJsonBody, hs, Definition.formBy_tagged (by simp [hv]) hs, hv]
    dsimp only
    rw [Code.formWritten, List.filterMap_append,
      filterMap_alternatives (fun v => by rw [Stmt.written?, returned?_deconstruct])]
    exact List.append_nil _

end Converter

/-- The form that the declarations offer. -/
theorem Definition.forms_externalViews {d : Definition} (h : d.variants ≠ []) :
    d.externalViews.flatMap View.forms = d.formBy (·.fields) := by
  have hrecord : ∀ name tag fs,
      (View.record name tag (viewEntries fs)).forms = [.object tag (fs.map (·.name))] := by
    intro name tag fs
    rw [View.forms, viewEntries, List.map_map]
    rfl
  rcases d.shape_cases h with ⟨n, f, hv, hs, -⟩ | ⟨v, hv, hs⟩ | ⟨v, w, vs, hv, hs, -⟩ |
    ⟨v, w, vs, hv, hs⟩
  · rw [formBy_single hv (by simp [hs])]
    simp [externalViews, isEnumLike, hs, hv, hrecord]
  · rw [formBy_single hv (by simp [hs])]
    simp [externalViews, isEnumLike, hs, hv, hrecord]
  · rw [formBy_names hs]
    simp [externalViews, isEnumLike, hs, View.forms]
  · have hviews : d.externalViews =
        d.variants.map (fun v =>
          .record (d.variantViewName v) (some v.name) (viewEntries v.fields)) ++
        [.union (Naming.jsonTypeName d.name) (d.variants.map d.variantViewName)] := by
      simp [externalViews, isEnumLike, hs, hv]
    rw [formBy_tagged (by simp [hv]) hs, hviews, List.flatMap_append, List.flatMap_map]
    simp only [hrecord]
    exact (List.append_nil _).trans List.map_eq_flatMap.symm

namespace Converter

/--
What the converters read and write and what is declared is one form: bare names for enumerations,
otherwise an object with the keys of its fields, tagged where there are several variants. What is
written and declared has the order of the fields, what is read has the maps first.
-/
theorem external_forms_agree (mangling : Mangling) (runtime : String) {d : Definition}
    (h : d.variants ≠ []) :
    Code.formRead (fromJson mangling runtime d).body = d.formBy readOrder ∧
      Code.formWritten (toJson mangling runtime d).body = d.formBy (·.fields) ∧
      d.externalViews.flatMap View.forms = d.formBy (·.fields) :=
  ⟨formRead_fromJsonBody mangling runtime h, formWritten_toJsonBody mangling runtime h,
    d.forms_externalViews h⟩

/-- A variant whose map stands behind another field. -/
def sheet : Definition :=
  ⟨"M", "Sheet", [⟨"Sheet", [⟨"size", .int "int"⟩, ⟨"cells", .map (.int "int") .bool⟩]⟩], []⟩

theorem external_forms_sheet :
    sheet.variants ≠ [] ∧
      Code.formRead (fromJson .escaping "_rt" sheet).body = [.object none ["cells", "size"]] ∧
      Code.formWritten (toJson .escaping "_rt" sheet).body = [.object none ["size", "cells"]] ∧
      sheet.externalViews.flatMap View.forms = [.object none ["size", "cells"]] := by
  have hne : sheet.variants ≠ [] := List.cons_ne_nil _ _
  obtain ⟨hread, hwritten, hviews⟩ := external_forms_agree .escaping "_rt" hne
  exact ⟨hne, hread, hwritten, hviews⟩

/-- The keys are not read in the order in which they are written. -/
theorem formRead_ne_formWritten :
    sheet.variants ≠ [] ∧
      Code.formRead (fromJson .escaping "_rt" sheet).body ≠
        Code.formWritten (toJson .escaping "_rt" sheet).body := by
  have hne : sheet.variants ≠ [] := List.cons_ne_nil _ _
  refine ⟨hne, ?_⟩
  have hread : Code.formRead (fromJson .escaping "_rt" sheet).body =
      [.object none ["cells", "size"]] := formRead_fromJsonBody .escaping "_rt" hne
  have hwritten : Code.formWritten (toJson .escaping "_rt" sheet).body =
      [.object none ["size", "cells"]] := formWritten_toJsonBody .escaping "_rt" hne
  rw [hread, hwritten]
  decide

end Converter

end Marshal
