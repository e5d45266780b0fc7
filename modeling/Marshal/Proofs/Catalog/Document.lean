import Marshal.Catalog.Document
import Marshal.Proofs.Catalog.References
import Marshal.Proofs.Json.Printing
import Mathlib.Data.List.Forall2

/-!
# Which catalog a document describes

A document is read by its keys: their order, further keys and earlier values of a key do not count,
and some lists can be left out. Every catalog has a document with nothing left out, and reading any
document of a catalog gives that catalog.
-/

namespace Marshal.Document
set_option autoImplicit false

open Text (Wide)

/-- The entry of an object lists what stands for the members of a list. An object that need not be
complete can leave out the entry of an empty list. -/
def Lists {α : Type} (complete : Bool) (es : List (Wide × Json)) (key : String)
    (R : Json → α → Prop) (xs : List α) : Prop :=
  (∃ js, Json.field? es key = some (.arr js) ∧ List.Forall₂ R js xs) ∨
    complete = false ∧ Json.field? es key = none ∧ xs = []

inductive DescribesType (complete : Bool) : Json → TypeDescriptor → Prop
  | listed {es : List (Wide × Json)} {kind : TypeKind} {name : String} {js : List Json}
      {args : List TypeDescriptor} (hkind : Json.field? es "kind" = some (.str kind.word))
      (hname : Json.field? es "name" = some (.str name))
      (hargs : Json.field? es "type_args" = some (.arr js))
      (h : List.Forall₂ (DescribesType complete) js args) :
      DescribesType complete (.obj es) ⟨kind, name, args⟩
  | bare {es : List (Wide × Json)} {kind : TypeKind} {name : String}
      (hkind : Json.field? es "kind" = some (.str kind.word))
      (hname : Json.field? es "name" = some (.str name)) (hcomplete : complete = false)
      (hargs : Json.field? es "type_args" = none) :
      DescribesType complete (.obj es) ⟨kind, name, []⟩

def DescribesField (complete : Bool) (j : Json) (f : Field) : Prop :=
  ∃ es t, j = .obj es ∧ Json.field? es "name" = some (.str f.name) ∧
    Json.field? es "type" = some t ∧ DescribesType complete t f.type

def DescribesVariant (complete : Bool) (j : Json) (v : Variant) : Prop :=
  ∃ es, j = .obj es ∧ Json.field? es "name" = some (.str v.name) ∧
    Lists complete es "fields" (DescribesField complete) v.fields

def DescribesDefinition (complete : Bool) (j : Json) (d : Definition) : Prop :=
  ∃ es, j = .obj es ∧ Json.field? es "module_name" = some (.str d.moduleName) ∧
    Json.field? es "name" = some (.str d.name) ∧
    Lists true es "variants" (DescribesVariant complete) d.variants ∧
    Lists complete es "type_params" (fun t (n : String) => t = .str n) d.typeParams

def DescribesSignature (complete : Bool) (j : Json) (s : Signature) : Prop :=
  ∃ es t, j = .obj es ∧ Json.field? es "module_name" = some (.str s.moduleName) ∧
    Json.field? es "name" = some (.str s.name) ∧
    Lists true es "parameters" (DescribesField complete) s.parameters ∧
    Json.field? es "return_type" = some t ∧ DescribesType complete t s.result

def Describes (complete : Bool) (j : Json) (c : Catalog) : Prop :=
  ∃ es, j = .obj es ∧ Lists complete es "definitions" (DescribesDefinition complete) c.definitions ∧
    Lists complete es "functions" (DescribesSignature complete) c.functions

section Writing

theorem ofTypes_eq_map (ts : List TypeDescriptor) : ofTypes ts = ts.map ofType := by
  induction ts with
  | nil => rfl
  | cons t ts ih => rw [ofTypes, ih, List.map_cons]

variable {α : Type} {f : α → Json} {R : Json → α → Prop}

theorem forall₂_map_of_forall {xs : List α} (h : ∀ x ∈ xs, R (f x) x) :
    List.Forall₂ R (xs.map f) xs := by
  rw [List.forall₂_map_left_iff, List.forall₂_same]
  exact h

theorem lists_map {complete : Bool} {es : List (Wide × Json)} {key : String} {xs : List α}
    (hkey : Json.field? es key = some (.arr (xs.map f))) (h : ∀ x, R (f x) x) :
    Lists complete es key R xs :=
  .inl ⟨_, hkey, forall₂_map_of_forall fun x _ => h x⟩

theorem describes_ofType (t : TypeDescriptor) : DescribesType true (ofType t) t := by
  induction t using TypeDescriptor.induction with
  | step kind name args ih =>
    refine .listed rfl rfl ?_ (forall₂_map_of_forall ih)
    rw [← ofTypes_eq_map]
    rfl

theorem describes_ofField (f : Field) : DescribesField true (ofField f) f :=
  ⟨_, _, rfl, rfl, rfl, describes_ofType f.type⟩

theorem describes_ofVariant (v : Variant) : DescribesVariant true (ofVariant v) v :=
  ⟨_, rfl, rfl, lists_map rfl describes_ofField⟩

theorem describes_ofDefinition (d : Definition) : DescribesDefinition true (ofDefinition d) d :=
  ⟨_, rfl, rfl, rfl, lists_map rfl describes_ofVariant, lists_map rfl fun _ => rfl⟩

theorem describes_ofSignature (s : Signature) : DescribesSignature true (ofSignature s) s :=
  ⟨_, _, rfl, rfl, rfl, lists_map rfl describes_ofField, rfl, describes_ofType s.result⟩

/-- The document of a catalog describes it with nothing left out. -/
theorem describes_ofCatalog (c : Catalog) : Describes true (ofCatalog c) c :=
  ⟨_, rfl, lists_map rfl describes_ofDefinition, lists_map rfl describes_ofSignature⟩

theorem textual_map {xs : List α} (h : ∀ x ∈ xs, (f x).Textual) :
    (Json.arr (xs.map f)).Textual := by
  refine .arr fun j hj => ?_
  obtain ⟨x, hx, rfl⟩ := List.mem_map.mp hj
  exact h x hx

theorem textual_ofType (t : TypeDescriptor) : (ofType t).Textual := by
  induction t using TypeDescriptor.induction with
  | step kind name args ih =>
    have hargs : (Json.arr (ofTypes args)).Textual := by
      rw [ofTypes_eq_map]
      exact textual_map ih
    exact .obj (by simp [Json.Whole]) (by simp [Json.Textual.str, hargs])

theorem textual_ofField (f : Field) : (ofField f).Textual :=
  .obj (by simp [Json.Whole]) (by simp [Json.Textual.str, textual_ofType])

theorem textual_ofVariant (v : Variant) : (ofVariant v).Textual :=
  .obj (by simp [Json.Whole]) (by simp [Json.Textual.str, textual_map fun f _ => textual_ofField f])

theorem textual_ofDefinition (d : Definition) : (ofDefinition d).Textual :=
  .obj (by simp [Json.Whole])
    (by simp [Json.Textual.str, textual_map fun v _ => textual_ofVariant v,
      textual_map fun (n : String) _ => Json.Textual.str n])

theorem textual_ofSignature (s : Signature) : (ofSignature s).Textual :=
  .obj (by simp [Json.Whole])
    (by simp [Json.Textual.str, textual_map fun f _ => textual_ofField f, textual_ofType])

/-- The document of a catalog holds nothing but strings. -/
theorem textual_ofCatalog (c : Catalog) : (ofCatalog c).Textual :=
  .obj (by simp [Json.Whole]) (by simp [textual_map fun d _ => textual_ofDefinition d,
    textual_map fun s _ => textual_ofSignature s])

end Writing

section Reading
variable {complete : Bool} {es : List (Wide × Json)} {key : String} {j : Json}

theorem required_of_field? (h : Json.field? es key = some j) : required es key = .ok j := by
  rw [required, h]

section Lists
variable {α : Type} {read : Reader α} {R : Json → α → Prop} {xs : List α}

theorem listOf_of_forall₂ (hread : ∀ j x, R j x → read j = .ok (some x)) {js : List Json}
    (h : List.Forall₂ R js xs) : listOf read (.arr js) = .ok (some xs) := by
  have hall : js.mapM read = .ok (xs.map some) := by
    induction h with
    | nil => rfl
    | cons hx _ ih => rw [List.mapM_cons, hread _ _ hx, ih]; rfl
  have hsome : (xs.map some).mapM id = some xs := by
    rw [List.mapM_map]
    exact List.mapM_pure.trans (congrArg some (List.map_id' xs))
  simp only [listOf, members, bind, Except.bind, hall, hsome]
  rfl

theorem optionalList_of_lists (hread : ∀ j x, R j x → read j = .ok (some x))
    (h : Lists complete es key R xs) : optionalList read es key = .ok (some xs) := by
  rcases h with ⟨js, hkey, hjs⟩ | ⟨-, hkey, rfl⟩
  · simp only [optionalList, hkey, listOf_of_forall₂ hread hjs]
  · rw [optionalList, hkey]

theorem listOf_of_lists (hread : ∀ j x, R j x → read j = .ok (some x))
    (h : Lists true es key R xs) :
    ∃ found, required es key = .ok found ∧ listOf read found = .ok (some xs) := by
  rcases h with ⟨js, hkey, hjs⟩ | ⟨hfalse, -⟩
  · exact ⟨.arr js, required_of_field? hkey, listOf_of_forall₂ hread hjs⟩
  · cases hfalse

end Lists

theorem typesOf_of_forall₂ {js : List Json} {ts : List TypeDescriptor}
    (h : List.Forall₂ (fun j t => typeOf j = .ok (some t)) js ts) : typesOf js = .ok (some ts) := by
  induction h with
  | nil => rfl
  | cons ht _ ih =>
    rw [typesOf, ht, ih]
    rfl

/-- The type arguments are those of the last entry for them. -/
theorem typeArgsOf_eq (es : List (Wide × Json)) :
    typeArgsOf es = match Json.field? es "type_args" with
      | some j => typeListOf j
      | none => .ok (some []) := by
  induction es with
  | nil => rfl
  | cons e es ih =>
    obtain ⟨k, j⟩ := e
    rw [typeArgsOf, ih]
    have hfield : Json.field? ((k, j) :: es) "type_args" =
        (Json.field? es "type_args").or (if k = .text "type_args" then some j else none) := by
      simp only [Json.field?, List.reverse_cons, List.find?_append]
      cases es.reverse.find? (·.1 == .text "type_args") with
      | none => by_cases h : k = .text "type_args" <;> simp [h]
      | some _ => rfl
    rw [hfield]
    cases Json.field? es "type_args" with
    | none => by_cases h : k = .text "type_args" <;> simp [h]
    | some _ => simp

/-- A described type is read, by induction on the type, whose arguments are described in turn. -/
theorem typeOf_of_describes {t : TypeDescriptor} (h : DescribesType complete j t) :
    typeOf j = .ok (some t) := by
  induction t using TypeDescriptor.induction generalizing j with
  | step kind name args ih =>
    have hword : Document.kind (.str kind.word) = .ok (some kind) := by
      rw [Document.kind, TypeKind.ofWord?_word]
    cases h with
    | @listed es _ _ js _ hkind hname hargs h =>
      have hread : List.Forall₂ (fun t j => t ∈ args ∧ DescribesType complete j t) args js :=
        (List.forall₂_and_left _ _).mpr ⟨fun t ht => ht, h.flip⟩
      have hlist : typeListOf (.arr js) = .ok (some args) := by
        rw [typeListOf, typesOf_of_forall₂ (hread.flip.imp fun j t ht => ih t ht.1 ht.2)]
      rw [typeOf, required_of_field? hkind, required_of_field? hname, typeArgsOf_eq, hargs]
      simp only [bind, Except.bind, hword, hlist]
      rfl
    | bare hkind hname _ hargs =>
      rw [typeOf, required_of_field? hkind, required_of_field? hname, typeArgsOf_eq, hargs]
      simp only [bind, Except.bind, hword]
      rfl

theorem orNull_typeOf_of_describes {t : TypeDescriptor} (h : DescribesType complete j t) :
    orNull typeOf j = .ok (some t) := by
  have hread := typeOf_of_describes h
  cases h <;> exact hread

theorem fieldOf_of_describes (j : Json) (f : Field) (h : DescribesField complete j f) :
    fieldOf j = .ok (some f) := by
  obtain ⟨es, t, rfl, hname, htype, ht⟩ := h
  simp only [fieldOf, entries, required_of_field? hname, required_of_field? htype, bind,
    Except.bind, orNull_typeOf_of_describes ht]
  rfl

theorem variantOf_of_describes (j : Json) (v : Variant) (h : DescribesVariant complete j v) :
    variantOf j = .ok (some v) := by
  obtain ⟨es, rfl, hname, hfields⟩ := h
  simp only [variantOf, entries, required_of_field? hname, bind, Except.bind,
    optionalList_of_lists fieldOf_of_describes hfields]
  rfl

theorem definitionOf_of_describes (j : Json) (d : Definition)
    (h : DescribesDefinition complete j d) : definitionOf j = .ok (some d) := by
  obtain ⟨es, rfl, hmodule, hname, hvariants, hparams⟩ := h
  obtain ⟨found, hfound, hvariants⟩ := listOf_of_lists variantOf_of_describes hvariants
  have hparam (j : Json) (n : String) (h : j = .str n) :
      (.ok (paramOf j) : Except DocumentError (Option String)) = .ok (some n) := by
    rw [h, paramOf]
  simp only [definitionOf, entries, required_of_field? hmodule, required_of_field? hname, bind,
    Except.bind, hfound, hvariants, optionalList_of_lists hparam hparams]
  rfl

theorem signatureOf_of_describes (j : Json) (s : Signature)
    (h : DescribesSignature complete j s) : signatureOf j = .ok (some s) := by
  obtain ⟨es, t, rfl, hmodule, hname, hparams, hresult, ht⟩ := h
  obtain ⟨found, hfound, hparams⟩ := listOf_of_lists fieldOf_of_describes hparams
  simp only [signatureOf, entries, required_of_field? hmodule, required_of_field? hname,
    required_of_field? hresult, bind, Except.bind, hfound, hparams, orNull_typeOf_of_describes ht]
  rfl

theorem catalogOf_of_describes {c : Catalog} (h : Describes complete j c) :
    catalogOf j = .ok (some c) := by
  obtain ⟨es, rfl, hdefinitions, hfunctions⟩ := h
  simp only [catalogOf, entries, bind, Except.bind,
    optionalList_of_lists definitionOf_of_describes hdefinitions,
    optionalList_of_lists signatureOf_of_describes hfunctions]
  rfl

end Reading

end Marshal.Document
