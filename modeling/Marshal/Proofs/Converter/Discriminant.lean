import Marshal.Declaration.Meaning
import Marshal.Proofs.Code.Display
import Marshal.Proofs.Converter.Part

/-!
# The discriminant

Where there are several variants, the name of the variant is written under the key `type`, in front
of the fields and among their keys. It stays there as long as no field has this name: a later entry
takes the place of an earlier one.
-/

namespace Marshal
set_option autoImplicit false

open Code (Expr Function Stmt)
open Conversion (Covers Plain)
open Declaration (parse)
open Naming (Mangling)

theorem Code.Expr.keys?_eq_none_of_plain {e : Expr} (h : Plain e) : e.keys? = none := by
  cases e with
  | dict => exact h.elim
  | _ => rfl

theorem Code.Function.forall_displays {p : List String → Prop} {f : Function} :
    (∀ ks ∈ f.displays, p ks) ↔ Stmt.EachPart (fun e => ∀ ks, e.keys? = some ks → p ks) f.body := by
  rw [← Function.forall_parts, Function.displays]
  constructor
  · intro h e he ks hks
    exact h ks (List.mem_filterMap.mpr ⟨e, he, hks⟩)
  · intro h ks hks
    obtain ⟨e, he, hks⟩ := List.mem_filterMap.mp hks
    exact h e he ks hks

namespace Converter

variable {mangling : Mangling} {runtime : String} {s : Scope} {d : Definition} {v : Variant}

def tagKey : String := "type"

def externalKeys (d : Definition) (v : Variant) : List String :=
  (if 1 < d.variants.length then [tagKey] else []) ++ v.fields.map (·.name)

theorem keys_entries (tagged : Bool) :
    (entries mangling s tagged v).map (·.1) =
      (if tagged then [tagKey] else []) ++ v.fields.map (·.name) := by
  rw [entries, List.map_append, List.map_map]
  cases tagged <;> rfl

theorem keys_of_displays {ks : List String} (h : ks ∈ (toJson mangling runtime d).displays) :
    ks.length ≤ 1 ∨ ∃ v ∈ d.variants, ks = externalKeys d v := by
  revert ks h
  rw [Function.forall_displays]
  have hcovers : Covers .toExternal (scope .toExternal runtime d) (fun _ => True) fun e =>
      ∀ ks, e.keys? = some ks → ks.length ≤ 1 ∨ ∃ v ∈ d.variants, ks = externalKeys d v := by
    refine ⟨?_, ?_, not_isConverterName_of_scope, fun _ _ => trivial, ?_⟩
    · intro e he ks hks
      rw [Expr.keys?_eq_none_of_plain he] at hks
      cases hks
    · rintro ks ⟨⟩
      exact Or.inl (Nat.zero_le 1)
    · rintro name args source depth - ks ⟨⟩
  refine @parts_body mangling runtime d .toExternal _ _ hcovers (fun _ _ => trivial) ?_
  rintro es (⟨f, rfl⟩ | ⟨v, hv, rfl⟩) ks hks
  · cases hks
    exact Or.inl le_rfl
  · cases hks
    refine Or.inr ⟨v, hv, ?_⟩
    rw [keys_entries, externalKeys]
    by_cases hmany : 1 < d.variants.length
    · rw [if_pos hmany, if_pos (decide_eq_true hmany)]
    · rw [if_neg hmany, if_neg (by simpa using hmany)]

theorem nodup_externalKeys (h : (v.fields.map (·.name)).Nodup)
    (htag : 1 < d.variants.length → tagKey ∉ v.fields.map (·.name)) :
    (externalKeys d v).Nodup := by
  rw [externalKeys]
  split
  · rename_i hmany
    exact List.nodup_cons.mpr ⟨htag hmany, h⟩
  · exact h

theorem branch_eq_deconstruct (henum : d.isEnumLike = false) :
    branch mangling runtime d v .toExternal =
      deconstruct mangling (scope .toExternal runtime d) true v := by
  rw [branch, henum]
  rfl

theorem getLast?_branch (henum : d.isEnumLike = false) :
    (branch mangling runtime d v .toExternal).getLast? =
      some (.retDict (entries mangling (scope .toExternal runtime d) true v)) := by
  rw [branch_eq_deconstruct henum, deconstruct_eq, List.getLast?_concat]
  rfl

theorem body_toJson (hmany : 1 < d.variants.length) :
    (toJson mangling runtime d).body = opening d .toExternal ++
      (d.variants.map (fun v =>
          .when (guard mangling d v .toExternal) (branch mangling runtime d v .toExternal)) ++
        [raiseUnknown runtime d (subject d .toExternal)]) := by
  have hbody := @body_eq mangling runtime d .toExternal (Nat.ne_of_gt hmany)
  rwa [function] at hbody

theorem guarded_branch_mem (hmany : 1 < d.variants.length) (hv : v ∈ d.variants) :
    .when (guard mangling d v .toExternal) (branch mangling runtime d v .toExternal) ∈
      (toJson mangling runtime d).body := by
  rw [body_toJson hmany]
  refine List.mem_append_right _ (List.mem_append_left _ ?_)
  exact List.mem_map.mpr ⟨v, hv, rfl⟩

theorem keys_mem_displays (hmany : 1 < d.variants.length) (henum : d.isEnumLike = false)
    (hv : v ∈ d.variants) :
    tagKey :: v.fields.map (·.name) ∈ (toJson mangling runtime d).displays := by
  by_contra hnone
  -- no display having these keys, none of a branch has them
  have hall : ∀ ks ∈ (toJson mangling runtime d).displays,
      ks ≠ tagKey :: v.fields.map (·.name) := by
    rintro ks hks rfl
    exact hnone hks
  rw [Function.forall_displays] at hall
  rw [body_toJson hmany, Stmt.eachPart_append, Stmt.eachPart_append, Stmt.eachPart_map_when] at hall
  have hbranch := (hall.2.1 v hv).2
  rw [branch_eq_deconstruct henum, deconstruct_eq, Stmt.eachPart_append] at hbranch
  have hdict := (Expr.eachPart_dict.mp (Stmt.eachPart_retDict.mp hbranch.2).1).1
  exact hdict _ rfl (keys_entries true)

theorem isEnumLike_eq_false {f : Field} (hv : v ∈ d.variants) (hf : f ∈ v.fields) :
    d.isEnumLike = false := by
  have hne : d.variants ≠ [] := List.ne_nil_of_mem hv
  rcases d.shape_cases hne with ⟨-, -, -, hs, -⟩ | ⟨-, -, hs⟩ | ⟨-, -, -, -, -, hall⟩ |
    ⟨-, -, -, -, hs⟩
  · rw [Definition.isEnumLike, hs]
    rfl
  · rw [Definition.isEnumLike, hs]
    rfl
  · rw [hall v hv] at hf
    cases hf
  · rw [Definition.isEnumLike, hs]
    rfl

theorem filter_entries :
    (entries mangling s true v).filter (·.1 == tagKey) =
      (tagKey, .str v.name) :: (v.fields.filter (·.name == tagKey)).map fun f =>
        writeEntry s f (mangling.destructor (.name "value") f.name) := by
  rw [entries, List.filter_append, List.filter_map]
  rfl

theorem getLast?_tag (h : tagKey ∉ v.fields.map (·.name)) :
    ((entries mangling s true v).filter (·.1 == tagKey)).getLast? =
      some (tagKey, .str v.name) := by
  have hnone : v.fields.filter (·.name == tagKey) = [] := by
    rw [List.filter_eq_nil_iff]
    intro f hf hname
    exact h (List.mem_map.mpr ⟨f, hf, eq_of_beq hname⟩)
  rw [filter_entries, hnone]
  rfl

theorem getLast?_field (h : (v.fields.map (·.name)).Nodup) {f : Field} (hf : f ∈ v.fields)
    (hname : f.name = tagKey) :
    ((entries mangling s true v).filter (·.1 == tagKey)).getLast? =
      some (writeEntry s f (mangling.destructor (.name "value") f.name)) := by
  have hmem : f ∈ v.fields.filter (·.name == tagKey) :=
    List.mem_filter.mpr ⟨hf, beq_iff_eq.mpr hname⟩
  have honly : ∀ g ∈ v.fields.filter (·.name == tagKey), g = f := by
    intro g hg
    obtain ⟨hg, hgname⟩ := List.mem_filter.mp hg
    exact List.inj_on_of_nodup_map h hg hf ((eq_of_beq hgname).trans hname.symm)
  rw [filter_entries, List.getLast?_cons, List.getLast?_map]
  cases hlast : (v.fields.filter (·.name == tagKey)).getLast? with
  | none =>
    rw [List.getLast?_eq_none_iff.mp hlast] at hmem
    cases hmem
  | some g =>
    obtain rfl := honly g (List.mem_of_getLast? hlast)
    rfl

/--
The keys of every object that a converter to the external form writes are distinct, unless there are
several variants and a field called `type`. With several variants an object begins with the name of
its variant, the text that the converter from the external form compares the tag with. The `type` of
the object is this name if no field of the variant has that key, and otherwise it is what the field
is converted to.
-/
theorem discriminant_kept (mangling : Mangling) (runtime : String) {d : Definition}
    (hfields : ∀ v ∈ d.variants, (v.fields.map (·.name)).Nodup) :
    ((∀ ks ∈ (toJson mangling runtime d).displays, ks.Nodup) ↔
        (1 < d.variants.length → tagKey ∉ d.fields.map (·.name))) ∧
      (1 < d.variants.length → d.isEnumLike = false → ∀ v ∈ d.variants, ∃ es,
        .when (guard mangling d v .toExternal) (branch mangling runtime d v .toExternal) ∈
          (toJson mangling runtime d).body ∧
        (branch mangling runtime d v .toExternal).getLast? = some (.retDict es) ∧
        es.map (·.1) = tagKey :: v.fields.map (·.name) ∧
        guard mangling d v .fromExternal = .equal (.name "tag") (.str v.name) ∧
        ∀ env w, (Expr.dict es).value env = some w →
          (tagKey ∉ v.fields.map (·.name) →
            (w.item (.text tagKey)).toOption = some (.text v.name)) ∧
          ∀ f ∈ v.fields, f.name = tagKey →
            (w.item (.text tagKey)).toOption =
              (writeEntry (scope .toExternal runtime d) f
                (mangling.destructor (.name "value") f.name)).2.value env) := by
  refine ⟨⟨fun hdisplays hmany htag => ?_, fun htag ks hks => ?_⟩, fun hmany henum v hv => ?_⟩
  · obtain ⟨f, hf, hname⟩ := List.mem_map.mp htag
    obtain ⟨v, hv, hf⟩ := List.mem_flatMap.mp hf
    have hnodup := hdisplays _ (keys_mem_displays hmany (isEnumLike_eq_false hv hf) hv)
    exact (List.nodup_cons.mp hnodup).1 (List.mem_map.mpr ⟨f, hf, hname⟩)
  · rcases keys_of_displays hks with hks | ⟨v, hv, rfl⟩
    · exact List.nodup_iff_injective_get.mpr fun i j _ => Fin.ext (by omega)
    · refine nodup_externalKeys (hfields v hv) fun hmany hmem => htag hmany ?_
      obtain ⟨f, hf, hname⟩ := List.mem_map.mp hmem
      exact List.mem_map.mpr ⟨f, mem_fields hv hf, hname⟩
  · refine ⟨entries mangling (scope .toExternal runtime d) true v, guarded_branch_mem hmany hv,
      getLast?_branch henum, keys_entries true, ?_, fun env w hw => ⟨fun htag => ?_, ?_⟩⟩
    · rw [guard, subject, henum]
      rfl
    · rw [Expr.item_dict hw, getLast?_tag htag]
      rfl
    · intro f hf hname
      rw [Expr.item_dict hw, getLast?_field (hfields v hv) hf hname]
      rfl

/-- A lamp that is off, or on at some level. -/
def taggedLamp : Definition := ⟨"M", "Lamp", [⟨"Off", []⟩, ⟨"On", [⟨"level", .int "int"⟩]⟩], []⟩

theorem discriminant_kept_lamp :
    ∃ d : Definition, d.variants.map (·.name) = ["Off", "On"] ∧
      (∀ v ∈ d.variants, (v.fields.map (·.name)).Nodup) ∧
      (∀ ks ∈ (toJson .escaping "_rt" d).displays, ks.Nodup) ∧
      ∀ v ∈ d.variants, ∃ es,
        (branch .escaping "_rt" d v .toExternal).getLast? = some (.retDict es) ∧
        ∀ env w, (Expr.dict es).value env = some w →
          (w.item (.text tagKey)).toOption = some (.text v.name) := by
  have hfields : ∀ v ∈ taggedLamp.variants, (v.fields.map (·.name)).Nodup := by decide
  have htag : tagKey ∉ taggedLamp.fields.map (·.name) := by decide
  obtain ⟨hdisplays, hobjects⟩ := discriminant_kept .escaping "_rt" hfields
  refine ⟨taggedLamp, rfl, hfields, hdisplays.mpr fun _ => htag, fun v hv => ?_⟩
  obtain ⟨es, -, hlast, -, -, hvalue⟩ := hobjects (by decide) (by decide) v hv
  refine ⟨es, hlast, fun env w hw => (hvalue env w hw).1 fun hmem => htag ?_⟩
  obtain ⟨f, hf, hname⟩ := List.mem_map.mp hmem
  exact List.mem_map.mpr ⟨f, mem_fields hv hf, hname⟩

/-- A definition with a field that is called like the tag. -/
def typeField : Definition := ⟨"M", "D", [⟨"A", [⟨"type", .int "int"⟩]⟩, ⟨"B", []⟩], []⟩

/-- A field called `type` is a field like any other where it is declared. -/
theorem displays_type_twice :
    ∃ c d, (parse "module M { datatype D = A(type: int) | B }").outcome = .ok c ∧
      d ∈ c.definitions ∧ (d.variants.map (·.name)).Nodup ∧
      (∀ v ∈ d.variants, (v.fields.map (·.name)).Nodup) ∧
      ∃ ks ∈ (toJson .escaping "_rt" d).displays, ¬ ks.Nodup := by
  refine ⟨⟨[typeField], []⟩, typeField, by decide +kernel, List.mem_cons_self, by decide, by decide,
    ["type", "type"], ?_, by decide⟩
  exact List.mem_of_elem_eq_true rfl

end Converter

end Marshal
