import Marshal.Closure.Reachable
import Mathlib.Data.List.Nodup

/-!
# Datatypes that types refer to

The datatype names of a type are its own, if it is one, and those of its arguments, at any depth. In
a catalog such a name should have a definition, and a module only one.
-/

namespace Marshal
set_option autoImplicit false

namespace TypeDescriptor

/-- Types by induction: what holds of all arguments of a type holds of the type. -/
theorem induction {P : TypeDescriptor → Prop}
    (step : ∀ kind name args, (∀ a ∈ args, P a) → P ⟨kind, name, args⟩) (t : TypeDescriptor) :
    P t := by
  refine @TypeDescriptor.rec P (fun ts => ∀ t ∈ ts, P t) step ?_ ?_ t
  · intro t ht
    exact absurd ht List.not_mem_nil
  · intro t ts ht hts u hu
    rcases List.mem_cons.mp hu with rfl | hu
    · exact ht
    · exact hts u hu

theorem namesOfList_eq_flatMap (kind : TypeKind) (ts : List TypeDescriptor) :
    namesOfList kind ts = ts.flatMap (namesOf kind) := by
  induction ts with
  | nil => rfl
  | cons t ts ih => rw [namesOfList, ih, List.flatMap_cons]

theorem references_mk (kind : TypeKind) (name : String) (args : List TypeDescriptor) :
    references ⟨kind, name, args⟩ =
      (if kind = .datatype then [name] else []) ++ args.flatMap (·.references) := by
  rw [references, namesOf, namesOfList_eq_flatMap]
  rfl

theorem references_of_arg {kind : TypeKind} {name : String} {args : List TypeDescriptor}
    {a : TypeDescriptor} (ha : a ∈ args) {r : String} (hr : r ∈ a.references) :
    r ∈ references ⟨kind, name, args⟩ := by
  rw [references_mk]
  exact List.mem_append_right _ (List.mem_flatMap.mpr ⟨a, ha, hr⟩)

theorem references_self (name : String) (args : List TypeDescriptor) :
    name ∈ references ⟨.datatype, name, args⟩ := by
  rw [references_mk, if_pos rfl]
  exact List.mem_append_left _ List.mem_cons_self

/-- The types inside a type, at any depth; it is one of them. -/
inductive Within (t : TypeDescriptor) : TypeDescriptor → Prop where
  | self : Within t t
  | arg {u a : TypeDescriptor} : Within t u → a ∈ u.args → Within t a

variable {kind : TypeKind} {name : String} {args : List TypeDescriptor} {t u a : TypeDescriptor}

theorem Within.of_arg (ha : a ∈ t.args) (h : a.Within u) : t.Within u := by
  induction h with
  | self => exact .arg .self ha
  | arg _ hb ih => exact .arg ih hb

theorem within_iff :
    Within ⟨kind, name, args⟩ u ↔ u = ⟨kind, name, args⟩ ∨ ∃ a ∈ args, a.Within u := by
  constructor
  · intro h
    induction h with
    | self => exact .inl rfl
    | arg _ hb ih =>
      rcases ih with rfl | ⟨a, ha, h⟩
      · exact .inr ⟨_, hb, .self⟩
      · exact .inr ⟨a, ha, h.arg hb⟩
  · rintro (rfl | ⟨a, ha, h⟩)
    · exact .self
    · exact .of_arg ha h

theorem forall_within_iff {P : TypeDescriptor → Prop} :
    (∀ u, Within ⟨kind, name, args⟩ u → P u) ↔
      P ⟨kind, name, args⟩ ∧ ∀ a ∈ args, ∀ u, a.Within u → P u := by
  simp only [within_iff, or_imp, forall_and, forall_eq, forall_exists_index, and_imp]
  exact and_congr_right' ⟨fun h a ha u hu => h u a ha hu, fun h u a ha hu => h a ha u hu⟩

/-- The names of one kind are those of the types inside. -/
theorem mem_namesOf_iff {n : String} :
    n ∈ t.namesOf kind ↔ ∃ u, t.Within u ∧ u.kind = kind ∧ u.name = n := by
  induction t using TypeDescriptor.induction with
  | step k name args ih =>
    rw [namesOf, namesOfList_eq_flatMap, List.mem_append, List.mem_flatMap]
    constructor
    · rintro (h | ⟨a, ha, h⟩)
      · split at h
        · rename_i hk
          exact ⟨_, .self, hk, (List.mem_singleton.mp h).symm⟩
        · cases h
      · obtain ⟨u, hu, h⟩ := (ih a ha).mp h
        exact ⟨u, .of_arg ha hu, h⟩
    · rintro ⟨u, hu, hk, hn⟩
      rcases within_iff.mp hu with rfl | ⟨a, ha, hu⟩
      · exact .inl (by rw [if_pos hk]; exact List.mem_singleton.mpr hn.symm)
      · exact .inr ⟨a, ha, (ih a ha).mpr ⟨u, hu, hk, hn⟩⟩

end TypeDescriptor

def Catalog.Defines (c : Catalog) (name : String) : Prop := ∃ d ∈ c.definitions, d.name = name

/-- Every datatype that the types of a catalog refer to, at any depth, has a definition. -/
structure Catalog.NamesDefined (c : Catalog) : Prop where
  fields : ∀ d ∈ c.definitions, ∀ f ∈ d.fields, ∀ r ∈ f.type.references, c.Defines r
  functions : ∀ s ∈ c.functions, ∀ r ∈ s.references, c.Defines r

/-- Where a definition is found: its module and its bare name. -/
def Definition.path (d : Definition) : String × String := (d.moduleName, d.name)

/-- No two definitions of a catalog share both their module and their name. -/
def Catalog.UniqueNames (c : Catalog) : Prop := (c.definitions.map (·.path)).Nodup

instance (c : Catalog) : Decidable c.UniqueNames :=
  inferInstanceAs (Decidable (c.definitions.map (·.path)).Nodup)

theorem Catalog.UniqueNames.eq {c : Catalog} (h : c.UniqueNames) {d e : Definition}
    (hd : d ∈ c.definitions) (he : e ∈ c.definitions) (hmodule : d.moduleName = e.moduleName)
    (hname : d.name = e.name) : d = e :=
  List.inj_on_of_nodup_map h hd he (Prod.ext hmodule hname)

end Marshal
