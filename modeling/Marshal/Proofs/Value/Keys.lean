import Marshal.Proofs.Value.Filing

/-!
# Sound members and keys

Sound values can be members of sets and keys of maps. A set of them holds the first of equal ones. A
map whose keys are sound is an association list up to equality: what is looked up, put and compared
there is looked up, put and compared by keys that are equal.
-/

namespace Marshal.Value
set_option autoImplicit false

open Assoc (Proper)

variable {h : Heap} {v w k : Value}

theorem Sound.hashable (hv : Sound h v) : v.unhashable? = none := by
  induction hv with
  | @intro v fits parts ih =>
    cases v with
    | list | dict | moved => cases fits.steady
    | tuple vs | seq _ vs _ | data _ _ _ vs => exact firstUnhashable?_eq_none.mpr ih
    | map _ es =>
      refine unhashableInEntries?_eq_none.mpr fun e he => ?_
      exact ⟨ih _ (Content.key_mem_values he), ih _ (Content.value_mem_values he)⟩
    | _ => rfl

theorem equals_eq_same (hv : Sound h v) (hw : Sound h w) : equals v w = same v w := by
  rw [Bool.eq_iff_iff, equals_iff hv.unmoved, hv.equal_iff hw]

section Sets
variable {vs : List Value} (hvs : ∀ v ∈ vs, Sound h v)
include hvs

theorem setOfMembers_eq_firsts : setOfMembers vs = .ok (.set .fresh (Assoc.firsts same vs)) := by
  have hhashable := firstUnhashable?_eq_none.mpr fun v hv => (hvs v hv).hashable
  rw [setOfMembers, hhashable, Assoc.distinct_eq_firsts (equivalence h) hvs]

theorem hasMember_eq_any (hw : Sound h w) : hasMember vs w = .ok (vs.any fun v => same v w) := by
  have hany : vs.any (equals · w) = vs.any fun v => same v w := by
    rw [Bool.eq_iff_iff, List.any_eq_true, List.any_eq_true]
    refine exists_congr fun v => and_congr_right fun hmem => ?_
    rw [equals_eq_same (hvs v hmem) hw]
  rw [hasMember, requireHashable_eq_ok hw.hashable, hany]
  rfl

end Sets

section Maps
variable {es es' : List (Value × Value)} (hes : ∀ e ∈ es, Sound h e.1) (hk : Sound h k)
include hes hk

theorem placeOf?_eq_findIdx? : placeOf? es k = es.findIdx? fun e => same e.1 k := by
  rw [placeOf?_eq fun e he => (hes e he).unmoved]
  induction es with
  | nil => rfl
  | cons e es ih =>
    obtain ⟨he, hes⟩ := List.forall_mem_cons.mp hes
    rw [List.findIdx?_cons, List.findIdx?_cons, equals_eq_same he hk, ih hes]

theorem lookup_eq_find? :
    lookup es k = match Assoc.find? same k es with
      | some v => .ok v
      | none => .error k.missing := by
  have hfind : ((placeOf? es k).bind (es[·]?)).map (·.2) = Assoc.find? same k es := by
    rw [placeOf?_eq_findIdx? hes hk, ← List.find?_eq_bind_findIdx?_getElem?, Assoc.find?_eq_map_find?]
  rw [lookup, requireHashable_eq_ok hk.hashable, ← hfind]
  cases (placeOf? es k).bind (es[·]?) <;> rfl

theorem hasKey_eq_isSome : hasKey es k = .ok (Assoc.find? same k es).isSome := by
  rw [hasKey, requireHashable_eq_ok hk.hashable, placeOf?_eq_findIdx? hes hk, List.findIdx?_isSome,
    Assoc.find?_eq_map_find?, Option.isSome_map, List.isSome_find?]
  rfl

theorem updated_eq_put (value : Value) :
    updated es k value = .ok (Assoc.put same k value es) := by
  rw [updated, requireHashable_eq_ok hk.hashable, placeOf?_eq_findIdx? hes hk, Assoc.put_eq_modify]
  cases es.findIdx? fun e => same e.1 k <;> rfl

end Maps

theorem isMissingKey_missing (k : Value) : k.missing.isMissingKey := by
  rw [missing]
  cases k.display <;> rfl

theorem Sound.proper {i : Identity} {es : List (Value × Value)} (hm : Sound h (.map i es)) :
    Proper same (Sound h) es :=
  ⟨fun _ he => hm.of_mem (Content.key_mem_values he), hm.fits.apart⟩

/-- Maps with sound keys are equal if and only if equal values are found at every sound key. -/
theorem same_map_iff {i j : Identity} {es es' : List (Value × Value)}
    (hes : Proper same (Sound h) es) (hes' : Proper same (Sound h) es') :
    same (.map i es) (.map j es') ↔ ∀ k, Sound h k →
      Option.Rel Equal (Assoc.find? same k es) (Assoc.find? same k es') := by
  rw [same_map, hes.rel_find?_iff (equivalence h) hes',
    entriesWithin_iff (equivalence h) (fun _ hx => hx) hes.keys hes']

theorem Sound.same_map_iff {i j : Identity} {es es' : List (Value × Value)}
    (hm : Sound h (.map i es)) (hm' : Sound h (.map j es')) :
    same (.map i es) (.map j es') ↔ ∀ k, Sound h k →
      Option.Rel (fun v w => same v w) (Assoc.find? same k es) (Assoc.find? same k es') := by
  rw [hm.proper.rel_find?_iff (equivalence h) hm'.proper, hm.same_iff hm']
  exact and_iff_right rfl

end Marshal.Value
