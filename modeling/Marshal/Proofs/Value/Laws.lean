import Marshal.Proofs.Value.Keys

/-!
# Laws of equality

Values are built to any depth from nothing, truth values, numbers and texts: tuples, sequences, sets,
maps and datatype values of them (`Built`). All of them are sound, so equality is an equivalence
among them, and sets and maps tell apart no values that are equal (`EqualityLaws`).
-/

namespace Marshal.Value
set_option autoImplicit false

open Assoc (Proper firsts)
open Conversion (Stands)

variable {h : Heap}

def invoke (v : Value) (name : String) (args : List Value) : Except Fault Value := do
  (← v.member name).apply args

section Methods
variable {i : Identity} {vs : List Value} {es : List (Value × Value)} {k v : Value}

theorem invoke_get : (Value.map i es).invoke "get" [k] = lookup es k := by
  rw [invoke, member_map (by decide) (by decide) rfl]
  rfl

theorem invoke_update :
    (Value.map i es).invoke "update" [k, v] = (updated es k v).map (Value.map .fresh) := by
  rw [invoke, member_map (by decide) (by decide) rfl]
  rfl

theorem invoke_contains_map :
    (Value.map i es).invoke "contains" [k] = (hasKey es k).map Value.bool := by
  rw [invoke, member_map (by decide) (by decide) rfl]
  rfl

theorem invoke_contains_set :
    (Value.set i vs).invoke "contains" [v] = (hasMember vs v).map Value.bool := by
  rw [invoke, member_set (by decide) (by decide) rfl]
  rfl

end Methods

/-- The values that are built, given the objects that have numbers and the classes. -/
inductive Built (h : Heap) : Value → Prop
  | null : Built h .null
  | bool (b : Bool) : Built h (.bool b)
  | int (n : Int) : Built h (.int n)
  | text (s : String) : Built h (.text s)
  | tuple {vs : List Value} (hvs : ∀ v ∈ vs, Built h v) : Built h (.tuple vs)
  | seq {vs : List Value} (hvs : ∀ v ∈ vs, Built h v) (id : Identity) (isString : Bool)
    (hid : Stands h.object (.seq id vs isString)) : Built h (.seq id vs isString)
  | set {vs ms : List Value} {i : Identity} (hvs : ∀ v ∈ vs, Built h v)
    (hset : setOfMembers vs = .ok (.set i ms)) (id : Identity)
    (hid : Stands h.object (.set id ms)) : Built h (.set id ms)
  | emptyMap (id : Identity) (hid : Stands h.object (.map id [])) : Built h (.map id [])
  | update {i : Identity} {es es' : List (Value × Value)} {k v : Value} (hm : Built h (.map i es))
    (hk : Built h k) (hv : Built h v) (hupdate : updated es k v = .ok es') (id : Identity)
    (hid : Stands h.object (.map id es')) : Built h (.map id es')
  | data {c : DataClass} {variant : String} {vs : List Value} {i : Identity}
    (hc : h.dataClass c.serial = c) (hvs : ∀ v ∈ vs, Built h v)
    (hdata : construct c variant vs = .ok (.data i c variant vs)) (id : Identity)
    (hid : Stands h.object (.data id c variant vs)) : Built h (.data id c variant vs)

theorem Sound.seq {vs : List Value} (hvs : ∀ v ∈ vs, Sound h v) {id : Identity} {isString : Bool}
    (hid : Stands h.object (.seq id vs isString)) : Sound h (.seq id vs isString) :=
  .intro ⟨rfl, hid, trivial, nofun⟩ hvs

theorem Sound.set {vs : List Value} (hvs : ∀ v ∈ vs, Sound h v) {id : Identity}
    (hid : Stands h.object (.set id (firsts same vs))) : Sound h (.set id (firsts same vs)) :=
  .intro ⟨rfl, hid, Assoc.pairwise_firsts vs, nofun⟩ fun v hv => hvs v (Assoc.mem_of_mem_firsts hv)

theorem Sound.map {es : List (Value × Value)} (hes : Proper same (Sound h) es)
    (hvalues : ∀ e ∈ es, Sound h e.2) {id : Identity} (hid : Stands h.object (.map id es)) :
    Sound h (.map id es) := by
  refine .intro ⟨rfl, hid, hes.apart, nofun⟩ fun w hw => ?_
  obtain ⟨e, he, hw⟩ := List.mem_flatMap.mp hw
  rcases List.mem_pair.mp hw with rfl | rfl
  · exact hes.keys e he
  · exact hvalues e he

theorem Sound.value {i : Identity} {es : List (Value × Value)} (hm : Sound h (.map i es))
    {e : Value × Value} (he : e ∈ es) : Sound h e.2 :=
  hm.of_mem (Content.value_mem_values he)

theorem Sound.put {i j : Identity} {es : List (Value × Value)} {k v : Value}
    (hm : Sound h (.map i es)) (hk : Sound h k) (hv : Sound h v)
    (hid : Stands h.object (.map j (Assoc.put same k v es))) :
    Sound h (.map j (Assoc.put same k v es)) :=
  .map (hm.proper.put hk v) (Assoc.forall_mem_put hv (fun _ _ => hv) fun _ he => hm.value he) hid

theorem Built.sound {v : Value} (hv : Built h v) : Sound h v := by
  induction hv with
  | null | bool | int | text => exact .intro ⟨rfl, trivial, trivial, nofun⟩ nofun
  | tuple _ ih => exact .intro ⟨rfl, trivial, trivial, nofun⟩ ih
  | seq _ _ _ hid ih => exact .seq ih hid
  | @set vs ms i _ hset id hid ih =>
    rw [setOfMembers_eq_firsts ih] at hset
    cases hset
    exact .set ih hid
  | emptyMap id hid => exact .map .nil nofun hid
  | @update i es es' k v _ _ _ hupdate id hid hm hk hv =>
    rw [updated_eq_put hm.proper.keys hk] at hupdate
    cases hupdate
    exact hm.put hk hv hid
  | data hc _ _ id hid ih =>
    exact .intro ⟨rfl, hid, trivial, fun _ hd => Option.some.inj hd ▸ hc⟩ ih

/-- A collection answers whether it has an item, and its method gives the same answer. -/
def Answers (c item : Value) (b : Bool) : Prop :=
  c.contains item = .ok b ∧ c.invoke "contains" [item] = .ok (.bool b)

/-- Two keys are looked up with one outcome: related values are found, or both keys are missing. -/
def Found (R : Value → Value → Prop) (x y : Except Fault Value) : Prop :=
  (∃ v w, x = .ok v ∧ y = .ok w ∧ R v w) ∨
    ∃ f g, x = .error f ∧ y = .error g ∧ f.isMissingKey ∧ g.isMissingKey

/-- Two operations give equal values. -/
def Alike (x y : Except Fault Value) : Prop := ∃ v w, x = .ok v ∧ y = .ok w ∧ same v w

theorem answers_set {i : Identity} {vs : List Value} (hvs : ∀ v ∈ vs, Sound h v) {w : Value}
    (hw : Sound h w) : Answers (.set i vs) w (vs.any fun v => same v w) := by
  refine ⟨hasMember_eq_any hvs hw, ?_⟩
  rw [invoke_contains_set, hasMember_eq_any hvs hw]
  rfl

theorem answers_map {i : Identity} {es : List (Value × Value)} (hes : ∀ e ∈ es, Sound h e.1)
    {k : Value} (hk : Sound h k) : Answers (.map i es) k (Assoc.find? same k es).isSome := by
  refine ⟨hasKey_eq_isSome hes hk, ?_⟩
  rw [invoke_contains_map, hasKey_eq_isSome hes hk]
  rfl

theorem found_of_rel {R : Value → Value → Prop} {es es' : List (Value × Value)}
    (hes : ∀ e ∈ es, Sound h e.1) (hes' : ∀ e ∈ es', Sound h e.1) {k k' : Value} (hk : Sound h k)
    (hk' : Sound h k')
    (hrel : Option.Rel R (Assoc.find? same k es) (Assoc.find? same k' es')) :
    Found R (lookup es k) (lookup es' k') := by
  rw [lookup_eq_find? hes hk, lookup_eq_find? hes' hk']
  generalize Assoc.find? same k es = x at hrel ⊢
  generalize Assoc.find? same k' es' = y at hrel ⊢
  cases hrel with
  | some h => exact .inl ⟨_, _, rfl, rfl, h⟩
  | none => exact .inr ⟨_, _, rfl, rfl, isMissingKey_missing k, isMissingKey_missing k'⟩

section Sets
variable {i j : Identity} {as bs : List Value} (hs : Sound h (.set i as)) (ht : Sound h (.set j bs))
include hs ht

/-- Sets are equal if and only if each has the members of the other. -/
theorem Sound.same_set_iff : same (.set i as) (.set j bs) ↔
    (∀ a ∈ as, ∃ b ∈ bs, same a b) ∧ ∀ b ∈ bs, ∃ a ∈ as, same b a := by
  have ha : ∀ a ∈ as, Sound h a := fun a hmem => hs.of_mem hmem
  have hb : ∀ b ∈ bs, Sound h b := fun b hmem => ht.of_mem hmem
  constructor
  · intro hsame
    have hsame' := (equivalence h).symm hs ht hsame
    exact ⟨((hs.same_iff ht).mp hsame).2.2, ((ht.same_iff hs).mp hsame').2.2⟩
  · rintro ⟨hleft, hright⟩
    refine (hs.same_iff ht).mpr ⟨rfl, Nat.le_antisymm ?_ ?_, hleft⟩
    · exact (equivalence h).length_le_length ha hb hs.fits.apart hleft
    · exact (equivalence h).length_le_length hb ha ht.fits.apart hright

/-- Equal values are members of equal sets alike. -/
theorem Sound.any_congr (hsame : same (.set i as) (.set j bs)) {v w : Value} (hv : Sound h v)
    (hw : Sound h w) (hvw : same v w) (hmem : as.any fun a => same a v) :
    bs.any fun b => same b w := by
  obtain ⟨a, ha, hav⟩ := List.any_eq_true.mp hmem
  obtain ⟨b, hb, hab⟩ := ((hs.same_set_iff ht).mp hsame).1 a ha
  have hba := (equivalence h).symm (hs.of_mem ha) (ht.of_mem hb) hab
  have hbv := (equivalence h).trans (ht.of_mem hb) (hs.of_mem ha) hv hba hav
  exact List.any_eq_true.mpr ⟨b, hb, (equivalence h).trans (ht.of_mem hb) hv hw hbv hvw⟩

end Sets

/-- The members that a set was built from are among those that it holds, up to equality. -/
theorem same_firsts_iff {as bs : List Value} (ha : ∀ a ∈ as, Sound h a)
    (hb : ∀ b ∈ bs, Sound h b) :
    same (.set .fresh (firsts same as)) (.set .fresh (firsts same bs)) ↔
      (∀ a ∈ as, ∃ b ∈ bs, same a b) ∧ ∀ b ∈ bs, ∃ a ∈ as, same b a := by
  have hfirsts {vs ws : List Value} (hv : ∀ v ∈ vs, Sound h v) (hw : ∀ w ∈ ws, Sound h w) :
      (∀ v ∈ firsts same vs, ∃ w ∈ firsts same ws, same v w) ↔ ∀ v ∈ vs, ∃ w ∈ ws, same v w := by
    constructor <;> intro hfound v hmem
    · obtain ⟨v', hv', hsame⟩ := Assoc.exists_mem_firsts (equivalence h) hv v hmem
      obtain ⟨w, hw', hsame'⟩ := hfound v' hv'
      have hv' := hv v' (Assoc.mem_of_mem_firsts hv')
      have hw' := Assoc.mem_of_mem_firsts hw'
      have hsymm := (equivalence h).symm hv' (hv v hmem) hsame
      exact ⟨w, hw', (equivalence h).trans (hv v hmem) hv' (hw w hw') hsymm hsame'⟩
    · have hmem := Assoc.mem_of_mem_firsts hmem
      obtain ⟨w, hw', hsame⟩ := hfound v hmem
      obtain ⟨w', hw'', hsame'⟩ := Assoc.exists_mem_firsts (equivalence h) hw w hw'
      have hfirst := hw w' (Assoc.mem_of_mem_firsts hw'')
      have hsymm := (equivalence h).symm hfirst (hw w hw') hsame'
      exact ⟨w', hw'', (equivalence h).trans (hv v hmem) (hw w hw') hfirst hsame hsymm⟩
  have hs : Sound h (.set .fresh (firsts same as)) := .set ha trivial
  have ht : Sound h (.set .fresh (firsts same bs)) := .set hb trivial
  rw [hs.same_set_iff ht, hfirsts ha hb, hfirsts hb ha]

section Maps
variable {i j : Identity} {es es' : List (Value × Value)} (hm : Sound h (.map i es))
  (hm' : Sound h (.map j es'))
include hm

/-- Values can be put in either order for keys that are not equal. -/
theorem Sound.put_comm {k k' v v' : Value} (hk : Sound h k) (hk' : Sound h k') (hv : Sound h v)
    (hv' : Sound h v') (hne : ¬ same k k') :
    same (.map .fresh (Assoc.put same k' v' (Assoc.put same k v es)))
      (.map .fresh (Assoc.put same k v (Assoc.put same k' v' es))) := by
  have hput := hm.put (j := .fresh) hk hv trivial
  have hput' := hm.put (j := .fresh) hk' hv' trivial
  have hleft := hput.put (j := .fresh) hk' hv' trivial
  have hright := hput'.put (j := .fresh) hk hv trivial
  refine (hleft.same_map_iff hright).mpr fun key hkey => ?_
  rw [Assoc.find?_put (equivalence h) hkey hk' hput.proper.keys,
    Assoc.find?_put (equivalence h) hkey hk hm.proper.keys,
    Assoc.find?_put (equivalence h) hkey hk hput'.proper.keys,
    Assoc.find?_put (equivalence h) hkey hk' hm.proper.keys]
  -- a key that equals both would make the two equal
  by_cases hfound : same k key
  · have hother : ¬ same k' key := fun hother =>
      hne ((equivalence h).trans hk hkey hk' hfound ((equivalence h).symm hk' hkey hother))
    rw [if_neg hother, if_pos hfound, if_pos hfound]
    exact .some ((equivalence h).refl hv)
  · rw [if_neg hfound, if_neg hfound]
    split
    · exact .some ((equivalence h).refl hv')
    · exact (hm.same_map_iff hm).mp ((equivalence h).refl hm) key hkey

include hm'

/-- Equal keys are found in equal maps with equal values. -/
theorem Sound.rel_find? (hsame : same (.map i es) (.map j es')) {k k' : Value} (hk : Sound h k)
    (hk' : Sound h k') (hkk : same k k') :
    Option.Rel (fun v w => same v w) (Assoc.find? same k es) (Assoc.find? same k' es') := by
  rw [← Assoc.find?_congr_key (equivalence h) hk hk' hkk hm'.proper.keys]
  exact (hm.same_map_iff hm').mp hsame k hk

/-- Equal maps stay equal when equal values are put for equal keys. -/
theorem Sound.put_congr (hsame : same (.map i es) (.map j es')) {k k' v v' : Value}
    (hk : Sound h k) (hk' : Sound h k') (hv : Sound h v) (hv' : Sound h v') (hkk : same k k')
    (hvv : same v v') :
    same (.map .fresh (Assoc.put same k v es)) (.map .fresh (Assoc.put same k' v' es')) := by
  have hput := hm.put (j := .fresh) hk hv trivial
  have hput' := hm'.put (j := .fresh) hk' hv' trivial
  refine (hput.same_map_iff hput').mpr fun key hkey => ?_
  rw [Assoc.find?_put (equivalence h) hkey hk hm.proper.keys,
    Assoc.find?_put (equivalence h) hkey hk' hm'.proper.keys,
    (equivalence h).congr_left hk hk' hkey hkk]
  split
  · exact .some hvv
  · exact (hm.same_map_iff hm').mp hsame key hkey

end Maps

/-- What holds of equality among the values that are built. -/
structure EqualityLaws (h : Heap) : Prop where
  refl : ∀ {a}, Built h a → same a a
  symm : ∀ {a b}, Built h a → Built h b → same a b → same b a
  trans : ∀ {a b c}, Built h a → Built h b → Built h c → same a b → same b c → same a c
  /-- Values can be members and keys, and equal ones are filed under one number. -/
  filed : ∀ {a b}, Built h a → Built h b → same a b →
    a.requireHashable = .ok () ∧ a.filingNumber? = b.filingNumber?
  /-- The items of sequences are compared, not whether these are strings. -/
  seq : ∀ {i j as bs isString isString'}, Built h (.seq i as isString) →
    Built h (.seq j bs isString') →
    (same (.seq i as isString) (.seq j bs isString') ↔
      List.Forall₂ (fun a b => same a b) as bs)
  seq_ne_text : ∀ {i vs isString s}, ¬ same (.seq i vs isString) (.text s) ∧
    ¬ same (.text s) (.seq i vs isString)
  seq_ne_tuple : ∀ {i vs isString ws}, ¬ same (.seq i vs isString) (.tuple ws) ∧
    ¬ same (.tuple ws) (.seq i vs isString)
  classes : ∀ {i j c d variant variant' as bs}, c.serial ≠ d.serial →
    ¬ same (.data i c variant as) (.data j d variant' bs)
  /-- Of what sets are built from, neither the order counts nor how often it is given. -/
  set : ∀ {as bs}, (∀ a ∈ as, Built h a) → (∀ b ∈ bs, Built h b) →
    ∃ s t, (Value.libraryClass .set).apply [.tuple as] = .ok s ∧
      (Value.libraryClass .set).apply [.tuple bs] = .ok t ∧
      (same s t ↔ (∀ a ∈ as, ∃ b ∈ bs, same a b) ∧ ∀ b ∈ bs, ∃ a ∈ as, same b a)
  /-- The order in which maps got their entries does not count. -/
  map : ∀ {i j es es'}, Built h (.map i es) → Built h (.map j es') →
    (same (.map i es) (.map j es') ↔ es.length = es'.length ∧
      ∀ e ∈ es, ∃ e' ∈ es', same e.1 e'.1 ∧ same e.2 e'.2)
  update_comm : ∀ {i es k k' v v'}, Built h (.map i es) → Built h k → Built h k' → Built h v →
    Built h v' → ¬ same k k' →
    Alike (do (← (Value.map i es).invoke "update" [k, v]).invoke "update" [k', v'])
      (do (← (Value.map i es).invoke "update" [k', v']).invoke "update" [k, v])
  set_contains : ∀ {i j as bs a b}, Built h (.set i as) → Built h (.set j bs) → Built h a →
    Built h b → same (.set i as) (.set j bs) → same a b →
    ∃ answer, Answers (.set i as) a answer ∧ Answers (.set j bs) b answer
  map_contains : ∀ {i j es es' k k'}, Built h (.map i es) → Built h (.map j es') → Built h k →
    Built h k' → same (.map i es) (.map j es') → same k k' →
    ∃ answer, Answers (.map i es) k answer ∧ Answers (.map j es') k' answer
  get : ∀ {i j es es' k k'}, Built h (.map i es) → Built h (.map j es') → Built h k → Built h k' →
    same (.map i es) (.map j es') → same k k' →
    Found (fun v w => same v w) ((Value.map i es).invoke "get" [k])
      ((Value.map j es').invoke "get" [k'])
  /-- The very value is found if only keys are replaced by equal ones. -/
  get_eq : ∀ {i j es es' k k'}, Built h (.map i es) → Built h (.map j es') → Built h k →
    Built h k' → List.Forall₂ (fun e e' => same e.1 e'.1 ∧ e.2 = e'.2) es es' → same k k' →
    Found Eq ((Value.map i es).invoke "get" [k]) ((Value.map j es').invoke "get" [k'])
  update : ∀ {i j es es' k k' v v'}, Built h (.map i es) → Built h (.map j es') → Built h k →
    Built h k' → Built h v → Built h v' → same (.map i es) (.map j es') → same k k' → same v v' →
    Alike ((Value.map i es).invoke "update" [k, v]) ((Value.map j es').invoke "update" [k', v'])

theorem apply_set {as : List Value} (ha : ∀ a ∈ as, Sound h a) :
    (Value.libraryClass .set).apply [.tuple as] = .ok (.set .fresh (firsts same as)) :=
  setOfMembers_eq_firsts ha

theorem invoke_update_eq {i : Identity} {es : List (Value × Value)} (hes : ∀ e ∈ es, Sound h e.1)
    {k : Value} (hk : Sound h k) (v : Value) :
    (Value.map i es).invoke "update" [k, v] = .ok (.map .fresh (Assoc.put same k v es)) := by
  rw [invoke_update, updated_eq_put hes hk]
  rfl

/-- Equality is an equivalence that collections respect. -/
theorem equality_laws (h : Heap) : EqualityLaws h where
  refl ha := (equivalence h).refl ha.sound
  symm ha hb := (equivalence h).symm ha.sound hb.sound
  trans ha hb hc := (equivalence h).trans ha.sound hb.sound hc.sound
  filed ha hb hab :=
    ⟨requireHashable_eq_ok ha.sound.hashable, ha.sound.filingNumber?_congr hb.sound hab⟩
  seq ha hb := (ha.sound.same_iff hb.sound).trans (and_iff_right rfl)
  seq_ne_text := ⟨Bool.false_ne_true, Bool.false_ne_true⟩
  seq_ne_tuple := ⟨Bool.false_ne_true, Bool.false_ne_true⟩
  classes hne hsame := by
    simp only [same, Bool.and_eq_true, beq_iff_eq] at hsame
    exact hne hsame.1.1
  set ha hb := by
    have ha := fun a hmem => (ha a hmem).sound
    have hb := fun b hmem => (hb b hmem).sound
    exact ⟨_, _, apply_set ha, apply_set hb, same_firsts_iff ha hb⟩
  map hm hm' := (hm.sound.same_iff hm'.sound).trans (and_iff_right rfl)
  update_comm hm hk hk' hv hv' hne := by
    have hkeys := hm.sound.proper.keys
    refine ⟨_, _, ?_, ?_, hm.sound.put_comm hk.sound hk'.sound hv.sound hv'.sound hne⟩
    · rw [invoke_update_eq hkeys hk.sound]
      exact invoke_update_eq (i := .fresh) (Assoc.forall_key_put hk.sound hkeys) hk'.sound _
    · rw [invoke_update_eq hkeys hk'.sound]
      exact invoke_update_eq (i := .fresh) (Assoc.forall_key_put hk'.sound hkeys) hk.sound _
  set_contains := by
    intro i j as bs a b hs ht ha hb hst hab
    have hts := (equivalence h).symm hs.sound ht.sound hst
    have hba := (equivalence h).symm ha.sound hb.sound hab
    have hanswer : (as.any fun x => same x a) = bs.any fun x => same x b := Bool.eq_iff_iff.mpr
      ⟨hs.sound.any_congr ht.sound hst ha.sound hb.sound hab,
        ht.sound.any_congr hs.sound hts hb.sound ha.sound hba⟩
    refine ⟨as.any fun x => same x a,
      answers_set (fun _ hmem => hs.sound.of_mem hmem) ha.sound, ?_⟩
    rw [hanswer]
    exact answers_set (fun _ hmem => ht.sound.of_mem hmem) hb.sound
  map_contains hm hm' hk hk' hsame hkk := by
    have hrel := hm.sound.rel_find? hm'.sound hsame hk.sound hk'.sound hkk
    refine ⟨_, answers_map hm.sound.proper.keys hk.sound, ?_⟩
    rw [Assoc.isSome_eq_of_rel hrel]
    exact answers_map hm'.sound.proper.keys hk'.sound
  get hm hm' hk hk' hsame hkk := by
    rw [invoke_get, invoke_get]
    exact found_of_rel hm.sound.proper.keys hm'.sound.proper.keys hk.sound hk'.sound
      (hm.sound.rel_find? hm'.sound hsame hk.sound hk'.sound hkk)
  get_eq hm hm' hk hk' hall hkk := by
    rw [invoke_get, invoke_get]
    exact found_of_rel hm.sound.proper.keys hm'.sound.proper.keys hk.sound hk'.sound
      (Assoc.rel_find?_of_forall₂ (equivalence h) hk.sound hk'.sound hkk hm.sound.proper.keys
        hm'.sound.proper.keys hall)
  update hm hm' hk hk' hv hv' hsame hkk hvv := by
    refine ⟨_, _, invoke_update_eq hm.sound.proper.keys hk.sound _,
      invoke_update_eq hm'.sound.proper.keys hk'.sound _, ?_⟩
    exact hm.sound.put_congr hm'.sound hsame hk.sound hk'.sound hv.sound hv'.sound hkk hvv

end Marshal.Value
