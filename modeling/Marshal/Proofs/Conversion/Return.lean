import Marshal.Proofs.Conversion.Inhabitant
import Marshal.Proofs.Matching

/-!
# What comes back

A relation between the values of a type and what comes back when they are converted to the external
form and from there: the same numbers and truth values, strings made anew, collections of what comes
back for their items, and maps whose keys were written as texts (`ComesBack`).

Four laws hold of it (`Returning`). What comes back can be put into sets and maps. It equals the
value that was sent unless a truth value is a key in it, and in that case it equals no value that is
sent so. Values that are not equal do not come back equal.
-/

namespace Marshal.Conversion
set_option autoImplicit false

open Value (Unlike Equal characters)

/-- The map that is made of entries one after the other, from the empty one. -/
def madeMap (fs : List (Value × Value)) : Value :=
  .map (if fs.isEmpty then .empty else .fresh) fs

mutual
inductive ComesBack (objects : Nat → Value) : TypeDescriptor → Value → Value → Prop where
  | int (name args) (n : Int) : ComesBack objects ⟨.int, name, args⟩ (.int n) (.int n)
  | bool (name args) (b : Bool) : ComesBack objects ⟨.bool, name, args⟩ (.bool b) (.bool b)
  | string (name args) (id : Identity) (s : String) (isString : Bool) :
    ComesBack objects ⟨.string, name, args⟩ (.seq id (characters s) isString)
      (.seq .fresh (characters s) true)
  | seq (name : String) {a : TypeDescriptor} (rest) (id : Identity) {vs ws : List Value}
    (isString : Bool) (hitems : ItemsComeBack objects (List.replicate vs.length a) vs ws) :
    ComesBack objects ⟨.seq, name, a :: rest⟩ (.seq id vs isString) (.seq .fresh ws false)
  | set (name : String) {a : TypeDescriptor} (rest) (id : Identity) {vs vs' ws : List Value}
    (hvs : ∀ v ∈ vs, v.isMoved = false) (hperm : vs'.Perm vs)
    (hmembers : ItemsComeBack objects (List.replicate vs'.length a) vs' ws) :
    ComesBack objects ⟨.set, name, a :: rest⟩ (.set id vs) (.set .fresh ws)
  | map (name : String) {k a : TypeDescriptor} (rest) {id : Identity}
    {es es' fs : List (Value × Value)} (hid : Stands objects (.map id es))
    (hkeys : ∀ e ∈ es, Stands objects e.1 ∧ e.1.isMoved = false)
    (hunlike : (es.map (·.1)).Pairwise Unlike) (hperm : es'.Perm es)
    (hwritten : List.Forall₂ (fun e f => ∃ s, KeyTrip k.kind e.1 s f.1) es' fs)
    (hvalues : ItemsComeBack objects (List.replicate es'.length a) (es'.map (·.2))
      (fs.map (·.2))) :
    ComesBack objects ⟨.map, name, k :: a :: rest⟩ (.map id es) (madeMap fs)
  | tuple (name : String) {ts : List TypeDescriptor} {vs ws : List Value}
    (hitems : ItemsComeBack objects ts vs ws) :
    ComesBack objects ⟨.tuple, name, ts⟩ (.tuple vs) (.tuple ws)

inductive ItemsComeBack (objects : Nat → Value) :
    List TypeDescriptor → List Value → List Value → Prop where
  | nil : ItemsComeBack objects [] [] []
  | cons {t : TypeDescriptor} {ts : List TypeDescriptor} {v w : Value} {vs ws : List Value}
    (h : ComesBack objects t v w) (hs : ItemsComeBack objects ts vs ws) :
    ItemsComeBack objects (t :: ts) (v :: vs) (w :: ws)
end

variable {objects : Nat → Value}

def NoTruthKeys (v : Value) : Prop := ∀ k ∈ v.mapKeys, k.isTruth = false

/-- The laws of what comes back for the values of a type. -/
structure Returning (objects : Nat → Value) (t : TypeDescriptor) : Prop where
  settled : ∀ {v w}, ComesBack objects t v w → w.unhashable? = none ∧ w.isMoved = false
  same : ∀ {v w}, ComesBack objects t v w → NoTruthKeys v → Value.same v w
  reflect : ∀ {v v' w w'}, ComesBack objects t v w → ComesBack objects t v' w' → Equal w w' →
    Value.same v v'
  noTruthKeys : ∀ {v v' w w'}, ComesBack objects t v w → ComesBack objects t v' w' →
    Equal v w' → NoTruthKeys v

namespace ItemsComeBack
variable {ts : List TypeDescriptor} {vs vs' ws ws' : List Value}

theorem length_eq (h : ItemsComeBack objects ts vs ws) :
    ts.length = vs.length ∧ ws.length = vs.length := by
  induction ts generalizing vs ws with
  | nil =>
    cases h
    exact ⟨rfl, rfl⟩
  | cons t ts ih =>
    cases h with
    | cons h hs =>
      have hlength := ih hs
      exact ⟨congrArg (· + 1) hlength.1, congrArg (· + 1) hlength.2⟩

theorem settled (hr : ∀ t ∈ ts, Returning objects t) (h : ItemsComeBack objects ts vs ws) :
    ∀ w ∈ ws, w.unhashable? = none ∧ w.isMoved = false := by
  induction ts generalizing vs ws with
  | nil =>
    cases h
    simp
  | cons t ts ih =>
    obtain ⟨hr, hrest⟩ := List.forall_mem_cons.mp hr
    cases h with
    | cons h hs => exact List.forall_mem_cons.mpr ⟨hr.settled h, ih hrest hs⟩

theorem same (hr : ∀ t ∈ ts, Returning objects t) (h : ItemsComeBack objects ts vs ws)
    (hkeys : ∀ v ∈ vs, NoTruthKeys v) : Value.sameItems vs ws := by
  rw [Value.sameItems_iff]
  induction ts generalizing vs ws with
  | nil =>
    cases h
    exact .nil
  | cons t ts ih =>
    obtain ⟨hr, hrest⟩ := List.forall_mem_cons.mp hr
    cases h with
    | cons h hs =>
      obtain ⟨hkey, hkeys⟩ := List.forall_mem_cons.mp hkeys
      exact .cons (.inr (hr.same h hkey)) (ih hrest hs hkeys)

theorem reflect (hr : ∀ t ∈ ts, Returning objects t) (h : ItemsComeBack objects ts vs ws)
    (h' : ItemsComeBack objects ts vs' ws') (hsame : Value.sameItems ws ws') :
    Value.sameItems vs vs' := by
  rw [Value.sameItems_iff] at hsame ⊢
  induction ts generalizing vs vs' ws ws' with
  | nil =>
    cases h
    cases h'
    exact .nil
  | cons t ts ih =>
    obtain ⟨hr, hrest⟩ := List.forall_mem_cons.mp hr
    cases h with
    | cons h hs =>
      cases h' with
      | cons h' hs' =>
        cases hsame with
        | cons heq hsame => exact .cons (.inr (hr.reflect h h' heq)) (ih hrest hs hs' hsame)

theorem noTruthKeys (hr : ∀ t ∈ ts, Returning objects t) (h : ItemsComeBack objects ts vs ws)
    (h' : ItemsComeBack objects ts vs' ws') (hsame : Value.sameItems vs ws') :
    ∀ v ∈ vs, NoTruthKeys v := by
  rw [Value.sameItems_iff] at hsame
  induction ts generalizing vs vs' ws ws' with
  | nil =>
    cases h
    simp
  | cons t ts ih =>
    obtain ⟨hr, hrest⟩ := List.forall_mem_cons.mp hr
    cases h with
    | cons h hs =>
      cases h' with
      | cons h' hs' =>
        cases hsame with
        | cons heq hsame =>
          exact List.forall_mem_cons.mpr ⟨hr.noTruthKeys h h' heq, ih hrest hs hs' hsame⟩

theorem forall₂ {a : TypeDescriptor} {n : Nat}
    (h : ItemsComeBack objects (List.replicate n a) vs ws) :
    List.Forall₂ (ComesBack objects a) vs ws := by
  induction n generalizing vs ws with
  | zero =>
    cases h
    exact .nil
  | succ n ih =>
    cases h with
    | cons h hs => exact .cons h (ih hs)

end ItemsComeBack

theorem noTruthKeys_seq {id : Identity} {vs : List Value} {isString : Bool} :
    NoTruthKeys (.seq id vs isString) ↔ ∀ v ∈ vs, NoTruthKeys v := Value.forall_mapKeysEach

theorem noTruthKeys_set {id : Identity} {vs : List Value} :
    NoTruthKeys (.set id vs) ↔ ∀ v ∈ vs, NoTruthKeys v := Value.forall_mapKeysEach

theorem noTruthKeys_tuple {vs : List Value} :
    NoTruthKeys (.tuple vs) ↔ ∀ v ∈ vs, NoTruthKeys v := Value.forall_mapKeysEach

theorem noTruthKeys_map {id : Identity} {es : List (Value × Value)} :
    NoTruthKeys (.map id es) ↔ ∀ e ∈ es, e.1.isTruth = false ∧ NoTruthKeys e.2 :=
  Value.forall_mapKeysEntries

section Kinds
variable {a : TypeDescriptor} {name : String} {args rest : List TypeDescriptor}

theorem returning_int : Returning objects ⟨.int, name, args⟩ := by
  constructor
  case settled =>
    rintro _ _ ⟨⟩
    exact ⟨rfl, rfl⟩
  case same =>
    rintro _ _ ⟨⟩ -
    simp [Value.same]
  case reflect =>
    rintro _ _ _ _ ⟨⟩ ⟨⟩ heq
    exact heq.same rfl
  case noTruthKeys =>
    rintro _ _ _ _ ⟨⟩ - - k hk
    cases hk

theorem returning_bool : Returning objects ⟨.bool, name, args⟩ := by
  constructor
  case settled =>
    rintro _ _ ⟨⟩
    exact ⟨rfl, rfl⟩
  case same =>
    rintro _ _ ⟨⟩ -
    simp [Value.same]
  case reflect =>
    rintro _ _ _ _ ⟨⟩ ⟨⟩ heq
    exact heq.same rfl
  case noTruthKeys =>
    rintro _ _ _ _ ⟨⟩ - - k hk
    cases hk

theorem returning_string : Returning objects ⟨.string, name, args⟩ := by
  constructor
  case settled =>
    intro _ _ h
    cases h with
    | string _ _ id s isString => exact ⟨(KeyTrip.string id s isString).unhashable?, rfl⟩
  case same =>
    intro _ _ h _
    cases h
    exact sameItems_characters.mpr rfl
  case reflect =>
    intro _ _ _ _ h h' heq
    cases h
    cases h'
    exact heq.same rfl
  case noTruthKeys =>
    intro _ _ _ _ h _ _
    cases h
    refine noTruthKeys_seq.mpr fun c hc => ?_
    obtain ⟨_, -, rfl⟩ := List.mem_map.mp hc
    exact fun k hk => nomatch hk

theorem Returning.replicate (ha : Returning objects a) (n : Nat) :
    ∀ t ∈ List.replicate n a, Returning objects t := by
  intro t ht
  rw [List.eq_of_mem_replicate ht]
  exact ha

theorem ItemsComeBack.of_length_eq {vs ws : List Value} {n : Nat}
    (h : ItemsComeBack objects (List.replicate vs.length a) vs ws) (hn : ws.length = n) :
    ItemsComeBack objects (List.replicate n a) vs ws := by
  rw [← hn, h.length_eq.2]
  exact h

theorem Returning.seq (ha : Returning objects a) :
    Returning objects ⟨.seq, name, a :: rest⟩ := by
  constructor
  case settled =>
    intro _ _ h
    cases h with
    | seq _ _ _ _ hitems =>
      have hsettled := hitems.settled (ha.replicate _)
      exact ⟨Value.firstUnhashable?_eq_none.mpr fun w hw => (hsettled w hw).1, rfl⟩
  case same =>
    intro _ _ h hkeys
    cases h with
    | seq _ _ _ _ hitems => exact hitems.same (ha.replicate _) (noTruthKeys_seq.mp hkeys)
  case reflect =>
    intro _ _ _ _ h h' heq
    cases h with
    | seq _ _ _ _ hitems =>
      cases h' with
      | seq _ _ _ _ hitems' =>
        have hsame : Value.sameItems _ _ := heq.same rfl
        have hlength := (Value.sameItems_iff.mp hsame).length_eq
        have hitems' := hitems'.of_length_eq (hlength.symm.trans hitems.length_eq.2)
        exact hitems.reflect (ha.replicate _) hitems' hsame
  case noTruthKeys =>
    intro _ _ _ _ h h' heq
    cases h with
    | seq _ _ _ _ hitems =>
      cases h' with
      | seq _ _ _ _ hitems' =>
        have hsame : Value.sameItems _ _ := heq.same rfl
        have hlength := (Value.sameItems_iff.mp hsame).length_eq
        have hitems' := hitems'.of_length_eq hlength.symm
        exact noTruthKeys_seq.mpr (hitems.noTruthKeys (ha.replicate _) hitems' hsame)

theorem Returning.tuple {ts : List TypeDescriptor} (hts : ∀ t ∈ ts, Returning objects t) :
    Returning objects ⟨.tuple, name, ts⟩ := by
  constructor
  case settled =>
    intro _ _ h
    cases h with
    | tuple _ hitems =>
      have hsettled := hitems.settled hts
      exact ⟨Value.firstUnhashable?_eq_none.mpr fun w hw => (hsettled w hw).1, rfl⟩
  case same =>
    intro _ _ h hkeys
    cases h with
    | tuple _ hitems => exact hitems.same hts (noTruthKeys_tuple.mp hkeys)
  case reflect =>
    intro _ _ _ _ h h' heq
    cases h with
    | tuple _ hitems =>
      cases h' with
      | tuple _ hitems' => exact hitems.reflect hts hitems' (heq.same rfl)
  case noTruthKeys =>
    intro _ _ _ _ h h' heq
    cases h with
    | tuple _ hitems =>
      cases h' with
      | tuple _ hitems' =>
        exact noTruthKeys_tuple.mpr (hitems.noTruthKeys hts hitems' (heq.same rfl))

theorem Returning.set (ha : Returning objects a) :
    Returning objects ⟨.set, name, a :: rest⟩ := by
  constructor
  case settled =>
    rintro _ _ ⟨⟩
    exact ⟨rfl, rfl⟩
  case same =>
    intro _ _ h hkeys
    cases h with
    | set _ _ _ hvs hperm hmembers =>
      have hws w hw := (hmembers.settled (ha.replicate _) w hw).2
      refine (Value.same_set hvs hws).mpr ⟨?_, fun v hv => ?_⟩
      · rw [hmembers.length_eq.2, hperm.length_eq]
      · obtain ⟨w, hw, hback⟩ := exists_of_mem_left hmembers.forall₂ (hperm.mem_iff.mpr hv)
        exact ⟨w, hw, .inr (ha.same hback (noTruthKeys_set.mp hkeys v hv))⟩
  case reflect =>
    intro _ _ _ _ h h' heq
    cases h with
    | set _ _ _ hvs hperm hmembers =>
      cases h' with
      | set _ _ _ hvs' hperm' hmembers' =>
        have hws w hw := (hmembers.settled (ha.replicate _) w hw).2
        have hws' w hw := (hmembers'.settled (ha.replicate _) w hw).2
        obtain ⟨hlength, hfound⟩ := (Value.same_set hws hws').mp (heq.same rfl)
        refine (Value.same_set hvs hvs').mpr ⟨?_, fun v hv => ?_⟩
        · rw [← hperm.length_eq, ← hmembers.length_eq.2, hlength, hmembers'.length_eq.2,
            hperm'.length_eq]
        -- from a member to what it comes back as, to an equal one there, and to where this came from
        · obtain ⟨w, hw, hback⟩ := exists_of_mem_left hmembers.forall₂ (hperm.mem_iff.mpr hv)
          obtain ⟨w', hw', hww'⟩ := hfound w hw
          obtain ⟨v', hv', hback'⟩ := exists_of_mem_right hmembers'.forall₂ hw'
          exact ⟨v', hperm'.mem_iff.mp hv', .inr (ha.reflect hback hback' hww')⟩
  case noTruthKeys =>
    intro _ _ _ _ h h' heq
    cases h with
    | set _ _ _ hvs hperm hmembers =>
      cases h' with
      | set _ _ _ hvs' hperm' hmembers' =>
        have hws' w hw := (hmembers'.settled (ha.replicate _) w hw).2
        obtain ⟨-, hfound⟩ := (Value.same_set hvs hws').mp (heq.same rfl)
        refine noTruthKeys_set.mpr fun v hv => ?_
        obtain ⟨w', hw', hvw'⟩ := hfound v hv
        obtain ⟨w, hw, hback⟩ := exists_of_mem_left hmembers.forall₂ (hperm.mem_iff.mpr hv)
        obtain ⟨v', hv', hback'⟩ := exists_of_mem_right hmembers'.forall₂ hw'
        exact ha.noTruthKeys hback hback' hvw'

end Kinds

section Maps
variable {k a : TypeDescriptor} {name : String} {rest : List TypeDescriptor}

structure EntryBack (objects : Nat → Value) (k a : TypeDescriptor) (e f : Value × Value) :
    Prop where
  key : ∃ s, KeyTrip k.kind e.1 s f.1
  value : ComesBack objects a e.2 f.2

/-- A map and what it comes back as: entries that belong together, with keys that are told apart. -/
structure EntriesBack (objects : Nat → Value) (k a : TypeDescriptor)
    (es fs : List (Value × Value)) : Prop where
  length_eq : fs.length = es.length
  left : ∀ e ∈ es, ∃ f ∈ fs, EntryBack objects k a e f
  right : ∀ f ∈ fs, ∃ e ∈ es, EntryBack objects k a e f
  eq_of_key : ∀ e ∈ es, ∀ e' ∈ es, Value.same e.1 e'.1 → e = e'
  eq_of_back : ∀ f ∈ fs, ∀ f' ∈ fs, f.1 = f'.1 → f = f'
  stands : ∀ e ∈ es, Stands objects e.1
  settled : ∀ e ∈ es, e.1.isMoved = false

theorem eq_of_unlike {es : List (Value × Value)} (h : (es.map (·.1)).Pairwise Unlike)
    {e e' : Value × Value} (he : e ∈ es) (he' : e' ∈ es) (hsame : Value.same e.1 e'.1) : e = e' := by
  have hsymm : Std.Symm fun e e' : Value × Value => Unlike e.1 e'.1 := ⟨fun _ _ h => h.symm⟩
  by_contra hne
  exact ((List.pairwise_map.mp h).forall he he' hne).left (.inr hsame)

theorem forall₂_entryBack {es fs : List (Value × Value)}
    (hwritten : List.Forall₂ (fun e f => ∃ s, KeyTrip k.kind e.1 s f.1) es fs)
    (hvalues : ItemsComeBack objects (List.replicate es.length a) (es.map (·.2)) (fs.map (·.2))) :
    List.Forall₂ (EntryBack objects k a) es fs := by
  induction hwritten with
  | nil => exact .nil
  | cons hkey _ ih =>
    cases hvalues with
    | cons hvalue hvalues => exact .cons ⟨hkey, hvalue⟩ (ih hvalues)

theorem ComesBack.entries {v w : Value}
    (h : ComesBack objects ⟨.map, name, k :: a :: rest⟩ v w) :
    ∃ id es fs, v = .map id es ∧ w = madeMap fs ∧ Stands objects (.map id es) ∧
      EntriesBack objects k a es fs := by
  cases h with
  | @map _ _ _ _ id es es' fs hid hkeys hunlike hperm hwritten hvalues =>
    have hall := forall₂_entryBack hwritten hvalues
    refine ⟨id, es, fs, rfl, rfl, hid, ?_⟩
    have hunlike' := Value.pairwise_unlike_perm (hperm.map (·.1)) hunlike
    have hback : fs.Pairwise fun f f' => f.1 ≠ f'.1 := by
      refine pairwise_of_forall₂ hwritten ?_ (List.pairwise_map.mp hunlike')
      rintro e e' f f' ⟨s, htrip⟩ ⟨s', htrip'⟩ hee heq
      exact hee.left (.inr ((htrip.same_iff htrip').mpr heq))
    constructor
    case length_eq => rw [← hall.length_eq, hperm.length_eq]
    case left => exact fun e he => exists_of_mem_left hall (hperm.mem_iff.mpr he)
    case right =>
      intro f hf
      obtain ⟨e, he, h⟩ := exists_of_mem_right hall hf
      exact ⟨e, hperm.mem_iff.mp he, h⟩
    case eq_of_key => exact fun e he e' he' hsame => eq_of_unlike hunlike he he' hsame
    case eq_of_back =>
      intro f hf f' hf' heq
      have hsymm : Std.Symm fun f f' : Value × Value => f.1 ≠ f'.1 := ⟨fun _ _ h => h.symm⟩
      by_contra hne
      exact hback.forall hf hf' hne heq
    case stands => exact fun e he => (hkeys e he).1
    case settled => exact fun e he => (hkeys e he).2

namespace EntriesBack
variable {es es' fs fs' : List (Value × Value)}

theorem settled_back (h : EntriesBack objects k a es fs) : ∀ f ∈ fs, f.1.isMoved = false := by
  intro f hf
  obtain ⟨e, -, ⟨s, htrip⟩, -⟩ := h.right f hf
  exact htrip.isMoved

/-- A map equals what it comes back as if no key is a truth value. -/
theorem same (h : EntriesBack objects k a es fs) (ha : Returning objects a)
    (hkeys : ∀ e ∈ es, e.1.isTruth = false ∧ NoTruthKeys e.2) : Value.entriesWithin es fs := by
  refine Value.entriesWithin_of_exists h.settled h.settled_back fun e he => ?_
  obtain ⟨f, hf, ⟨s, htrip⟩, hvalue⟩ := h.left e he
  obtain ⟨hkey, hvalues⟩ := hkeys e he
  refine ⟨f, hf, .inr (htrip.same_back hkey), .inr (ha.same hvalue hvalues), fun f' hf' heq => ?_⟩
  obtain ⟨e', -, ⟨s', htrip'⟩, -⟩ := h.right f' hf'
  exact h.eq_of_back f' hf' f hf (htrip.of_equal_back htrip' heq).1.symm

/-- Maps that come back equal are equal. -/
theorem reflect (h : EntriesBack objects k a es fs) (h' : EntriesBack objects k a es' fs')
    (ha : Returning objects a) (hwithin : Value.entriesWithin fs fs') :
    Value.entriesWithin es es' := by
  refine Value.entriesWithin_of_exists h.settled h'.settled fun e he => ?_
  obtain ⟨f, hf, ⟨s, htrip⟩, hvalue⟩ := h.left e he
  obtain ⟨f', hf', hkey, hff'⟩ :=
    Value.exists_of_entriesWithin h.settled_back h'.settled_back hwithin f hf
  obtain ⟨e', he', ⟨s', htrip'⟩, hvalue'⟩ := h'.right f' hf'
  have heq := htrip.eq_of_equal htrip' hkey
  refine ⟨e', he', .inr ((htrip.same_iff htrip').mpr heq),
    .inr (ha.reflect hvalue hvalue' hff'), fun x hx hkeyx => ?_⟩
  -- a key that is one object with the sent one is the sent one, so it comes back as the same key
  obtain ⟨y, hy, ⟨t, htripx⟩, -⟩ := h'.left x hx
  have hsame : Value.same e.1 x.1 := by
    rcases hkeyx with hone | hsame
    · rw [← (h.stands e he).eq_of_isOne (h'.stands x hx) hone]
      exact (htrip.same_iff htrip).mpr rfl
    · exact hsame
  have hback := (htrip.same_iff htripx).mp hsame
  exact h'.eq_of_key x hx e' he' ((htripx.same_iff htrip').mpr (hback.symm.trans heq))

/-- A map that is found among what comes back has no truth values for keys. -/
theorem noTruthKeys (h : EntriesBack objects k a es fs) (h' : EntriesBack objects k a es' fs')
    (ha : Returning objects a) (hwithin : Value.entriesWithin es fs') :
    ∀ e ∈ es, e.1.isTruth = false ∧ NoTruthKeys e.2 := by
  intro e he
  obtain ⟨f, hf, ⟨s, htrip⟩, hvalue⟩ := h.left e he
  obtain ⟨f', hf', hkey, heq⟩ :=
    Value.exists_of_entriesWithin h.settled h'.settled_back hwithin e he
  obtain ⟨e', he', ⟨s', htrip'⟩, hvalue'⟩ := h'.right f' hf'
  exact ⟨(htrip.of_equal_back htrip' hkey).2, ha.noTruthKeys hvalue hvalue' heq⟩

end EntriesBack

theorem identity_of_isOne_madeMap {v : Value} {fs : List (Value × Value)}
    (h : Value.isOne v (madeMap fs)) : v.identity = .empty ∧ fs = [] := by
  simp only [Value.isOne, Bool.and_eq_true, bne_iff_ne, beq_iff_eq] at h
  obtain ⟨hne, heq⟩ := h
  cases fs with
  | nil => exact ⟨heq, rfl⟩
  | cons f fs => exact absurd heq hne

theorem eq_nil_of_identity_madeMap {fs : List (Value × Value)}
    (h : (madeMap fs).identity = .empty) : fs = [] := by
  cases fs with
  | nil => rfl
  | cons f fs => cases h

theorem eq_nil_of_identity_map {id : Identity} {es : List (Value × Value)}
    (hid : Stands objects (.map id es)) (h : (Value.map id es).identity = .empty) : es = [] := by
  unfold Stands at hid
  rw [h] at hid
  exact (Value.map.inj hid).2

theorem Returning.map (ha : Returning objects a) :
    Returning objects ⟨.map, name, k :: a :: rest⟩ := by
  constructor
  case settled =>
    intro _ _ h
    obtain ⟨id, es, fs, rfl, rfl, -, hb⟩ := h.entries
    refine ⟨Value.unhashableInEntries?_eq_none.mpr fun f hf => ?_, rfl⟩
    obtain ⟨e, -, ⟨s, htrip⟩, hvalue⟩ := hb.right f hf
    exact ⟨htrip.unhashable?, (ha.settled hvalue).1⟩
  case same =>
    intro _ _ h hkeys
    obtain ⟨id, es, fs, rfl, rfl, -, hb⟩ := h.entries
    exact Value.same_map.mpr ⟨hb.length_eq.symm, hb.same ha (noTruthKeys_map.mp hkeys)⟩
  case reflect =>
    intro _ _ _ _ h h' heq
    obtain ⟨id, es, fs, rfl, rfl, -, hb⟩ := h.entries
    obtain ⟨id', es', fs', rfl, rfl, -, hb'⟩ := h'.entries
    rcases heq with hone | hsame
    · obtain ⟨hempty, rfl⟩ := identity_of_isOne_madeMap hone
      obtain rfl := eq_nil_of_identity_madeMap hempty
      obtain rfl := List.length_eq_zero_iff.mp hb.length_eq.symm
      obtain rfl := List.length_eq_zero_iff.mp hb'.length_eq.symm
      rfl
    · obtain ⟨hlength, hwithin⟩ := Value.same_map.mp hsame
      rw [hb.length_eq, hb'.length_eq] at hlength
      exact Value.same_map.mpr ⟨hlength, hb.reflect hb' ha hwithin⟩
  case noTruthKeys =>
    intro _ _ _ _ h h' heq
    obtain ⟨id, es, fs, rfl, rfl, hid, hb⟩ := h.entries
    obtain ⟨id', es', fs', rfl, rfl, -, hb'⟩ := h'.entries
    rcases heq with hone | hsame
    · obtain rfl := eq_nil_of_identity_map hid (identity_of_isOne_madeMap hone).1
      exact noTruthKeys_map.mpr (by simp)
    · exact noTruthKeys_map.mpr (hb.noTruthKeys hb' ha (Value.same_map.mp hsame).2)

end Maps

theorem returning_of_built {t : TypeDescriptor} (ht : Built t) : Returning objects t := by
  induction ht with
  | int => exact returning_int
  | bool => exact returning_bool
  | string => exact returning_string
  | seq _ _ _ ih => exact ih.seq
  | set _ _ _ ih => exact ih.set
  | map _ _ _ _ ih => exact ih.map
  | tuple _ _ ih => exact .tuple ih

end Marshal.Conversion
