import Marshal.Proofs.Value.DataClass
import Mathlib.Data.List.Find

/-!
# Collections of values that are told apart

Members of a set and keys of a map are found by comparing them with a value. As long as none of them
was changed and no two of them are equal, each is found at its own place, and what is put one after
the other stays as it was put.
-/

namespace Marshal.Value
set_option autoImplicit false

/-- Neither of two values is found as the other. -/
structure Unlike (a b : Value) : Prop where
  left : ¬ Equal a b
  right : ¬ Equal b a

theorem Unlike.symm {a b : Value} (h : Unlike a b) : Unlike b a := ⟨h.right, h.left⟩

theorem pairwise_unlike_perm {vs vs' : List Value} (h : vs.Perm vs')
    (hunlike : vs'.Pairwise Unlike) : vs.Pairwise Unlike :=
  (h.pairwise_iff Unlike.symm).mpr hunlike

theorem isOne_of_fresh {w : Value} (h : w.identity = .fresh) (v : Value) : isOne v w = false := by
  rw [isOne, h]
  cases v.identity <;> rfl

theorem Equal.same {v w : Value} (h : Equal v w) (hw : w.identity = .fresh) : Value.same v w := by
  rcases h with h | h
  · rw [isOne_of_fresh hw] at h
    cases h
  · exact h

theorem current_of_not_moved {v : Value} (h : v.isMoved = false) : v.current = v := by
  cases v <;> first | rfl | cases h

theorem map_current {vs : List Value} (h : ∀ v ∈ vs, v.isMoved = false) :
    vs.map current = vs := by
  conv => rhs; rw [← List.map_id vs]
  exact List.map_congr_left fun v hv => current_of_not_moved (h v hv)

theorem equals_iff {a b : Value} (h : a.isMoved = false) : equals a b ↔ Equal a b := by
  simp [equals, h, Equal]

theorem equals_eq_false {a b : Value} (h : ¬ Equal a b) : equals a b = false := by
  by_cases hm : a.isMoved
  · simp [equals, hm]
  · rw [← Bool.not_eq_true, equals_iff (by simpa using hm)]
    exact h

theorem within_iff {as bs : List Value} (ha : ∀ a ∈ as, a.isMoved = false)
    (hb : ∀ b ∈ bs, b.isMoved = false) :
    within as bs ↔ ∀ a ∈ as, ∃ b ∈ bs, Equal a b := by
  induction as with
  | nil => simp [within]
  | cons a as ih =>
    have hany : (bs.any fun b => !b.isMoved && (isOne a b || Value.same a b)) ↔
        ∃ b ∈ bs, Equal a b := by
      simp only [List.any_eq_true, Bool.and_eq_true, Bool.or_eq_true]
      constructor
      · rintro ⟨b, hmem, -, h⟩
        exact ⟨b, hmem, h⟩
      · rintro ⟨b, hmem, h⟩
        exact ⟨b, hmem, by simp [hb b hmem], h⟩
    have hrest := ih fun x hx => ha x (List.mem_cons_of_mem a hx)
    rw [List.forall_mem_cons, ← hrest, ← hany]
    have hmoved := ha a List.mem_cons_self
    cases a <;> first | cases hmoved; done | simp [within]

theorem same_set {i j : Identity} {as bs : List Value} (ha : ∀ a ∈ as, a.isMoved = false)
    (hb : ∀ b ∈ bs, b.isMoved = false) :
    Value.same (.set i as) (.set j bs) ↔
      as.length = bs.length ∧ ∀ a ∈ as, ∃ b ∈ bs, Equal a b := by
  rw [← within_iff ha hb]
  simp [Value.same]

theorem same_map {i j : Identity} {as bs : List (Value × Value)} :
    Value.same (.map i as) (.map j bs) ↔ as.length = bs.length ∧ entriesWithin as bs := by
  simp [Value.same]

def finds (k : Value) (b : Value × Value) : Bool := isOne k b.1 || Value.same k b.1

theorem finds_iff {k : Value} {b : Value × Value} : finds k b ↔ Equal k b.1 := by
  simp [finds, Equal]

theorem entriesWithin_cons {a : Value × Value} {as bs : List (Value × Value)}
    (ha : a.1.isMoved = false) (hb : ∀ b ∈ bs, b.1.isMoved = false) :
    entriesWithin (a :: as) bs ↔
      (∃ b, bs.find? (finds a.1) = some b ∧ Equal a.2 b.2) ∧ entriesWithin as bs := by
  have hfind : (bs.find? fun b => !b.1.isMoved && (isOne a.1 b.1 || Value.same a.1 b.1)) =
      bs.find? (finds a.1) :=
    List.find?_congr fun b hmem => by simp [hb b hmem, finds]
  obtain ⟨k, v⟩ := a
  have hcons : entriesWithin ((k, v) :: as) bs =
      (((bs.find? fun b => !b.1.isMoved && (isOne k b.1 || Value.same k b.1)).any
        fun b => isOne v b.2 || Value.same v b.2) && entriesWithin as bs) := by
    cases k with
    | moved => cases ha
    | _ =>
      change (_ && entriesWithin as bs) = _
      refine congrArg (· && entriesWithin as bs) ?_
      split <;> rename_i heq <;>
        exact (congrArg (Option.any fun b => isOne v b.2 || Value.same v b.2) heq).symm
  rw [hcons, hfind]
  cases bs.find? (finds k) <;> simp [Equal]

theorem exists_of_entriesWithin {as bs : List (Value × Value)}
    (ha : ∀ a ∈ as, a.1.isMoved = false) (hb : ∀ b ∈ bs, b.1.isMoved = false)
    (h : entriesWithin as bs) : ∀ a ∈ as, ∃ b ∈ bs, Equal a.1 b.1 ∧ Equal a.2 b.2 := by
  induction as with
  | nil => simp
  | cons a as ih =>
    obtain ⟨⟨b, hfind, hvalue⟩, hrest⟩ := (entriesWithin_cons (ha a List.mem_cons_self) hb).mp h
    refine List.forall_mem_cons.mpr ⟨?_, ih (fun x hx => ha x (List.mem_cons_of_mem a hx)) hrest⟩
    have hkey := List.find?_some hfind
    exact ⟨b, List.mem_of_find?_eq_some hfind, finds_iff.mp hkey, hvalue⟩

/-- Where a key is found at one place only, it is enough that the value there is equal. -/
theorem entriesWithin_of_exists {as bs : List (Value × Value)}
    (ha : ∀ a ∈ as, a.1.isMoved = false) (hb : ∀ b ∈ bs, b.1.isMoved = false)
    (h : ∀ a ∈ as, ∃ b ∈ bs, Equal a.1 b.1 ∧ Equal a.2 b.2 ∧ ∀ b' ∈ bs, Equal a.1 b'.1 → b' = b) :
    entriesWithin as bs := by
  induction as with
  | nil => rfl
  | cons a as ih =>
    obtain ⟨⟨b, hmem, hkey, hvalue, hunique⟩, hrest⟩ := List.forall_mem_cons.mp h
    have hrest := ih (fun x hx => ha x (List.mem_cons_of_mem a hx)) hrest
    refine (entriesWithin_cons (ha a List.mem_cons_self) hb).mpr ⟨⟨b, ?_, hvalue⟩, hrest⟩
    cases hfind : bs.find? (finds a.1) with
    | none => exact absurd (finds_iff.mpr hkey) (List.find?_eq_none.mp hfind b hmem)
    | some b' =>
      have hkey' := finds_iff.mp (List.find?_some hfind)
      rw [hunique b' (List.mem_of_find?_eq_some hfind) hkey']

theorem firstUnhashable?_eq_none {vs : List Value} :
    firstUnhashable? vs = none ↔ ∀ v ∈ vs, v.unhashable? = none := by
  induction vs with
  | nil => simp [firstUnhashable?]
  | cons v vs ih =>
    rw [firstUnhashable?, List.forall_mem_cons, ← ih]
    cases v.unhashable? <;> simp

theorem unhashableInEntries?_eq_none {es : List (Value × Value)} :
    unhashableInEntries? es = none ↔
      ∀ e ∈ es, e.1.unhashable? = none ∧ e.2.unhashable? = none := by
  induction es with
  | nil => simp [unhashableInEntries?]
  | cons e es ih =>
    rw [unhashableInEntries?, List.forall_mem_cons, ← ih]
    cases e.1.unhashable? <;> cases e.2.unhashable? <;> simp

/-- Keys of entries that can be told apart: hashable, never changed, and no two alike. -/
structure Keyed (es : List (Value × Value)) : Prop where
  hashable : ∀ e ∈ es, e.1.unhashable? = none
  settled : ∀ e ∈ es, e.1.isMoved = false
  unlike : (es.map (·.1)).Pairwise Unlike

theorem requireHashable_eq_ok {v : Value} (h : v.unhashable? = none) :
    v.requireHashable = .ok () := by
  rw [requireHashable, h]

theorem placeOf?_eq {es : List (Value × Value)} (h : ∀ e ∈ es, e.1.isMoved = false) (key : Value) :
    placeOf? es key = es.findIdx? fun e => equals e.1 key := by
  have hchanged : (es.any fun e => e.1.isMoved && isOne key e.1.current) = false := by
    rw [List.any_eq_false]
    intro e he
    simp [h e he]
  unfold placeOf?
  rw [hchanged]

theorem updated_of_unlike {es : List (Value × Value)} {key : Value} (hkey : key.unhashable? = none)
    (hs : ∀ e ∈ es, e.1.isMoved = false) (h : ∀ e ∈ es, Unlike e.1 key) (value : Value) :
    updated es key value = .ok (es ++ [(key, value)]) := by
  have hplace : placeOf? es key = none := by
    rw [placeOf?_eq hs, List.findIdx?_eq_none_iff]
    exact fun e he => equals_eq_false (h e he).left
  unfold updated
  rw [requireHashable_eq_ok hkey, hplace]
  rfl

theorem lookup_of_mem {es : List (Value × Value)} (h : Keyed es) {e : Value × Value} (he : e ∈ es)
    (hself : Equal e.1 e.1) : lookup es e.1 = .ok e.2 := by
  obtain ⟨i, hi, rfl⟩ := List.getElem_of_mem he
  have hplace : placeOf? es es[i].1 = some i := by
    rw [placeOf?_eq h.settled, List.findIdx?_eq_some_iff_getElem]
    refine ⟨hi, (equals_iff (h.settled _ he)).mpr hself, fun j hj => ?_⟩
    have hpair := List.pairwise_map.mp h.unlike
    have hunlike := List.pairwise_iff_getElem.mp hpair j i (by omega) hi hj
    rw [equals_eq_false hunlike.left]
    exact Bool.false_ne_true
  unfold lookup
  rw [requireHashable_eq_ok (h.hashable _ he), hplace]
  simp only [Option.bind_some, List.getElem?_eq_getElem hi]
  rfl

theorem distinct_eq_self {α : Type} {eq : α → α → Bool} {xs : List α}
    (h : xs.Pairwise fun a b => eq a b = false) : Assoc.distinct eq xs = xs := by
  -- what is kept so far together with what is still to come is told apart
  have hfold (seen rest : List α) (h : (seen ++ rest).Pairwise fun a b => eq a b = false) :
      rest.foldl (fun seen x => if seen.any (eq · x) then seen else seen ++ [x]) seen =
        seen ++ rest := by
    induction rest generalizing seen with
    | nil => simp
    | cons x rest ih =>
      have hnew : (seen.any (eq · x)) = false := by
        rw [List.any_eq_false]
        intro y hy
        simp [(List.pairwise_append.mp h).2.2 y hy x List.mem_cons_self]
      rw [List.foldl_cons, hnew]
      exact (ih (seen ++ [x]) (by simpa using h)).trans (by simp)
  exact hfold [] xs h

theorem updated_of_keyed {es new : List (Value × Value)} {e : Value × Value}
    (h : Keyed (es ++ e :: new)) : updated es e.1 e.2 = .ok (es ++ [e]) := by
  have hmem : e ∈ es ++ e :: new := List.mem_append_right _ List.mem_cons_self
  have hunlike := List.pairwise_map.mp h.unlike
  exact updated_of_unlike (h.hashable e hmem)
    (fun x hx => h.settled x (List.mem_append_left _ hx))
    (fun x hx => (List.pairwise_append.mp hunlike).2.2 x hx e List.mem_cons_self) e.2

theorem foldlM_updated {es new : List (Value × Value)} (h : Keyed (es ++ new)) :
    new.foldlM (fun es e => updated es e.1 e.2) es = .ok (es ++ new) := by
  induction new generalizing es with
  | nil =>
    rw [List.append_nil]
    rfl
  | cons e new ih =>
    have hrest : Keyed ((es ++ [e]) ++ new) := by simpa using h
    rw [List.foldlM_cons, updated_of_keyed h]
    exact (ih hrest).trans (by simp)

section Members
variable {name : String}

theorem member_seq (h : name.toList.head? ≠ some '_') (hm : name.toList.head? ≠ some 'm')
    {id : Identity} {vs : List Value} {isString : Bool} {w : Value}
    (hw : seqMember? id vs isString name = some w) :
    (Value.seq id vs isString).member name = .ok w := by
  rw [member, reflected?_eq_none h, special?_eq_none h hm]
  simp only [Option.orElse_none, hw]

theorem member_set (h : name.toList.head? ≠ some '_') (hm : name.toList.head? ≠ some 'm')
    {id : Identity} {vs : List Value} {w : Value} (hw : setMember? id vs name = some w) :
    (Value.set id vs).member name = .ok w := by
  rw [member, reflected?_eq_none h, special?_eq_none h hm]
  simp only [Option.orElse_none, hw]

theorem member_map (h : name.toList.head? ≠ some '_') (hm : name.toList.head? ≠ some 'm')
    {id : Identity} {es : List (Value × Value)} {w : Value} (hw : mapMember? id es name = some w) :
    (Value.map id es).member name = .ok w := by
  rw [member, reflected?_eq_none h, special?_eq_none h hm]
  simp only [Option.orElse_none, hw]

end Members

end Marshal.Value

namespace Marshal.Conversion
set_option autoImplicit false

/-- A value is the object of its number, if it has one; the empty map is an object too. -/
def Stands (objects : Nat → Value) (v : Value) : Prop :=
  match v.identity with
  | .fresh => True
  | .empty => v = Value.emptyMap
  | .number n => v = objects n

variable {objects : Nat → Value}

theorem Stands.eq_of_isOne {v w : Value} (hv : Stands objects v) (hw : Stands objects w)
    (h : Value.isOne v w) : v = w := by
  simp only [Value.isOne, Bool.and_eq_true, bne_iff_ne, beq_iff_eq] at h
  obtain ⟨hne, heq⟩ := h
  unfold Stands at hv hw
  rw [← heq] at hw
  cases hid : v.identity with
  | fresh => exact absurd hid hne
  | empty =>
    rw [hid] at hv hw
    exact hv.trans hw.symm
  | number n =>
    rw [hid] at hv hw
    exact hv.trans hw.symm

end Marshal.Conversion
