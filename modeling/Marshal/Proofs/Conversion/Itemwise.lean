import Marshal.Proofs.Conversion.Return

/-!
# Round trips item by item

What a type does to a value there and back, it does to the items of a collection, to the components
of a tuple and to the entries of a map one by one. The conversions of a type that stays as it is
leave items alone; this makes no difference.
-/

namespace Marshal.Conversion
set_option autoImplicit false

open Code (mapM_bind_mapM mapM_eq_some_iff)
open Code.Meaning
open Value (Unlike Equal Keyed)

variable {order order' : List Value → List Value}

def roundTrip (order order' : List Value → List Value) (t : TypeDescriptor) (v : Value) :
    Option Value :=
  (transfer order .toExternal t v).bind (transfer order' .fromExternal t)

section Forms
variable {dir : Direction} {t a : TypeDescriptor} {name : String} {rest : List TypeDescriptor}

theorem transfer_of_stays (ht : Built t) (h : stays t) : transfer order dir t = some := by
  funext v
  cases ht with
  | bool => simp only [transfer]
  | @tuple name ts hts =>
    cases ts with
    | nil => simp only [transfer]
    | cons => simp [stays] at h
  | int | string | seq | set | map => simp [stays] at h

theorem mapM_some {α : Type} (xs : List α) : xs.mapM some = some xs := by
  simpa using List.mapM_pure (m := Option) (l := xs) (f := id)

theorem listItems_eq (ha : Built a) (v : Value) :
    listItems order (stays a) (transfer order dir a) v =
      (iterate order v).bind fun items => (items.mapM (transfer order dir a)).map .list := by
  cases h : stays a with
  | false => exact listItems_false order _ v
  | true =>
    simp only [listItems_true, transfer_of_stays ha h, mapM_some, Option.map_some]
    cases iterate order v <;> rfl

theorem collect_list (ha : Built a) (c : LibraryClass) (js : List Value) :
    collect order c (stays a) (transfer order dir a) (.list js) =
      (js.mapM (transfer order dir a)).bind fun ws => construct c (.list ws) := by
  have hor : orList (.list js) = .list js := by cases js <;> rfl
  cases h : stays a with
  | false =>
    rw [collect_false, hor]
    rfl
  | true =>
    rw [collect_true, hor, transfer_of_stays ha h, mapM_some]
    rfl

theorem roundTrip_seq (ha : Built a) (id : Identity) (vs : List Value) (isString : Bool) :
    roundTrip order order' ⟨.seq, name, a :: rest⟩ (.seq id vs isString) =
      (vs.mapM (roundTrip order order' a)).map fun ws => .seq .fresh ws false := by
  have hlist : seqToList order (.seq id vs isString) = some (.list vs) := rfl
  have hitems : iterate order (.list vs) = some vs := rfl
  have hnew (ws : List Value) : construct .seq (.list ws) = some (.seq .fresh ws false) := rfl
  have htrip : vs.mapM (roundTrip order order' a) =
      (vs.mapM (transfer order .toExternal a)).bind (·.mapM (transfer order' .fromExternal a)) :=
    (mapM_bind_mapM _ _ vs).symm
  rw [roundTrip, htrip]
  simp only [transfer, hlist, Option.bind_some, listItems_eq ha, hitems]
  cases vs.mapM (transfer order .toExternal a) with
  | none => rfl
  | some js =>
    simp only [Option.map_some, Option.bind_some, collect_list ha, hnew]
    cases js.mapM (transfer order' .fromExternal a) <;> rfl

theorem roundTrip_set (ha : Built a) (id : Identity) {vs : List Value}
    (hvs : ∀ v ∈ vs, v.isMoved = false) :
    roundTrip order order' ⟨.set, name, a :: rest⟩ (.set id vs) =
      ((order vs).mapM (roundTrip order order' a)).bind fun ws =>
        (Value.setOfMembers ws).toOption := by
  have hmembers : memberOf "Elements" (.set id vs) = some (.frozen vs) := by
    rw [memberOf, Value.member_set (by decide) (by decide) rfl]
    rfl
  have hitems : iterate order (.frozen vs) = some (order vs) := by
    rw [iterate, Value.map_current hvs]
  have hnew (ws : List Value) :
      construct .set (.list ws) = (Value.setOfMembers ws).toOption := rfl
  have htrip : (order vs).mapM (roundTrip order order' a) =
      ((order vs).mapM (transfer order .toExternal a)).bind
        (·.mapM (transfer order' .fromExternal a)) :=
    (mapM_bind_mapM _ _ (order vs)).symm
  rw [roundTrip, htrip]
  simp only [transfer, hmembers, Option.bind_some, listItems_eq ha, hitems]
  cases (order vs).mapM (transfer order .toExternal a) with
  | none => rfl
  | some js => simp only [Option.map_some, Option.bind_some, collect_list ha, hnew]

theorem itemAt_eq (container : String) {items : List Value} {i : Nat} (hi : i < items.length)
    (hlength : (items.length : Int) < Value.sizeLimit) :
    Value.itemAt container items i = .ok items[i] := by
  have hlow : ¬ ((i : Int) < -Value.sizeLimit ∨ Value.sizeLimit ≤ (i : Int)) := by
    unfold Value.sizeLimit at *
    omega
  have hplace : ¬ ((i : Int) < 0) := by omega
  simp [Value.itemAt, hlow, hplace, hi]

theorem transferItems_eq {v : Value} {items : List Value}
    (hv : v = .tuple items ∨ v = .list items) (hlength : (items.length : Int) < Value.sizeLimit)
    {ts : List TypeDescriptor} {i : Nat} (hts : ts.length + i = items.length) :
    transferItems order dir ts v i =
      (ts.zip (items.drop i)).mapM fun p => transfer order dir p.1 p.2 := by
  induction ts generalizing i with
  | nil => rfl
  | cons t ts ih =>
    rw [List.length_cons] at hts
    have hi : i < items.length := by omega
    have hitem : v.item (.int i) = .ok items[i] := by
      rcases hv with rfl | rfl
      · exact itemAt_eq "tuple" hi hlength
      · exact itemAt_eq "list" hi hlength
    rw [List.drop_eq_getElem_cons hi, List.zip_cons_cons, List.mapM_cons,
      ← ih (i := i + 1) (by omega), transferItems, hitem]
    rfl

theorem mapM_zip_bind {α : Type} (f g : α → Value → Option Value) (xs : List α)
    (vs : List Value) :
    ((xs.zip vs).mapM fun p => f p.1 p.2).bind (fun js => (xs.zip js).mapM fun p => g p.1 p.2) =
      (xs.zip vs).mapM fun p => (f p.1 p.2).bind (g p.1) := by
  induction xs generalizing vs with
  | nil => rfl
  | cons x xs ih =>
    cases vs with
    | nil => rfl
    | cons v vs =>
      simp only [List.zip_cons_cons, List.mapM_cons, ← ih vs]
      -- the step back from `j` comes before or after the steps for the rest; where these fail, both do
      cases f x v with
      | none => rfl
      | some j =>
        cases (xs.zip vs).mapM fun p => f p.1 p.2 with
        | none => cases hg : g x j <;> simp [hg]
        | some js => simp

theorem named_tuple {n : Nat} (h : (n : Int) < Value.sizeLimit) :
    Library.named ("Tuple" ++ toString n) =
      .ok (.tupleBuilder .fresh ("Tuple" ++ toString n) (.int n)) := by
  have hchars : ("Tuple" ++ toString n).toList = "Tuple".toList ++ Nat.toDigits 10 n := by
    rw [String.toList_append]
    exact congrArg ("Tuple".toList ++ ·) String.toList_ofList
  have hdigit : (Nat.toDigits 10 n).all Text.isAnyDigit := by
    refine List.all_eq_true.mpr fun c hc => ?_
    have hc := Text.isDecimal_of_isDigit (Nat.isDigit_of_mem_toDigits (by decide) (by decide) hc)
    rw [Text.isAnyDigit, hc, Bool.true_or]
  have hne : Nat.toDigits 10 n ≠ [] := List.ne_nil_of_length_pos Nat.length_toDigits_pos
  have hread : Text.readNumeral (Nat.toDigits 10 n) = .ok n := by
    apply Text.readNumeral_toDigits
    have hpow : n < 10 ^ 19 := by
      unfold Value.sizeLimit at h
      omega
    have hle := (Nat.length_toDigits_le_iff (by decide) (by decide)).mpr hpow
    unfold Text.numeralLimit
    omega
  have hdigits : Library.tupleDigits? ("Tuple" ++ toString n) = some (Nat.toDigits 10 n) := by
    rw [Library.tupleDigits?, hchars]
    simp [hdigit, hne]
  have hnamed : Library.named ("Tuple" ++ toString n) =
      Library.tupleNamed ("Tuple" ++ toString n) := by
    unfold Library.named
    -- no other name of the library is `Tuple` with digits behind it
    split <;> first
      | rfl
      | (rename_i heq
         rw [heq] at hchars
         simp at hchars)
  rw [hnamed, Library.tupleNamed, hdigits]
  simp only [hread]
  rfl

theorem tupleOf_eq {ws : List Value} (h : (ws.length : Int) < Value.sizeLimit) :
    tupleOf ws = some (.tuple ws) := by
  have happly : (Value.tupleBuilder .fresh ("Tuple" ++ toString ws.length) (.int ws.length)).apply
      ws = .ok (.tuple ws) := by
    simp [Value.apply, Value.tupleOf, Value.same]
    rfl
  rw [tupleOf, named_tuple h]
  simp only [Except.toOption, Option.bind_eq_bind, Option.bind_some, happly]

theorem transfer_tuple (t : TypeDescriptor) (ts : List TypeDescriptor) (v : Value) :
    transfer order dir ⟨.tuple, name, t :: ts⟩ v =
      (transferItems order dir (t :: ts) v 0).bind fun items =>
        match dir with
        | .toExternal => some (.list items)
        | .fromExternal => tupleOf items := by
  cases dir <;>
    simp only [transfer, transferItems, Option.bind_eq_bind, Option.bind_assoc, Option.pure_def,
      Option.bind_some] <;> rfl

theorem roundTrip_tuple {ts : List TypeDescriptor} {vs : List Value}
    (hlength : (vs.length : Int) < Value.sizeLimit) (hts : ts.length = vs.length) :
    roundTrip order order' ⟨.tuple, name, ts⟩ (.tuple vs) =
      ((ts.zip vs).mapM fun p => roundTrip order order' p.1 p.2).map .tuple := by
  cases ts with
  | nil =>
    obtain rfl := List.length_eq_zero_iff.mp hts.symm
    rfl
  | cons t ts =>
    have htrip := (mapM_zip_bind (transfer order .toExternal) (transfer order' .fromExternal)
      (t :: ts) vs).symm
    have hthere : transferItems order .toExternal (t :: ts) (.tuple vs) 0 =
        ((t :: ts).zip vs).mapM fun p => transfer order .toExternal p.1 p.2 :=
      transferItems_eq (.inl rfl) hlength hts
    simp only [roundTrip]
    rw [transfer_tuple, hthere, htrip]
    cases hjs : ((t :: ts).zip vs).mapM fun p => transfer order .toExternal p.1 p.2 with
    | none => rfl
    | some js =>
      have hsize : (t :: ts).length = js.length := by
        have hlist := (mapM_eq_some_iff.mp hjs).length_eq
        rw [List.length_zip] at hlist
        omega
      have hback : transferItems order' .fromExternal (t :: ts) (.list js) 0 =
          ((t :: ts).zip js).mapM fun p => transfer order' .fromExternal p.1 p.2 :=
        transferItems_eq (.inr rfl) (by omega) hsize
      simp only [Option.bind_some]
      rw [transfer_tuple, hback]
      cases hws : ((t :: ts).zip js).mapM fun p => transfer order' .fromExternal p.1 p.2 with
      | none => rfl
      | some ws =>
        have hlist := (mapM_eq_some_iff.mp hws).length_eq
        rw [List.length_zip] at hlist
        exact tupleOf_eq (by omega)

end Forms

section Maps
variable {k a : TypeDescriptor} {name : String} {rest : List TypeDescriptor} {id : Identity}
  {es : List (Value × Value)}

theorem keysOf_map (hs : ∀ e ∈ es, e.1.isMoved = false)
    (hunlike : (es.map (·.1)).Pairwise Unlike) :
    keysOf order (.map id es) = some (order (es.map (·.1))) := by
  have hkeys : es.map (·.1.current) = es.map (·.1) :=
    List.map_congr_left fun e he => Value.current_of_not_moved (hs e he)
  have hmoved : ∀ v ∈ es.map (·.1), v.isMoved = false := by
    intro v hv
    obtain ⟨e, he, rfl⟩ := List.mem_map.mp hv
    exact hs e he
  have hdistinct : Assoc.distinct Value.same (es.map (·.1)) = es.map (·.1) :=
    Value.distinct_eq_self (hunlike.imp fun h => by simpa using fun hsame => h.left (.inr hsame))
  have hset : memberOf "Keys" (.map id es) = some (.set .fresh (es.map (·.1))) := by
    rw [memberOf, Value.member_map (by decide) (by decide) rfl, hkeys, hdistinct]
    rfl
  have hmembers : memberOf "Elements" (.set .fresh (es.map (·.1))) =
      some (.frozen (es.map (·.1))) := by
    rw [memberOf, Value.member_set (by decide) (by decide) rfl]
    rfl
  simp only [keysOf, hset, hmembers, Option.bind_eq_bind, Option.bind_some, iterate,
    Value.map_current hmoved]

theorem valueAt_map (h : Keyed es) {e : Value × Value} (he : e ∈ es) (hself : Equal e.1 e.1) :
    valueAt (.map id es) e.1 = some e.2 := by
  have hget : memberOf "get" (.map id es) = some (.method (.map id es) .get) := by
    rw [memberOf, Value.member_map (by decide) (by decide) rfl]
    rfl
  have happly : (Value.method (.map id es) .get).apply [e.1] = .ok e.2 :=
    Value.lookup_of_mem h he hself
  simp only [valueAt, hget, Option.bind_eq_bind, Option.bind_some, happly, Except.toOption]

theorem dictOf_eq (h : Keyed es) : dictOf es = some (.dict es) := by
  have hkeyed : Keyed ([] ++ es) := h
  rw [dictOf, Value.foldlM_updated hkeyed]
  rfl

theorem putConverted_eq {f g : Value → Option Value} {done : List (Value × Value)}
    {d e : Value × Value} (hkey : f d.1 = some e.1) (hvalue : g d.2 = some e.2)
    (hput : Value.updated done e.1 e.2 = .ok (done ++ [e])) :
    putConverted f g (madeMap done) d = some (madeMap (done ++ [e])) := by
  have hupdate : (madeMap done).member "update" = .ok (.method (madeMap done) .update) :=
    Value.member_map (by decide) (by decide) rfl
  have happly : (Value.method (madeMap done) .update).apply [e.1, e.2] =
      .ok (.map .fresh (done ++ [e])) := by
    have hperform : Value.perform .update (madeMap done) [e.1, e.2] =
        (do return .map .fresh (← Value.updated done e.1 e.2)) := rfl
    have hcall : (Value.method (madeMap done) .update).apply [e.1, e.2] =
        Value.perform .update (madeMap done) [e.1, e.2] := rfl
    rw [hcall, hperform, hput]
    rfl
  simp only [putConverted, hupdate, hkey, hvalue, Option.bind_eq_bind, Option.bind_some,
    Except.toOption, happly]
  simp [madeMap]

/-- A map that is made of converted entries one after the other holds them in this order. -/
theorem foldlM_putConverted {f g : Value → Option Value} {ds fs done : List (Value × Value)}
    (h : List.Forall₂ (fun d e => f d.1 = some e.1 ∧ g d.2 = some e.2) ds fs)
    (hkeyed : Keyed (done ++ fs)) :
    ds.foldlM (putConverted f g) (madeMap done) = some (madeMap (done ++ fs)) := by
  induction h generalizing done with
  | nil => rw [List.append_nil, List.foldlM_nil, Option.pure_def]
  | @cons d e ds fs hde _ ih =>
    have hput := Value.updated_of_keyed hkeyed
    rw [List.foldlM_cons, putConverted_eq hde.1 hde.2 hput]
    have hkeyed : Keyed ((done ++ [e]) ++ fs) := by simpa using hkeyed
    exact (ih hkeyed).trans (by simp)

theorem mapFromJson_dict {f g : Value → Option Value} {ds fs : List (Value × Value)}
    (hs : ∀ d ∈ ds, d.1.isMoved = false)
    (h : List.Forall₂ (fun d e => f d.1 = some e.1 ∧ g d.2 = some e.2) ds fs)
    (hkeyed : Keyed fs) : mapFromJson f g (.dict ds) = some (madeMap fs) := by
  have hentries : entries? (.dict ds) = some ds := by
    cases ds with
    | nil => rfl
    | cons d ds =>
      have hmap : (d :: ds).map (fun e => (e.1.current, e.2)) = d :: ds := by
        conv => rhs; rw [← List.map_id (d :: ds)]
        exact List.map_congr_left fun e he =>
          Prod.ext (Value.current_of_not_moved (hs e he)) rfl
      exact congrArg some hmap
  have hkeyed : Keyed ([] ++ fs) := hkeyed
  rw [mapFromJson, hentries]
  exact foldlM_putConverted h hkeyed

end Maps

end Marshal.Conversion
