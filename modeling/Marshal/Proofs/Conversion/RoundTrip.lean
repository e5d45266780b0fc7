import Marshal.Proofs.Conversion.Itemwise
import Mathlib.Data.List.Perm.Basic
import Mathlib.Data.Set.List

/-!
# Round trips of values

Every value of a built type has an external form and comes back from there as a value again. It
comes back as an equal one exactly if no key of a map in it is a truth value (`convert_roundTrip`):
a truth value that is a key is written as a text, and the text stays a text.
-/

namespace Marshal.Conversion
set_option autoImplicit false

open Code (Env Expr mapM_eq_some_iff)
open Code.Meaning
open Value (Unlike Equal Keyed characters)

variable {objects : Nat → Value} {order order' : List Value → List Value}

/-- A value of a type whose keys can all be written. -/
structure Good (objects : Nat → Value) (t : TypeDescriptor) (v : Value) : Prop where
  inhabits : Inhabits objects t v
  writable : ∀ k ∈ v.mapKeys, k.isWritable

def Returned (objects : Nat → Value) (order order' : List Value → List Value)
    (t : TypeDescriptor) : Prop :=
  ∀ {v}, Good objects t v → ∃ w, roundTrip order order' t v = some w ∧ ComesBack objects t v w

theorem exists_forall₂ {α β : Type} {R : α → β → Prop} {xs : List α}
    (h : ∀ x ∈ xs, ∃ y, R x y) : ∃ ys, List.Forall₂ R xs ys := by
  induction xs with
  | nil => exact ⟨[], .nil⟩
  | cons x xs ih =>
    obtain ⟨⟨y, hy⟩, hrest⟩ := List.forall_mem_cons.mp h
    obtain ⟨ys, hys⟩ := ih hrest
    exact ⟨y :: ys, .cons hy hys⟩

theorem exists_mapM {α β : Type} {f : α → Option β} {R : α → β → Prop} {xs : List α}
    (h : ∀ x ∈ xs, ∃ y, f x = some y ∧ R x y) :
    ∃ ys, xs.mapM f = some ys ∧ List.Forall₂ R xs ys := by
  obtain ⟨ys, hys⟩ := exists_forall₂ h
  exact ⟨ys, mapM_eq_some_iff.mpr (hys.imp fun _ _ hxy => hxy.1), hys.imp fun _ _ hxy => hxy.2⟩

theorem ItemsComeBack.of_forall₂ {a : TypeDescriptor} {vs ws : List Value}
    (h : List.Forall₂ (ComesBack objects a) vs ws) :
    ItemsComeBack objects (List.replicate vs.length a) vs ws := by
  induction h with
  | nil => exact .nil
  | cons h _ ih => exact .cons h ih

section Kinds
variable {a : TypeDescriptor} {name : String} {args rest : List TypeDescriptor}

theorem returned_int : Returned objects order order' ⟨.int, name, args⟩ := by
  intro v hv
  cases hv.inhabits with
  | int _ _ n => exact ⟨.int n, rfl, .int name args n⟩

theorem returned_bool : Returned objects order order' ⟨.bool, name, args⟩ := by
  intro v hv
  cases hv.inhabits with
  | bool _ _ b => exact ⟨.bool b, rfl, .bool name args b⟩

theorem returned_string : Returned objects order order' ⟨.string, name, args⟩ := by
  intro v hv
  cases hv.inhabits with
  | @string _ _ id s isString =>
    refine ⟨_, ?_, .string name args id s isString⟩
    simp only [roundTrip, transfer, stringToJson_characters, Option.bind_some, stringOf_text]

theorem Returned.seq (h : Returned objects order order' a) (ha : Built a) :
    Returned objects order order' ⟨.seq, name, a :: rest⟩ := by
  intro v hv
  cases hv.inhabits with
  | @seq _ _ _ id vs isString hid hvs =>
    obtain ⟨ws, hws, hall⟩ := exists_mapM fun x hx =>
      h ⟨hvs x hx, Value.forall_mapKeysEach.mp hv.writable x hx⟩
    refine ⟨.seq .fresh ws false, ?_, .seq name rest id isString (.of_forall₂ hall)⟩
    rw [roundTrip_seq ha, hws]
    rfl

theorem setOfMembers_eq {vs ws : List Value} (ha : Returning objects a)
    (hall : List.Forall₂ (ComesBack objects a) vs ws) (hunlike : vs.Pairwise Unlike) :
    Value.setOfMembers ws = .ok (.set .fresh ws) := by
  have hhashable : Value.firstUnhashable? ws = none := by
    rw [Value.firstUnhashable?_eq_none]
    intro w hw
    obtain ⟨v, -, hback⟩ := exists_of_mem_right hall hw
    exact (ha.settled hback).1
  -- members that came back equal would have been equal before
  have hapart : ws.Pairwise fun w w' => Value.same w w' = false := by
    refine pairwise_of_forall₂ hall (fun hw hw' hvv => ?_) hunlike
    rw [← Bool.not_eq_true]
    exact fun hsame => hvv.left (.inr (ha.reflect hw hw' (.inr hsame)))
  rw [Value.setOfMembers, hhashable, Value.distinct_eq_self hapart]

theorem Returned.set (h : Returned objects order order' a) (ha : Built a)
    (horder : ∀ vs, (order vs).Perm vs) :
    Returned objects order order' ⟨.set, name, a :: rest⟩ := by
  intro v hv
  cases hv.inhabits with
  | @set _ _ _ id vs hid hvs hunlike =>
    have hmoved : ∀ v ∈ vs, v.isMoved = false := fun v hv => (hvs v hv).isMoved
    have hgood : ∀ v ∈ order vs, Good objects a v := by
      intro v hmem
      have hmem := (horder vs).mem_iff.mp hmem
      exact ⟨hvs v hmem, Value.forall_mapKeysEach.mp hv.writable v hmem⟩
    obtain ⟨ws, hws, hall⟩ := exists_mapM fun x hx => h (hgood x hx)
    have hset := setOfMembers_eq (returning_of_built ha) hall
      (Value.pairwise_unlike_perm (horder vs) hunlike)
    refine ⟨.set .fresh ws, ?_, .set name rest id hmoved (horder vs) (.of_forall₂ hall)⟩
    rw [roundTrip_set ha id hmoved, hws]
    simp only [Option.bind_some, hset, Except.toOption]

theorem exists_itemsComeBack {ts : List TypeDescriptor} {vs : List Value}
    (h : ∀ t ∈ ts, Returned objects order order' t) (hvs : List.Forall₂ (Inhabits objects) ts vs)
    (hkeys : ∀ v ∈ vs, ∀ k ∈ v.mapKeys, k.isWritable) :
    ∃ ws, ((ts.zip vs).mapM fun p => roundTrip order order' p.1 p.2) = some ws ∧
      ItemsComeBack objects ts vs ws := by
  induction hvs with
  | nil => exact ⟨[], rfl, .nil⟩
  | cons hv _ ih =>
    obtain ⟨hfirst, hrest⟩ := List.forall_mem_cons.mp h
    obtain ⟨hkey, hkeys⟩ := List.forall_mem_cons.mp hkeys
    obtain ⟨w, hw, hback⟩ := hfirst ⟨hv, hkey⟩
    obtain ⟨ws, hws, hbacks⟩ := ih hrest hkeys
    refine ⟨w :: ws, ?_, .cons hback hbacks⟩
    rw [List.zip_cons_cons, List.mapM_cons, hw, hws]
    rfl

theorem Returned.tuple {ts : List TypeDescriptor}
    (h : ∀ t ∈ ts, Returned objects order order' t) :
    Returned objects order order' ⟨.tuple, name, ts⟩ := by
  intro v hv
  cases hv.inhabits with
  | @tuple _ _ vs hlength hvs =>
    have hkeys := Value.forall_mapKeysEach.mp hv.writable
    obtain ⟨ws, hws, hback⟩ := exists_itemsComeBack h hvs hkeys
    refine ⟨.tuple ws, ?_, .tuple name hback⟩
    rw [roundTrip_tuple hlength hvs.length_eq, hws]
    rfl

end Kinds

/-- An entry of a map, the entry of a plain object that it is written as, and the entry that is read
back from there. -/
structure EntryTrip (objects : Nat → Value) (order order' : List Value → List Value)
    (k a : TypeDescriptor) where
  entry : Value × Value
  text : String
  written : Value
  back : Value × Value
  writeKey : (transfer order .toExternal k entry.1).bind (textKey k.kind) = some (.text text)
  writeValue : transfer order .toExternal a entry.2 = some written
  readKey : transfer order' .fromExternal k (.text text) = some back.1
  readValue : transfer order' .fromExternal a written = some back.2
  keyTrip : KeyTrip k.kind entry.1 text back.1
  comesBack : ComesBack objects a entry.2 back.2

section Maps
variable {k a : TypeDescriptor} {name : String} {rest : List TypeDescriptor}

theorem exists_entryTrip (hk : k.kind ∈ keyKinds) (h : Returned objects order order' a)
    {e : Value × Value} (hkey : Inhabits objects k e.1) (hw : e.1.isWritable)
    (hvalue : Good objects a e.2) : ∃ p : EntryTrip objects order order' k a, p.entry = e := by
  obtain ⟨s, key, htrip, hwrite, hread⟩ := exists_keyTrip hk hkey hw order order'
  obtain ⟨value, hround, hback⟩ := h hvalue
  obtain ⟨j, hj, hjback⟩ := Option.bind_eq_some_iff.mp hround
  exact ⟨⟨e, s, j, (key, value), hwrite, hj, hread, hjback, htrip, hback⟩, rfl⟩

/-- Keys that can be written are told apart as long as they are not alike. -/
theorem keyed_of_keyTrip {kind : TypeKind} {es : List (Value × Value)}
    (h : ∀ e ∈ es, ∃ s w, KeyTrip kind e.1 s w) (hunlike : (es.map (·.1)).Pairwise Unlike) :
    Keyed es where
  hashable e he := by
    obtain ⟨s, w, htrip⟩ := h e he
    exact htrip.unhashable?_sent
  settled e he := by
    obtain ⟨s, w, htrip⟩ := h e he
    exact htrip.isMoved_sent
  unlike := hunlike

namespace EntryTrip
variable {ps : List (EntryTrip objects order order' k a)}

/-- Keys that are not alike are written as different texts and read back as different keys. -/
theorem back_ne {p q : EntryTrip objects order order' k a} (h : Unlike p.entry.1 q.entry.1) :
    p.back.1 ≠ q.back.1 :=
  fun heq => h.left (.inr ((p.keyTrip.same_iff q.keyTrip).mpr heq))

theorem keyed_written (h : ps.Pairwise fun p q => Unlike p.entry.1 q.entry.1) :
    Keyed (ps.map fun p => (.text p.text, p.written)) where
  hashable e he := by
    obtain ⟨p, -, rfl⟩ := List.mem_map.mp he
    rfl
  settled e he := by
    obtain ⟨p, -, rfl⟩ := List.mem_map.mp he
    rfl
  unlike := by
    rw [List.map_map, List.pairwise_map]
    refine h.imp fun {p q} hpq => ?_
    have hne : p.text ≠ q.text := fun heq => back_ne hpq (p.keyTrip.eq_of_text q.keyTrip heq)
    constructor
    · intro heq
      exact hne (by simpa [Value.same] using heq.same rfl)
    · intro heq
      exact hne.symm (by simpa [Value.same] using heq.same rfl)

theorem keyed_back (h : ps.Pairwise fun p q => Unlike p.entry.1 q.entry.1) :
    Keyed (ps.map (·.back)) where
  hashable e he := by
    obtain ⟨p, -, rfl⟩ := List.mem_map.mp he
    exact p.keyTrip.unhashable?
  settled e he := by
    obtain ⟨p, -, rfl⟩ := List.mem_map.mp he
    exact p.keyTrip.isMoved
  unlike := by
    rw [List.map_map, List.pairwise_map]
    refine h.imp fun {p q} hpq => ?_
    exact ⟨fun heq => back_ne hpq (p.keyTrip.eq_of_equal q.keyTrip heq),
      fun heq => back_ne hpq (q.keyTrip.eq_of_equal p.keyTrip heq).symm⟩

end EntryTrip

theorem exists_perm_entries (es : List (Value × Value))
    (horder : (order (es.map (·.1))).Perm (es.map (·.1))) :
    ∃ es' : List (Value × Value), es'.Perm es ∧ es'.map (·.1) = order (es.map (·.1)) := by
  have hcomp : Relation.Comp (· = List.map (·.1) ·) List.Perm (order (es.map (·.1))) es := by
    rw [List.eq_map_comp_perm]
    exact horder
  obtain ⟨es', hkeys, hperm⟩ := hcomp
  exact ⟨es', hperm, hkeys.symm⟩

namespace EntryTrip
variable {ps : List (EntryTrip objects order order' k a)} {id : Identity}
  {es : List (Value × Value)}

theorem fillDict_eq (hkeyed : Keyed es) (hperm : (ps.map (·.entry)).Perm es)
    (horder : (ps.map (·.entry)).map (·.1) = order (es.map (·.1)))
    (hapart : ps.Pairwise fun p q => Unlike p.entry.1 q.entry.1) :
    fillDict order (fun key => (transfer order .toExternal k key).bind (textKey k.kind))
      (transfer order .toExternal a) (.map id es) =
      some (.dict (ps.map fun p => (.text p.text, p.written))) := by
  have hentries : (order (es.map (·.1))).mapM (fun key => do
      return (← (transfer order .toExternal k key).bind (textKey k.kind),
        ← (valueAt (.map id es) key).bind (transfer order .toExternal a))) =
      some (ps.map fun p => (.text p.text, p.written)) := by
    rw [← horder, List.map_map, mapM_eq_some_iff, List.forall₂_map_left_iff,
      List.forall₂_map_right_iff, List.forall₂_same]
    intro p hp
    have hvalue : valueAt (.map id es) p.entry.1 = some p.entry.2 :=
      valueAt_map hkeyed (hperm.mem_iff.mp (List.mem_map_of_mem hp))
        (.inr ((p.keyTrip.same_iff p.keyTrip).mpr rfl))
    simp [p.writeKey, hvalue, p.writeValue]
  simp only [fillDict, keysOf_map hkeyed.settled hkeyed.unlike, Option.bind_eq_bind,
    Option.bind_some]
  simp only [Option.bind_eq_bind] at hentries
  rw [hentries]
  exact dictOf_eq (keyed_written hapart)

theorem mapFromJson_eq (hapart : ps.Pairwise fun p q => Unlike p.entry.1 q.entry.1) :
    mapFromJson (transfer order' .fromExternal k) (transfer order' .fromExternal a)
      (.dict (ps.map fun p => (.text p.text, p.written))) = some (madeMap (ps.map (·.back))) := by
  refine mapFromJson_dict (keyed_written hapart).settled ?_ (keyed_back hapart)
  rw [List.forall₂_map_left_iff, List.forall₂_map_right_iff, List.forall₂_same]
  exact fun p _ => ⟨p.readKey, p.readValue⟩

theorem map_comesBack (hid : Stands objects (.map id es)) (hkeys : ∀ e ∈ es, Inhabits objects k e.1)
    (hunlike : (es.map (·.1)).Pairwise Unlike) (hperm : (ps.map (·.entry)).Perm es) :
    ComesBack objects ⟨.map, name, k :: a :: rest⟩ (.map id es) (madeMap (ps.map (·.back))) := by
  have hsent : ∀ e ∈ es, Stands objects e.1 ∧ e.1.isMoved = false :=
    fun e he => ⟨(hkeys e he).stands, (hkeys e he).isMoved⟩
  have hwritten : List.Forall₂ (fun e f : Value × Value => ∃ s, KeyTrip k.kind e.1 s f.1)
      (ps.map (·.entry)) (ps.map (·.back)) := by
    rw [List.forall₂_map_left_iff, List.forall₂_map_right_iff, List.forall₂_same]
    exact fun p _ => ⟨p.text, p.keyTrip⟩
  have hback : List.Forall₂ (ComesBack objects a) ((ps.map (·.entry)).map (·.2))
      ((ps.map (·.back)).map (·.2)) := by
    simp only [List.forall₂_map_left_iff, List.forall₂_map_right_iff, List.forall₂_same]
    exact fun p _ => p.comesBack
  have hitems := ItemsComeBack.of_forall₂ hback
  rw [List.length_map] at hitems
  exact .map name rest hid hsent hunlike hperm hwritten hitems

end EntryTrip

theorem Returned.map (hk : k.kind ∈ keyKinds) (h : Returned objects order order' a)
    (horder : ∀ vs, (order vs).Perm vs) :
    Returned objects order order' ⟨.map, name, k :: a :: rest⟩ := by
  intro v hv
  cases hv.inhabits with
  | @map _ _ _ _ id es hid hkeys hvalues hunlike =>
    have htrips : ∀ e ∈ es, ∃ p : EntryTrip objects order order' k a, p.entry = e := by
      intro e he
      obtain ⟨hkey, hrest⟩ := Value.forall_mapKeysEntries.mp hv.writable e he
      exact exists_entryTrip hk h (hkeys e he) hkey ⟨hvalues e he, hrest⟩
    have hwrite : ∀ e ∈ es, ∃ s w, KeyTrip k.kind e.1 s w := by
      intro e he
      obtain ⟨p, rfl⟩ := htrips e he
      exact ⟨p.text, p.back.1, p.keyTrip⟩
    have hkeyed := keyed_of_keyTrip hwrite hunlike
    -- the entries in the order in which the keys are gone through
    obtain ⟨es', hperm, hkeys'⟩ := exists_perm_entries es (horder _)
    have hrange : es' ∈ Set.range
        (List.map (EntryTrip.entry : EntryTrip objects order order' k a → Value × Value)) := by
      rw [Set.range_list_map]
      exact fun e he => htrips e (hperm.mem_iff.mp he)
    obtain ⟨ps, rfl⟩ := hrange
    have hapart : ps.Pairwise fun p q => Unlike p.entry.1 q.entry.1 := by
      have hall := Value.pairwise_unlike_perm (hperm.map (·.1)) hunlike
      rwa [List.pairwise_map, List.pairwise_map] at hall
    refine ⟨madeMap (ps.map (·.back)), ?_, EntryTrip.map_comesBack hid hkeys hunlike hperm⟩
    simp only [roundTrip, transfer, EntryTrip.fillDict_eq hkeyed hperm hkeys' hapart,
      Option.bind_some, EntryTrip.mapFromJson_eq hapart]

end Maps

theorem returned_of_built {t : TypeDescriptor} (ht : Built t) (horder : ∀ vs, (order vs).Perm vs) :
    Returned objects order order' t := by
  induction ht with
  | int => exact returned_int
  | bool => exact returned_bool
  | string => exact returned_string
  | seq _ _ ha ih => exact Returned.seq ih ha
  | set _ _ ha ih => exact Returned.set ih ha horder
  | map _ _ hk _ ih => exact Returned.map hk ih horder
  | tuple _ _ ih => exact Returned.tuple ih

section RoundTrip
variable {t : TypeDescriptor} {v : Value} {s s' : Scope} {env : Env} {depth depth' : Int}
  {source : Expr}

/-- A value of a built type has an external form, and a value comes back from there that equals it,
unless a truth value is a key of a map in it: in this case what comes back is another value. It does
not matter where the two conversions stand, how deep they are nested, what they are applied to, and
in which order sets are gone through; keys must not have too many digits to be written. -/
theorem convert_roundTrip (ht : Built t) (hv : Inhabits objects t v)
    (hkeys : ∀ k ∈ v.mapKeys, k.isWritable) (horder : ∀ vs, (env.order vs).Perm vs)
    (hp : Provides env s depth) (ha : Apart depth source) (hsource : source.value env = some v) :
    ∃ j, (convert .toExternal s t source depth).value env = some j ∧
      ∀ {env' : Env} {source' : Expr}, Provides env' s' depth' → Apart depth' source' →
        source'.value env' = some j →
        ∃ w, (convert .fromExternal s' t source' depth').value env' = some w ∧
          (Value.same v w ↔ NoTruthKeys v) := by
  have hreturned order' : Returned objects env.order order' t := returned_of_built ht horder
  obtain ⟨_, hround, -⟩ := hreturned env.order ⟨hv, hkeys⟩
  obtain ⟨j, hj, -⟩ := Option.bind_eq_some_iff.mp hround
  refine ⟨j, ?_, fun {env' source'} hp' ha' hsource' => ?_⟩
  · rw [follows_of_built ht hp ha, hsource, Option.bind_some, hj]
  · obtain ⟨w, hw, hback⟩ := hreturned env'.order ⟨hv, hkeys⟩
    rw [roundTrip, hj, Option.bind_some] at hw
    refine ⟨w, ?_, ?_⟩
    · rw [follows_of_built ht hp' ha', hsource', Option.bind_some, hw]
    · have hlaws : Returning objects t := returning_of_built ht
      exact ⟨fun hsame => hlaws.noTruthKeys hback hback (.inr hsame), hlaws.same hback⟩

end RoundTrip

/-- The environment of a variable for a value, with the library under its usual name. -/
def holding (v : Value) : Env := ⟨fun vs => vs, "_rt", [("item", v)]⟩

def plainScope : Scope := ⟨"_rt", []⟩

theorem provides_holding (v : Value) : Provides (holding v) plainScope 0 where
  runtime := rfl
  builtin b := by cases b <;> rfl
  apart := not_isPlaceholder rfl 0

theorem apart_item : Apart 0 (.name "item") := by
  intro n hn
  obtain rfl := List.mem_singleton.mp hn
  exact not_isPlaceholder rfl 0

def rosters : TypeDescriptor := .map (.int "int") (.set .string)

def roster : Value :=
  .map .fresh [(.int (-7), .set .fresh [.seq .fresh (characters "ada") true]),
    (.int 3, .set .fresh [])]

theorem inhabits_roster : Inhabits (fun _ => .null) rosters roster := by
  refine .map "map" [] trivial ?keys ?values ?unlike
  case keys =>
    simp only [List.forall_mem_cons, List.not_mem_nil, IsEmpty.forall_iff, implies_true, and_true]
    exact ⟨.int _ _ _, .int _ _ _⟩
  case values =>
    simp only [List.forall_mem_cons, List.not_mem_nil, IsEmpty.forall_iff, implies_true, and_true]
    refine ⟨.set _ _ trivial ?_ (List.pairwise_singleton _ _), .set _ _ trivial ?_ .nil⟩
    · simp only [List.mem_singleton, forall_eq]
      exact .string _ _ trivial
    · simp
  case unlike =>
    refine .cons ?_ (List.pairwise_singleton _ _)
    simp only [List.map_cons, List.map_nil, List.mem_singleton, forall_eq]
    constructor <;> simp [Equal, Value.isOne, Value.identity, Value.same]

theorem built_rosters : Built rosters :=
  .map "map" [] (by decide) (.set "set" [] (.string "string" []))

theorem mapKeys_roster : roster.mapKeys = [.int (-7), .int 3] := rfl

theorem isWritable_roster : ∀ k ∈ roster.mapKeys, k.isWritable := by
  rw [mapKeys_roster]
  decide

theorem noTruthKeys_roster : NoTruthKeys roster := by
  rw [NoTruthKeys, mapKeys_roster]
  decide

theorem convert_roundTrip_roster :
    ∃ j w,
      (convert .toExternal plainScope rosters (.name "item") 0).value (holding roster) = some j ∧
      (convert .fromExternal plainScope rosters (.name "item") 0).value (holding j) = some w ∧
      Value.same roster w := by
  obtain ⟨j, hj, hback⟩ := convert_roundTrip built_rosters inhabits_roster isWritable_roster
    (fun _ => .refl _) (provides_holding roster) apart_item rfl
  obtain ⟨w, hw, hsame⟩ := hback (provides_holding j) apart_item rfl
  exact ⟨j, w, hj, hw, hsame.mpr noTruthKeys_roster⟩

def counts : TypeDescriptor := .map .bool (.int "int")

def count : Value := .map .fresh [(.bool true, .int 1)]

theorem inhabits_count : Inhabits (fun _ => .null) counts count := by
  refine .map "map" [] trivial ?_ ?_ (List.pairwise_singleton _ _) <;>
    simp only [List.mem_singleton, forall_eq]
  · exact .bool _ _ _
  · exact .int _ _ _

/-- A truth value that is a key comes back as a text. -/
theorem truth_key_comes_back_as_text :
    Built counts ∧ Inhabits (fun _ => .null) counts count ∧
      (convert .toExternal plainScope counts (.name "item") 0).value (holding count) =
        some (.dict [(.text "True", .int 1)]) ∧
      (convert .fromExternal plainScope counts (.name "item") 0).value
          (holding (.dict [(.text "True", .int 1)])) =
        some (.map .fresh [(.text "True", .int 1)]) ∧
      Value.same count (.map .fresh [(.text "True", .int 1)]) = false :=
  ⟨.map "map" [] (by decide) (.int "int" []), inhabits_count, rfl, rfl, rfl⟩

end Marshal.Conversion
