import Marshal.Proofs.Assoc
import Marshal.Proofs.Matching
import Marshal.Proofs.Value.Collection

/-!
# Equality of values

Two values are equal if they have one label and their contents match: the items of sequences one by
one, the members of sets and the entries of maps in whatever order they come. Among values whose
sets and maps hold nothing twice this is an equivalence, since members that match one and the same
member match each other, so that sets of one size cannot match in one direction only.
-/

namespace Marshal
set_option autoImplicit false

inductive Label where
  | null
  | number (n : Int)
  | text (s : String)
  | list
  | dict
  | tuple
  | seq
  | set
  | frozen
  | map
  | data (serial : Nat) (variant : String)
  | dataClass (serial : Nat)
  | libraryClass (c : LibraryClass)
  | function (f : LibraryFunction)
  | tupleBuilder (id : Identity)
  | method (owner : Identity) (m : Method)
  | unbound (m : Method)
  | common (owner : Identity) (name : String)
  | plainClass (name : String)
  | undecided
  | accessor (serial : Nat) (member : String)
  | moved

inductive Content where
  | items (vs : List Value)
  | members (vs : List Value)
  | entries (es : List (Value × Value))
  /-- The object that a method belongs to. -/
  | owner (v : Value)

namespace Content

def values : Content → List Value
  | .items vs | .members vs => vs
  | .entries es => es.flatMap fun e => [e.1, e.2]
  | .owner v => [v]

/-- Two contents match: items one by one, members and entries in any order. -/
def Match : Content → Content → Prop
  | .items as, .items bs => List.Forall₂ (fun a b => Value.same a b) as bs
  | .members as, .members bs => as.length = bs.length ∧ ∀ a ∈ as, ∃ b ∈ bs, Value.same a b
  | .entries as, .entries bs =>
    as.length = bs.length ∧ ∀ a ∈ as, ∃ b ∈ bs, Value.same a.1 b.1 ∧ Value.same a.2 b.2
  | .owner a, .owner b => Value.same a b
  | _, _ => False

/-- The comparison that finds whether two contents match. -/
def isLike : Content → Content → Bool
  | .items as, .items bs => Value.sameItems as bs
  | .members as, .members bs => as.length == bs.length && Value.within as bs
  | .entries as, .entries bs => as.length == bs.length && Value.entriesWithin as bs
  | .owner a, .owner b => Value.same a b
  | _, _ => false

def Apart : Content → Prop
  | .members vs => vs.Pairwise fun a b => ¬ Value.same a b
  | .entries es => es.Pairwise fun a b => ¬ Value.same a.1 b.1
  | .items _ | .owner _ => True

theorem key_mem_values {es : List (Value × Value)} {e : Value × Value} (h : e ∈ es) :
    e.1 ∈ (entries es).values :=
  List.mem_flatMap.mpr ⟨e, h, List.mem_cons_self⟩

theorem value_mem_values {es : List (Value × Value)} {e : Value × Value} (h : e ∈ es) :
    e.2 ∈ (entries es).values :=
  List.mem_flatMap.mpr ⟨e, h, List.mem_cons_of_mem _ List.mem_cons_self⟩

end Content

namespace Value

def label : Value → Label
  | .null => .null
  | .bool b => .number (number b)
  | .int n => .number n
  | .text s => .text s
  | .list _ => .list
  | .dict _ => .dict
  | .tuple _ => .tuple
  | .seq .. => .seq
  | .set .. => .set
  | .frozen _ => .frozen
  | .map .. => .map
  | .data _ c variant _ => .data c.serial variant
  | .dataClass c => .dataClass c.serial
  | .libraryClass c => .libraryClass c
  | .function f => .function f
  | .tupleBuilder id .. => .tupleBuilder id
  | .method v m => .method v.identity m
  | .unbound m => .unbound m
  | .common v name => .common v.identity name
  | .plainClass name => .plainClass name
  | .undecided => .undecided
  | .accessor c member => .accessor c.serial member
  | .moved .. => .moved

def content : Value → Content
  | .list vs | .tuple vs | .seq _ vs _ | .data _ _ _ vs => .items vs
  | .set _ vs | .frozen vs => .members vs
  | .dict es | .map _ es => .entries es
  | .method v _ | .common v _ => .owner v
  | _ => .items []

def parts (v : Value) : List Value := v.content.values

theorem sizeOf_lt_of_mem_entries {es : List (Value × Value)} {w : Value}
    (h : w ∈ (Content.entries es).values) : sizeOf w < sizeOf es := by
  obtain ⟨e, he, hw⟩ := List.mem_flatMap.mp h
  have hlt := List.sizeOf_lt_of_mem he
  have hsize : sizeOf e = 1 + sizeOf e.1 + sizeOf e.2 := rfl
  simp only [List.mem_cons, List.not_mem_nil, or_false] at hw
  rcases hw with rfl | rfl <;> omega

theorem sizeOf_lt_of_mem_parts {v w : Value} (h : w ∈ v.parts) : sizeOf w < sizeOf v := by
  cases v with
  | list vs | tuple vs | seq _ vs _ | set _ vs | frozen vs | data _ _ _ vs =>
    have hlt : sizeOf w < sizeOf vs := List.sizeOf_lt_of_mem h
    simp
    omega
  | dict es | map _ es =>
    have hlt : sizeOf w < sizeOf es := sizeOf_lt_of_mem_entries h
    simp
    omega
  | method owner _ | common owner _ =>
    obtain rfl : w = owner := List.mem_singleton.mp h
    simp
    omega
  | _ => cases h

end Value

namespace Content

open Assoc (EquivalenceOn Proper)
open Value (same)

variable {S : Value → Prop} {a b c : Content}

theorem Match.refl (hS : EquivalenceOn same S) (ha : ∀ v ∈ a.values, S v) : a.Match a := by
  cases a with
  | items vs => exact List.forall₂_same.mpr fun v hv => hS.refl (ha v hv)
  | members vs => exact ⟨rfl, fun v hv => ⟨v, hv, hS.refl (ha v hv)⟩⟩
  | entries es =>
    refine ⟨rfl, fun e he => ⟨e, he, ?_, ?_⟩⟩
    · exact hS.refl (ha _ (key_mem_values he))
    · exact hS.refl (ha _ (value_mem_values he))
  | owner v => exact hS.refl (ha v List.mem_cons_self)

theorem exists_perm_members (hS : EquivalenceOn same S) {as bs : List Value} (ha : ∀ v ∈ as, S v)
    (hb : ∀ v ∈ bs, S v) (happart : (members as).Apart)
    (h : (members as).Match (members bs)) :
    ∃ bs', bs'.Perm bs ∧ List.Forall₂ (fun a b => same a b) as bs' :=
  exists_perm_forall₂ (hS.pairwise_apart ha hb happart) h.1 h.2

theorem exists_perm_entries (hS : EquivalenceOn same S) {as bs : List (Value × Value)}
    (ha : Proper same S as) (hb : ∀ e ∈ bs, S e.1) (h : (entries as).Match (entries bs)) :
    ∃ bs', bs'.Perm bs ∧
      List.Forall₂ (fun a b : Value × Value => same a.1 b.1 ∧ same a.2 b.2) as bs' := by
  have happart := (ha.pairwise_apart hS hb).imp fun {x y} h b hmem
    (hxb : same x.1 b.1 ∧ same x.2 b.2) (hyb : same y.1 b.1 ∧ same y.2 b.2) =>
      h b hmem hxb.1 hyb.1
  exact exists_perm_forall₂ happart h.1 h.2

theorem forall₂_symm (hS : EquivalenceOn same S) {as bs : List Value} (ha : ∀ v ∈ as, S v)
    (hb : ∀ v ∈ bs, S v) (h : List.Forall₂ (fun a b => same a b) as bs) :
    List.Forall₂ (fun a b => same a b) bs as :=
  (forall₂_imp_of_mem h fun a hmem b hmem' => hS.symm (ha a hmem) (hb b hmem')).flip

theorem forall₂_trans (hS : EquivalenceOn same S) {as bs cs : List Value} (ha : ∀ v ∈ as, S v)
    (hb : ∀ v ∈ bs, S v) (hc : ∀ v ∈ cs, S v) (h : List.Forall₂ (fun a b => same a b) as bs)
    (h' : List.Forall₂ (fun a b => same a b) bs cs) :
    List.Forall₂ (fun a b => same a b) as cs := by
  induction h generalizing cs with
  | nil =>
    cases h'
    exact .nil
  | cons hab _ ih =>
    cases h' with
    | cons hbc hrest =>
      obtain ⟨ha, has⟩ := List.forall_mem_cons.mp ha
      obtain ⟨hb, hbs⟩ := List.forall_mem_cons.mp hb
      obtain ⟨hc, hcs⟩ := List.forall_mem_cons.mp hc
      exact .cons (hS.trans ha hb hc hab hbc) (ih has hbs hcs hrest)

theorem Match.symm (hS : EquivalenceOn same S) (ha : ∀ v ∈ a.values, S v) (hb : ∀ v ∈ b.values, S v)
    (happart : a.Apart) (h : a.Match b) : b.Match a := by
  cases a <;> cases b <;> try exact False.elim h
  case items.items as bs => exact forall₂_symm hS ha hb h
  case members.members as bs =>
    obtain ⟨bs', hperm, hmatch⟩ := exists_perm_members hS ha hb happart h
    refine ⟨h.1.symm, fun b hmem => ?_⟩
    obtain ⟨a, hmem', hab⟩ := exists_of_mem_right hmatch (hperm.mem_iff.mpr hmem)
    exact ⟨a, hmem', hS.symm (ha a hmem') (hb b hmem) hab⟩
  case entries.entries as bs =>
    obtain ⟨bs', hperm, hmatch⟩ := exists_perm_entries hS
      ⟨fun _ he => ha _ (key_mem_values he), happart⟩ (fun _ he => hb _ (key_mem_values he)) h
    refine ⟨h.1.symm, fun b hmem => ?_⟩
    obtain ⟨a, hmem', hkey, hvalue⟩ := exists_of_mem_right hmatch (hperm.mem_iff.mpr hmem)
    refine ⟨a, hmem', ?_, ?_⟩
    · exact hS.symm (ha _ (key_mem_values hmem')) (hb _ (key_mem_values hmem)) hkey
    · exact hS.symm (ha _ (value_mem_values hmem')) (hb _ (value_mem_values hmem)) hvalue
  case owner.owner a b =>
    exact hS.symm (ha a List.mem_cons_self) (hb b List.mem_cons_self) h

theorem Match.trans (hS : EquivalenceOn same S) (ha : ∀ v ∈ a.values, S v) (hb : ∀ v ∈ b.values, S v)
    (hc : ∀ v ∈ c.values, S v) (h : a.Match b) (h' : b.Match c) : a.Match c := by
  cases a <;> cases b <;> (try exact False.elim h) <;> cases c <;> try exact False.elim h'
  case items.items.items => exact forall₂_trans hS ha hb hc h h'
  case members.members.members as bs cs =>
    refine ⟨h.1.trans h'.1, fun a hmem => ?_⟩
    obtain ⟨b, hmemb, hab⟩ := h.2 a hmem
    obtain ⟨c, hmemc, hbc⟩ := h'.2 b hmemb
    exact ⟨c, hmemc, hS.trans (ha a hmem) (hb b hmemb) (hc c hmemc) hab hbc⟩
  case entries.entries.entries as bs cs =>
    refine ⟨h.1.trans h'.1, fun a hmem => ?_⟩
    obtain ⟨b, hmemb, hkey, hvalue⟩ := h.2 a hmem
    obtain ⟨c, hmemc, hkey', hvalue'⟩ := h'.2 b hmemb
    refine ⟨c, hmemc, ?_, ?_⟩
    · exact hS.trans (ha _ (key_mem_values hmem)) (hb _ (key_mem_values hmemb))
        (hc _ (key_mem_values hmemc)) hkey hkey'
    · exact hS.trans (ha _ (value_mem_values hmem)) (hb _ (value_mem_values hmemb))
        (hc _ (value_mem_values hmemc)) hvalue hvalue'
  case owner.owner.owner a b c =>
    exact hS.trans (ha a List.mem_cons_self) (hb b List.mem_cons_self) (hc c List.mem_cons_self)
      h h'

end Content

open Conversion (Stands)

/-- The objects and the classes of a program, by their numbers. -/
structure Heap where
  object : Nat → Value
  dataClass : Nat → DataClass

namespace Value

def dataClass? : Value → Option DataClass
  | .data _ c .. => some c
  | _ => none

/-- A value is neither a list nor a plain object, and it was not changed since it was filed. -/
def isSteady : Value → Bool
  | .list _ | .dict _ | .moved .. => false
  | _ => true

/-- What has to be true of a value, but for what is true of the values in it. -/
structure Fits (h : Heap) (v : Value) : Prop where
  steady : v.isSteady
  stands : Stands h.object v
  apart : v.content.Apart
  known : ∀ c, v.dataClass? = some c → h.dataClass c.serial = c

/-- The values that a program works with: hashable, never changed after they were filed, with
nothing twice in sets and maps, and the same wherever they are one object. -/
inductive Sound (h : Heap) : Value → Prop
  | intro {v : Value} (fits : Fits h v) (parts : ∀ w ∈ v.parts, Sound h w) : Sound h v

variable {h : Heap} {v w : Value}

theorem Sound.fits : Sound h v → Fits h v
  | .intro fits _ => fits

theorem Sound.of_mem : Sound h v → ∀ {w}, w ∈ v.parts → Sound h w
  | .intro _ parts => fun hw => parts _ hw

theorem Sound.unmoved (hv : Sound h v) : v.isMoved = false := by
  have hsteady := hv.fits.steady
  cases v <;> first | rfl | cases hsteady

/-- What is one object is one value. -/
theorem Sound.eq_of_isOne (hv : Sound h v) (hw : Sound h w) (hone : isOne v w) : v = w :=
  hv.fits.stands.eq_of_isOne hw.fits.stands hone

theorem number_inj {b c : Bool} : number b = number c ↔ b = c := by
  cases b <;> cases c <;> decide

/-- Values are found to be equal if they have one label and their contents are found to be. -/
theorem same_iff_isLike (hv : v.isMoved = false) :
    same v w ↔ v.label = w.label ∧ Content.isLike v.content w.content := by
  -- values of different kinds have different labels, but for truth values and numbers
  cases v <;> cases w <;>
    simp [same, label, content, Content.isLike, sameItems, and_assoc, number_inj]
  case method.method => exact and_left_comm
  case common.common => exact and_left_comm
  case moved.moved => cases hv

end Value

open Assoc (EquivalenceOn Proper)
open Value (Equal Sound same)

section Matching
variable {h : Heap} {S : Value → Prop} (hS : EquivalenceOn same S) (hsound : ∀ v, S v → Sound h v)
include hS hsound

/-- To be one object adds nothing to being equal. -/
theorem equal_iff_same {v w : Value} (hv : S v) (hw : S w) : Equal v w ↔ same v w := by
  refine ⟨?_, Or.inr⟩
  rintro (hone | hsame)
  · rw [← (hsound v hv).eq_of_isOne (hsound w hw) hone]
    exact hS.refl hv
  · exact hsame

theorem forall₂_equal_iff {as bs : List Value} (ha : ∀ v ∈ as, S v) (hb : ∀ v ∈ bs, S v) :
    List.Forall₂ Equal as bs ↔ List.Forall₂ (fun a b => same a b) as bs := by
  have hiff (a) (hmem : a ∈ as) (b) (hmem' : b ∈ bs) : Equal a b ↔ same a b :=
    equal_iff_same hS hsound (ha a hmem) (hb b hmem')
  constructor <;> intro h
  · exact forall₂_imp_of_mem h fun a hmem b hmem' => (hiff a hmem b hmem').mp
  · exact forall₂_imp_of_mem h fun a hmem b hmem' => (hiff a hmem b hmem').mpr

theorem within_iff_same {as bs : List Value} (ha : ∀ v ∈ as, S v) (hb : ∀ v ∈ bs, S v) :
    Value.within as bs ↔ ∀ a ∈ as, ∃ b ∈ bs, same a b := by
  rw [Value.within_iff (fun a hmem => (hsound a (ha a hmem)).unmoved)
    (fun b hmem => (hsound b (hb b hmem)).unmoved)]
  refine forall₂_congr fun a hmem => exists_congr fun b => and_congr_right fun hmem' => ?_
  exact equal_iff_same hS hsound (ha a hmem) (hb b hmem')

/-- Entries whose keys are told apart have at most one for each key. -/
theorem entriesWithin_iff {as bs : List (Value × Value)} (ha : ∀ e ∈ as, S e.1)
    (hb : Proper same S bs) :
    Value.entriesWithin as bs ↔ ∀ a ∈ as, ∃ b ∈ bs, same a.1 b.1 ∧ Equal a.2 b.2 := by
  have hkeys (a) (hmem : a ∈ as) (b) (hmem' : b ∈ bs) : Equal a.1 b.1 ↔ same a.1 b.1 :=
    equal_iff_same hS hsound (ha a hmem) (hb.keys b hmem')
  have hunmoved {es : List (Value × Value)} (hes : ∀ e ∈ es, S e.1) (e : Value × Value)
      (he : e ∈ es) : e.1.isMoved = false :=
    (hsound _ (hes e he)).unmoved
  constructor
  · intro hwithin a hmem
    obtain ⟨b, hmem', hkey, hvalue⟩ :=
      Value.exists_of_entriesWithin (hunmoved ha) (hunmoved hb.keys) hwithin a hmem
    exact ⟨b, hmem', (hkeys a hmem b hmem').mp hkey, hvalue⟩
  · intro hmatch
    refine Value.entriesWithin_of_exists (hunmoved ha) (hunmoved hb.keys) fun a hmem => ?_
    obtain ⟨b, hmem', hkey, hvalue⟩ := hmatch a hmem
    refine ⟨b, hmem', .inr hkey, hvalue, fun b' hmem'' hkey' => ?_⟩
    have hkey' := hS.symm (ha a hmem) (hb.keys b' hmem'') ((hkeys a hmem b' hmem'').mp hkey')
    exact hb.eq_of_eq hS hmem'' hmem'
      (hS.trans (hb.keys b' hmem'') (ha a hmem) (hb.keys b hmem') hkey' hkey)

theorem isLike_iff_match {a b : Content} (ha : ∀ v ∈ a.values, S v) (hb : ∀ v ∈ b.values, S v)
    (happart : b.Apart) : a.isLike b ↔ a.Match b := by
  cases a <;> cases b <;> try exact Bool.false_eq_true.to_iff
  case items.items as bs =>
    exact Value.sameItems_iff.trans (forall₂_equal_iff hS hsound ha hb)
  case members.members as bs =>
    have hwithin : Value.within as bs ↔ ∀ a ∈ as, ∃ b ∈ bs, same a b :=
      within_iff_same hS hsound ha hb
    rw [Content.isLike, Content.Match, ← hwithin]
    simp
  case entries.entries as bs =>
    have hwithin := entriesWithin_iff hS hsound (fun e he => ha _ (Content.key_mem_values he))
      ⟨fun e he => hb _ (Content.key_mem_values he), happart⟩
    have hvalues : (∀ a ∈ as, ∃ b ∈ bs, same a.1 b.1 ∧ Equal a.2 b.2) ↔
        ∀ a ∈ as, ∃ b ∈ bs, same a.1 b.1 ∧ same a.2 b.2 := by
      refine forall₂_congr fun a hmem => exists_congr fun b => and_congr_right fun hmem' => ?_
      rw [equal_iff_same hS hsound (ha _ (Content.value_mem_values hmem))
        (hb _ (Content.value_mem_values hmem'))]
    rw [Content.isLike, Content.Match, ← hvalues, ← hwithin]
    simp
  case owner.owner a b => exact Iff.rfl

end Matching

namespace Value

variable {h : Heap} {v w : Value}

/-- The comparison of values is the matching of their contents once it is an equivalence in them. -/
theorem same_iff_match {S : Value → Prop} (hS : EquivalenceOn same S) (hsound : ∀ v, S v → Sound h v)
    (hv : Sound h v) (hw : Sound h w) (hvs : ∀ x ∈ v.parts, S x) (hws : ∀ x ∈ w.parts, S x) :
    same v w ↔ v.label = w.label ∧ v.content.Match w.content := by
  rw [same_iff_isLike hv.unmoved, isLike_iff_match hS hsound hvs hws hw.fits.apart]

theorem equivalence_below (h : Heap) (n : Nat) :
    EquivalenceOn same fun v => Sound h v ∧ sizeOf v < n := by
  induction n with
  | zero =>
    have hnone {v : Value} : ¬ (Sound h v ∧ sizeOf v < 0) := fun hv => Nat.not_lt_zero _ hv.2
    exact ⟨fun ha => absurd ha hnone, fun ha => absurd ha hnone, fun ha => absurd ha hnone⟩
  | succ n ih =>
    -- the values in a value are smaller, so that the equivalence among them is known
    have hparts {v : Value} (hv : Sound h v ∧ sizeOf v < n + 1) :
        ∀ w ∈ v.parts, Sound h w ∧ sizeOf w < n := fun w hw =>
      ⟨hv.1.of_mem hw, by have := sizeOf_lt_of_mem_parts hw; omega⟩
    have hmatch {v w : Value} (hv : Sound h v ∧ sizeOf v < n + 1)
        (hw : Sound h w ∧ sizeOf w < n + 1) :
        same v w ↔ v.label = w.label ∧ v.content.Match w.content :=
      same_iff_match ih (fun _ hx => hx.1) hv.1 hw.1 (hparts hv) (hparts hw)
    refine ⟨fun ha => ?_, fun ha hb hab => ?_, fun ha hb hc hab hbc => ?_⟩
    · exact (hmatch ha ha).mpr ⟨rfl, Content.Match.refl ih (hparts ha)⟩
    · obtain ⟨hlabel, hcontent⟩ := (hmatch ha hb).mp hab
      exact (hmatch hb ha).mpr
        ⟨hlabel.symm, hcontent.symm ih (hparts ha) (hparts hb) ha.1.fits.apart⟩
    · obtain ⟨hlabel, hcontent⟩ := (hmatch ha hb).mp hab
      obtain ⟨hlabel', hcontent'⟩ := (hmatch hb hc).mp hbc
      exact (hmatch ha hc).mpr ⟨hlabel.trans hlabel',
        hcontent.trans ih (hparts ha) (hparts hb) (hparts hc) hcontent'⟩

/-- Equality is an equivalence among sound values. -/
theorem equivalence (h : Heap) : EquivalenceOn same (Sound h) where
  refl {a} ha := (equivalence_below h (sizeOf a + 1)).refl ⟨ha, by omega⟩
  symm {a b} ha hb := (equivalence_below h (sizeOf a + sizeOf b + 1)).symm
    ⟨ha, by omega⟩ ⟨hb, by omega⟩
  trans {a b c} ha hb hc := (equivalence_below h (sizeOf a + sizeOf b + sizeOf c + 1)).trans
    ⟨ha, by omega⟩ ⟨hb, by omega⟩ ⟨hc, by omega⟩

theorem Sound.equal_iff (hv : Sound h v) (hw : Sound h w) : Equal v w ↔ same v w :=
  equal_iff_same (equivalence h) (fun _ hx => hx) hv hw

theorem Sound.same_iff (hv : Sound h v) (hw : Sound h w) :
    same v w ↔ v.label = w.label ∧ v.content.Match w.content :=
  same_iff_match (equivalence h) (fun _ hx => hx) hv hw (fun _ hx => hv.of_mem hx)
    fun _ hx => hw.of_mem hx

end Value

end Marshal
