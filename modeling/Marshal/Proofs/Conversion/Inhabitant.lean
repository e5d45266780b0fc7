import Marshal.Proofs.Conversion.Transfer
import Marshal.Proofs.Text.Numeral
import Marshal.Proofs.Value.Collection
import Mathlib.Data.List.Pairwise

/-!
# Values of built types

The values that a built type has in the runtime: strings are sequences of characters, no two members
of a set and no two keys of a map are alike. A value with a number is the object of that number, so
values with one number are one value.

Keys are written into texts and read back from them. Numbers and strings come back as equal keys;
a truth value comes back as the text that it was written as (`KeyTrip`).
-/

namespace Marshal.Conversion
set_option autoImplicit false

open Code.Meaning
open Value (Unlike Equal characters)

variable {objects : Nat → Value}

/-- The values that a built type has, given the objects that have numbers. -/
inductive Inhabits (objects : Nat → Value) : TypeDescriptor → Value → Prop where
  | int (name args) (n : Int) : Inhabits objects ⟨.int, name, args⟩ (.int n)
  | bool (name args) (b : Bool) : Inhabits objects ⟨.bool, name, args⟩ (.bool b)
  | string (name args) {id : Identity} {s : String} {isString : Bool}
    (hid : Stands objects (.seq id (characters s) isString)) :
    Inhabits objects ⟨.string, name, args⟩ (.seq id (characters s) isString)
  | seq (name : String) {a : TypeDescriptor} (rest) {id : Identity} {vs : List Value}
    {isString : Bool} (hid : Stands objects (.seq id vs isString))
    (hvs : ∀ v ∈ vs, Inhabits objects a v) :
    Inhabits objects ⟨.seq, name, a :: rest⟩ (.seq id vs isString)
  | set (name : String) {a : TypeDescriptor} (rest) {id : Identity} {vs : List Value}
    (hid : Stands objects (.set id vs)) (hvs : ∀ v ∈ vs, Inhabits objects a v)
    (hunlike : vs.Pairwise Unlike) : Inhabits objects ⟨.set, name, a :: rest⟩ (.set id vs)
  | map (name : String) {k a : TypeDescriptor} (rest) {id : Identity} {es : List (Value × Value)}
    (hid : Stands objects (.map id es)) (hkeys : ∀ e ∈ es, Inhabits objects k e.1)
    (hvalues : ∀ e ∈ es, Inhabits objects a e.2) (hunlike : (es.map (·.1)).Pairwise Unlike) :
    Inhabits objects ⟨.map, name, k :: a :: rest⟩ (.map id es)
  | tuple (name : String) {ts : List TypeDescriptor} {vs : List Value}
    (hlength : (vs.length : Int) < Value.sizeLimit) (hvs : List.Forall₂ (Inhabits objects) ts vs) :
    Inhabits objects ⟨.tuple, name, ts⟩ (.tuple vs)

theorem Inhabits.stands {t : TypeDescriptor} {v : Value} (h : Inhabits objects t v) :
    Stands objects v := by
  cases h <;> trivial

theorem Inhabits.isMoved {t : TypeDescriptor} {v : Value} (h : Inhabits objects t v) :
    v.isMoved = false := by
  cases h <;> rfl

end Marshal.Conversion

namespace Marshal.Value

mutual
/-- The keys of all maps in a value, at any depth. -/
def mapKeys : Value → List Value
  | .list vs | .tuple vs | .seq _ vs _ | .set _ vs | .frozen vs | .data _ _ _ vs => mapKeysEach vs
  | .dict es | .map _ es => mapKeysEntries es
  | _ => []

def mapKeysEach : List Value → List Value
  | [] => []
  | v :: vs => mapKeys v ++ mapKeysEach vs

def mapKeysEntries : List (Value × Value) → List Value
  | [] => []
  | (k, v) :: es => k :: mapKeys v ++ mapKeysEntries es
end

theorem forall_mapKeysEach {P : Value → Prop} {vs : List Value} :
    (∀ k ∈ mapKeysEach vs, P k) ↔ ∀ v ∈ vs, ∀ k ∈ v.mapKeys, P k := by
  induction vs with
  | nil => simp [mapKeysEach]
  | cons v vs ih => rw [mapKeysEach, List.forall_mem_append, ih, List.forall_mem_cons]

theorem forall_mapKeysEntries {P : Value → Prop} {es : List (Value × Value)} :
    (∀ k ∈ mapKeysEntries es, P k) ↔ ∀ e ∈ es, P e.1 ∧ ∀ k ∈ e.2.mapKeys, P k := by
  induction es with
  | nil => simp [mapKeysEntries]
  | cons e es ih =>
    rw [mapKeysEntries, List.cons_append, List.forall_mem_cons, List.forall_mem_append, ih,
      List.forall_mem_cons, and_assoc]

def isTruth : Value → Bool
  | .bool _ => true
  | _ => false

/-- Whether a value can be written as the key of an object: a number must not be too long. -/
def isWritable : Value → Bool
  | .int n => Code.Meaning.printable n
  | _ => true

end Marshal.Value

namespace Marshal.Conversion
open Code.Meaning
open Value (Unlike Equal characters)

theorem readDigits_toDigits {n : Nat} (h : (Nat.toDigits 10 n).length ≤ Text.numeralLimit) :
    readDigits (Nat.toDigits 10 n) = some n := by
  have hnone : ∀ c ∈ Nat.toDigits 10 n, ¬ (c == '_') := by
    intro c hc heq
    rw [eq_of_beq heq] at hc
    exact Nat.underscore_not_in_toDigits hc
  have hne : Nat.toDigits 10 n ≠ [] := List.ne_nil_of_length_pos Nat.length_toDigits_pos
  have hread := Text.readNumeral_toDigits h
  simp [readDigits, Text.between_of_none hnone, hne, hread, Except.toOption]

theorem trim_toDigits (sign : List Char) (hsign : ∀ c ∈ sign, ¬ Text.isBlank c) (n : Nat) :
    Text.trim (sign ++ Nat.toDigits 10 n) = sign ++ Nat.toDigits 10 n := by
  apply Text.trim_of_not_blank
  intro c hc
  rcases List.mem_append.mp hc with hc | hc
  · exact hsign c hc
  · have hb := Text.digit_bounds (Nat.isDigit_of_mem_toDigits (by decide) (by decide) hc)
    exact Text.not_isBlank (by omega)

/-- A number is read back from the text that it is written as. -/
theorem readNumber_toString {n : Int} (h : printable n) : readNumber (toString n) = some n := by
  have hlength := of_decide_eq_true h
  cases n with
  | ofNat m =>
    have hchars : (toString (Int.ofNat m)).toList = Nat.toDigits 10 m := String.toList_ofList
    have hdigit c (hc : c ∈ Nat.toDigits 10 m) : c.isDigit :=
      Nat.isDigit_of_mem_toDigits (by decide) (by decide) hc
    have htrim := trim_toDigits [] (by simp) m
    have hread : readDigits (Nat.toDigits 10 m) = some m := readDigits_toDigits hlength
    rw [List.nil_append] at htrim
    rw [readNumber, hchars, htrim]
    split
    · exact absurd (hdigit '-' (by simp [*])) (by decide)
    · exact absurd (hdigit '+' (by simp [*])) (by decide)
    · rw [hread]
      rfl
  | negSucc m =>
    have hchars : (toString (Int.negSucc m)).toList = ['-'] ++ Nat.toDigits 10 (m + 1) := by
      have htext : toString (Int.negSucc m) = "-" ++ toString (m + 1) := rfl
      rw [htext, String.toList_append]
      exact congrArg (['-'] ++ ·) String.toList_ofList
    have hminus : ∀ c ∈ ['-'], ¬ Text.isBlank c := by
      intro c hc
      rw [List.mem_singleton.mp hc]
      exact Text.not_isBlank (by decide)
    have htrim := trim_toDigits ['-'] hminus (m + 1)
    have hread : readDigits (Nat.toDigits 10 (m + 1)) = some (m + 1) := readDigits_toDigits hlength
    rw [readNumber, hchars, htrim]
    simp only [List.singleton_append, hread]
    rfl

theorem joinFrom_characters (place : Nat) (cs : List Char) :
    Value.joinFrom place (cs.map fun c => .text (String.singleton c)) = .ok (String.ofList cs) := by
  induction cs generalizing place with
  | nil => rfl
  | cons c cs ih =>
    rw [List.map_cons, Value.joinFrom, ih, String.ofList_cons]
    rfl

theorem join_characters (s : String) : Value.join (characters s) = .ok s := by
  rw [Value.join, characters, joinFrom_characters, String.ofList_toList]

theorem stringToJson_characters (order : List Value → List Value) (id : Identity) (s : String)
    (isString : Bool) :
    stringToJson order (.seq id (characters s) isString) = some (.text s) := by
  have hmember : (Value.seq id (characters s) isString).member "VerbatimString" =
      .ok (.method (.seq id (characters s) isString) .verbatim) :=
    Value.member_seq (by decide) (by decide) rfl
  have happly : (Value.method (.seq id (characters s) isString) .verbatim).apply [.bool false] =
      .ok (.text s) := by
    have hheld : (Value.seq id (characters s) isString).held = .ok (characters s) := rfl
    simp only [Value.apply, Value.callMethod, Value.perform, hheld, bind, Except.bind,
      join_characters]
    rfl
  simp only [stringToJson, hmember, Except.toOption, happly]

theorem stringOf_text (s : String) :
    (Value.stringOf (.text s)).toOption = some (.seq .fresh (characters s) true) := by
  unfold Value.stringOf
  split
  · rfl
  · rename_i hs
    obtain rfl : s = "" := by simpa [Value.truthy] using hs
    rfl

def truthText (b : Bool) : String := if b then "True" else "False"

/-- What a key of a kind is written as, and what is read back. -/
inductive KeyTrip : TypeKind → Value → String → Value → Prop where
  | int (n : Int) : KeyTrip .int (.int n) (toString n) (.int n)
  | bool (b : Bool) : KeyTrip .bool (.bool b) (truthText b) (.text (truthText b))
  | string (id : Identity) (s : String) (isString : Bool) :
    KeyTrip .string (.seq id (characters s) isString) s (.seq .fresh (characters s) true)

theorem exists_keyTrip {k : TypeDescriptor} (hk : k.kind ∈ keyKinds) {v : Value}
    (h : Inhabits objects k v) (hw : v.isWritable) (order order' : List Value → List Value) :
    ∃ s w, KeyTrip k.kind v s w ∧
      (transfer order .toExternal k v).bind (textKey k.kind) = some (.text s) ∧
      transfer order' .fromExternal k (.text s) = some w := by
  cases h with
  | int name args n =>
    refine ⟨toString n, .int n, .int n, ?_, ?_⟩
    · have hw : printable n := hw
      simp [transfer, toNumber, textKey, toText, hw]
    · simp only [transfer, toInt, readNumber_toString hw, Option.map_some]
  | bool name args b =>
    refine ⟨truthText b, .text (truthText b), .bool b, ?_, rfl⟩
    cases b <;> rfl
  | @string name args id s isString hid =>
    refine ⟨s, .seq .fresh (characters s) true, .string id s isString, ?_, ?_⟩
    · simp [transfer, stringToJson_characters, textKey]
    · exact stringOf_text s
  | seq | set | map | tuple => simp [keyKinds] at hk

theorem sameItems_characters {s s' : String} :
    Value.sameItems (characters s) (characters s') ↔ s = s' := by
  have hlist (cs ds : List Char) :
      Value.sameItems (cs.map fun c => .text (String.singleton c))
        (ds.map fun c => .text (String.singleton c)) ↔ cs = ds := by
    induction cs generalizing ds with
    | nil => cases ds <;> simp [Value.sameItems]
    | cons c cs ih =>
      cases ds with
      | nil => simp [Value.sameItems]
      | cons d ds =>
        have hchar : String.singleton c = String.singleton d ↔ c = d := by
          rw [← String.toList_inj]
          simp
        simp [Value.sameItems, Value.isOne, Value.identity, Value.same, ih, hchar]
  rw [characters, characters, hlist, String.toList_inj]

theorem seq_characters_inj {s s' : String} :
    Value.seq .fresh (characters s) true = .seq .fresh (characters s') true ↔ s = s' := by
  constructor
  · intro h
    injection h with _ h
    exact sameItems_characters.mp (h ▸ sameItems_characters.mpr rfl)
  · rintro rfl
    rfl

theorem truthText_inj {b b' : Bool} : truthText b = truthText b' ↔ b = b' := by
  cases b <;> cases b' <;> decide

namespace KeyTrip
variable {kind : TypeKind} {v v' w w' : Value} {s s' : String}

/-- Two keys are read back as one value exactly if they are equal. -/
theorem same_iff (h : KeyTrip kind v s w) (h' : KeyTrip kind v' s' w') :
    Value.same v v' ↔ w = w' := by
  cases h with
  | int n =>
    cases h' with
    | int n' => simp [Value.same]
  | bool b =>
    cases h' with
    | bool b' => simp [Value.same, truthText_inj]
  | string id s isString =>
    cases h' with
    | string id' s' isString' => rw [Value.same, sameItems_characters, seq_characters_inj]

theorem eq_of_text (h : KeyTrip kind v s w) (h' : KeyTrip kind v' s' w') (hs : s = s') :
    w = w' := by
  cases h with
  | int n =>
    cases h' with
    | int n' => rw [Int.repr_injective hs]
  | bool b =>
    cases h' with
    | bool b' => rw [hs]
  | string id s isString =>
    cases h' with
    | string id' s' isString' => rw [hs]

theorem fresh (h : KeyTrip kind v s w) : w.identity = .fresh := by
  cases h <;> rfl

theorem isMoved (h : KeyTrip kind v s w) : w.isMoved = false := by
  cases h <;> rfl

theorem isMoved_sent (h : KeyTrip kind v s w) : v.isMoved = false := by
  cases h <;> rfl

theorem firstUnhashable?_characters (s : String) :
    Value.firstUnhashable? (characters s) = none := by
  refine Value.firstUnhashable?_eq_none.mpr fun c hc => ?_
  obtain ⟨_, -, rfl⟩ := List.mem_map.mp hc
  rfl

theorem unhashable? (h : KeyTrip kind v s w) : w.unhashable? = none := by
  cases h with
  | int | bool => rfl
  | string id s isString => exact firstUnhashable?_characters s

theorem unhashable?_sent (h : KeyTrip kind v s w) : v.unhashable? = none := by
  cases h with
  | int | bool => rfl
  | string id s isString => exact firstUnhashable?_characters s

/-- Keys that are read back are equal only if they are one value. -/
theorem eq_of_equal (h : KeyTrip kind v s w) (h' : KeyTrip kind v' s' w') (heq : Equal w w') :
    w = w' := by
  have hsame := heq.same h'.fresh
  cases h with
  | int n =>
    cases h' with
    | int n' => simpa [Value.same] using hsame
  | bool b =>
    cases h' with
    | bool b' => simpa [Value.same] using hsame
  | string id s isString =>
    cases h' with
    | string id' s' isString' =>
      exact seq_characters_inj.mpr (sameItems_characters.mp hsame)

/-- A truth value is not found as what is read back; other keys are where they were. -/
theorem of_equal_back (h : KeyTrip kind v s w) (h' : KeyTrip kind v' s' w') (heq : Equal v w') :
    w = w' ∧ v.isTruth = false := by
  have hsame := heq.same h'.fresh
  cases h with
  | int n =>
    cases h' with
    | int n' => exact ⟨by simpa [Value.same] using hsame, rfl⟩
  | bool b =>
    cases h' with
    | bool b' => simp [Value.same] at hsame
  | string id s isString =>
    cases h' with
    | string id' s' isString' =>
      exact ⟨seq_characters_inj.mpr (sameItems_characters.mp hsame), rfl⟩

theorem same_back (h : KeyTrip kind v s w) (hv : v.isTruth = false) : Value.same v w := by
  cases h with
  | int n => simp [Value.same]
  | bool b => cases hv
  | string id s isString => exact sameItems_characters.mpr rfl

end KeyTrip

end Marshal.Conversion
