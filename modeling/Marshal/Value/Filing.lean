import Marshal.Text.SipHash
import Marshal.Value.Basic

/-!
# Filing

Members of sets and keys of maps are filed under numbers that are made from what they are. A map has
slots for its entries; from the number of a key follows in which order its slots are looked through,
up to the first empty one. A key is found where the very same object is, even if it was changed
since, or where something equal is filed under the same number.
-/

namespace Marshal
set_option autoImplicit false

namespace Filing

/-- No value is filed under the largest number. -/
def settled (n : UInt64) : UInt64 := if n = -1 then -2 else n

/-- The prime that whole numbers are reduced by, one less than a power of two. -/
def modulus : Nat := 0x1fffffffffffffff

def ofInt (n : Int) : UInt64 :=
  let rest := UInt64.ofNat (n.natAbs % modulus)
  settled (if n < 0 then -rest else rest)

/-- One item of a tuple mixed into the number of those in front of it. -/
def mixItem (n item : UInt64) : UInt64 :=
  let sum := n + item * 14029467366897019727
  (sum <<< 31 ||| sum >>> 33) * 11400714785074694791

/-- The number of a tuple, given those of its items. -/
def ofItems (items : List UInt64) : UInt64 :=
  let seed : UInt64 := 2870177450012600261
  let length : UInt64 := UInt64.ofNat items.length ^^^ seed ^^^ 3527539
  let n := items.foldl mixItem seed + length
  if n = -1 then 1546275796 else n

/-- The number of a member of a set, scattered. -/
def scatter (n : UInt64) : UInt64 :=
  let shifted : UInt64 := n <<< 16
  (n ^^^ 89869747 ^^^ shifted) * 3644798167

/-- The number of a set, given those of its members in any order. -/
def ofMembers (members : List UInt64) : UInt64 :=
  let n := (members.map scatter).foldl (· ^^^ ·) 0
  let n := n ^^^ (UInt64.ofNat members.length + 1) * 1927868237
  let n := n ^^^ ((n >>> 11) ^^^ (n >>> 25))
  let n := n * 69069 + 907133923
  if n = -1 then 590923713 else n

end Filing

namespace Value

mutual
/-- The number that a value is filed under, unless it depends on where the value is kept. -/
def filingNumber? : Value → Option UInt64
  | .bool b => some (Filing.ofInt (number b))
  | .int n => some (Filing.ofInt n)
  | .text s => some (Filing.settled (Text.filingNumber s))
  | .tuple vs | .seq _ vs _ => (filingNumbers? vs).map Filing.ofItems
  | .set _ vs | .frozen vs => (filingNumbers? vs).map Filing.ofMembers
  | .map _ es => (entryNumbers? es).map Filing.ofMembers
  | .data _ c variant vs => do
    let name := Filing.settled (Text.filingNumber c.name)
    let variant := Filing.settled (Text.filingNumber variant)
    return Filing.ofItems [name, variant, Filing.ofItems (← filingNumbers? vs)]
  | .moved filed _ => filingNumber? filed
  | _ => none

def filingNumbers? : List Value → Option (List UInt64)
  | [] => some []
  | v :: vs => do
    let n ← filingNumber? v
    let ns ← filingNumbers? vs
    return n :: ns

/-- The numbers of entries, whose keys count as they are now. -/
def entryNumbers? : List (Value × Value) → Option (List UInt64)
  | [] => some []
  | (k, v) :: es => do
    let key ← match k with
      | .moved _ k => filingNumber? k
      | k => filingNumber? k
    let value ← filingNumber? v
    let ns ← entryNumbers? es
    return Filing.ofItems [key, value] :: ns
end

end Value

namespace Filing

/-- A number of slots for a demand: a power of two, eight at least. For most small demands it is
sixteen. -/
def slotsFor (demand : Nat) : Nat := ((((demand ||| 8) - 1) ||| 7) + 1).nextPowerOfTwo

/-- The number of entries that slots can take: a third of the slots stays empty. -/
def room (slots : Nat) : Nat := 2 * slots / 3

structure Slots where
  count : Nat
  entries : Nat
  /-- Whether all keys are texts. -/
  textsOnly : Bool
deriving DecidableEq, Repr, Inhabited

namespace Slots

def empty : Slots := ⟨8, 0, true⟩

/-- The slots with a new entry. There are new ones if there is no room, or if the key is the first
one that is no text. -/
def insert (s : Slots) (isText : Bool) : Slots :=
  let isFirst := s.textsOnly && !isText && s.entries != 0
  let count := if isFirst || room s.count ≤ s.entries then slotsFor (3 * s.entries) else s.count
  ⟨count, s.entries + 1, s.textsOnly && isText⟩

/-- The slots of a copy of a map: no more than needed. -/
def copy (s : Slots) : Slots :=
  if s.count = 8 || room (s.count / 2) < s.entries then s
  else { s with count := slotsFor ((3 * s.entries + 1) / 2) }

end Slots

/-- The number of slots of a map that got its keys one after the other; which of them are texts is
given. It is copied whenever it gets a key. -/
def slotCount (texts : List Bool) : Nat :=
  (texts.foldl (fun s isText => (s.insert isText).copy) Slots.empty).count

/-- The slots that are looked through from a slot on; `rest` is what is left of the number. -/
def slotsFrom (size : Nat) : Nat → Nat → Nat → List Nat
  | 0, _, _ => []
  | count + 1, slot, rest =>
    slot :: slotsFrom size count ((5 * slot + rest / 32 + 1) % size) (rest / 32)

/-- The slots in the order in which they are looked through for a number; every slot is among them,
as thirteen steps use up the number. -/
def slotOrder (size : Nat) (n : UInt64) : List Nat :=
  slotsFrom size (size + 14) (n.toNat % size) n.toNat

/-- The slots that are taken, with the places of the entries in them. -/
def taken (size : Nat) (numbers : List UInt64) : List (Nat × Nat) :=
  numbers.zipIdx.foldl (fun slots (n, place) =>
    match (slotOrder size n).find? fun slot => (slots.lookup slot).isNone with
    | some slot => (slot, place) :: slots
    | none => slots) []

/-- The places of the entries that are met on the way to an empty slot; which keys are texts is
given. -/
def met (texts : List Bool) (numbers : List UInt64) (n : UInt64) : List Nat :=
  let size := slotCount texts
  let slots := taken size numbers
  let places := (slotOrder size n).map fun slot => slots.lookup slot
  (places.takeWhile Option.isSome).filterMap id

end Filing

namespace Value

def isText : Value → Bool
  | .text _ => true
  | _ => false

/-- Whether a key is an entry's own, or equals it. -/
def isKeyOf (key : Value) (entry : Value × Value) : Bool :=
  isOne key entry.1.current || equals entry.1 key

/-- The place of the entry that a key is found at. Where the key itself is there and was changed,
the order of the slots decides whether it is met. -/
def placeOf? (entries : List (Value × Value)) (key : Value) : Option Nat :=
  let changed := entries.any fun e => e.1.isMoved && isOne key e.1.current
  match changed, filingNumbers? (entries.map (·.1)), filingNumber? key with
  | true, some numbers, some n =>
    let texts := entries.map fun e => e.1.isText
    (Filing.met texts numbers n).find? fun i => (entries[i]?.map (isKeyOf key)).getD false
  | _, _, _ => entries.findIdx? fun e => equals e.1 key

end Value

end Marshal
