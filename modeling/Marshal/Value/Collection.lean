import Marshal.Value.Display
import Marshal.Value.Filing

/-!
# Collections

Sets keep the first of equal members; maps keep the first of equal keys, with the value that was put
last. Members and keys are hashable. Sequences, tuples, lists and texts have their items at places
that count from the front or, if negative, from the end.
-/

namespace Marshal
set_option autoImplicit false

namespace Value

def requireHashable (v : Value) : Except Fault Unit :=
  match v.unhashable? with
  | none => .ok ()
  | some type => .error (.unhashable type)

def items : Value → Except Fault (List Value)
  | .text s => .ok (characters s)
  | .list vs | .tuple vs | .seq _ vs _ => .ok vs
  | .set _ vs | .frozen vs => .ok (vs.map current)
  | .dict es => .ok (es.map (·.1.current))
  | v => .error (.notIterable v.typeName)

def size : Value → Except Fault Nat
  | .text s => .ok s.length
  | .list vs | .tuple vs | .seq _ vs _ | .set _ vs | .frozen vs => .ok vs.length
  | .dict es | .map _ es => .ok es.length
  | v => .error (.unsized v.typeName)

/-- Whether an item of a list equals a value. -/
def holds (vs : List Value) (v : Value) : Bool := vs.any fun w => isOne w v || same w v

def seqOf (v : Value) (isString : Bool) : Except Fault Value := do
  return .seq .fresh (← v.items) isString

/-- A sequence of characters; whatever counts as false gives none. -/
def stringOf (v : Value) : Except Fault Value :=
  if v.truthy then v.seqOf true else .ok (.seq .fresh [] true)

def setOfMembers (members : List Value) : Except Fault Value :=
  match firstUnhashable? members with
  | none => .ok (.set .fresh (Assoc.distinct same members))
  | some type => .error (.unhashable type)

/-- The set of the items of a value; bare members stay filed as they are. -/
def setOf : Value → Except Fault Value
  | .frozen vs => .ok (.set .fresh vs)
  | v => do setOfMembers (← v.items)

def emptyMap : Value := .map .empty []

def updated (entries : List (Value × Value)) (key value : Value) :
    Except Fault (List (Value × Value)) := do
  key.requireHashable
  match placeOf? entries key with
  | some i => return entries.modify i fun e => (e.1, value)
  | none => return entries ++ [(key, value)]

def missing (key : Value) : Fault :=
  match key.display with
  | .ok shown => .missingKey shown
  | .error fault => .undisplayedKey fault.message

def lookup (entries : List (Value × Value)) (key : Value) : Except Fault Value := do
  key.requireHashable
  match (placeOf? entries key).bind (entries[·]?) with
  | some e => return e.2
  | none => throw key.missing

def hasKey (entries : List (Value × Value)) (key : Value) : Except Fault Bool := do
  key.requireHashable
  return (placeOf? entries key).isSome

def hasMember (members : List Value) (v : Value) : Except Fault Bool := do
  v.requireHashable
  return members.any (equals · v)

/-- The entries that lists of two items stand for, put one after the other. -/
def entriesOf (entries : List (Value × Value)) (place : Nat) :
    List Value → Except Fault (List (Value × Value))
  | [] => .ok entries
  | v :: vs =>
    match v.items with
    | .error _ => .error (.entryType place)
    | .ok [key, value] => do entriesOf (← updated entries key value) (place + 1) vs
    | .ok pair => .error (.entrySize place pair.length)

/-- The map of a plain object or a list of entries; whatever counts as false gives the empty one. -/
def mapOf (v : Value) : Except Fault Value :=
  match v with
  | .dict es => .ok (.map .fresh es)
  | _ =>
    if v.truthy then do return .map .fresh (← entriesOf [] 0 (← v.items))
    else .ok (.map .fresh [])

/-- Whether a text stands somewhere in another. -/
def occursIn (part : List Char) : List Char → Bool
  | [] => part.isEmpty
  | c :: cs => part.isPrefixOf (c :: cs) || occursIn part cs

def contains (v item : Value) : Except Fault Bool :=
  match v with
  | .text s =>
    match item with
    | .text part => .ok (occursIn part.toList s.toList)
    | _ => .error (.notText item.typeName)
  | .list vs | .tuple vs | .seq _ vs _ => .ok (holds vs item)
  | .set _ vs | .frozen vs => hasMember vs item
  | .dict es | .map _ es => hasKey es item
  | _ => .error (.notSearchable v.typeName)

/-- A number, also if it is written as a truth value. -/
def number? : Value → Option Int
  | .bool b => some (number b)
  | .int n => some n
  | _ => none

/-- No collection has as many items. -/
def sizeLimit : Int := 9223372036854775808

/-- The item at a place; `container` says what the items belong to. -/
def itemAt (container : String) (vs : List Value) (index : Int) : Except Fault Value :=
  if index < -sizeLimit ∨ sizeLimit ≤ index then .error .hugeIndex
  else
    let place := if index < 0 then index + vs.length else index
    if place < 0 then .error (.outOfRange container)
    else
      match vs[place.toNat]? with
      | some v => .ok v
      | none => .error (.outOfRange container)

def item (v index : Value) : Except Fault Value :=
  match v with
  | .tuple vs | .seq _ vs _ =>
    match index.number? with
    | some i => itemAt "tuple" vs i
    | none => .error (.badIndex "tuple" index.typeName)
  | .list vs =>
    match index.number? with
    | some i => itemAt "list" vs i
    | none => .error (.badIndex "list" index.typeName)
  | .text s =>
    match index.number? with
    | some i => itemAt "string" (characters s) i
    | none => .error (.badTextIndex index.typeName)
  | .dict es => lookup es index
  | .dataClass c => .error (.classNotIndexable c.name)
  | .libraryClass c => .error (.classNotIndexable c.name)
  | _ => .error (.notIndexable v.typeName)

end Value

/-- A stretch of items: every `step`-th one from `start` on, before `stop`. -/
structure Slice where
  start : Option Int
  stop : Option Int
  step : Int
deriving DecidableEq, Repr, Inhabited

namespace Slice

/-- A bound as a place of `size` items, kept between `low` and `high`. -/
def clamp (size : Nat) (low high bound : Int) : Int :=
  let place := if bound < 0 then bound + size else bound
  max low (min high place)

/-- The places of a stretch of `size` items, in order. -/
def places (s : Slice) (size : Nat) : List Nat :=
  let forward := 0 < s.step
  let low : Int := if forward then 0 else -1
  let high : Int := if forward then size else (size : Int) - 1
  let start := match s.start with
    | some b => clamp size low high b
    | none => if forward then low else high
  let stop := match s.stop with
    | some b => clamp size low high b
    | none => if forward then high else low
  let count :=
    if forward then (stop - start + s.step - 1) / s.step
    else (start - stop - s.step - 1) / (-s.step)
  (List.range count.toNat).map fun (i : Nat) => (start + i * s.step).toNat

def pick {α : Type} (s : Slice) (xs : List α) : List α :=
  (s.places xs.length).filterMap fun i => xs[i]?

/-- A bound of a stretch; nothing stands for the default. -/
def bound? (v : Value) : Except Fault (Option Int) :=
  match v, v.number? with
  | .null, _ => .ok none
  | _, some n => .ok (some n)
  | _, none => .error .badBound

def ofValues (start stop step : Value) : Except Fault Slice := do
  let step := (← bound? step).getD 1
  if step = 0 then throw .zeroStep
  let start ← bound? start
  let stop ← bound? stop
  return ⟨start, stop, step⟩

end Slice

namespace Value

/-- A stretch of a value; a stretch of a sequence is a sequence of the same kind. -/
def slice (v start stop step : Value) : Except Fault Value :=
  match v with
  | .tuple vs => do return .tuple ((← Slice.ofValues start stop step).pick vs)
  | .seq _ vs isString => do
    return .seq .fresh ((← Slice.ofValues start stop step).pick vs) isString
  | .list vs => do return .list ((← Slice.ofValues start stop step).pick vs)
  | .text s => do
    return .text (String.ofList ((← Slice.ofValues start stop step).pick s.toList))
  | .dict _ => .error (.unhashable "slice")
  | .dataClass c => .error (.classNotIndexable c.name)
  | .libraryClass c => .error (.classNotIndexable c.name)
  | _ => .error (.notIndexable v.typeName)

end Value

end Marshal
