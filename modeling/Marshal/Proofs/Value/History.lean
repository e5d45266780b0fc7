import Marshal.Proofs.Value.Laws

/-!
# Maps by their updates

A map is grown from the empty one by putting values for keys, one after the other. What it holds
depends on the last value that was put for each key, up to equality of keys: that is what is looked
up, and maps are equal if and only if these values are. Only the order of the entries, and which of
equal keys stands for them, tell of the first time that a key was put.
-/

namespace Marshal.Value
set_option autoImplicit false

open Assoc (Proper firsts last?)

variable {h : Heap} {k : Value} {ups : List (Value × Value)}

/-- The map that updates lead to from the empty map of the library. -/
def grow (ups : List (Value × Value)) : Except Fault Value := do
  ups.foldlM (fun m e => m.invoke "update" [e.1, e.2]) (← (Value.libraryClass .map).member "Empty")

/-- Entries sum up updates: they have the first of equal keys, in the order in which these were put
first, each with the value that was put last. -/
structure Sums (ups entries : List (Value × Value)) : Prop where
  keys : entries.map (·.1) = firsts same (ups.map (·.1))
  values : ∀ e ∈ entries, last? same e.1 ups = some e.2

/-- What a map tells is what updates and the entries that sum them up say. -/
structure Tells (h : Heap) (ups entries : List (Value × Value)) (m : Value) : Prop where
  get : ∀ {k v}, Sound h k → last? same k ups = some v → m.invoke "get" [k] = .ok v
  get_missing : ∀ {k}, Sound h k → last? same k ups = none →
    ∃ fault, m.invoke "get" [k] = .error fault ∧ fault.isMissingKey
  contains : ∀ {k}, Sound h k → Answers m k (last? same k ups).isSome
  size : m.size = .ok entries.length
  items : m.member "Items" = .ok (.list (entries.map fun e => .tuple [e.1, e.2]))
  values : m.member "Values" = .ok (.list (entries.map (·.2)))
  keys : ∃ s t, m.member "Keys" = .ok s ∧
    (Value.libraryClass .set).apply [.list (entries.map (·.1))] = .ok t ∧ same s t

theorem member_empty : (Value.libraryClass .map).member "Empty" = .ok emptyMap := by
  rw [member, reflected?_eq_none (by decide), special?_eq_none (by decide) (by decide)]
  rfl

theorem foldlM_update {es : List (Value × Value)} (hes : Proper same (Sound h) es)
    (hups : ∀ e ∈ ups, Sound h e.1) (i : Identity) :
    ∃ j, ups.foldlM (fun m e => m.invoke "update" [e.1, e.2]) (Value.map i es) =
      .ok (.map j (Assoc.putAll same es ups)) := by
  induction ups generalizing es i with
  | nil => exact ⟨i, rfl⟩
  | cons e ups ih =>
    obtain ⟨he, hups⟩ := List.forall_mem_cons.mp hups
    rw [List.foldlM_cons, invoke_update_eq hes.keys he]
    exact ih (hes.put he e.2) hups .fresh

theorem grow_eq (hups : ∀ e ∈ ups, Sound h e.1) :
    ∃ i, grow ups = .ok (.map i (Assoc.putAll same [] ups)) := by
  rw [grow, member_empty]
  exact foldlM_update .nil hups .empty

section Grown
variable (hups : ∀ e ∈ ups, Sound h e.1)
include hups

theorem proper_grown : Proper same (Sound h) (Assoc.putAll same [] ups) := .putAll .nil hups

theorem find?_grown (hk : Sound h k) :
    Assoc.find? same k (Assoc.putAll same [] ups) = last? same k ups := by
  have hnil : Proper same (Sound h) ([] : List (Value × Value)) := .nil
  rw [Assoc.find?_putAll_of_equivalence (equivalence h) hk hnil.keys hups]
  exact Option.or_none

theorem sums_grown : Sums ups (Assoc.putAll same [] ups) where
  keys := by
    rw [Assoc.map_fst_putAll,
      Assoc.distinct_eq_firsts (equivalence h) (List.forall_mem_map.mpr hups)]
  values e he := by
    have hkey := (proper_grown hups).keys e he
    rw [← find?_grown hups hkey]
    exact (proper_grown hups).find?_of_eq (equivalence h) hkey he ((equivalence h).refl hkey)

theorem tells_grown (i : Identity) :
    Tells h ups (Assoc.putAll same [] ups) (.map i (Assoc.putAll same [] ups)) := by
  have hproper := proper_grown hups
  have hcurrent : ∀ e ∈ Assoc.putAll same [] ups, e.1.current = e.1 := fun e he =>
    current_of_not_moved (hproper.keys e he).unmoved
  constructor
  case get =>
    intro k v hk hlast
    rw [invoke_get, lookup_eq_find? hproper.keys hk, find?_grown hups hk, hlast]
  case get_missing =>
    intro k hk hlast
    rw [invoke_get, lookup_eq_find? hproper.keys hk, find?_grown hups hk, hlast]
    exact ⟨_, rfl, isMissingKey_missing k⟩
  case contains =>
    intro k hk
    rw [← find?_grown hups hk]
    exact answers_map hproper.keys hk
  case size => rfl
  case items =>
    have hitems : ∀ e ∈ Assoc.putAll same [] ups,
        Value.tuple [e.1.current, e.2] = .tuple [e.1, e.2] := fun e he => by rw [hcurrent e he]
    rw [member_map (by decide) (by decide) rfl, List.map_congr_left hitems]
  case values => rw [member_map (by decide) (by decide) rfl]
  case keys =>
    have hkeys : ∀ k ∈ (Assoc.putAll same [] ups).map (·.1), Sound h k :=
      List.forall_mem_map.mpr hproper.keys
    -- the set of the keys is built from them, as any other set of them is
    have hset : Sound h (.set .fresh (firsts same ((Assoc.putAll same [] ups).map (·.1)))) :=
      .set hkeys trivial
    refine ⟨_, _, ?_, setOfMembers_eq_firsts hkeys, (equivalence h).refl hset⟩
    rw [member_map (by decide) (by decide) rfl, List.map_congr_left hcurrent,
      Assoc.distinct_eq_firsts (equivalence h) hkeys]

end Grown

/-- Updates lead to a map that tells of the last value for each key, and those that lead to an equal
map are the ones with equal last values for equal keys. -/
theorem last_update_wins (hups : ∀ e ∈ ups, Sound h e.1) :
    ∃ m entries, grow ups = .ok m ∧ Sums ups entries ∧ Tells h ups entries m ∧
      ∀ ups', (∀ e ∈ ups', Sound h e.1) → ∃ m', grow ups' = .ok m' ∧
        (same m m' ↔
          ∀ k, Sound h k → Option.Rel Equal (last? same k ups) (last? same k ups')) := by
  obtain ⟨i, hgrow⟩ := grow_eq hups
  refine ⟨_, _, hgrow, sums_grown hups, tells_grown hups i, fun ups' hups' => ?_⟩
  obtain ⟨j, hgrow'⟩ := grow_eq hups'
  refine ⟨_, hgrow', ?_⟩
  rw [same_map_iff (proper_grown hups) (proper_grown hups')]
  refine forall₂_congr fun k hk => ?_
  rw [find?_grown hups hk, find?_grown hups' hk]

def bareHeap : Heap := ⟨fun _ => .null, fun _ => default⟩

/-- The truth value and the number are one key, the texts as sequences of characters another. -/
def mixedUpdates : List (Value × Value) :=
  [(.bool true, .text "a"), (.seq .fresh [.text "x"] true, .text "b"), (.int 1, .text "c")]

theorem sound_mixedUpdates : ∀ e ∈ mixedUpdates, Sound bareHeap e.1 := by
  have htext : ∀ v ∈ [Value.text "x"], Built bareHeap v := by simpa using .text "x"
  have hseq : Built bareHeap (.seq .fresh [.text "x"] true) := .seq htext .fresh true trivial
  simpa [mixedUpdates] using ⟨(Built.bool true).sound, hseq.sound, (Built.int 1).sound⟩

theorem last_update_wins_mixed : ∃ m, ∃ entries : List (Value × Value), grow mixedUpdates = .ok m ∧
    entries.map (·.1) = [.bool true, .seq .fresh [.text "x"] true] ∧
    m.invoke "get" [.bool true] = .ok (.text "c") ∧
    m.member "Items" = .ok (.list (entries.map fun e => .tuple [e.1, e.2])) := by
  obtain ⟨m, entries, hgrow, hsums, htells, -⟩ := last_update_wins sound_mixedUpdates
  exact ⟨m, entries, hgrow, hsums.keys, htells.get (Built.bool true).sound rfl, htells.items⟩

end Marshal.Value
