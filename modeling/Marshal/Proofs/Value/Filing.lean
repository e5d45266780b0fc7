import Mathlib.Data.List.Perm.Basic
import Marshal.Proofs.Value.Equality

/-!
# Filing of equal values

Sets and maps look for a value among those that are filed under its number. This finds every value
that equals it, since equal values are filed under one number: that of a sequence is made from those
of its items, that of a set or a map from those of its members or entries in any order.
-/

namespace Marshal
set_option autoImplicit false

open Assoc (EquivalenceOn)

theorem Filing.ofMembers_perm {ns ns' : List UInt64} (h : ns.Perm ns') :
    Filing.ofMembers ns = Filing.ofMembers ns' := by
  have hfold : (ns.map Filing.scatter).foldl (· ^^^ ·) 0 =
      (ns'.map Filing.scatter).foldl (· ^^^ ·) 0 := (h.map Filing.scatter).foldl_eq 0
  rw [Filing.ofMembers, Filing.ofMembers, hfold, h.length_eq]

section Gathering
variable {α β : Type} {f : α → Option β}

theorem exists_mapM_of_perm {xs ys : List α} (h : xs.Perm ys) :
    ∀ {ns}, xs.mapM f = some ns → ∃ ns', ys.mapM f = some ns' ∧ ns.Perm ns' := by
  induction h with
  | nil => exact fun hns => ⟨_, hns, .refl _⟩
  | @cons x xs ys _ ih =>
    intro ns hns
    simp only [List.mapM_cons, Option.bind_eq_bind, Option.bind_eq_some_iff, Option.pure_def,
      Option.some.injEq] at hns ⊢
    obtain ⟨n, hn, ms, hms, rfl⟩ := hns
    obtain ⟨ms', hms', hperm⟩ := ih hms
    exact ⟨n :: ms', ⟨n, hn, ms', hms', rfl⟩, hperm.cons n⟩
  | swap x y xs =>
    intro ns hns
    simp only [List.mapM_cons, Option.bind_eq_bind, Option.bind_eq_some_iff, Option.pure_def,
      Option.some.injEq] at hns ⊢
    obtain ⟨n, hn, _, ⟨m, hm, ms, hms, rfl⟩, rfl⟩ := hns
    exact ⟨m :: n :: ms, ⟨m, hm, _, ⟨n, hn, ms, hms, rfl⟩, rfl⟩, .swap m n ms⟩
  | trans _ _ ih ih' =>
    intro ns hns
    obtain ⟨ns', hns', hperm⟩ := ih hns
    obtain ⟨ns'', hns'', hperm'⟩ := ih' hns'
    exact ⟨ns'', hns'', hperm.trans hperm'⟩

/-- What is made of gathered numbers in any order depends on no order. -/
theorem map_mapM_of_perm {γ : Type} {g : List β → γ} (hg : ∀ {ns ns'}, ns.Perm ns' → g ns = g ns')
    {xs ys : List α} (h : xs.Perm ys) : (xs.mapM f).map g = (ys.mapM f).map g := by
  cases hx : xs.mapM f with
  | some ns =>
    obtain ⟨ns', hy, hperm⟩ := exists_mapM_of_perm h hx
    rw [hy, Option.map_some, Option.map_some, hg hperm]
  | none =>
    cases hy : ys.mapM f with
    | none => rfl
    | some ns =>
      obtain ⟨ns', hx', -⟩ := exists_mapM_of_perm h.symm hy
      rw [hx] at hx'
      cases hx'

theorem mapM_congr_of_forall₂ {xs ys : List α} (h : List.Forall₂ (fun x y => f x = f y) xs ys) :
    xs.mapM f = ys.mapM f := by
  induction h with
  | nil => rfl
  | cons hxy _ ih => rw [List.mapM_cons, List.mapM_cons, hxy, ih]

end Gathering

namespace Value

def entryNumber? (e : Value × Value) : Option UInt64 := do
  return Filing.ofItems [← filingNumber? e.1, ← filingNumber? e.2]

theorem filingNumbers?_eq (vs : List Value) : filingNumbers? vs = vs.mapM filingNumber? := by
  induction vs with
  | nil => rfl
  | cons v vs ih => rw [filingNumbers?, ih, List.mapM_cons]

theorem entryNumbers?_eq {es : List (Value × Value)} (h : ∀ e ∈ es, e.1.isMoved = false) :
    entryNumbers? es = es.mapM entryNumber? := by
  induction es with
  | nil => rfl
  | cons e es ih =>
    obtain ⟨k, v⟩ := e
    obtain ⟨hk, hes⟩ := List.forall_mem_cons.mp h
    rw [List.mapM_cons, ← ih hes]
    cases k with
    | moved => cases hk
    | _ => simp [entryNumbers?, entryNumber?, Option.bind_assoc]

end Value

namespace Content

def number? : Content → Option UInt64
  | .items vs => (vs.mapM Value.filingNumber?).map Filing.ofItems
  | .members vs => (vs.mapM Value.filingNumber?).map Filing.ofMembers
  | .entries es => (es.mapM Value.entryNumber?).map Filing.ofMembers
  | .owner _ => none

end Content

namespace Label

def number? (h : Heap) (content : Option UInt64) : Label → Option UInt64
  | .number n => some (Filing.ofInt n)
  | .text s => some (Filing.settled (Text.filingNumber s))
  | .tuple | .seq | .set | .frozen | .map => content
  | .data serial variant => do
    let name := Filing.settled (Text.filingNumber (h.dataClass serial).name)
    return Filing.ofItems [name, Filing.settled (Text.filingNumber variant), ← content]
  | _ => none

end Label

namespace Value
variable {h : Heap} {v w : Value}

theorem Sound.filingNumber?_eq (hv : Sound h v) :
    v.filingNumber? = v.label.number? h v.content.number? := by
  cases v with
  | list | dict | moved => cases hv.fits.steady
  | tuple vs | seq _ vs _ | set _ vs | frozen vs =>
    simp only [filingNumber?, filingNumbers?_eq, label, Label.number?, content, Content.number?]
  | map _ es =>
    have hunmoved : ∀ e ∈ es, e.1.isMoved = false := fun e he =>
      (hv.of_mem (Content.key_mem_values he)).unmoved
    simp only [filingNumber?, entryNumbers?_eq hunmoved, label, Label.number?, content,
      Content.number?]
  | data _ c variant vs =>
    have hknown : h.dataClass c.serial = c := hv.fits.known c rfl
    simp only [filingNumber?, filingNumbers?_eq, label, Label.number?, content, Content.number?,
      hknown]
    cases vs.mapM filingNumber? <;> rfl
  | _ => rfl

end Value

namespace Content
variable {h : Heap} {a b : Content}

open Value (Sound same filingNumber?)

theorem number?_congr (ha : ∀ v ∈ a.values, Sound h v) (hb : ∀ v ∈ b.values, Sound h v)
    (happart : a.Apart) (hmatch : a.Match b)
    (ih : ∀ v ∈ a.values, ∀ w ∈ b.values, same v w → v.filingNumber? = w.filingNumber?) :
    a.number? = b.number? := by
  cases a <;> cases b <;> try exact False.elim hmatch
  case items.items as bs =>
    have hnumbers := mapM_congr_of_forall₂ (forall₂_imp_of_mem hmatch ih)
    rw [number?, number?, hnumbers]
  case members.members as bs =>
    obtain ⟨bs', (hperm : bs'.Perm bs), hmatch⟩ :=
      exists_perm_members (Value.equivalence h) ha hb happart hmatch
    have hnumbers : as.mapM filingNumber? = bs'.mapM filingNumber? :=
      mapM_congr_of_forall₂ (forall₂_imp_of_mem hmatch fun v hv w hw =>
        ih v hv w (hperm.mem_iff.mp hw))
    rw [number?, number?, hnumbers, map_mapM_of_perm Filing.ofMembers_perm hperm]
  case entries.entries as bs =>
    obtain ⟨bs', hperm, hmatch⟩ := exists_perm_entries (Value.equivalence h)
      ⟨fun _ he => ha _ (key_mem_values he), happart⟩ (fun _ he => hb _ (key_mem_values he)) hmatch
    have hentry : ∀ d ∈ as, ∀ e ∈ bs', same d.1 e.1 ∧ same d.2 e.2 →
        Value.entryNumber? d = Value.entryNumber? e := by
      intro d hd e he hde
      have he := hperm.mem_iff.mp he
      have hkey := ih _ (key_mem_values hd) _ (key_mem_values he) hde.1
      have hvalue := ih _ (value_mem_values hd) _ (value_mem_values he) hde.2
      rw [Value.entryNumber?, Value.entryNumber?, hkey, hvalue]
    have hnumbers := mapM_congr_of_forall₂ (forall₂_imp_of_mem hmatch hentry)
    rw [number?, number?, hnumbers, map_mapM_of_perm Filing.ofMembers_perm hperm]
  case owner.owner => rfl

end Content

namespace Value
variable {h : Heap} {v w : Value}

/-- Equal values are filed under one number. -/
theorem Sound.filingNumber?_congr (hv : Sound h v) (hw : Sound h w) (hsame : same v w) :
    v.filingNumber? = w.filingNumber? := by
  induction hv generalizing w with
  | @intro v fits parts ih =>
    have hv : Sound h v := .intro fits parts
    obtain ⟨hlabel, hmatch⟩ := (hv.same_iff hw).mp hsame
    rw [hv.filingNumber?_eq, hw.filingNumber?_eq, hlabel,
      Content.number?_congr (fun x hx => hv.of_mem hx) (fun x hx => hw.of_mem hx) fits.apart hmatch
        fun x hx y hy => ih x hx (hw.of_mem hy)]

end Value

end Marshal
