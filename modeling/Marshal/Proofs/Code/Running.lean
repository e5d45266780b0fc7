import Marshal.Code.Function
import Marshal.Proofs.Code.Evaluation
import Mathlib.Data.List.Pairwise

/-!
# Running statements

Statements change the values of names, or they fail. How expressions, loops and items of objects are
understood is left open, as long as the value of an expression depends on its free names only. So a
block changes no name that it does not assign, what it does depends on the names that it uses, and
blocks that do not use what the others assign do together what each of them does alone.
-/

namespace Marshal.Code
set_option autoImplicit false

/-- The values of names, as far as they have one. -/
abbrev Locals (V : Type) := String → Option V

/-- A way to understand what statements are made of. -/
structure Interpretation (V : Type) where
  value : Expr → Locals V → Option V
  truth : V → Option Bool
  /-- What a number of variables get from a value, round by round. -/
  rounds : Nat → V → Option (List (List V))
  /-- An object with an item for a key. -/
  put : V → V → V → Option V
  value_name (n : String) (env : Locals V) : value (.name n) env = env n
  value_congr {e : Expr} {env env' : Locals V} :
    (∀ n ∈ e.free, env n = env' n) → value e env = value e env'
  length_of_rounds {count : Nat} {v : V} {rs : List (List V)} :
    rounds count v = some rs → ∀ vs ∈ rs, vs.length = count

namespace Interpretation
open Meaning

def parts (count : Nat) (v : Value) : Option (List Value) :=
  if count = 1 then some [v]
  else (v.items.toOption).bind fun vs => if vs.length = count then some vs else none

theorem length_of_parts {count : Nat} {v : Value} {vs : List Value}
    (h : parts count v = some vs) : vs.length = count := by
  rw [parts] at h
  split at h
  · cases h
    exact Eq.symm ‹count = 1›
  · obtain ⟨ws, -, h⟩ := Option.bind_eq_some_iff.mp h
    split at h
    · cases h
      assumption
    · cases h

/-- The environment of the names that an expression uses. -/
def envOf (order : List Value → List Value) (runtime : String) (e : Expr) (env : Locals Value) :
    Env :=
  ⟨order, runtime, e.free.filterMap fun n => (env n).map fun v => (n, v)⟩

/-- Code without converters of its own, over the values of the library. -/
def plain (order : List Value → List Value) (runtime : String) : Interpretation Value where
  value e env := e.value (envOf order runtime e env)
  truth v := some v.truthy
  rounds count v := (iterate order v).bind fun vs => vs.mapM (parts count)
  put
    | .dict es, k, v => (Value.updated es k v).toOption.map .dict
    | _, _, _ => none
  value_name n env := by
    cases h : env n with
    | some v => simp [Expr.value, Expr.eval, envOf, Expr.free, Env.find?, h]
    | none =>
      simp only [Expr.value, Expr.eval, envOf, Expr.free, Env.find?, List.filterMap_cons, h,
        Option.map_none, List.filterMap_nil, List.lookup_nil]
      split
      · rfl
      · cases Builtin.named? n <;> rfl
  value_congr {e env env'} h := by
    have hlocals : envOf order runtime e env = envOf order runtime e env' := by
      rw [envOf, envOf, List.filterMap_congr fun n hn => by rw [h n hn]]
    rw [hlocals]
  length_of_rounds {count v rs} h vs hvs := by
    obtain ⟨ws, -, hws⟩ := Option.bind_eq_some_iff.mp h
    have hparts := mapM_eq_some_iff.mp hws
    clear h hws
    induction hparts with
    | nil => cases hvs
    | cons hw _ ih =>
      rcases List.mem_cons.mp hvs with rfl | hvs
      · exact length_of_parts hw
      · exact ih hvs

end Interpretation

namespace Locals
variable {V : Type} {env env' : Locals V} {names : List String}

def set (env : Locals V) (x : String) (v : V) : Locals V := fun n => if n = x then some v else env n

theorem set_of_ne {x n : String} (h : n ≠ x) (v : V) : env.set x v n = env n := if_neg h

/-- The values after names were set one after the other. -/
def setEach : Locals V → List (String × V) → Locals V
  | env, [] => env
  | env, (x, v) :: es => (env.set x v).setEach es

theorem setEach_of_not_mem {es : List (String × V)} {n : String} (h : n ∉ es.map (·.1)) :
    env.setEach es n = env n := by
  induction es generalizing env with
  | nil => rfl
  | cons e es ih =>
    rw [List.map_cons, List.mem_cons, not_or] at h
    exact (ih h.2).trans (set_of_ne h.1 e.2)

/-- Two environments give the same values to some names. -/
def SameOn (names : List String) (env env' : Locals V) : Prop := ∀ n ∈ names, env n = env' n

theorem SameOn.symm (h : SameOn names env env') : SameOn names env' env :=
  fun n hn => (h n hn).symm

theorem SameOn.mono (h : SameOn names env env') {names' : List String} (hsub : names' ⊆ names) :
    SameOn names' env env' := fun n hn => h n (hsub hn)

theorem SameOn.set (h : SameOn names env env') (x : String) (v : V) :
    SameOn (x :: names) (env.set x v) (env'.set x v) := by
  intro n hn
  by_cases hx : n = x
  · subst hx
    rw [Locals.set, Locals.set, if_pos rfl, if_pos rfl]
  · rw [set_of_ne hx, set_of_ne hx]
    exact h n (List.mem_of_ne_of_mem hx hn)

theorem SameOn.setEach (h : SameOn names env env') (es : List (String × V)) :
    SameOn (es.map (·.1) ++ names) (env.setEach es) (env'.setEach es) := by
  induction es generalizing names env env' with
  | nil => exact h
  | cons e es ih =>
    refine (ih (h.set e.1 e.2)).mono fun n hn => ?_
    simp only [List.map_cons, List.cons_append, List.mem_cons, List.mem_append] at hn ⊢
    tauto

end Locals

namespace Stmt

open Locals (SameOn)

variable {V : Type} (I : Interpretation V)

mutual
/-- The values after a statement; none if it fails or leaves the function. -/
def run : Stmt → Locals V → Option (Locals V)
  | .assign x e, env => do return env.set x (← I.value e env)
  | .assignItem x k e, env => do
    let object ← env x
    let key ← I.value k env
    let v ← I.value e env
    return env.set x (← I.put object key v)
  | .forEach xs e body, env => do
    let rounds ← I.rounds xs.length (← I.value e env)
    rounds.foldlM (fun env vs => runEach body (env.setEach (xs.zip vs))) env
  | .when e body, env => do
    if ← I.truth (← I.value e env) then runEach body env else return env
  | .ret _, _ | .retCall .., _ | .retDict _, _ | .raise _, _ => none

def runEach : List Stmt → Locals V → Option (Locals V)
  | [], env => some env
  | s :: ss, env => do runEach ss (← s.run env)
end

mutual
/-- The names whose values a statement can change. -/
def changes : Stmt → List String
  | .assign x _ | .assignItem x _ _ => [x]
  | .forEach xs _ body => xs ++ changesEach body
  | .when _ body => changesEach body
  | .ret _ | .retCall .. | .retDict _ | .raise _ => []

def changesEach : List Stmt → List String
  | [] => []
  | s :: ss => s.changes ++ changesEach ss
end

/-- A block that uses given names and what it has assigned; behind it some names are settled. -/
inductive Uses : List String → List Stmt → List String → Prop
  | nil {given : List String} : Uses given [] given
  | assign {given out : List String} {x : String} {e : Expr} {ss : List Stmt}
    (he : e.free ⊆ given) (hss : Uses (x :: given) ss out) : Uses given (.assign x e :: ss) out
  | assignItem {given out : List String} {x : String} {k e : Expr} {ss : List Stmt}
    (hx : x ∈ given) (hk : k.free ⊆ given) (he : e.free ⊆ given) (hss : Uses given ss out) :
    Uses given (.assignItem x k e :: ss) out
  | forEach {given inner out : List String} {xs : List String} {e : Expr} {body ss : List Stmt}
    (he : e.free ⊆ given) (hbody : Uses (xs ++ given) body inner) (hss : Uses given ss out) :
    Uses given (.forEach xs e body :: ss) out
  | when {given inner out : List String} {e : Expr} {body ss : List Stmt}
    (he : e.free ⊆ given) (hbody : Uses given body inner) (hss : Uses given ss out) :
    Uses given (.when e body :: ss) out

variable {I} {given out : List String} {ss ts : List Stmt} {env env' r : Locals V} {n : String}

theorem Uses.subset (h : Uses given ss out) : given ⊆ out := by
  induction h with
  | nil => exact List.Subset.refl _
  | assign _ _ ih => exact List.Subset.trans (List.subset_cons_self _ _) ih
  | assignItem _ _ _ _ ih => exact ih
  | forEach _ _ _ _ ih => exact ih
  | when _ _ _ _ ih => exact ih

theorem runEach_append : runEach I (ss ++ ts) env = (runEach I ss env).bind (runEach I ts) := by
  induction ss generalizing env with
  | nil => rfl
  | cons s ss ih =>
    rw [List.cons_append, runEach, runEach]
    cases s.run I env with
    | none => rfl
    | some e => exact ih

theorem foldlM_frame {α : Type} {f : Locals V → α → Option (Locals V)} {xs : List α}
    (hf : ∀ env x r, f env x = some r → r n = env n) (h : xs.foldlM f env = some r) :
    r n = env n := by
  induction xs generalizing env with
  | nil =>
    cases h
    rfl
  | cons x xs ih =>
    rw [List.foldlM_cons] at h
    obtain ⟨e, he, h⟩ := Option.bind_eq_some_iff.mp h
    exact (ih h).trans (hf _ _ _ he)

mutual
theorem run_frame (s : Stmt) {env r : Locals V} (h : s.run I env = some r) (hn : n ∉ s.changes) :
    r n = env n := by
  cases s with
  | assign x e =>
    obtain ⟨v, -, h⟩ := Option.bind_eq_some_iff.mp h
    cases h
    exact Locals.set_of_ne (fun hx => hn (List.mem_singleton.mpr hx)) v
  | assignItem x k e =>
    obtain ⟨object, -, h⟩ := Option.bind_eq_some_iff.mp h
    obtain ⟨key, -, h⟩ := Option.bind_eq_some_iff.mp h
    obtain ⟨v, -, h⟩ := Option.bind_eq_some_iff.mp h
    obtain ⟨w, -, h⟩ := Option.bind_eq_some_iff.mp h
    cases h
    exact Locals.set_of_ne (fun hx => hn (List.mem_singleton.mpr hx)) w
  | forEach xs e body =>
    rw [changes, List.mem_append, not_or] at hn
    obtain ⟨v, -, h⟩ := Option.bind_eq_some_iff.mp h
    obtain ⟨rounds, -, h⟩ := Option.bind_eq_some_iff.mp h
    refine foldlM_frame (fun env vs r hr => ?_) h
    refine (runEach_frame body hr hn.2).trans (Locals.setEach_of_not_mem fun hx => hn.1 ?_)
    obtain ⟨p, hp, rfl⟩ := List.mem_map.mp hx
    exact (List.of_mem_zip hp).1
  | when e body =>
    obtain ⟨v, -, h⟩ := Option.bind_eq_some_iff.mp h
    obtain ⟨b, -, h⟩ := Option.bind_eq_some_iff.mp h
    split at h
    · exact runEach_frame body h hn
    · cases h
      rfl
  | ret | retCall | retDict | raise => cases h

/-- A block changes no name but those that it assigns. -/
theorem runEach_frame (ss : List Stmt) {env r : Locals V} (h : runEach I ss env = some r)
    (hn : n ∉ changesEach ss) : r n = env n := by
  cases ss with
  | nil =>
    cases h
    rfl
  | cons s ss =>
    rw [changesEach, List.mem_append, not_or] at hn
    obtain ⟨e, he, h⟩ := Option.bind_eq_some_iff.mp h
    exact (runEach_frame ss h hn.2).trans (run_frame s he hn.1)
end

theorem value_eq_of_same {e : Expr} (he : e.free ⊆ given) (h : SameOn given env env') :
    I.value e env = I.value e env' := I.value_congr fun n hn => h n (he hn)

/-- Rounds that depend on some names only, and keep them settled. -/
theorem foldlM_same {α : Type} {f : Locals V → α → Option (Locals V)} {xs : List α}
    (hf : ∀ x ∈ xs, ∀ env env' r, SameOn given env env' → f env x = some r →
      ∃ r', f env' x = some r' ∧ SameOn given r r')
    (hsame : SameOn given env env') (h : xs.foldlM f env = some r) :
    ∃ r', xs.foldlM f env' = some r' ∧ SameOn given r r' := by
  induction xs generalizing env env' with
  | nil =>
    cases h
    exact ⟨env', rfl, hsame⟩
  | cons x xs ih =>
    rw [List.foldlM_cons] at h
    obtain ⟨e, he, h⟩ := Option.bind_eq_some_iff.mp h
    obtain ⟨e', he', hsame'⟩ := hf x List.mem_cons_self _ _ _ hsame he
    obtain ⟨r', hr', hout⟩ := ih (fun y hy => hf y (List.mem_cons_of_mem x hy)) hsame' h
    refine ⟨r', ?_, hout⟩
    rw [List.foldlM_cons, he']
    exact hr'

theorem assign_same {x : String} {e : Expr} (he : e.free ⊆ given) (hsame : SameOn given env env')
    (hr : (Stmt.assign x e).run I env = some r) :
    ∃ r', (Stmt.assign x e).run I env' = some r' ∧ SameOn (x :: given) r r' := by
  obtain ⟨v, hv, hr⟩ := Option.bind_eq_some_iff.mp hr
  cases hr
  rw [value_eq_of_same he hsame] at hv
  refine ⟨env'.set x v, ?_, hsame.set x v⟩
  rw [Stmt.run, hv]
  rfl

theorem assignItem_same {x : String} {k e : Expr} (hx : x ∈ given) (hk : k.free ⊆ given)
    (he : e.free ⊆ given) (hsame : SameOn given env env')
    (hr : (Stmt.assignItem x k e).run I env = some r) :
    ∃ r', (Stmt.assignItem x k e).run I env' = some r' ∧ SameOn given r r' := by
  obtain ⟨object, hobject, hr⟩ := Option.bind_eq_some_iff.mp hr
  obtain ⟨key, hkey, hr⟩ := Option.bind_eq_some_iff.mp hr
  obtain ⟨v, hv, hr⟩ := Option.bind_eq_some_iff.mp hr
  obtain ⟨w, hw, hr⟩ := Option.bind_eq_some_iff.mp hr
  cases hr
  rw [hsame x hx] at hobject
  rw [value_eq_of_same hk hsame] at hkey
  rw [value_eq_of_same he hsame] at hv
  refine ⟨env'.set x w, ?_, (hsame.set x w).mono (List.subset_cons_self _ _)⟩
  rw [Stmt.run, hobject, hkey, hv]
  simp only [Option.bind_eq_bind, Option.bind_some, hw]
  rfl

theorem forEach_same {xs : List String} {e : Expr} {body : List Stmt} (he : e.free ⊆ given)
    (hbody : ∀ {env env' r}, SameOn (xs ++ given) env env' → runEach I body env = some r →
      ∃ r', runEach I body env' = some r' ∧ SameOn given r r')
    (hsame : SameOn given env env') (hr : (Stmt.forEach xs e body).run I env = some r) :
    ∃ r', (Stmt.forEach xs e body).run I env' = some r' ∧ SameOn given r r' := by
  obtain ⟨v, hv, hr⟩ := Option.bind_eq_some_iff.mp hr
  obtain ⟨rounds, hrounds, hr⟩ := Option.bind_eq_some_iff.mp hr
  rw [value_eq_of_same he hsame] at hv
  -- there are as many values in a round as variables, so all variables are settled in it
  have hround : ∀ vs ∈ rounds, ∀ env env' r, SameOn given env env' →
      runEach I body (env.setEach (xs.zip vs)) = some r →
      ∃ r', runEach I body (env'.setEach (xs.zip vs)) = some r' ∧ SameOn given r r' := by
    intro vs hvs env env' r hsame hr
    have hnames : (xs.zip vs).map (·.1) = xs :=
      List.map_fst_zip (Nat.le_of_eq (I.length_of_rounds hrounds vs hvs).symm)
    have hbind := hsame.setEach (xs.zip vs)
    rw [hnames] at hbind
    exact hbody hbind hr
  obtain ⟨r', hr', hout⟩ := foldlM_same hround hsame hr
  refine ⟨r', ?_, hout⟩
  rw [Stmt.run, hv]
  simp only [Option.bind_eq_bind, Option.bind_some, hrounds]
  exact hr'

theorem when_same {e : Expr} {body : List Stmt} (he : e.free ⊆ given)
    (hbody : ∀ {env env' r}, SameOn given env env' → runEach I body env = some r →
      ∃ r', runEach I body env' = some r' ∧ SameOn given r r')
    (hsame : SameOn given env env') (hr : (Stmt.when e body).run I env = some r) :
    ∃ r', (Stmt.when e body).run I env' = some r' ∧ SameOn given r r' := by
  obtain ⟨v, hv, hr⟩ := Option.bind_eq_some_iff.mp hr
  obtain ⟨b, hb, hr⟩ := Option.bind_eq_some_iff.mp hr
  rw [value_eq_of_same he hsame] at hv
  have hrun : (Stmt.when e body).run I env' = if b then runEach I body env' else some env' := by
    rw [Stmt.run, hv]
    simp only [Option.bind_eq_bind, Option.bind_some, hb]
    rfl
  rw [hrun]
  cases b with
  | false =>
    cases hr
    exact ⟨env', rfl, hsame⟩
  | true => exact hbody hsame hr

theorem cons_same {s : Stmt} {settled : List String}
    (hs : ∀ {r}, s.run I env = some r → ∃ r', s.run I env' = some r' ∧ SameOn settled r r')
    (hss : ∀ {env env' r}, SameOn settled env env' → runEach I ss env = some r →
      ∃ r', runEach I ss env' = some r' ∧ SameOn out r r')
    (hr : runEach I (s :: ss) env = some r) :
    ∃ r', runEach I (s :: ss) env' = some r' ∧ SameOn out r r' := by
  obtain ⟨e, he, hr⟩ := Option.bind_eq_some_iff.mp hr
  obtain ⟨e', he', hsame⟩ := hs he
  obtain ⟨r', hr', hout⟩ := hss hsame hr
  refine ⟨r', ?_, hout⟩
  rw [runEach, he']
  exact hr'

/-- What a block does depends on the names that it uses only. -/
theorem Uses.run (h : Uses given ss out) (hsame : SameOn given env env')
    (hr : runEach I ss env = some r) : ∃ r', runEach I ss env' = some r' ∧ SameOn out r r' := by
  induction h generalizing env env' r with
  | nil =>
    cases hr
    exact ⟨env', rfl, hsame⟩
  | assign he _ ih => exact cons_same (assign_same he hsame) ih hr
  | assignItem hx hk he _ ih => exact cons_same (assignItem_same hx hk he hsame) ih hr
  | forEach he hbody _ ihbody ih =>
    refine cons_same (forEach_same he (fun hsame hr => ?_) hsame) ih hr
    obtain ⟨r', hr', hout⟩ := ihbody hsame hr
    exact ⟨r', hr', hout.mono fun n hn => hbody.subset (List.mem_append_right _ hn)⟩
  | when he hbody _ ihbody ih =>
    refine cons_same (when_same he (fun hsame hr => ?_) hsame) ih hr
    obtain ⟨r', hr', hout⟩ := ihbody hsame hr
    exact ⟨r', hr', hout.mono hbody.subset⟩

theorem changesEach_append : changesEach (ss ++ ts) = changesEach ss ++ changesEach ts := by
  induction ss with
  | nil => rfl
  | cons s ss ih => rw [List.cons_append, changesEach, changesEach, ih, List.append_assoc]

theorem changesEach_flatMap {α : Type} {block : α → List Stmt} {xs : List α} :
    changesEach (xs.flatMap block) = xs.flatMap fun x => changesEach (block x) := by
  induction xs with
  | nil => rfl
  | cons x xs ih => rw [List.flatMap_cons, changesEach_append, ih, List.flatMap_cons]

/--
Blocks of which none changes what they are all given, nor what an earlier one has settled.
-/
structure Apart {α : Type} (given : List String) (own : α → List String)
    (block : α → List Stmt) (xs : List α) : Prop where
  uses : ∀ x ∈ xs, Uses given (block x) (own x ++ given)
  kept : ∀ x ∈ xs, ∀ n ∈ changesEach (block x), n ∉ given
  apart : xs.Pairwise fun x y => ∀ n ∈ own x, n ∉ changesEach (block y)

namespace Apart
variable {α : Type} {own : α → List String} {block : α → List Stmt} {x : α} {xs : List α}

theorem tail (h : Apart given own block (x :: xs)) : Apart given own block xs where
  uses y hy := h.uses y (List.mem_cons_of_mem x hy)
  kept y hy := h.kept y (List.mem_cons_of_mem x hy)
  apart := (List.pairwise_cons.mp h.apart).2

theorem same_of_head (h : Apart given own block (x :: xs))
    (hr : runEach I (block x) env = some r) : SameOn given r env := by
  intro n hn
  exact runEach_frame _ hr fun hc => h.kept x List.mem_cons_self n hc hn

/-- Blocks apart settle what each of them settles alone. -/
theorem run (h : Apart given own block xs) (hr : runEach I (xs.flatMap block) env = some r) :
    SameOn given env r ∧ ∀ x ∈ xs, ∃ e, runEach I (block x) env = some e ∧
      SameOn (own x ++ given) e r := by
  induction xs generalizing env with
  | nil =>
    cases hr
    exact ⟨fun _ _ => rfl, nofun⟩
  | cons x xs ih =>
    rw [List.flatMap_cons, runEach_append] at hr
    obtain ⟨e, he, hr⟩ := Option.bind_eq_some_iff.mp hr
    have hsame := h.same_of_head he
    obtain ⟨hgiven, hrest⟩ := ih h.tail hr
    refine ⟨fun n hn => (hsame n hn).symm.trans (hgiven n hn), List.forall_mem_cons.mpr ⟨?_, ?_⟩⟩
    · refine ⟨e, he, fun n hn => ?_⟩
      rcases List.mem_append.mp hn with hn | hn
      · refine (runEach_frame _ hr fun hc => ?_).symm
        rw [changesEach_flatMap] at hc
        obtain ⟨y, hy, hc⟩ := List.mem_flatMap.mp hc
        exact (List.pairwise_cons.mp h.apart).1 y hy n hn hc
      · exact hgiven n hn
    · intro y hy
      obtain ⟨ey, hey, hout⟩ := hrest y hy
      obtain ⟨ey', hey', hout'⟩ := (h.tail.uses y hy).run hsame hey
      exact ⟨ey', hey', fun n hn => (hout' n hn).symm.trans (hout n hn)⟩

/-- Blocks apart succeed together if and only if each of them does alone. -/
theorem exists_run_iff (h : Apart given own block xs) :
    (∃ r, runEach I (xs.flatMap block) env = some r) ↔
      ∀ x ∈ xs, ∃ e, runEach I (block x) env = some e := by
  constructor
  · rintro ⟨r, hr⟩ x hx
    obtain ⟨e, he, -⟩ := (h.run hr).2 x hx
    exact ⟨e, he⟩
  · intro hall
    induction xs generalizing env with
    | nil => exact ⟨env, rfl⟩
    | cons x xs ih =>
      obtain ⟨⟨e, he⟩, hrest⟩ := List.forall_mem_cons.mp hall
      have hsame := (h.same_of_head he).symm
      have htail : ∀ y ∈ xs, ∃ e', runEach I (block y) e = some e' := by
        intro y hy
        obtain ⟨ey, hey⟩ := hrest y hy
        obtain ⟨ey', hey', -⟩ := (h.tail.uses y hy).run hsame hey
        exact ⟨ey', hey'⟩
      obtain ⟨r, hr⟩ := ih h.tail htail
      refine ⟨r, ?_⟩
      rw [List.flatMap_cons, runEach_append, he]
      exact hr

end Apart

end Stmt

end Marshal.Code
