import Marshal.Closure.GenerationSet
import Marshal.Proofs.Assoc
import Marshal.Proofs.Closure.Reachable
import Marshal.Proofs.Report

/-!
# What a generation set is made of

For every reachable name one definition is kept: the last root of that name, or else the first
definition outside the root module. Resolution fails at the first definition that does not agree
with the one that is kept; otherwise the kept definitions follow the roots, and all others are
merged.
-/

namespace Marshal
set_option autoImplicit false

def rootNamed? (roots : List Definition) (name : String) : Option Definition :=
  (roots.filter (·.name == name)).getLast?

namespace Catalog

def candidates (c : Catalog) (rootModule name : String) : List Definition :=
  (c.lookup name).filter (·.moduleName != rootModule)

def kept? (c : Catalog) (rootModule : String) (roots : List Definition) (name : String) :
    Option Definition :=
  (rootNamed? roots name).or (c.candidates rootModule name).head?

def added? (c : Catalog) (rootModule : String) (roots : List Definition) (name : String) :
    Option Definition :=
  match rootNamed? roots name with
  | some _ => none
  | none => (c.candidates rootModule name).head?

def dropped (c : Catalog) (rootModule : String) (roots : List Definition) (name : String) :
    List Definition :=
  match rootNamed? roots name with
  | some _ => c.candidates rootModule name
  | none => (c.candidates rootModule name).tail

def merges (c : Catalog) (rootModule : String) (roots : List Definition) (name : String) :
    List MergeNote :=
  match c.kept? rootModule roots name with
  | some kept => (c.dropped rootModule roots name).map (⟨·, kept⟩)
  | none => []

/-- The definitions of a name that do not agree with the one that is kept. -/
def conflicts (c : Catalog) (rootModule : String) (roots : List Definition) (name : String) :
    List Ambiguity :=
  match c.kept? rootModule roots name with
  | some kept =>
    ((c.candidates rootModule name).filter (!kept.sameStructure ·)).map
      fun d => ⟨name, kept.moduleName, d.moduleName⟩
  | none => []

end Catalog

theorem agree_refl {α : Type} {same : α → α → Bool} {as : List α} (h : ∀ a ∈ as, same a a) :
    agree same as as := by
  induction as with
  | nil => rfl
  | cons a as ih =>
    rw [agree, h a List.mem_cons_self, ih fun b hb => h b (List.mem_cons_of_mem a hb)]
    rfl

theorem Variant.sameStructure_refl (v : Variant) : v.sameStructure v := by
  have hfields : agree Field.sameStructure v.fields v.fields :=
    agree_refl fun f _ => by simp [Field.sameStructure]
  simp [sameStructure, hfields]

/-- Every definition agrees with itself. -/
theorem Definition.sameStructure_refl (d : Definition) : d.sameStructure d :=
  agree_refl fun v _ => v.sameStructure_refl

namespace Resolution

variable {rootModule name : String} {rootsByName : List (String × Definition)} {s : Resolution}

theorem foldlM_outcome_cons (d : Definition) (ds : List Definition) :
    ((d :: ds).foldlM (take rootModule rootsByName name) s).outcome =
      (take rootModule rootsByName name s d).outcome >>= fun s' =>
        (ds.foldlM (take rootModule rootsByName name) s').outcome := by
  rw [List.foldlM_cons, Report.outcome_bind]

theorem foldlM_take_filter (ds : List Definition) :
    (ds.foldlM (take rootModule rootsByName name) s).outcome =
      ((ds.filter (·.moduleName != rootModule)).foldlM (take rootModule rootsByName name)
        s).outcome := by
  induction ds generalizing s with
  | nil => rfl
  | cons d ds ih =>
    rw [foldlM_outcome_cons]
    cases hd : d.moduleName == rootModule with
    | true =>
      rw [List.filter_cons_of_neg (by simp [bne, hd]), ← ih, take, if_pos hd]
      rfl
    | false =>
      rw [List.filter_cons_of_pos (by simp [bne, hd]), foldlM_outcome_cons]
      simp only [ih]

theorem foldlM_take_of_existing {kept : Definition} {ds : List Definition}
    (hds : ∀ d ∈ ds, d.moduleName ≠ rootModule) (hs : s.existing? rootsByName name = some kept) :
    (ds.foldlM (take rootModule rootsByName name) s).outcome =
      match ds.filter (!kept.sameStructure ·) with
      | d :: _ => .error ⟨name, kept.moduleName, d.moduleName⟩
      | [] => .ok { s with merged := s.merged ++ ds.map (⟨·, kept⟩) } := by
  induction ds generalizing s with
  | nil => simp
  | cons d ds ih =>
    have hd : (d.moduleName == rootModule) = false := by simpa using hds d List.mem_cons_self
    rw [foldlM_outcome_cons, take, hd, hs]
    cases hsame : kept.sameStructure d with
    | true =>
      have hrest := ih (fun e he => hds e (List.mem_cons_of_mem d he)) (s := s.merge ⟨d, kept⟩) hs
      rw [List.filter_cons_of_neg (by simp [hsame])]
      simpa [hsame, bind, Except.bind, merge] using hrest
    | false =>
      rw [List.filter_cons_of_pos (by simp [hsame])]
      simp [hsame, bind, Except.bind]

theorem existing?_accept {d : Definition}
    (hroot : Assoc.find? (· == ·) name rootsByName = none) :
    (s.accept name d).existing? rootsByName name = some d := by
  rw [existing?, hroot]
  exact Assoc.find?_put_self name d s.acceptedByName

theorem foldlM_take_of_new {d : Definition} {ds : List Definition}
    (hds : ∀ e ∈ d :: ds, e.moduleName ≠ rootModule)
    (hroot : Assoc.find? (· == ·) name rootsByName = none)
    (hs : Assoc.find? (· == ·) name s.acceptedByName = none) :
    ((d :: ds).foldlM (take rootModule rootsByName name) s).outcome =
      match ds.filter (!d.sameStructure ·) with
      | e :: _ => .error ⟨name, d.moduleName, e.moduleName⟩
      | [] => .ok { s.accept name d with merged := s.merged ++ ds.map (⟨·, d⟩) } := by
  have hd : (d.moduleName == rootModule) = false := by simpa using hds d List.mem_cons_self
  have hnone : s.existing? rootsByName name = none := by rw [existing?, hroot]; exact hs
  have htake : (take rootModule rootsByName name s d).outcome = .ok (s.accept name d) := by
    rw [take, hd, hnone]
    rfl
  rw [foldlM_outcome_cons, htake]
  exact foldlM_take_of_existing (fun e he => hds e (List.mem_cons_of_mem d he))
    (existing?_accept hroot)

end Resolution

namespace Catalog

variable {c : Catalog} {rootModule name : String} {roots : List Definition}
  {rootsByName : List (String × Definition)} {s : Resolution}

/-- The state after a name whose definitions agree. -/
def settled (c : Catalog) (rootModule : String) (roots : List Definition) (s : Resolution)
    (name : String) : Resolution where
  accepted := s.accepted ++ (c.added? rootModule roots name).toList
  acceptedByName := match c.added? rootModule roots name with
    | some d => Assoc.put (· == ·) name d s.acceptedByName
    | none => s.acceptedByName
  merged := s.merged ++ c.merges rootModule roots name

theorem moduleName_of_candidates {d : Definition} (h : d ∈ c.candidates rootModule name) :
    d.moduleName ≠ rootModule := by
  simpa using List.of_mem_filter h

/-- What becomes of a name that no accepted definition has yet. -/
theorem settle_outcome (hroot : Assoc.find? (· == ·) name rootsByName = rootNamed? roots name)
    (hs : Assoc.find? (· == ·) name s.acceptedByName = none) :
    (c.settle rootModule rootsByName s name).outcome =
      match c.conflicts rootModule roots name with
      | a :: _ => .error a
      | [] => .ok (c.settled rootModule roots s name) := by
  have hmodule := fun d => @moduleName_of_candidates c rootModule name d
  have hlookup : (c.lookup name).filter (·.moduleName != rootModule) =
      c.candidates rootModule name := rfl
  rw [settle, Resolution.foldlM_take_filter, hlookup, conflicts, settled, merges, kept?, dropped,
    added?]
  cases hr : rootNamed? roots name with
  | some kept =>
    have hkept : s.existing? rootsByName name = some kept := by
      rw [Resolution.existing?, hroot, hr]
    rw [Resolution.foldlM_take_of_existing hmodule hkept]
    cases h : (c.candidates rootModule name).filter (!kept.sameStructure ·) <;> simp [h]
  | none =>
    rw [hr] at hroot
    cases hc : c.candidates rootModule name with
    | nil => simp
    | cons d ds =>
      rw [hc] at hmodule
      rw [Resolution.foldlM_take_of_new hmodule hroot hs]
      have hd : (d :: ds).filter (!d.sameStructure ·) = ds.filter (!d.sameStructure ·) :=
        List.filter_cons_of_neg (by simp [d.sameStructure_refl])
      cases h : ds.filter (!d.sameStructure ·) <;> simp [hd, h, Resolution.accept]

theorem find?_settled {k : String} (h : k ≠ name) :
    Assoc.find? (· == ·) k (c.settled rootModule roots s name).acceptedByName =
      Assoc.find? (· == ·) k s.acceptedByName := by
  rw [settled]
  cases c.added? rootModule roots name with
  | none => rfl
  | some d => exact Assoc.find?_put_of_ne (Ne.symm h) d s.acceptedByName

theorem foldlM_settle_outcome
    (hroots : ∀ n, Assoc.find? (· == ·) n rootsByName = rootNamed? roots n) {names : List String}
    (hn : names.Nodup) (hs : ∀ n ∈ names, Assoc.find? (· == ·) n s.acceptedByName = none) :
    (names.foldlM (c.settle rootModule rootsByName) s).outcome =
      match names.flatMap (c.conflicts rootModule roots) with
      | a :: _ => .error a
      | [] => .ok (names.foldl (c.settled rootModule roots) s) := by
  induction names generalizing s with
  | nil => rfl
  | cons n names ih =>
    obtain ⟨hnotin, hn⟩ := List.nodup_cons.mp hn
    rw [List.foldlM_cons, Report.outcome_bind,
      settle_outcome (hroots n) (hs n List.mem_cons_self), List.flatMap_cons]
    cases c.conflicts rootModule roots n with
    | cons a as => rfl
    | nil =>
      refine ih hn fun k hk => ?_
      rw [find?_settled (ne_of_mem_of_not_mem hk hnotin)]
      exact hs k (List.mem_cons_of_mem n hk)

theorem foldl_settled_accepted (names : List String) (s : Resolution) :
    (names.foldl (c.settled rootModule roots) s).accepted =
      s.accepted ++ names.filterMap (c.added? rootModule roots) := by
  induction names generalizing s with
  | nil => simp
  | cons n names ih =>
    rw [List.foldl_cons, ih, settled]
    cases h : c.added? rootModule roots n <;> simp [h]

theorem foldl_settled_merged (names : List String) (s : Resolution) :
    (names.foldl (c.settled rootModule roots) s).merged =
      s.merged ++ names.flatMap (c.merges rootModule roots) := by
  induction names generalizing s with
  | nil => simp
  | cons n names ih => simp [ih, settled]

theorem find?_rootsByName (roots : List Definition) (n : String) :
    Assoc.find? (· == ·) n (Assoc.putAll (· == ·) [] (roots.map fun d => (d.name, d))) =
      rootNamed? roots n := by
  rw [Assoc.find?_putAll, rootNamed?, List.filter_map, List.getLast?_map, Option.map_map]
  simp [Function.comp_def]

theorem resolveFrom_outcome (c : Catalog) (rootModule : String) (definitions : List Definition)
    (signatures : List Signature) :
    let roots := definitions.filter (·.moduleName == rootModule)
    let names := c.reachable roots signatures
    (c.resolveFrom rootModule definitions signatures).outcome =
      match names.flatMap (c.conflicts rootModule roots) with
      | a :: _ => .error a
      | [] => .ok ⟨rootModule, roots ++ names.filterMap (c.added? rootModule roots),
          names.flatMap (c.merges rootModule roots)⟩ := by
  intro roots names
  have hrun : (names.foldlM (c.settle rootModule (Assoc.putAll (· == ·) []
      (roots.map fun d => (d.name, d)))) .start).outcome = _ :=
    foldlM_settle_outcome (find?_rootsByName roots) nodup_reachable fun n _ => rfl
  rw [resolveFrom, Report.outcome_bind, Report.outcome_tell]
  change (_ >>= _ : Report Ambiguity GenerationSet).outcome = _
  rw [Report.outcome_bind, hrun]
  cases names.flatMap (c.conflicts rootModule roots) with
  | cons a as => rfl
  | nil =>
    have hset : (names.foldl (c.settled rootModule roots) .start).accepted = _ ∧
        (names.foldl (c.settled rootModule roots) .start).merged = _ :=
      ⟨foldl_settled_accepted names .start, foldl_settled_merged names .start⟩
    simp only [Resolution.start, List.nil_append] at hset
    simp only [bind, Except.bind, Report.outcome_pure, Resolution.start, hset.1, hset.2]
    rfl

theorem conflicts_ne_nil {n : String} :
    c.conflicts rootModule roots n ≠ [] ↔ ∃ kept, c.kept? rootModule roots n = some kept ∧
      ∃ d ∈ c.candidates rootModule n, kept.sameStructure d = false := by
  rw [conflicts]
  cases c.kept? rootModule roots n with
  | none => simp
  | some kept => simp

/--
Resolution fails exactly if some definition of a reachable name does not agree with the one that is
kept, and it reports the first of these. Otherwise the roots are followed by what the names add, and
all definitions that are dropped are merged with the ones that are kept.
-/
theorem resolve_outcome (c : Catalog) (definitions : List Definition) (signatures : List Signature)
    (rootModule : Option String) :
    let m := rootModule.getD (firstModule definitions)
    let roots := definitions.filter (·.moduleName == m)
    let names := c.reachable roots signatures
    ((∃ a, (c.resolve definitions signatures rootModule).outcome = .error a) ↔
        ∃ n ∈ names, ∃ kept, c.kept? m roots n = some kept ∧
          ∃ d ∈ c.candidates m n, kept.sameStructure d = false) ∧
      (c.resolve definitions signatures rootModule).outcome =
        match names.flatMap (c.conflicts m roots) with
        | a :: _ => .error a
        | [] => .ok ⟨m, roots ++ names.filterMap (c.added? m roots),
            names.flatMap (c.merges m roots)⟩ := by
  intro m roots names
  have hout : (c.resolve definitions signatures rootModule).outcome = _ :=
    resolveFrom_outcome c m definitions signatures
  refine ⟨?_, hout⟩
  have hconflict : (∃ n ∈ names, ∃ kept, c.kept? m roots n = some kept ∧
      ∃ d ∈ c.candidates m n, kept.sameStructure d = false) ↔
      names.flatMap (c.conflicts m roots) ≠ [] := by
    rw [Ne, List.flatMap_eq_nil_iff]
    push Not
    simp only [← conflicts_ne_nil, Ne]
  rw [hconflict, hout]
  change (∃ a, (match names.flatMap (c.conflicts m roots) with
    | a :: _ => Except.error a
    | [] => _) = Except.error a) ↔ _
  cases names.flatMap (c.conflicts m roots) with
  | nil => simp
  | cons a as => simp

end Catalog

end Marshal
