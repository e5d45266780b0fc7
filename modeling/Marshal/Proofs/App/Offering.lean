import Marshal.Proofs.Generated.Globals

/-!
# What the App class offers

A name goes to the first candidate that no barrier holds back. A barrier stands where a function has
the name of a constructor, or where the action or the model claims the name of a wrapper; so
whatever is held back, something else gets the name.
-/

namespace Marshal.App
set_option autoImplicit false

open Code (Function)
open Naming (accessorName identifier)

variable {a : App} {taken : List String} {n : String}

/-- A candidate is kept, and its name is taken from then on, or nothing changes. -/
theorem rule_cases (taken : List String) (c : Candidate) :
    (c.barrier = none ∧ c.name ∉ taken ∧ (rule taken c).kept? = some c.function ∧
        takenAfter taken c = taken ++ [c.name]) ∨
      ((c.barrier = none → c.name ∈ taken) ∧ (rule taken c).kept? = none ∧
        takenAfter taken c = taken) := by
  unfold takenAfter rule
  cases hb : c.barrier with
  | some e => exact Or.inr ⟨nofun, rfl, rfl⟩
  | none =>
    by_cases hc : c.name ∈ taken
    · exact Or.inr ⟨fun _ => hc, by simp [hc, Ruling.kept?], by simp [hc, Ruling.kept?]⟩
    · exact Or.inl ⟨rfl, hc, by simp [hc, Ruling.kept?], by simp [hc, Ruling.kept?]⟩

/-- The first candidate for a name that no barrier holds back. -/
def first? (n : String) (cs : List Candidate) : Option Candidate :=
  cs.find? fun c => c.barrier.isNone && c.name == n

theorem first?_append (n : String) (cs ds : List Candidate) :
    first? n (cs ++ ds) = (first? n cs).or (first? n ds) := List.find?_append

/-- Of the candidates for a name that is not taken yet, the first one without a barrier is kept. -/
theorem kept_named {cs : List Candidate} (hcs : ∀ c ∈ cs, c.function.name = c.name)
    (taken : List String) (n : String) :
    ((rulings taken cs).filterMap (·.kept?)).filter (·.name == n) =
      if n ∈ taken then [] else ((first? n cs).map (·.function)).toList := by
  induction cs generalizing taken with
  | nil => simp [rulings, first?]
  | cons c cs ih =>
    have hc : c.function.name = c.name := hcs c List.mem_cons_self
    have ih := ih fun d hd => hcs d (List.mem_cons_of_mem c hd)
    rw [rulings, List.filterMap_cons]
    rcases rule_cases taken c with ⟨hb, hfree, hkept, htaken⟩ | ⟨hb, hkept, htaken⟩
    · rw [hkept, htaken]
      by_cases hn : c.name = n
      · -- from here on the name is taken, so nothing else is kept for it
        subst n
        simp [ih, hc, hb, hfree, first?]
      · simp [ih, hc, hb, hn, Ne.symm hn, first?]
    · rw [hkept, htaken]
      refine (ih taken).trans ?_
      by_cases hmem : n ∈ taken
      · rw [if_pos hmem, if_pos hmem]
      · have hpass : (c.barrier.isNone && c.name == n) = false := by
          apply Bool.eq_false_iff.mpr
          intro h
          obtain ⟨hnone, hname⟩ := Bool.and_eq_true_iff.mp h
          apply hmem
          exact eq_of_beq hname ▸ hb (Option.isNone_iff_eq_none.mp hnone)
        rw [if_neg hmem, if_neg hmem, first?, first?, List.find?_cons_of_neg (by simp [hpass])]

theorem rulings_append (taken : List String) (cs ds : List Candidate) :
    rulings taken (cs ++ ds) = rulings taken cs ++ rulings (cs.foldl takenAfter taken) ds := by
  induction cs generalizing taken with
  | nil => rfl
  | cons c cs ih => simp only [List.cons_append, rulings, List.foldl_cons, ih]

/-- Names are given away over all sections, as if they were one. -/
theorem ruleAll_flatMap (taken : List String) (sections : List (String × List Candidate)) :
    (ruleAll taken sections).flatMap (·.2) = rulings taken (sections.flatMap (·.2)) := by
  induction sections generalizing taken with
  | nil => rfl
  | cons s sections ih => rw [ruleAll, List.flatMap_cons, List.flatMap_cons, ih, rulings_append]

theorem members_eq (a : App) :
    a.members = (rulings [] (a.candidates.flatMap (·.2))).filterMap (·.kept?) := by
  have hnonempty (ss : List Section) :
      (ss.filter (!·.members.isEmpty)).flatMap (·.members) = ss.flatMap (·.members) := by
    induction ss with
    | nil => rfl
    | cons s ss ih =>
      rw [List.filter_cons, List.flatMap_cons]
      split
      · rw [List.flatMap_cons, ih]
      · rename_i hs
        have hs : s.members = [] := by simpa using hs
        rw [ih, hs, List.nil_append]
  rw [members, sections, hnonempty, List.flatMap_map, ruled, ← ruleAll_flatMap,
    List.filterMap_flatMap]

theorem name_accessor (a : App) (d : Definition) (f : Field) :
    (a.accessor d f).name = identifier (accessorName f.name) := by
  unfold accessor
  split
  · simp only
  · simp only

theorem name_function (a : App) {c : Candidate} (hc : c ∈ a.candidates.flatMap (·.2)) :
    c.function.name = c.name := by
  obtain ⟨s, hs, hc⟩ := List.mem_flatMap.mp hc
  simp only [candidates, List.mem_append, List.mem_map, Option.mem_toList, List.mem_singleton] at hs
  rcases hs with ((⟨d, -, rfl⟩ | ⟨d, -, rfl⟩) | ⟨d, -, rfl⟩) | rfl
  · obtain ⟨v, -, rfl⟩ := List.mem_map.mp hc
    simp only [constructor]
  · obtain ⟨v, -, rfl⟩ := List.mem_map.mp hc
    simp only [constructor]
  · obtain ⟨f, -, rfl⟩ := List.mem_map.mp hc
    simp only [name_accessor]
  · obtain ⟨s, -, rfl⟩ := List.mem_map.mp hc
    simp only [wrapper]

/-- Candidates that are made alike, and held back by their names alone. -/
theorem first?_map {α : Type} (xs : List α) (name : α → String) (barrier : String → Option Event)
    (f : α → Function) (n : String) :
    (first? n (xs.map fun x => ⟨name x, barrier (name x), f x⟩)).map (·.function) =
      if (barrier n).isSome then none else (xs.find? fun x => name x == n).map f := by
  rw [first?, List.find?_map, Option.map_map]
  split
  · rename_i hn
    have hnone : xs.find? (fun x => (barrier (name x)).isNone && name x == n) = none := by
      rw [List.find?_eq_none]
      intro x _ hx
      obtain ⟨hfree, hname⟩ := Bool.and_eq_true_iff.mp hx
      rw [eq_of_beq hname, Option.isNone_iff_eq_none] at hfree
      rw [hfree] at hn
      cases hn
    exact congrArg _ hnone
  · rename_i hn
    have hsame : (fun x => (barrier (name x)).isNone && name x == n) = fun x => name x == n := by
      funext x
      by_cases hx : name x = n
      · subst n
        simpa using hn
      · simp [hx]
    exact congrArg (Option.map f) (congrArg (List.find? · xs) hsame)

/-- The variants of the domain other than actions and models, in order, with their definitions. -/
def plainVariants (a : App) : List (Definition × Variant) :=
  a.plainTypes.flatMap fun d => d.variants.map (d, ·)

/-- The constructor of the first variant with a member name. -/
def plainConstructor? (a : App) (n : String) : Option Function :=
  (a.plainVariants.find? fun p => identifier p.2.name == n).map fun p => a.constructor false p.1 p.2

/-- The constructor of the first action with a member name. -/
def actionConstructor? (a : App) (n : String) : Option Function :=
  a.action?.bind fun d =>
    (d.variants.find? fun v => identifier v.name == n).map (a.constructor true d)

/-- The accessor of the first field of the model with a member name. -/
def modelAccessor? (a : App) (n : String) : Option Function :=
  a.model?.bind fun d =>
    (a.modelFields.find? fun f => identifier (accessorName f.name) == n).map (a.accessor d)

/-- The wrapper of the first function with a member name. -/
def functionWrapper? (a : App) (n : String) : Option Function :=
  (a.functions.find? fun s => identifier s.name == n).map a.wrapper

theorem isSome_find?_iff {α : Type} (xs : List α) (name : α → String) (n : String) :
    (xs.find? fun x => name x == n).isSome ↔ n ∈ xs.map name := by
  rw [List.find?_isSome, List.mem_map]
  exact exists_congr fun x => and_congr_right fun _ => beq_iff_eq

theorem isSome_plainConstructor? :
    (a.plainConstructor? n).isSome ↔ n ∈ a.plainVariants.map fun p => identifier p.2.name := by
  rw [plainConstructor?, Option.isSome_map, isSome_find?_iff]

theorem isSome_actionConstructor? :
    (a.actionConstructor? n).isSome ↔ n ∈ a.actionVariants.map fun v => identifier v.name := by
  rw [actionConstructor?, actionVariants]
  cases a.action? with
  | none => simp
  | some d => rw [Option.bind_some, Option.isSome_map, isSome_find?_iff]; rfl

theorem isSome_modelAccessor? :
    (a.modelAccessor? n).isSome ↔
      n ∈ a.modelFields.map fun f => identifier (accessorName f.name) := by
  rw [modelAccessor?]
  cases h : a.model? with
  | none => simp [modelFields, h]
  | some d => rw [Option.bind_some, Option.isSome_map, isSome_find?_iff]

theorem isSome_functionWrapper? : (a.functionWrapper? n).isSome ↔ n ∈ a.functionNames := by
  rw [functionWrapper?, Option.isSome_map, isSome_find?_iff]
  rfl

theorem first?_plainCandidates (a : App) (n : String) :
    (first? n (a.plainTypes.flatMap a.plainCandidates)).map (·.function) =
      if n ∈ a.functionNames then none else a.plainConstructor? n := by
  have hmap : a.plainTypes.flatMap a.plainCandidates = a.plainVariants.map fun p =>
      ⟨identifier p.2.name, if identifier p.2.name ∈ a.functionNames then
        some (.shadowedConstructor (identifier p.2.name)) else none,
        a.constructor false p.1 p.2⟩ := by
    rw [plainVariants, List.map_flatMap]
    simp only [List.map_map]
    rfl
  rw [hmap, first?_map a.plainVariants (fun p => identifier p.2.name)
    (fun n => if n ∈ a.functionNames then some (.shadowedConstructor n) else none)]
  by_cases hn : n ∈ a.functionNames
  · rw [if_pos hn, if_pos hn, if_pos Option.isSome_some]
  · rw [if_neg hn, if_neg hn, if_neg (by simp)]
    rfl

theorem first?_actionCandidates (a : App) (n : String) :
    (first? n (a.action?.toList.flatMap a.actionCandidates)).map (·.function) =
      a.actionConstructor? n := by
  rw [actionConstructor?]
  cases a.action? with
  | none => rfl
  | some d =>
    rw [Option.toList_some, List.flatMap_singleton, Option.bind_some]
    exact first?_map d.variants (fun v => identifier v.name) (fun _ => none) _ n

theorem first?_modelCandidates (a : App) (n : String) :
    (first? n (a.model?.toList.flatMap a.modelCandidates)).map (·.function) =
      a.modelAccessor? n := by
  rw [modelAccessor?]
  cases a.model? with
  | none => rfl
  | some d =>
    rw [Option.toList_some, List.flatMap_singleton, Option.bind_some]
    exact first?_map a.modelFields (fun f => identifier (accessorName f.name)) (fun _ => none) _ n

theorem first?_wrapperCandidates (a : App) (n : String) :
    (first? n a.wrapperCandidates).map (·.function) =
      if n ∈ a.reservedNames then none else a.functionWrapper? n := by
  rw [wrapperCandidates, first?_map a.functions (fun s => identifier s.name)
    (fun n => if n ∈ a.reservedNames then some (.coveredWrapper n) else none)]
  by_cases hn : n ∈ a.reservedNames
  · rw [if_pos hn, if_pos hn, if_pos Option.isSome_some]
  · rw [if_neg hn, if_neg hn, if_neg (by simp)]
    rfl

/-- Functions give way to the action and the model, constructors of other types to functions. -/
def choice? (a : App) (n : String) : Option Function :=
  if n ∈ a.functionNames then
    (a.actionConstructor? n).or ((a.modelAccessor? n).or (a.functionWrapper? n))
  else (a.plainConstructor? n).or ((a.actionConstructor? n).or (a.modelAccessor? n))

theorem first?_candidates (a : App) (n : String) :
    (first? n (a.candidates.flatMap (·.2))).map (·.function) = a.choice? n := by
  have hall : a.candidates.flatMap (·.2) =
      a.plainTypes.flatMap a.plainCandidates ++ (a.action?.toList.flatMap a.actionCandidates ++
        (a.model?.toList.flatMap a.modelCandidates ++ a.wrapperCandidates)) := by
    simp [candidates, List.flatMap_map]
  rw [hall, first?_append, first?_append, first?_append, Option.map_or, Option.map_or,
    Option.map_or, first?_plainCandidates, first?_actionCandidates, first?_modelCandidates,
    first?_wrapperCandidates, choice?]
  by_cases hf : n ∈ a.functionNames
  · rw [if_pos hf, if_pos hf, Option.none_or]
    by_cases hr : n ∈ a.reservedNames
    · -- the action or the model has the name, so the wrapper does not count
      rw [if_pos hr, Option.or_none]
      rcases List.mem_append.mp hr with hr | hr
      · obtain ⟨f, hf⟩ := Option.isSome_iff_exists.mp (isSome_actionConstructor?.mpr hr)
        rw [hf, Option.some_or, Option.some_or]
      · obtain ⟨f, hf⟩ := Option.isSome_iff_exists.mp (isSome_modelAccessor?.mpr hr)
        rw [hf, Option.some_or]
    · rw [if_neg hr]
  · have hw : a.functionWrapper? n = none := by
      apply Option.not_isSome_iff_eq_none.mp
      exact fun h => hf (isSome_functionWrapper?.mp h)
    rw [if_neg hf, if_neg hf, hw, ite_self, Option.or_none]

theorem filter_members (a : App) (n : String) :
    a.members.filter (·.name == n) = (a.choice? n).toList := by
  rw [members_eq, kept_named (fun c hc => a.name_function hc), if_neg List.not_mem_nil,
    first?_candidates]

theorem find?_members (a : App) (n : String) :
    a.members.find? (·.name == n) = a.choice? n := by
  rw [← List.head?_filter, filter_members, Option.head?_toList]

theorem isSome_choice? :
    (a.choice? n).isSome ↔
      (a.plainConstructor? n).isSome ∨ (a.actionConstructor? n).isSome ∨
        (a.functionWrapper? n).isSome ∨ (a.modelAccessor? n).isSome := by
  rw [choice?]
  split
  · rename_i hf
    have hw := isSome_functionWrapper?.mpr hf
    simp [hw]
  · rename_i hf
    have hw : (a.functionWrapper? n).isSome = false :=
      Bool.eq_false_iff.mpr fun h => hf (isSome_functionWrapper?.mp h)
    simp [hw]

theorem mem_names_members :
    n ∈ a.members.map (·.name) ↔
      n ∈ a.plainVariants.map (fun p => identifier p.2.name) ∨
        n ∈ a.actionVariants.map (fun v => identifier v.name) ∨
        n ∈ a.functionNames ∨
        n ∈ a.modelFields.map fun f => identifier (accessorName f.name) := by
  rw [← isSome_find?_iff, find?_members, isSome_choice?, isSome_plainConstructor?,
    isSome_actionConstructor?, isSome_functionWrapper?, isSome_modelAccessor?]

theorem nodup_names_members (a : App) : (a.members.map (·.name)).Nodup := by
  apply List.nodup_iff_count_le_one.mpr
  intro n
  have hcount : (a.members.map (·.name)).count n = (a.members.filter (·.name == n)).length := by
    rw [List.count, List.countP_map, List.countP_eq_length_filter]
    rfl
  rw [hcount, filter_members]
  cases a.choice? n <;> simp

/--
Every name of a variant, a function or an accessor is offered, and it is offered once. If a function
has the name, it stands for the first action of that name, or else for the accessor, or else for the
function; any other name stands for the first constructor, or else for the first action, or else for
the accessor.
-/
theorem members_offered (a : App) :
    (a.members.map (·.name)).Nodup ∧
      (∀ n, n ∈ a.members.map (·.name) ↔
        n ∈ a.plainVariants.map (fun p => identifier p.2.name) ∨
          n ∈ a.actionVariants.map (fun v => identifier v.name) ∨
          n ∈ a.functionNames ∨
          n ∈ a.modelFields.map fun f => identifier (accessorName f.name)) ∧
      (∀ n ∈ a.functionNames, a.members.find? (·.name == n) =
        (a.actionConstructor? n).or ((a.modelAccessor? n).or (a.functionWrapper? n))) ∧
      ∀ n ∉ a.functionNames, a.members.find? (·.name == n) =
        (a.plainConstructor? n).or ((a.actionConstructor? n).or (a.modelAccessor? n)) := by
  refine ⟨a.nodup_names_members, fun n => mem_names_members, ?_, ?_⟩
  · intro n hn
    rw [find?_members, choice?, if_pos hn]
  · intro n hn
    rw [find?_members, choice?, if_neg hn]

end Marshal.App
