import Marshal.Command.Directory
import Mathlib.Data.List.Infix

/-!
# Writing one file

Whether a file can be written does not depend on its content. Afterwards the file holds the content,
every other place has the file that it had before, and the folders are the same.
-/

namespace Marshal.Directory
set_option autoImplicit false

variable {d : Directory} {path : String} {place p : Place} {content : List Nat}

/-- The place of the file that writing to a path makes or replaces. -/
def target (d : Directory) (path : String) : Except FileCause Place :=
  match d.ending path with
  | .error cause => .error cause
  | .ok (.folder _) => .error .isFolder
  | .ok (.named folder name) =>
    if path.endsWith "/" then .error .isFolder
    else
      match step folder name with
      | .error cause => .error cause
      | .ok place => if d.hasFolder place then .error .isFolder else .ok place

theorem write_eq (d : Directory) (path : String) (content : List Nat) :
    d.write path content = onPath path ((d.target path).map (d.put · content)) := by
  rw [write, target]
  congr 1
  rcases d.ending path with cause | ⟨place⟩ | ⟨folder, name⟩
  · rfl
  · rfl
  · simp only [bind, Except.bind]
    cases path.endsWith "/" with
    | true => rfl
    | false =>
      simp only [pure, Except.pure, Bool.false_eq_true, if_false]
      rcases step folder name with cause | place
      · rfl
      · cases hfolder : d.hasFolder place <;> simp [hfolder] <;> rfl

theorem target_eq_ok (h : d.target path = .ok place) :
    ∃ folder name, d.ending path = .ok (.named folder name) ∧ step folder name = .ok place ∧
      d.hasFolder place = false := by
  rw [target] at h
  split at h
  · cases h
  · cases h
  · rename_i folder name hending
    split at h
    · cases h
    · split at h
      · cases h
      · rename_i place' hstep
        split at h
        · cases h
        · rename_i hfolder
          cases h
          exact ⟨folder, name, hending, hstep, Bool.eq_false_iff.mpr hfolder⟩

def kept (place : Place) (content : List Nat) : List Nat := if place = sink then [] else content

theorem file?_put_self (d : Directory) (place : Place) (content : List Nat) :
    (d.put place content).file? place = some (kept place content) := by
  rw [put, kept]
  split
  · rename_i hsink
    rw [file?, if_pos hsink]
  · rename_i hsink
    have hnone : (d.files.filter (·.1 != place)).find? (·.1 == place) = none := by
      simp
    have hlast : [(place, content)].find? (·.1 == place) = some (place, content) :=
      List.find?_cons_of_pos (beq_self_eq_true place)
    rw [file?, if_neg hsink, List.find?_append, hnone, Option.none_or, hlast]
    rfl

theorem file?_put_of_ne (h : p ≠ place) : (d.put place content).file? p = d.file? p := by
  rw [put]
  split
  · rfl
  · have hlast : [(place, content)].find? (·.1 == p) = none := by
      simp [Ne.symm h]
    have hothers : (d.files.filter (·.1 != place)).find? (·.1 == p) =
        d.files.find? (·.1 == p) := by
      rw [List.find?_filter]
      refine congrArg (List.find? · d.files) (funext fun f => ?_)
      by_cases hf : f.1 = p
      · simp [hf, h]
      · simp [hf]
    rw [file?, file?, List.find?_append, hlast, Option.or_none, hothers]

def Stands (d : Directory) (folder : Place) : Prop :=
  ∀ names, names <+: folder.names → d.hasFolder ⟨folder.base, names⟩

theorem hasFolder_nil (d : Directory) (base : Base) : d.hasFolder ⟨base, []⟩ := by
  simp [hasFolder]

theorem Stands.parent {folder : Place} (h : d.Stands folder) : d.Stands folder.parent := by
  obtain ⟨base, names⟩ := folder
  cases names with
  | nil =>
    cases base with
    | root => exact h
    | above levels =>
      intro names hnames
      rw [List.prefix_nil.mp hnames]
      exact d.hasFolder_nil _
  | cons name names => exact fun ns hns => h ns (hns.trans (List.dropLast_prefix _))

/-- What is above the end of a step is there. -/
theorem Stands.above {folder next : Place} {name : String} (h : d.Stands folder)
    (hstep : Directory.step folder name = .ok next) {names : List String}
    (hnames : names <+: next.names) : names = next.names ∨ d.hasFolder ⟨next.base, names⟩ := by
  rw [Directory.step] at hstep
  split at hstep
  · cases hstep
    exact .inr (h names hnames)
  · split at hstep
    · cases hstep
      exact .inr (h.parent names hnames)
    · split at hstep
      · cases hstep
      · cases hstep
        exact (List.prefix_concat_iff.mp hnames).imp_right (h names)

theorem Stands.step {folder next : Place} {name : String} (h : d.Stands folder)
    (hstep : Directory.step folder name = .ok next) (hnext : d.hasFolder next) : d.Stands next := by
  intro names hnames
  rcases h.above hstep hnames with rfl | habove
  · exact hnext
  · exact habove

theorem walk_cons_eq_ok {folder last : Place} {name : String} {rest : List String} :
    d.walk folder (name :: rest) = .ok last ↔
      ∃ next, step folder name = .ok next ∧ d.hasFolder next ∧ d.walk next rest = .ok last := by
  rw [walk]
  rcases step folder name with cause | next
  · simp [bind, Except.bind]
  · simp only [bind, Except.bind]
    cases hfolder : d.hasFolder next with
    | true => simp [hfolder]
    | false =>
      cases (d.file? next).isSome <;> simp [hfolder, throw, throwThe, MonadExceptOf.throw]

theorem Stands.walk {names : List String} {folder last : Place} (h : d.Stands folder)
    (hwalk : d.walk folder names = .ok last) : d.Stands last := by
  induction names generalizing folder with
  | nil =>
    cases hwalk
    exact h
  | cons name names ih =>
    obtain ⟨next, hstep, hnext, hwalk⟩ := walk_cons_eq_ok.mp hwalk
    exact ih (h.step hstep hnext) hwalk

theorem walk_of_hasFolder_eq {d' : Directory} (h : ∀ p, d'.hasFolder p = d.hasFolder p)
    {names : List String} {folder last : Place} (hwalk : d.walk folder names = .ok last) :
    d'.walk folder names = .ok last := by
  induction names generalizing folder with
  | nil => exact hwalk
  | cons name names ih =>
    obtain ⟨next, hstep, hnext, hwalk⟩ := walk_cons_eq_ok.mp hwalk
    exact walk_cons_eq_ok.mpr ⟨next, hstep, by rw [h, hnext], ih hwalk⟩

def start (path : String) : Place :=
  if path.startsWith "/" then ⟨.root, []⟩ else Place.working

theorem ending_eq (d : Directory) (path : String) :
    d.ending path =
      if path.toList.contains '\x00' then .error .zero
      else if path.isEmpty then .error .missing
      else if pathLimit ≤ path.utf8ByteSize then .error .tooLong
      else
        match (Path.steps path).reverse with
        | [] => .ok (.folder (start path))
        | last :: before =>
          match d.walk (start path) before.reverse with
          | .error cause => .error cause
          | .ok folder =>
            if last = "." ∨ last = ".." then
              match step folder last with
              | .error cause => .error cause
              | .ok place => .ok (.folder place)
            else .ok (.named folder last) := by
  have hstart : (if path.startsWith "/" then ⟨.root, []⟩ else Place.working) = start path := rfl
  rw [ending]
  simp only [bind, Except.bind, hstart]
  cases path.toList.contains '\x00' with
  | true => rfl
  | false =>
    cases path.isEmpty with
    | true => rfl
    | false =>
      by_cases hlong : pathLimit ≤ path.utf8ByteSize
      · simp only [if_pos hlong]
        rfl
      · simp only [if_neg hlong, Bool.false_eq_true, if_false]
        rcases (Path.steps path).reverse with _ | ⟨last, before⟩
        · rfl
        · dsimp only
          rcases d.walk (start path) before.reverse with cause | folder
          · rfl
          · dsimp only
            rcases step folder last with cause | place <;> rfl

theorem walk_of_ending {folder : Place} {name : String}
    (h : d.ending path = .ok (.named folder name)) :
    ∃ before, d.walk (start path) before = .ok folder ∧
      ∀ d' : Directory, d'.walk (start path) before = .ok folder →
        d'.ending path = .ok (.named folder name) := by
  rw [ending_eq] at h
  simp only [ending_eq]
  split at h
  · cases h
  · split at h
    · cases h
    · split at h
      · cases h
      · rename_i hzero hempty hlong
        rcases hsteps : (Path.steps path).reverse with _ | ⟨last, before⟩
        · rw [hsteps] at h
          cases h
        · rw [hsteps] at h
          refine ⟨before.reverse, ?_⟩
          simp only at h
          split at h
          · cases h
          · rename_i folder' hwalk
            split at h
            · split at h <;> cases h
            · rename_i hname
              cases h
              refine ⟨hwalk, fun d' hwalk' => ?_⟩
              simp only [if_neg hzero, if_neg hempty, if_neg hlong, hwalk', if_neg hname]

theorem stands_of_ending {folder : Place} {name : String}
    (h : d.ending path = .ok (.named folder name)) : d.Stands folder := by
  obtain ⟨before, hwalk, -⟩ := walk_of_ending h
  refine @Stands.walk d before (start path) folder (fun names hnames => ?_) hwalk
  have hnil : (start path).names = [] := by
    rw [start]
    split <;> rfl
  rw [hnil] at hnames
  rw [List.prefix_nil.mp hnames]
  exact d.hasFolder_nil _

/-- Folders come and go with the files below them, but writing needs a folder that is there. -/
theorem hasFolder_put (h : d.target path = .ok place) (content : List Nat) (p : Place) :
    (d.put place content).hasFolder p = d.hasFolder p := by
  obtain ⟨folder, name, hending, hstep, -⟩ := target_eq_ok h
  rw [put]
  split
  · rfl
  · cases hbelow : place.isBelow p with
    | true =>
      have hfolder : d.hasFolder p := by
        rw [Place.isBelow, Bool.and_eq_true, Bool.and_eq_true, beq_iff_eq, bne_iff_ne,
          List.isPrefixOf_iff_prefix] at hbelow
        obtain ⟨⟨hbase, hnames⟩, hne⟩ := hbelow
        obtain ⟨base, names⟩ := p
        cases hbase
        exact ((stands_of_ending hending).above hstep hnames).resolve_left (Ne.symm hne)
      rw [hfolder, hasFolder]
      simp [hbelow]
    | false =>
      have hfiles : ((d.files.filter (·.1 != place)) ++ [(place, content)]).any (·.1.isBelow p) =
          d.files.any (·.1.isBelow p) := by
        rw [List.any_append, List.any_filter, List.any_cons, hbelow, List.any_nil, Bool.or_false,
          Bool.or_false]
        refine List.any_congr rfl fun f => ?_
        by_cases hf : f.1 = place
        · simp [hf, hbelow]
        · simp [hf]
      rw [hasFolder, hasFolder, hfiles]

theorem locate_put (h : d.target path = .ok place) (content : List Nat) :
    (d.put place content).locate path = .ok place := by
  obtain ⟨folder, name, hending, hstep, -⟩ := target_eq_ok h
  obtain ⟨before, hwalk, hsame⟩ := walk_of_ending hending
  rw [locate, hsame _ (walk_of_hasFolder_eq (hasFolder_put h content) hwalk)]
  exact hstep

/-- A directory differs from another one in the content of one file at most. -/
structure Replaced (d d' : Directory) (path : String) (place : Place) (content : List Nat) :
    Prop where
  content : d'.read path = .ok (kept place content)
  files : ∀ p, p ≠ place → d'.file? p = d.file? p
  folders : ∀ p, d'.hasFolder p = d.hasFolder p

theorem replaced_put (h : d.target path = .ok place) (content : List Nat) :
    d.Replaced (d.put place content) path place content where
  content := by
    simp only [read, locate_put h, bind, Except.bind, file?_put_self]
    rfl
  files := fun _ hp => file?_put_of_ne hp
  folders := hasFolder_put h content

end Marshal.Directory
