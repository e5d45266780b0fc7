import Marshal.Proofs.Command.Directory
import Marshal.Proofs.Source
import Marshal.Proofs.Text.Sequence

/-!
# Generating code as one step

A run that generates no text leaves the directory as it was and prints nothing. A text goes to one
place, to standard output or to the file that was asked for, and standard output may lose its control
sequences. Only for a text that has no bytes is the file touched by a run that fails: it is emptied
first, and the text is looked at then.
-/

namespace Marshal.Command
set_option autoImplicit false

open Text (Wide)

variable {host : Host} {input : String} {output : Option String} {options : Options}
  {d : Directory}

/-- The text that is generated from a file: from its catalog, or from a document without one. -/
def Generates (host : Host) (d : Directory) (input : String) (options : Options) (text : Wide) :
    Prop :=
  ∃ bytes, d.read (Path.ofText input).text = .ok bytes ∧
    ((∃ c m, (Source.load host.depth input bytes).outcome = .ok c ∧
        (Generated.module c options).outcome = .ok m ∧ text = .text m.text) ∨
      ∃ j, (Source.load host.depth input bytes).outcome = .error (.untyped j) ∧
        (host.render j options).outcome = .ok text)

def planOf (host : Host) (text : Wide) : Option String → Plan
  | none => .print (host.console text)
  | some path => ⟨none, [(path, text)], "", none, [.wrote path]⟩

theorem reject_outcome {α : Type} (description : String) :
    (reject description : Report Failure α).outcome = .error .reported := rfl

/-- A failure to load ends the run, unless it leaves a document. -/
theorem recover_outcome_eq_ok {e : SourceError} {found : Loaded} :
    (recover e).outcome = .ok found ↔ ∃ j, e = .untyped j ∧ found = .untyped j := by
  cases e with
  | untyped j => simp [recover, eq_comm]
  | declarations e =>
    cases e <;> simp only [recover, reject_outcome, reduceCtorEq, false_and, exists_false]
  | undecodable fault => simp [recover]
  | json error => simp [recover]
  | document error => simp [recover]

theorem load_outcome_eq_ok {content : Except FileError (List Nat)} {found : Loaded} :
    (load host input content).outcome = .ok found ↔
      ∃ bytes, content = .ok bytes ∧
        ((∃ c, (Source.load host.depth input bytes).outcome = .ok c ∧ found = .catalog c) ∨
          ∃ j, (Source.load host.depth input bytes).outcome = .error (.untyped j) ∧
            found = .untyped j) := by
  cases content with
  | error e => simp [load]
  | ok bytes =>
    have hmap : (Loaded.catalog <$> Source.load host.depth input bytes).outcome =
        (Source.load host.depth input bytes).outcome.map .catalog := by
      rw [map_eq_pure_bind, Report.outcome_bind]
      cases (Source.load host.depth input bytes).outcome <;> rfl
    cases hload : (Source.load host.depth input bytes).outcome with
    | ok c => simp [load, Report.rescue, hmap, hload, Except.map, eq_comm]
    | error e => simp [load, Report.rescue, hmap, hload, Except.map, recover_outcome_eq_ok]

theorem render_catalog_outcome_eq_ok {c : Catalog} {text : Wide} :
    (render host options (.catalog c)).outcome = .ok text ↔
      ∃ m, (Generated.module c options).outcome = .ok m ∧ text = .text m.text := by
  have hmodule (m : Generated.Module) :
      ((Generated.module c options).rescue fun e =>
          (reject e.message : Report Failure Generated.Module)).outcome = .ok m ↔
        (Generated.module c options).outcome = .ok m :=
    Report.rescue_outcome_eq_ok fun e => ⟨_, reject_outcome e.message⟩
  simp only [render, Report.bind_outcome_eq_ok, hmodule]
  exact exists_congr fun m => and_congr_right fun _ =>
    ⟨fun h => (Except.ok.inj h).symm, fun h => h ▸ rfl⟩

theorem plan_generate_eq_ok {plan : Plan} :
    ((Task.generate input output options).plan host (d.read (Path.ofText input).text)).outcome =
        .ok plan ↔
      ∃ text, Generates host d input options text ∧ planOf host text output = plan := by
  have hplan (text : Wide) (plan : Plan) :
      (match output with
        | none => pure (.print (host.console text))
        | some path => pure ⟨none, [(path, text)], "", none, [.wrote path]⟩ :
          Report Failure Plan).outcome = .ok plan ↔ planOf host text output = plan := by
    cases output <;> exact ⟨fun h => Except.ok.inj h, fun h => h ▸ rfl⟩
  have htext (text : Wide) :
      (∃ found, (load host input (d.read (Path.ofText input).text)).outcome = .ok found ∧
          (render host options found).outcome = .ok text) ↔
        Generates host d input options text := by
    simp only [load_outcome_eq_ok, Generates]
    constructor
    · rintro ⟨_, ⟨bytes, hread, ⟨c, hload, rfl⟩ | ⟨j, hload, rfl⟩⟩, hrender⟩
      · obtain ⟨m, hm, htext⟩ := render_catalog_outcome_eq_ok.mp hrender
        exact ⟨bytes, hread, .inl ⟨c, m, hload, hm, htext⟩⟩
      · exact ⟨bytes, hread, .inr ⟨j, hload, hrender⟩⟩
    · rintro ⟨bytes, hread, ⟨c, m, hload, hm, htext⟩ | ⟨j, hload, hrender⟩⟩
      · exact ⟨_, ⟨bytes, hread, .inl ⟨c, hload, rfl⟩⟩,
          render_catalog_outcome_eq_ok.mpr ⟨m, hm, htext⟩⟩
      · exact ⟨_, ⟨bytes, hread, .inr ⟨j, hload, rfl⟩⟩, hrender⟩
  simp only [Task.plan, Report.bind_outcome_eq_ok]
  constructor
  · rintro ⟨found, hfound, text, hrender, hrest⟩
    exact ⟨text, (htext text).mp ⟨found, hfound, hrender⟩, (hplan text plan).mp hrest⟩
  · rintro ⟨text, hgenerates, hrest⟩
    obtain ⟨found, hfound, hrender⟩ := (htext text).mpr hgenerates
    exact ⟨found, hfound, text, hrender, (hplan text plan).mpr hrest⟩

namespace Outcome

/-- The run failed, and nothing was printed or written. -/
structure Refused (out : Outcome) (d : Directory) : Prop where
  exitCode : out.exitCode = 1
  output : out.output = ""
  directory : out.directory = d

/-- The run printed a text, and wrote nothing. -/
structure Printed (out : Outcome) (d : Directory) (text : String) : Prop where
  exitCode : out.exitCode = 0
  output : out.output = text
  directory : out.directory = d

/-- The run wrote a text to one file, and printed nothing. -/
structure Wrote (out : Outcome) (d : Directory) (path : String) (place : Place) (text : String) :
    Prop where
  exitCode : out.exitCode = 0
  output : out.output = ""
  directory : d.Replaced out.directory path place (Text.encodeUtf8 text)

/-- The run failed and printed nothing, but it left one file empty. -/
structure Emptied (out : Outcome) (d : Directory) (path : String) (place : Place) : Prop where
  exitCode : out.exitCode = 1
  output : out.output = ""
  directory : d.Replaced out.directory path place []

end Outcome

section Carrying
variable {r : Request} {text : Wide} {path : String} {place : Place}

theorem refused_of_plan {failure : Failure}
    (h : (r.task.plan host (r.task.content d)).outcome = .error failure) :
    (r.run host d).Refused d := by
  rw [Request.run]
  simp only [h]
  cases failure <;> exact ⟨rfl, rfl, rfl⟩

theorem printed_iff_of_plan {s : String}
    (h : (r.task.plan host (r.task.content d)).outcome = .ok (planOf host text none)) :
    (r.run host d).Printed d s ↔ host.console text = .text s := by
  rw [Request.run]
  simp only [h, planOf]
  cases hconsole : host.console text with
  | text shown => exact ⟨fun hprinted => congrArg Wide.text hprinted.output,
      fun hs => ⟨rfl, Wide.text.inj hs, rfl⟩⟩
  | broken before half rest => exact ⟨fun hprinted => (nomatch hprinted.exitCode), nofun⟩

theorem refused_of_console
    (h : (r.task.plan host (r.task.content d)).outcome = .ok (planOf host text none))
    (hshown : ∀ s, host.console text ≠ .text s) : (r.run host d).Refused d := by
  rw [Request.run]
  simp only [h, planOf]
  cases hconsole : host.console text with
  | text s => exact absurd hconsole (hshown s)
  | broken before half rest => exact ⟨rfl, rfl, rfl⟩

theorem carryOut_planOf (hplace : d.target path = .ok place) :
    (planOf host text (some path)).carryOut d =
      (d.put place text.bytes, text.fault?.map .encoding) := by
  rw [Plan.carryOut, planOf]
  simp only [writeAll, d.write_eq, hplace]
  cases text <;> rfl

theorem wrote_of_plan {s : String}
    (h : (r.task.plan host (r.task.content d)).outcome = .ok (planOf host (.text s) (some path)))
    (hplace : d.target path = .ok place) : (r.run host d).Wrote d path place s := by
  rw [Request.run]
  simp only [h, carryOut_planOf hplace]
  exact ⟨rfl, rfl, Directory.replaced_put hplace _⟩

theorem emptied_of_plan
    (h : (r.task.plan host (r.task.content d)).outcome = .ok (planOf host text (some path)))
    (hbroken : ∀ s, text ≠ .text s) (hplace : d.target path = .ok place) :
    (r.run host d).Emptied d path place := by
  rw [Request.run]
  simp only [h, carryOut_planOf hplace]
  cases text with
  | text s => exact absurd rfl (hbroken s)
  | broken before half rest => exact ⟨rfl, rfl, Directory.replaced_put hplace _⟩

theorem refused_of_target {cause : FileCause}
    (h : (r.task.plan host (r.task.content d)).outcome = .ok (planOf host text (some path)))
    (hpath : d.target path = .error cause) : (r.run host d).Refused d := by
  have hwrite : (planOf host text (some path)).carryOut d = (d, some (.file ⟨cause, path⟩)) := by
    rw [Plan.carryOut, planOf]
    simp only [writeAll, d.write_eq, hpath]
    rfl
  rw [Request.run]
  simp only [h, hwrite]
  exact ⟨rfl, rfl, rfl⟩

end Carrying

/--
If no text is generated, for whatever reason, the run fails and leaves the directory as it was.
Otherwise standard output is given what it takes of the text, which is all of a text without the
beginning of a control sequence, or the text is the content of the file that was asked for, the only
one that changes. A run that cannot print, or cannot write there, changes nothing; but one whose text
has no bytes leaves that file empty.
-/
theorem generate_places_text {args : List String} {verbose : Bool}
    (h : Request.ofArguments args = .ok ⟨verbose, .generate input output options⟩)
    (host : Host) (d : Directory) :
    ((∀ text, ¬ Generates host d input options text) → (run host args d).Refused d) ∧
      ∀ text, Generates host d input options text →
        (output = none →
          (∀ shown, (run host args d).Printed d shown ↔ host.console text = .text shown) ∧
          (∀ s, text = .text s → '\x1b' ∉ s.toList → (run host args d).Printed d s) ∧
          ((∀ shown, host.console text ≠ .text shown) → (run host args d).Refused d)) ∧
        ∀ path, output = some path →
          (∀ place, d.target path = .ok place →
            (∀ s, text = .text s → (run host args d).Wrote d path place s) ∧
            ((∀ s, text ≠ .text s) → (run host args d).Emptied d path place)) ∧
          ∀ cause, d.target path = .error cause → (run host args d).Refused d := by
  have hrun : run host args d = Request.run host ⟨verbose, .generate input output options⟩ d := by
    rw [run, h]
  rw [hrun]
  refine ⟨fun hnone => ?_, fun text htext => ?_⟩
  · cases hplan : ((Task.generate input output options).plan host
        (d.read (Path.ofText input).text)).outcome with
    | error failure => exact refused_of_plan hplan
    | ok plan =>
      obtain ⟨text, htext, -⟩ := plan_generate_eq_ok.mp hplan
      exact absurd htext (hnone text)
  · have hplan : ((Task.generate input output options).plan host
        (d.read (Path.ofText input).text)).outcome = .ok (planOf host text output) :=
      plan_generate_eq_ok.mpr ⟨text, htext, rfl⟩
    refine ⟨?_, ?_⟩
    · rintro rfl
      have hprinted (shown : String) :
          (Request.run host ⟨verbose, .generate input none options⟩ d).Printed d shown ↔
            host.console text = .text shown :=
        printed_iff_of_plan hplan
      refine ⟨hprinted, ?_, refused_of_console hplan⟩
      rintro s rfl hs
      exact (hprinted s).mpr (host.console_text s hs)
    · rintro path rfl
      refine ⟨fun place hplace => ⟨?_, fun hbroken => emptied_of_plan hplan hbroken hplace⟩,
        fun cause => refused_of_target hplan⟩
      rintro s rfl
      exact wrote_of_plan hplan hplace

def lamp : String := "module M { datatype Lamp = On | Off }"

/-- A directory with that declaration, and with an older file where the code goes. -/
def lampDirectory : Directory := .ofFiles [("a.adt", Text.encodeUtf8 lamp), ("b.py", [10])]

theorem generate_places_text_lamp :
    ∃ text, Request.ofArguments ["gen", "-i", "a.adt", "-o", "b.py"] =
        .ok ⟨false, .generate "a.adt" (some "b.py") {}⟩ ∧
      Generates (.plain 20 false) lampDirectory "a.adt" {} (.text text) ∧
      lampDirectory.target "b.py" = .ok ⟨.above 0, ["b.py"]⟩ ∧
      (run (.plain 20 false) ["gen", "-i", "a.adt", "-o", "b.py"] lampDirectory).Wrote
        lampDirectory "b.py" ⟨.above 0, ["b.py"]⟩ text := by
  have hargs : Request.ofArguments ["gen", "-i", "a.adt", "-o", "b.py"] =
      .ok ⟨false, .generate "a.adt" (some "b.py") {}⟩ := by
    decide +kernel
  have hread : lampDirectory.read (Path.ofText "a.adt").text = .ok (Text.encodeUtf8 lamp) := by
    decide +kernel
  have hparse : (Declaration.parse lamp).outcome =
      .ok ⟨[⟨"M", "Lamp", [⟨"On", []⟩, ⟨"Off", []⟩], []⟩], []⟩ := by
    decide +kernel
  have hload : (Source.load 20 "a.adt" (Text.encodeUtf8 lamp)).outcome =
      .ok ⟨[⟨"M", "Lamp", [⟨"On", []⟩, ⟨"Off", []⟩], []⟩], []⟩ := by
    rw [Source.load_encodeUtf8 _ _ (Text.plain_of_all (by decide +kernel)), Source.parse,
      if_neg (by decide +kernel)]
    exact Report.mapError_outcome_eq_ok.mpr hparse
  have htarget : lampDirectory.target "b.py" = .ok ⟨.above 0, ["b.py"]⟩ := by decide +kernel
  have htext : Generates (.plain 20 false) lampDirectory "a.adt" {} (.text _) :=
    ⟨_, hread, .inl ⟨_, _, hload, rfl, rfl⟩⟩
  have hruns := (generate_places_text hargs (.plain 20 false) lampDirectory).2 _ htext
  exact ⟨_, hargs, htext, htarget, ((hruns.2 "b.py" rfl).1 _ htarget).1 _ rfl⟩

theorem plain_console (depth : Nat) :
    (Host.plain depth false).console = Wide.withoutSequences := rfl

/-- The catalog of a lamp with a control sequence in the name of a variant. -/
def glow : Catalog := ⟨[⟨"M", "Lamp", [⟨"On\x1b[0m", []⟩, ⟨"Off", []⟩], []⟩], []⟩

def glowModule : Generated.Module :=
  match (Generated.module glow {}).outcome with
  | .ok m => m
  | .error _ => default

theorem module_glow : (Generated.module glow {}).outcome = .ok glowModule := by
  have hok : (Generated.module glow {}).outcome.isOk := by decide +kernel
  rw [glowModule]
  cases hmodule : (Generated.module glow {}).outcome with
  | ok m => rfl
  | error e =>
    rw [hmodule] at hok
    cases hok

def glowDirectory : Directory :=
  .ofFiles [("c.json", Text.encodeUtf8 (Document.ofCatalog glow).print)]

theorem exists_append_of_mem_lines {line : String} {lines : List String} (h : line ∈ lines) :
    ∃ before after, Text.joinLines lines = before ++ (line ++ after) := by
  induction lines with
  | nil => cases h
  | cons first rest ih =>
    cases rest with
    | nil =>
      cases List.mem_singleton.mp h
      exact ⟨"", "", by simp [Text.joinLines]⟩
    | cons second rest =>
      have hjoin : Text.joinLines (first :: second :: rest) =
          first ++ "\n" ++ Text.joinLines (second :: rest) :=
        String.intercalate_cons_cons
      rcases List.mem_cons.mp h with rfl | h
      · exact ⟨"", "\n" ++ Text.joinLines (second :: rest), by
          rw [hjoin, String.empty_append, String.append_assoc]⟩
      · obtain ⟨before, after, heq⟩ := ih h
        exact ⟨first ++ "\n" ++ before, after, by simp only [hjoin, heq, String.append_assoc]⟩

theorem mem_lines_of_converterLines {m : Generated.Module} {line : String}
    (h : line ∈ m.converterLines) : line ∈ m.lines := by
  simp [Generated.Module.lines, Generated.Module.sectionLines, h]

/-- The constructor of that variant is called by its name. -/
theorem exists_pointsOf_glow :
    ∃ before after, Text.pointsOf glowModule.text =
      before ++ (Text.sequenceOf [0x30] 0x6d ++ after) := by
  have hline : "        return M.Lamp.create_On\x1b[0m()" ∈ glowModule.converterLines := by
    decide +kernel
  obtain ⟨before, after, heq⟩ := exists_append_of_mem_lines (mem_lines_of_converterLines hline)
  have hparts : "        return M.Lamp.create_On\x1b[0m()" =
      "        return M.Lamp.create_On" ++ ("\x1b[0m" ++ "()") := by
    decide +kernel
  refine ⟨Text.pointsOf (before ++ "        return M.Lamp.create_On"),
    Text.pointsOf ("()" ++ after ++ "\n"), ?_⟩
  rw [Generated.Module.text, heq, hparts]
  simp [Text.pointsOf, Text.sequenceOf, Text.escapePoint]

/-- What is printed elsewhere than on a terminal can be less than what is generated. -/
theorem generate_drops_sequences :
    ∃ text, Request.ofArguments ["gen", "-i", "c.json"] =
        .ok ⟨false, .generate "c.json" none {}⟩ ∧
      Generates (.plain 20 false) glowDirectory "c.json" {} (.text text) ∧
      ¬ (run (.plain 20 false) ["gen", "-i", "c.json"] glowDirectory).Printed glowDirectory text := by
  have hargs : Request.ofArguments ["gen", "-i", "c.json"] =
      .ok ⟨false, .generate "c.json" none {}⟩ := by
    decide +kernel
  have hread : glowDirectory.read (Path.ofText "c.json").text =
      .ok (Text.encodeUtf8 (Document.ofCatalog glow).print) := by
    decide +kernel
  have hload : (Source.load 20 "c.json" (Text.encodeUtf8 (Document.ofCatalog glow).print)).outcome =
      .ok glow :=
    Source.load_document (by decide +kernel) (by decide)
  have htext : Generates (.plain 20 false) glowDirectory "c.json" {} (.text glowModule.text) :=
    ⟨_, hread, .inl ⟨glow, glowModule, hload, module_glow, rfl⟩⟩
  have hplan : ((Task.generate "c.json" none {}).plan (.plain 20 false)
      (glowDirectory.read (Path.ofText "c.json").text)).outcome =
        .ok (planOf (.plain 20 false) (.text glowModule.text) none) :=
    plan_generate_eq_ok.mpr ⟨_, htext, rfl⟩
  obtain ⟨before, after, hpoints⟩ := exists_pointsOf_glow
  refine ⟨glowModule.text, hargs, htext, fun hprinted => ?_⟩
  have hrun : run (.plain 20 false) ["gen", "-i", "c.json"] glowDirectory =
      Request.run (.plain 20 false) ⟨false, .generate "c.json" none {}⟩ glowDirectory := by
    rw [run, hargs]
  rw [hrun] at hprinted
  have hconsole := (printed_iff_of_plan (r := ⟨false, .generate "c.json" none {}⟩) hplan).mp hprinted
  rw [plain_console] at hconsole
  exact Text.Wide.withoutSequences_ne (by decide) (by decide) hpoints hconsole

end Marshal.Command
