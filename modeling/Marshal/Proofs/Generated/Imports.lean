import Marshal.Proofs.Generated.Identifiers

/-!
# The modules that a generated module imports

One line imports whatever modules the code reaches into. Nothing is missing from it and nothing is
listed twice but the core, where it is the domain as well. A module is listed by its whole name,
which is no identifier if it has several parts.
-/

namespace Marshal
set_option autoImplicit false

open Code (Expr Function Stmt)
open Conversion (Affords Ordinary WrittenWith bases builtins placeholder)
open Declaration (IsName parse)
open Naming (Dotless IsConverterName Mangling components pathHead pathHead_eq_self)

/-- A name that a function binds: a parameter, an assigned variable, or one of a conversion. -/
def Code.Function.Binds (g : Function) (n : String) : Prop :=
  n ∈ g.paramNames ∨ n ∈ Stmt.assignsEach g.body ∨
    ∃ base ∈ bases, ∃ depth, n = placeholder base depth

/-- What is selected from a path does not change where the path begins. -/
theorem Naming.pathHead_append_dot (a b : String) : pathHead (a ++ "." ++ b) = pathHead a := by
  rw [pathHead, pathHead, String.toList_append, String.toList_append, List.append_assoc]
  congr 1
  induction a.toList with
  | nil => rfl
  | cons c cs ih =>
    rw [List.cons_append, List.takeWhile_cons, List.takeWhile_cons, ih]

theorem Naming.pathHead_eq_self_iff {n : String} : pathHead n = n ↔ Dotless n := by
  refine ⟨fun h hdot => ?_, pathHead_eq_self⟩
  have hall := List.takeWhile_eq_self_iff.mp ((congrArg String.toList h).symm.trans
    String.toList_ofList).symm
  exact absurd (hall _ hdot) (by decide)

theorem IsModuleName.dotless_iff {n : String} (h : IsModuleName n) : Dotless n ↔ IsName n := by
  constructor
  · intro hn
    have hparts := h.components
    rw [Naming.components_of_dotless hn] at hparts
    exact hparts n List.mem_cons_self
  · exact IsName.dotless

namespace Generated

variable {c : Catalog} {o : Options} {m : Module}

namespace Module

theorem mem_imported {n : String} :
    n ∈ m.imported ↔ n = m.generationSet.rootModule ∨
      (m.functions ≠ [] ∧ n = m.options.appCoreModule) ∨
      ∃ d ∈ m.generationSet.definitions, d.moduleName = n := by
  rw [imported, mem_extendFresh, List.mem_cons, List.mem_map, or_assoc]
  refine or_congr_right (or_congr_left ?_)
  split
  · rename_i hnone
    simp [List.isEmpty_iff.mp hnone]
  · rename_i hsome
    rw [List.isEmpty_iff] at hsome
    simp [hsome]

theorem nodup_imported_iff : m.imported.Nodup ↔
    (m.functions ≠ [] → m.options.appCoreModule ≠ m.generationSet.rootModule) := by
  have hfirst {first ns : List String} : (extendFresh first ns).Nodup ↔ first.Nodup := by
    constructor
    · intro h
      obtain ⟨extra, heq⟩ := extendFresh_eq_append first ns
      rw [heq] at h
      exact h.of_append_left
    · exact nodup_extendFresh
  rw [imported, hfirst]
  split
  · rename_i hnone
    simp [List.isEmpty_iff.mp hnone]
  · rename_i hsome
    rw [List.isEmpty_iff] at hsome
    simp [hsome, eq_comm]

def importLine (m : Module) (package : String) : String :=
  "from " ++ package ++ " import " ++ ", ".intercalate m.imported

theorem lines_eq_append_importLine {package : String}
    (h : nonempty? m.options.modulesImport = some package) :
    ∃ before after, m.lines = before ++ m.importLine package :: after := by
  have hlast : ∃ before, m.importLines = before ++ [m.importLine package] := by
    rw [importLines, h]
    exact ⟨_, rfl⟩
  obtain ⟨before, hlast⟩ := hlast
  refine ⟨[""] ++ m.headerLines ++ before, ?_⟩
  simp only [lines, hlast, List.append_assoc, List.singleton_append]
  exact ⟨_, rfl⟩

/-- A constructor or a function of the core, and the module that it is in. -/
def Reaches (m : Module) (n : String) (e : Expr) : Prop :=
  (∃ d ∈ m.generationSet.definitions, d.moduleName = n ∧
      ∃ v ∈ d.variants, e = Converter.constructor m.mangling d v) ∨
    ∃ s ∈ m.functions, m.options.appCoreModule = n ∧ e = m.app.corePath s

/-- A name that means something in the code of a function. -/
def Known (m : Module) (g : Function) (n : String) : Prop :=
  n ∈ m.imported ∨ n = m.options.runtimeAlias ∨ n = "None" ∨ n ∈ builtins ∨ IsConverterName n ∨
    g.Binds n

theorem imported_of_reaches {n : String} {e : Expr} (h : m.Reaches n e) : n ∈ m.imported := by
  rw [mem_imported]
  rcases h with ⟨d, hd, hn, -⟩ | ⟨s, hs, rfl, -⟩
  · exact Or.inr (Or.inr ⟨d, hd, hn⟩)
  · exact Or.inr (Or.inl ⟨List.ne_nil_of_mem hs, rfl⟩)

/-- A path that reaches into a module begins with the name of the module, up to its first dot. -/
theorem pathHead_of_reaches {n : String} {e : Expr} (h : m.Reaches n e) :
    pathHead e.text = pathHead n := by
  rcases h with ⟨d, -, rfl, v, -, rfl⟩ | ⟨s, -, rfl, rfl⟩
  · rw [Converter.constructor, Mangling.text_constructor, Naming.pathHead_append_dot,
      Naming.pathHead_append_dot]
  · exact Naming.pathHead_append_dot _ _

theorem called_reaches {g : Function} (hg : g ∈ m.converters ++ m.app.members) {e : Expr}
    (he : e ∈ g.called) : Ordinary e ∨ ∃ n, m.Reaches n e := by
  rcases List.mem_append.mp hg with hg | hg
  · refine (called_converter hg he).imp_right ?_
    rintro ⟨d, hd, v, hv, heq, -⟩
    exact ⟨_, Or.inl ⟨d, hd, rfl, v, hv, heq⟩⟩
  · refine (App.called_members hg he).imp_right ?_
    rintro (⟨s, hs, heq⟩ | ⟨d, hd, v, hv, heq, -⟩)
    · exact ⟨_, Or.inr ⟨s, hs, rfl, heq⟩⟩
    · exact ⟨_, Or.inl ⟨d, hd, rfl, v, hv, heq⟩⟩

theorem supplies_known {g : Function} {s : Scope} (hruntime : s.runtime = m.options.runtimeAlias)
    (hparams : ∀ f ∈ s.converters, f.2 ∈ g.paramNames) :
    Supplies g s (m.Known g) fun _ _ => True := by
  have hbinds {n : String} (h : g.Binds n) : m.Known g n :=
    Or.inr (Or.inr (Or.inr (Or.inr (Or.inr h))))
  have haffords : Affords s (m.Known g) fun _ _ => True :=
    { builtin := fun n hn => Or.inr (Or.inr (Or.inr (Or.inl hn)))
      bound := fun base hbase depth => hbinds (Or.inr (Or.inr ⟨base, hbase, depth, rfl⟩))
      runtime := Or.inr (Or.inl hruntime)
      param := fun f hf => hbinds (Or.inl (hparams f hf))
      converter := fun dir t => Or.inr (Or.inr (Or.inr (Or.inr (Or.inl ⟨dir, t, rfl⟩))))
      member := fun _ _ _ => trivial }
  exact ⟨haffords, fun n hn => hbinds (Or.inl hn), fun n hn => hbinds (Or.inr (Or.inl hn))⟩

theorem known_of_mem_parts {g : Function} (hg : g ∈ m.converters ++ m.app.members) {n : String}
    (hn : .name n ∈ g.parts) : m.Known g n := by
  have hselectable : ∀ d ∈ m.generationSet.definitions,
      d.Selectable m.mangling (m.Known g) fun _ _ => True := by
    intro d hd
    have hmodule : m.Known g d.moduleName :=
      Or.inl (mem_imported.mpr (Or.inr (Or.inr ⟨d, hd, rfl⟩)))
    exact ⟨hmodule, trivial, fun _ _ => trivial, fun _ _ _ => trivial, fun _ _ _ => trivial⟩
  have hbody : Stmt.EachPart (WrittenWith (m.Known g) fun _ _ => True) g.body := by
    rcases List.mem_append.mp hg with hg | hg
    · obtain ⟨d, hd, dir, rfl⟩ := mem_converters.mp hg
      rw [converter_eq] at hselectable ⊢
      refine Converter.body_writes (supplies_known rfl fun f hf => ?_) (hselectable d hd)
      rw [Function.paramNames, Converter.params_eq]
      exact List.mem_cons_of_mem _ (List.mem_map_of_mem hf)
    · have hcore : ∀ s ∈ m.functions, m.Known g m.options.appCoreModule ∧ True := by
        intro s hs
        have hlisted : m.options.appCoreModule ∈ m.imported :=
          mem_imported.mpr (Or.inr (Or.inl ⟨List.ne_nil_of_mem hs, rfl⟩))
        exact ⟨Or.inl hlisted, trivial⟩
      have hnone : ∀ f ∈ m.app.scope.converters, f.2 ∈ g.paramNames := List.forall_mem_nil _
      exact App.member_writes hg (supplies_known rfl hnone) (Or.inr (Or.inr (Or.inl rfl)))
        hselectable hcore
  exact Function.forall_parts.mpr hbody _ hn

/--
The list of modules in the import line: it has the domain, the core if that has functions, and the
modules of all definitions, and nothing twice but the core that is the domain. Whatever the code
reaches into is in the list, by the name that the code mentions; this is the beginning of the path
if it is a name of one part.
-/
structure ImportsModules (m : Module) : Prop where
  line : ∀ package, nonempty? m.options.modulesImport = some package →
    ∃ before after, m.lines = before ++ m.importLine package :: after
  listed : ∀ n, n ∈ m.imported ↔ n = m.generationSet.rootModule ∨
    (m.functions ≠ [] ∧ n = m.options.appCoreModule) ∨
      ∃ d ∈ m.generationSet.definitions, d.moduleName = n
  distinct : m.imported.Nodup ↔
    (m.functions ≠ [] → m.options.appCoreModule ≠ m.generationSet.rootModule)
  name : ∀ n ∈ m.imported, n = m.generationSet.rootModule ∨ IsModuleName n ∧
    (pathHead n = n ↔ IsName n)
  called : ∀ g ∈ m.converters ++ m.app.members, ∀ e ∈ g.called, Ordinary e ∨ ∃ n, m.Reaches n e
  reached : ∀ n e, m.Reaches n e → n ∈ m.imported ∧ pathHead e.text = pathHead n
  known : ∀ g ∈ m.converters ++ m.app.members, ∀ n, .name n ∈ g.parts → m.Known g n

end Module

/-- The code for a declared catalog reaches into no module that is not imported. -/
theorem importsModules_of_parse {text : String} (hc : (parse text).outcome = .ok c)
    (hm : (module c o).outcome = .ok m) : m.ImportsModules := by
  obtain ⟨hdefinitions, hfunctions⟩ := named_of_module hc hm
  have hname {n : String} (hn : n ∈ m.imported) :
      n = m.generationSet.rootModule ∨ IsModuleName n := by
    rcases Module.mem_imported.mp hn with hroot | ⟨hsome, hcore⟩ | ⟨d, hd, hmodule⟩
    · exact Or.inl hroot
    · obtain ⟨s, hs⟩ := List.exists_mem_of_ne_nil _ hsome
      obtain ⟨hnamed, heq⟩ := hfunctions s hs
      exact Or.inr (hcore ▸ heq ▸ hnamed.moduleName)
    · exact Or.inr (hmodule ▸ (hdefinitions d hd).1.moduleName)
  exact
    { line := fun package => Module.lines_eq_append_importLine
      listed := fun n => Module.mem_imported
      distinct := Module.nodup_imported_iff
      name := fun n hn => (hname hn).imp_right fun h =>
        ⟨h, Naming.pathHead_eq_self_iff.trans h.dotless_iff⟩
      called := fun g hg e he => Module.called_reaches hg he
      reached := fun n e h => ⟨Module.imported_of_reaches h, Module.pathHead_of_reaches h⟩
      known := fun g hg n hn => Module.known_of_mem_parts hg hn }

def apartDatatype : Definition := ⟨"A.B", "D", [⟨"X", []⟩], []⟩

def apartFunction : Signature := ⟨"AppCore", "F", [⟨"n", .int "int"⟩], .int "int"⟩

/-- A module whose name has two parts, and a core. -/
def apartModule : Module :=
  ⟨⟨"A.B", [apartDatatype], []⟩, [apartFunction], { modulesImport := some "pkg" }, .escaping⟩

/-- A module whose name has two parts, and a core. -/
theorem importsModules_apart :
    ∃ c m,
      (parse "module A.B { datatype D = X } module AppCore { function F(n: int): int }").outcome =
        .ok c ∧
      (module c { modulesImport := some "pkg" }).outcome = .ok m ∧
      m.importLine "pkg" = "from pkg import A.B, AppCore" ∧ m.ImportsModules := by
  have hc : (parse
      "module A.B { datatype D = X } module AppCore { function F(n: int): int }").outcome =
        .ok ⟨[apartDatatype], [apartFunction]⟩ := by decide +kernel
  have hm : (module ⟨[apartDatatype], [apartFunction]⟩ { modulesImport := some "pkg" }).outcome =
      .ok apartModule := rfl
  exact ⟨_, apartModule, hc, hm, by decide +kernel, importsModules_of_parse hc hm⟩

def joinedDatatype : Definition := ⟨"A.B", "D", [⟨"X", []⟩, ⟨"Y", []⟩], []⟩

def joinedFunction : Signature := ⟨"A.B", "F", [], .int "int"⟩

/-- One module is the domain and the core. -/
def joinedOptions : Options := { appCoreModule := "A.B", modulesImport := some "pkg" }

def joinedModule : Module :=
  ⟨⟨"A.B", [joinedDatatype], []⟩, [joinedFunction], joinedOptions, .escaping⟩

/-- One module is the domain and the core, and its name has two parts. -/
theorem imports_twice :
    ∃ c m, (parse "module A.B { datatype D = X | Y function F(): int }").outcome = .ok c ∧
      (module c { appCoreModule := "A.B", modulesImport := some "pkg" }).outcome = .ok m ∧
      "from pkg import A.B, A.B" ∈ m.lines ∧
      m.app.members.map (fun g => (g.name, g.called.map (·.text))) =
        [("X", ["A.B.D.create_X"]), ("Y", ["A.B.D.create_Y"]), ("F", ["_to_number", "A.B.F"])] ∧
      ¬ m.imported.Nodup ∧ (∀ n ∈ m.imported, ¬ IsName n) ∧ pathHead "A.B.F" ∉ m.imported := by
  have hc : (parse "module A.B { datatype D = X | Y function F(): int }").outcome =
      .ok ⟨[joinedDatatype], [joinedFunction]⟩ := by decide +kernel
  have hm : (module ⟨[joinedDatatype], [joinedFunction]⟩ joinedOptions).outcome =
      .ok joinedModule := rfl
  have himported : joinedModule.imported = ["A.B", "A.B"] := by decide +kernel
  have hpackage : nonempty? joinedModule.options.modulesImport = some "pkg" := rfl
  obtain ⟨before, after, hlines⟩ := Module.lines_eq_append_importLine hpackage
  have hline : joinedModule.importLine "pkg" = "from pkg import A.B, A.B" := by decide +kernel
  refine ⟨_, joinedModule, hc, hm, ?_, by decide +kernel, ?_, ?_, ?_⟩
  · rw [hlines, hline]
    exact List.mem_append_right _ List.mem_cons_self
  · rw [himported]
    decide
  · rw [himported]
    have hdotted : ¬ IsName "A.B" := fun h => absurd h.dotless (by decide)
    simp [hdotted]
  · rw [himported]
    decide +kernel

end Generated

end Marshal
