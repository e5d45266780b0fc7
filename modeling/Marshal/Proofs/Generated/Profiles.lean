import Marshal.Proofs.Generated.Document
import Marshal.Proofs.Report

/-!
# Profiles

A generated module has one document. The typed text shows all of it, the bare text what is left when
the types are deleted, and whether there is a module at all does not depend on the profile.
-/

namespace Marshal.Generated
set_option autoImplicit false

def memberPieces (f : Code.Function) : List Piece :=
  .line (Code.indent ++ "@staticmethod") :: functionPieces Code.indent f

def sectionPieces (s : Section) : List Piece :=
  .line (Code.indent ++ "# " ++ s.title) :: s.members.flatMap fun f => memberPieces f ++ [.line ""]

/-- The pieces of the members and exports of a class. -/
def contentPieces (a : App) : List Piece :=
  a.sections.flatMap sectionPieces ++
    (if a.exportLines.isEmpty then []
      else (Code.indent ++ "# Conversion functions") :: a.exportLines).map .line

def appPieces (a : App) : List Piece :=
  let body := trimmedPieces (contentPieces a)
  .line "class App:" :: if body.isEmpty then [.line (Code.indent ++ "pass")] else body

theorem isCode_function {margin : String} {f : Code.Function} :
    ∀ p ∈ functionPieces margin f, p.IsCode := by
  intro p hp
  rcases List.mem_cons.mp hp with rfl | hp
  · trivial
  · obtain ⟨l, -, rfl⟩ := List.mem_map.mp hp
    trivial

theorem isCode_content {a : App} : ∀ p ∈ contentPieces a, p.IsCode := by
  intro p hp
  rcases List.mem_append.mp hp with hp | hp
  · obtain ⟨s, -, hp⟩ := List.mem_flatMap.mp hp
    rcases List.mem_cons.mp hp with rfl | hp
    · trivial
    obtain ⟨f, -, hp⟩ := List.mem_flatMap.mp hp
    rcases List.mem_append.mp hp with hp | hp
    · rcases List.mem_cons.mp hp with rfl | hp
      · trivial
      · exact isCode_function p hp
    · obtain rfl := List.mem_singleton.mp hp
      trivial
  · obtain ⟨l, -, rfl⟩ := List.mem_map.mp hp
    trivial

theorem lines_section (typed : Bool) (s : Section) :
    App.sectionLines typed s = shown typed (sectionPieces s) := by
  simp [App.sectionLines, sectionPieces, App.memberLines, memberPieces, lines_function]

theorem lines_app (a : App) : a.lines = shown a.options.typed (appPieces a) := by
  have hcontent : shown a.options.typed (contentPieces a) =
      a.sections.flatMap (App.sectionLines a.options.typed) ++
        if a.exportLines.isEmpty then []
        else (Code.indent ++ "# Conversion functions") :: a.exportLines := by
    rw [contentPieces, shown_append, shown_lines, shown_flatMap, funext (lines_section _)]
  have hbody : a.bodyLines =
      let body := trimmed (shown a.options.typed (contentPieces a))
      if body.isEmpty then [Code.indent ++ "pass"] else body := by
    rw [hcontent]
    rfl
  rw [← shown_trimmedPieces isCode_content] at hbody
  have hnil : shown a.options.typed (trimmedPieces (contentPieces a)) = [] ↔
      trimmedPieces (contentPieces a) = [] :=
    shown_eq_nil fun p hp => isCode_content p (mem_of_trimmedPieces hp)
  rw [App.lines, hbody, appPieces, shown_cons, Piece.shown_line, List.singleton_append]
  by_cases hempty : trimmedPieces (contentPieces a) = []
  · simp [hempty]
  · simp [hempty, hnil]

namespace Module

def document (m : Module) : List Piece :=
  ("" :: m.headerLines).map .line ++ [.typing typingNames] ++
    ((nonempty? m.options.runtimeImport).toList.map
        (fun r => "import " ++ r ++ " as " ++ m.options.runtimeAlias)).map .line ++
    ((nonempty? m.options.modulesImport).toList.map
        (fun p => "from " ++ p ++ " import " ++ ", ".intercalate m.imported)).map .line ++
    (sectionLines "Helpers" [""]).map .line ++ allHelperPieces m.options.runtimeAlias ++
    (if m.generationSet.definitions.isEmpty then [] else [.declarations m.viewLines]) ++
    (sectionLines "Datatype Conversions" []).map .line ++
    m.generationSet.definitions.flatMap (pairPieces m.mangling m.options.runtimeAlias) ++
    (sectionLines "API Wrapper" []).map .line ++ appPieces m.app

theorem lines_eq (m : Module) : m.lines = shown m.options.typed m.document := by
  have hviews : shown m.options.typed
      (if m.generationSet.definitions.isEmpty then [] else [.declarations m.viewLines]) =
        if m.options.typed && !m.generationSet.definitions.isEmpty then
          sectionLines "Type Declarations" m.viewLines
        else [] := by
    cases m.options.typed <;> cases m.generationSet.definitions.isEmpty <;>
      simp [Piece.shown, Piece.lines, Piece.bare?]
  have htyping : (Piece.typing typingNames).shown m.options.typed =
      if m.options.typed then ["from typing import " ++ ", ".intercalate typingNames] else [] := by
    cases m.options.typed <;> rfl
  have happ : shown m.options.typed (appPieces m.app) = m.app.lines := (lines_app m.app).symm
  simp only [document, shown_append, shown_lines, shown_cons, shown_nil, shown_flatMap, hviews,
    htyping, happ, ← allLines_helper, ← pairLines_eq]
  simp only [lines, importLines, converterLines, sectionLines, List.append_assoc, List.cons_append,
    List.nil_append, List.append_nil]

def withProfile (m : Module) (p : Profile) : Module :=
  { m with options := { m.options with profile := p } }

theorem document_withProfile (m : Module) (p : Profile) :
    (m.withProfile p).document = m.document := rfl

end Module

def textOf (ps : List Piece) : String := Text.joinLines (linesOf ps) ++ "\n"

theorem text_typed {m : Module} (h : m.options.profile = .typed) : m.text = textOf m.document := by
  rw [Module.text, m.lines_eq, Options.typed, h]
  rfl

theorem text_bare {m : Module} (h : m.options.profile = .bare) :
    m.text = textOf (withoutTypes m.document) := by
  rw [Module.text, m.lines_eq, Options.typed, h, textOf, ← shown_false]
  rfl

theorem module_withProfile (c : Catalog) (o : Options) (p : Profile) :
    (module c { o with profile := p }).outcome = (module c o).outcome.map (·.withProfile p) := by
  have hset : c.generationSet { o with profile := p } = c.generationSet o := rfl
  have hmangling : Options.mangling { o with profile := p } = o.mangling := rfl
  simp only [module, Report.outcome_bind, hset, hmangling]
  cases ((c.generationSet o).mapError GenerationError.ambiguous).outcome with
  | error e => rfl
  | ok set => cases o.mangling <;> rfl

/--
Either both profiles fail with the same error, or the bare text is what is left of the typed one
when the typing import, the section of type declarations and all annotations in headers are deleted.
-/
theorem text_of_profiles (c : Catalog) (o : Options) :
    (∃ e, (module c { o with profile := .typed }).outcome = .error e ∧
      (module c { o with profile := .bare }).outcome = .error e) ∨
    ∃ m n, (module c { o with profile := .typed }).outcome = .ok m ∧
      (module c { o with profile := .bare }).outcome = .ok n ∧
      m.text = textOf m.document ∧ n.text = textOf (withoutTypes m.document) := by
  rw [module_withProfile c o .typed, module_withProfile c o .bare]
  cases (module c o).outcome with
  | error e => exact .inl ⟨e, rfl, rfl⟩
  | ok m =>
    refine .inr ⟨m.withProfile .typed, m.withProfile .bare, rfl, rfl, text_typed rfl, ?_⟩
    rw [text_bare rfl, Module.document_withProfile, Module.document_withProfile]

end Marshal.Generated
