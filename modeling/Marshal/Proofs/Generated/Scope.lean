import Marshal.Proofs.Code.Running
import Marshal.Proofs.Conversion.Hygiene
import Marshal.Proofs.Conversion.Uniform
import Marshal.Proofs.Generated.Parameters
import Marshal.Proofs.Naming.Path

/-!
# Names that members look up

The body of a member uses its parameters, and global names besides: the library, built-in functions,
converters and the modules of constructors and functions. Parameters are named by whoever declares
the fields, so one of them may have the name of something global. Then the body gets what the caller
passes in its place; in all other cases it gets what the module offers.
-/

namespace Marshal
set_option autoImplicit false

open Code (Expr Function Locals Stmt Uniform UniformEach)
open Conversion (IsPlaceholder builtins)
open Naming (Dotless IsConverterName identifier)

/-- What is looked up for a path is its first component. -/
def Naming.pathHead (path : String) : String :=
  String.ofList (path.toList.takeWhile (· != '.'))

theorem Naming.pathHead_eq_self {n : String} (h : Dotless n) : pathHead n = n := by
  have hall : ∀ c ∈ n.toList, (c != '.') = true := by
    intro c hc
    rw [bne_iff_ne]
    rintro rfl
    exact h hc
  rw [pathHead, List.takeWhile_eq_self_iff.mpr hall, String.ofList_toList]

open Naming (pathHead pathHead_eq_self)

namespace Code.Stmt

/-- The names that the expressions of a block look up: what is free in them and not assigned. -/
def lookups (ss : List Stmt) : List String :=
  ((Expr.freeEach (exprsEach ss)).filter (· ∉ assignsEach ss)).map pathHead

theorem mem_lookups {n : String} {ss : List Stmt} :
    n ∈ lookups ss ↔
      ∃ path ∈ Expr.freeEach (exprsEach ss), path ∉ assignsEach ss ∧ pathHead path = n := by
  simp [lookups, and_assoc]

end Code.Stmt

theorem Code.Locals.isSome_setEach_zip {V : Type} {params : List String} {p : String}
    (outside : Locals V) (hp : p ∈ params) {args : List V} (hlength : params.length = args.length) :
    (outside.setEach (params.zip args) p).isSome := by
  induction params generalizing outside args with
  | nil => cases hp
  | cons q params ih =>
    obtain _ | ⟨v, args⟩ := args
    · cases hlength
    · by_cases hrest : p ∈ params
      · exact ih (outside.set q v) hrest (Nat.succ.inj hlength)
      · obtain rfl := (List.mem_cons.mp hp).resolve_right hrest
        have hkept : p ∉ (params.zip args).map (·.1) := by
          rw [List.map_fst_zip (Nat.le_of_eq (Nat.succ.inj hlength))]
          exact hrest
        rw [List.zip_cons_cons, setEach, setEach_of_not_mem hkept, set, if_pos rfl]
        rfl

/-- Filling parameters with the values of arguments leaves all other names as they are. -/
theorem Code.Locals.setEach_zip_iff {params names : List String} :
    (∀ p ∈ params, p ∉ names) ↔
      ∀ (V : Type) (outside : Locals V) (args : List V), args.length = params.length →
        ∀ n ∈ names, outside.setEach (params.zip args) n = outside n := by
  constructor
  · intro h V outside args hlength n hn
    apply setEach_of_not_mem
    rw [List.map_fst_zip (Nat.le_of_eq hlength.symm)]
    exact fun hp => h n hp hn
  · intro h p hp hn
    -- outside nothing has a value, so what has one inside is a parameter
    have hsame := h Unit (fun _ => none) (params.map fun _ => ()) (List.length_map _) p hn
    have hset := isSome_setEach_zip (fun _ => none) hp (List.length_map fun _ => ()).symm
    rw [hsame] at hset
    cases hset

namespace App

inductive Origin where
  | constructor (isAction : Bool) (d : Definition) (v : Variant)
  | accessor (model : Definition) (f : Field)
  | wrapper (s : Signature)

namespace Origin

def function (a : App) : Origin → Function
  | .constructor isAction d v => a.constructor isAction d v
  | .accessor model f => a.accessor model f
  | .wrapper s => a.wrapper s

def types : Origin → List TypeDescriptor
  | .constructor _ _ v => v.fields.map (·.type)
  | .accessor _ f => [f.type]
  | .wrapper s => s.types

def modules (a : App) : Origin → List String
  | .constructor _ d _ => [d.moduleName]
  | .accessor _ _ => []
  | .wrapper _ => [a.options.appCoreModule]

def params : Origin → List String
  | .constructor _ _ v => (v.fields.map (·.name)).map identifier
  | .accessor _ f => if f.type.mapArgs?.isSome then ["m", "key"] else ["m"]
  | .wrapper s => (s.parameters.map (·.name)).map identifier

/-- Whether the value of a field is passed to a constructor as it is. -/
def passesField (a : App) (isAction : Bool) (f : Field) : Bool :=
  f.type.kind = .datatype && (isAction || !a.isErased f.type)

/-- Whether the value of a parameter is passed to a function as it is. -/
def passesParam (f : Field) : Bool := f.type.kind = .datatype || f.type.kind = .foreign

/-- The arguments that become of fields when some expressions stand for the parameters. -/
def arguments (a : App) (passes : Field → Bool) (fs : List Field) (σ : String → Expr) :
    List Expr :=
  fs.map fun f =>
    if passes f then σ (identifier f.name)
    else Conversion.convert .fromExternal a.scope f.type (σ (identifier f.name)) 0

def constructs (a : App) (isAction : Bool) (d : Definition) (v : Variant) (σ : String → Expr) :
    List Stmt :=
  let args := arguments a (passesField a isAction) v.fields σ
  let call := Expr.call (a.mangling.constructor d.moduleName d.name v.name) args
  [.ret (if d.isErased && !isAction then args.headD call else call)]

def modelValue (a : App) (model : Definition) (f : Field) (σ : String → Expr) : Expr :=
  if model.isErased then σ "m" else a.mangling.destructor (σ "m") f.name

def accesses (a : App) (model : Definition) (f : Field) (σ : String → Expr) : List Stmt :=
  match f.type.mapArgs? with
  | some (key, value) =>
    [.assign "dafny_key" (Conversion.convert .fromExternal a.scope key (σ "key") 0),
      .when (.callAttr (modelValue a model f σ) "contains" [.name "dafny_key"])
        [.assign "val" (.callAttr (modelValue a model f σ) "get" [.name "dafny_key"]),
          .ret (Conversion.convert .toExternal a.scope value (.name "val") 0)],
      .ret (.name "None")]
  | none => [.ret (Conversion.convert .toExternal a.scope f.type (modelValue a model f σ) 0)]

def delegates (a : App) (s : Signature) (σ : String → Expr) : List Stmt :=
  let call := Expr.call (a.mangling.function a.options.appCoreModule s.name)
    (arguments a passesParam s.parameters σ)
  [.ret (if convertsResult s.result then
    Conversion.convert .toExternal a.scope s.result call 0 else call)]

/-- The body of the member when some expressions stand for the parameters. -/
def body (a : App) (σ : String → Expr) : Origin → List Stmt
  | .constructor isAction d v => constructs a isAction d v σ
  | .accessor model f => accesses a model f σ
  | .wrapper s => delegates a s σ

/-- The global names of the body: what it looks up when nothing is looked up for parameters. -/
def globals (a : App) (o : Origin) : List String := Stmt.lookups (o.body a Uniform.blank)

/-- What a path in the body is to stand for. -/
inductive Intends (a : App) (o : Origin) : String → Prop
  | runtime : Intends a o a.options.runtimeAlias
  | none : Intends a o "None"
  | builtin {n : String} : n ∈ builtins → Intends a o n
  | module {n : String} : n ∈ o.modules a → Intends a o n
  | converter {t : TypeDescriptor} {r : String} (dir : Direction) :
      t ∈ o.types → r ∈ t.references → Intends a o (dir.converterName r)

variable {a : App} {o : Origin} {σ τ : String → Expr} {n : String}

theorem arguments_name (param : Field → Code.Param × Expr) (passes : Field → Bool)
    (hp : ∀ f, param f = if passes f then a.passed f else a.converted f) (fs : List Field) :
    (fs.map param).map (·.2) = arguments a passes fs .name := by
  rw [arguments, List.map_map]
  apply List.map_congr_left
  intro f _
  rw [Function.comp_apply, hp f]
  split <;> rfl

theorem body_constructor (a : App) (isAction : Bool) (d : Definition) (v : Variant) :
    (a.constructor isAction d v).body = constructs a isAction d v .name := by
  have hargs := arguments_name (a.constructorParam isAction) (passesField a isAction)
    (fun f => rfl) v.fields
  unfold constructs
  rw [← hargs]
  rfl

theorem body_accessor (a : App) (model : Definition) (f : Field) :
    (a.accessor model f).body = accesses a model f .name := by
  unfold App.accessor accesses
  cases f.type.mapArgs? with
  | none => rfl
  | some p => rfl

theorem body_wrapper (a : App) (s : Signature) :
    (a.wrapper s).body = delegates a s .name := by
  have hargs := arguments_name a.wrapperParam passesParam (fun f => rfl) s.parameters
  unfold delegates
  rw [← hargs]
  rfl

/-- The body of a member looks up its parameters under their names. -/
theorem body_function (a : App) (o : Origin) : (o.function a).body = o.body a .name := by
  cases o with
  | constructor isAction d v => exact body_constructor a isAction d v
  | accessor model f => exact body_accessor a model f
  | wrapper s => exact body_wrapper a s

theorem paramNames_accessor (a : App) (model : Definition) (f : Field) :
    (a.accessor model f).paramNames = if f.type.mapArgs?.isSome then ["m", "key"] else ["m"] := by
  unfold App.accessor
  cases f.type.mapArgs? with
  | none => rfl
  | some p => rfl

theorem paramNames_function (a : App) (o : Origin) : (o.function a).paramNames = o.params := by
  cases o with
  | constructor isAction d v => exact paramNames_constructor isAction d v
  | accessor model f => exact paramNames_accessor a model f
  | wrapper s => exact paramNames_wrapper s

theorem arguments_congr (passes : Field → Bool) (fs : List Field)
    (h : ∀ f ∈ fs, σ (identifier f.name) = τ (identifier f.name)) :
    arguments a passes fs σ = arguments a passes fs τ := by
  unfold arguments
  apply List.map_congr_left
  intro f hf
  rw [h f hf]

theorem modelValue_congr {model : Definition} {f : Field} (h : σ "m" = τ "m") :
    modelValue a model f σ = modelValue a model f τ := by
  unfold modelValue
  rw [h]

/-- Nothing but the parameters has an expression to stand for it. -/
theorem body_congr (h : ∀ p ∈ o.params, σ p = τ p) : o.body a σ = o.body a τ := by
  cases o with
  | constructor isAction d v =>
    have hargs := arguments_congr (a := a) (passesField a isAction) v.fields
      fun f hf => h _ (List.mem_map_of_mem (List.mem_map_of_mem hf))
    show constructs a isAction d v σ = constructs a isAction d v τ
    unfold constructs
    rw [hargs]
  | accessor model f =>
    show accesses a model f σ = accesses a model f τ
    unfold params at h
    unfold accesses
    cases hmap : f.type.mapArgs? with
    | none =>
      have hm : σ "m" = τ "m" := h "m" (by simp [hmap])
      simp only [modelValue_congr hm]
    | some p =>
      have hm : σ "m" = τ "m" := h "m" (by simp [hmap])
      have hkey : σ "key" = τ "key" := h "key" (by simp [hmap])
      simp only [modelValue_congr hm, hkey]
  | wrapper s =>
    have hargs := arguments_congr (a := a) passesParam s.parameters
      fun f hf => h _ (List.mem_map_of_mem (List.mem_map_of_mem hf))
    show delegates a s σ = delegates a s τ
    unfold delegates
    rw [hargs]

theorem arguments_uniform (a : App) (passes : Field → Bool) (fs : List Field) :
    UniformEach (arguments a passes fs) := by
  apply UniformEach.map
  intro f _
  cases passes f with
  | true => exact .hole _
  | false => exact Conversion.convert_uniform f.type 0 (.hole _)

theorem modelValue_uniform (a : App) (model : Definition) (f : Field) :
    Uniform (modelValue a model f) := by
  unfold modelValue
  split
  · exact .hole "m"
  · exact .attr _ (.hole "m")

/-- A body puts what stands for its parameters into place. -/
theorem body_uniform (a : App) (o : Origin) :
    UniformEach fun σ => Stmt.exprsEach (o.body a σ) := by
  cases o with
  | constructor isAction d v =>
    have hargs := arguments_uniform a (passesField a isAction) v.fields
    have hcall : Uniform fun σ => .call (a.mangling.constructor d.moduleName d.name v.name)
        (arguments a (passesField a isAction) v.fields σ) := UniformEach.call (.fixed _) hargs
    cases h : d.isErased && !isAction with
    | true =>
      have hhead := hargs.headD hcall
      simpa only [body, constructs, h, if_true] using .single hhead
    | false => simpa only [body, constructs, h, if_false] using .single hcall
  | accessor model f =>
    have hvalue := modelValue_uniform a model f
    cases h : f.type.mapArgs? with
    | none =>
      have hconvert : Uniform fun σ =>
          Conversion.convert .toExternal a.scope f.type (modelValue a model f σ) 0 :=
        Conversion.convert_uniform f.type 0 hvalue
      simpa only [body, accesses, h] using .single hconvert
    | some p =>
      have hkey : Uniform fun σ : String → Expr =>
          Conversion.convert .fromExternal a.scope p.1 (σ "key") 0 :=
        Conversion.convert_uniform p.1 0 (.hole "key")
      have hlookup (member : String) : Uniform fun σ =>
          Expr.callAttr (modelValue a model f σ) member [.name "dafny_key"] :=
        UniformEach.call (hvalue.attr member) (.fixed _)
      have hexprs : (fun σ => Stmt.exprsEach (accesses a model f σ)) = fun σ =>
          Conversion.convert .fromExternal a.scope p.1 (σ "key") 0 ::
          Expr.callAttr (modelValue a model f σ) "contains" [.name "dafny_key"] ::
          Expr.callAttr (modelValue a model f σ) "get" [.name "dafny_key"] ::
          [Conversion.convert .toExternal a.scope p.2 (.name "val") 0, .name "None"] := by
        funext σ
        unfold accesses
        rw [h]
        rfl
      show UniformEach fun σ => Stmt.exprsEach (accesses a model f σ)
      rw [hexprs]
      exact .cons hkey (.cons (hlookup "contains") (.cons (hlookup "get") (.fixed _)))
  | wrapper s =>
    have hcall : Uniform fun σ => .call (a.mangling.function a.options.appCoreModule s.name)
        (arguments a passesParam s.parameters σ) :=
      UniformEach.call (.fixed _) (arguments_uniform a passesParam s.parameters)
    cases h : convertsResult s.result with
    | true =>
      have hconvert : Uniform fun σ => Conversion.convert .toExternal a.scope s.result
          (.call (a.mangling.function a.options.appCoreModule s.name)
            (arguments a passesParam s.parameters σ)) 0 :=
        Conversion.convert_uniform s.result 0 hcall
      simpa only [body, delegates, h, if_true] using .single hconvert
    | false => simpa only [body, delegates, h, if_false] using .single hcall

theorem assigns_body (a : App) (o : Origin) (σ τ : String → Expr) :
    Stmt.assignsEach (o.body a σ) = Stmt.assignsEach (o.body a τ) := by
  cases o with
  | constructor isAction d v => rfl
  | accessor model f =>
    show Stmt.assignsEach (accesses a model f σ) = Stmt.assignsEach (accesses a model f τ)
    unfold accesses
    cases f.type.mapArgs? with
    | none => rfl
    | some p => rfl
  | wrapper s => rfl

/-- Besides the names of its source, a conversion looks up what it is intended to. -/
theorem intends_convert {t : TypeDescriptor} {dir : Direction} {source : Expr}
    (ht : ∀ r ∈ t.references, ∃ u ∈ o.types, r ∈ u.references)
    (hn : n ∈ (Conversion.convert dir a.scope t source 0).free) :
    n ∈ source.free ∨ Intends a o n := by
  have hparams : ∀ c ∈ a.scope.converters, ¬ IsPlaceholder 0 c.2 := nofun
  have hygienic : Conversion.Hygienic (Conversion.setting dir a.scope t 0 [source] []) []
      (Conversion.convert dir a.scope t source 0) := Conversion.convert_setting hparams nofun
  rcases hygienic.free hn with hn | ⟨e, he, hsource⟩ | rfl | hn
  · cases hn
  · obtain rfl := List.mem_singleton.mp he
    exact .inl hsource
  · exact .inr .runtime
  · right
    rcases List.mem_append.mp hn with hn | hn
    · have hscope : a.scope.converters.map (·.2) = [] := rfl
      rw [hscope, List.append_nil] at hn
      exact .builtin hn
    · obtain ⟨r, hr, rfl⟩ := List.mem_map.mp hn
      obtain ⟨u, hu, hr⟩ := ht r hr
      exact .converter dir hu hr

theorem intends_arguments (passes : Field → Bool) (fs : List Field)
    (ht : ∀ f ∈ fs, f.type ∈ o.types) :
    ∀ e ∈ arguments a passes fs Uniform.blank, ∀ n ∈ e.free, Intends a o n := by
  intro e he n hn
  obtain ⟨f, hf, rfl⟩ := List.mem_map.mp he
  split at hn
  · cases hn
  · rcases intends_convert (fun r hr => ⟨f.type, ht f hf, hr⟩) hn with hn | hn
    · cases hn
    · exact hn

/-- A call of something in a module of the member with its arguments. -/
theorem intends_call {f : Expr} {args : List Expr} (hf : ∀ n ∈ f.free, n ∈ o.modules a)
    (hargs : ∀ e ∈ args, ∀ n ∈ e.free, Intends a o n) :
    ∀ n ∈ (Expr.call f args).free, Intends a o n := by
  intro n hn
  rcases List.mem_append.mp hn with hn | hn
  · exact .module (hf n hn)
  · obtain ⟨e, he, hn⟩ := Expr.mem_freeEach.mp hn
    exact hargs e he n hn

theorem free_modelValue (model : Definition) (f : Field) :
    (modelValue a model f Uniform.blank).free = [] := by
  unfold modelValue
  split <;> rfl

theorem intends_accessor {model : Definition} {f : Field}
    (hn : n ∈ Expr.freeEach (Stmt.exprsEach (accesses a model f Uniform.blank))) :
    n ∈ Stmt.assignsEach (accesses a model f Uniform.blank) ∨
      Intends a (.accessor model f) n := by
  have htype : f.type ∈ (accessor model f).types := List.mem_cons_self
  unfold accesses at hn ⊢
  cases hmap : f.type.mapArgs? with
  | none =>
    rw [hmap] at hn
    obtain ⟨e, he, hn⟩ := Expr.mem_freeEach.mp hn
    obtain rfl := List.mem_singleton.mp he
    rcases intends_convert (fun r hr => ⟨f.type, htype, hr⟩) hn with hn | hn
    · rw [free_modelValue] at hn
      cases hn
    · exact .inr hn
  | some p =>
    obtain ⟨key, value⟩ := p
    obtain ⟨hkey, hvalue⟩ := mapArgs?_references hmap
    rw [hmap] at hn
    have hlookup (member : String) (hn : n ∈ (Expr.callAttr
        (modelValue a model f Uniform.blank) member [.name "dafny_key"]).free) :
        n = "dafny_key" := by
      rcases List.mem_append.mp hn with hn | hn
      · rw [Expr.free, free_modelValue] at hn
        cases hn
      · exact List.mem_singleton.mp hn
    obtain ⟨e, he, hn⟩ := Expr.mem_freeEach.mp hn
    simp only [Stmt.exprsEach, Stmt.exprs, Stmt.assignsEach, Stmt.assigns, List.cons_append,
      List.nil_append, List.append_nil, List.mem_cons, List.not_mem_nil, or_false] at he ⊢
    rcases he with rfl | rfl | rfl | rfl | rfl
    · rcases intends_convert (fun r hr => ⟨f.type, htype, hkey r hr⟩) hn with hn | hn
      · cases hn
      · exact .inr hn
    · exact .inl (.inl (hlookup "contains" hn))
    · exact .inl (.inl (hlookup "get" hn))
    · rcases intends_convert (fun r hr => ⟨f.type, htype, hvalue r hr⟩) hn with
        hn | hn
      · exact .inl (.inr (List.mem_singleton.mp hn))
      · exact .inr hn
    · obtain rfl := List.mem_singleton.mp hn
      exact .inr .none

/-- All that a body looks up besides its parameters and what it assigns is intended. -/
theorem intends_body (hn : n ∈ Expr.freeEach (Stmt.exprsEach (o.body a Uniform.blank))) :
    n ∈ Stmt.assignsEach (o.body a Uniform.blank) ∨ Intends a o n := by
  cases o with
  | constructor isAction d v =>
    have hargs := intends_arguments (a := a) (o := .constructor isAction d v)
      (passesField a isAction) v.fields
      fun f hf => List.mem_map.mpr ⟨f, hf, rfl⟩
    have hcall := intends_call (a := a) (o := .constructor isAction d v)
      (f := a.mangling.constructor d.moduleName d.name v.name) (fun n hn => hn) hargs
    obtain ⟨e, he, hn⟩ := Expr.mem_freeEach.mp hn
    obtain rfl := List.mem_singleton.mp he
    right
    split at hn
    · exact headD_of_forall hargs hcall n hn
    · exact hcall n hn
  | accessor model f => exact intends_accessor hn
  | wrapper s =>
    have hargs := intends_arguments (a := a) (o := .wrapper s) passesParam s.parameters
      fun f hf => List.mem_append_left _ (List.mem_map.mpr ⟨f, hf, rfl⟩)
    have hcall := intends_call (a := a) (o := .wrapper s)
      (f := a.mangling.function a.options.appCoreModule s.name) (fun n hn => hn) hargs
    obtain ⟨e, he, hn⟩ := Expr.mem_freeEach.mp hn
    obtain rfl := List.mem_singleton.mp he
    right
    split at hn
    · have hresult : s.result ∈ (wrapper s).types :=
        List.mem_append_right _ List.mem_cons_self
      rcases intends_convert (fun r hr => ⟨s.result, hresult, hr⟩) hn with hn | hn
      · exact hcall n hn
      · exact hn
    · exact hcall n hn

theorem params_accessor {model : Definition} {f : Field} {p : String}
    (hp : p ∈ (accessor model f).params) : p = "m" ∨ p = "key" := by
  have hp : p ∈ if f.type.mapArgs?.isSome then ["m", "key"] else ["m"] := hp
  split at hp
  · exact (List.mem_cons.mp hp).imp_right List.mem_singleton.mp
  · exact .inl (List.mem_singleton.mp hp)

theorem dotless_params {p : String} (hp : p ∈ o.params) : Dotless p := by
  cases o with
  | constructor isAction d v =>
    obtain ⟨name, _, rfl⟩ := List.mem_map.mp hp
    exact Naming.dotless_of_isIdentifierChar (Naming.isIdentifierChar_identifier name)
  | accessor model f => rcases params_accessor hp with rfl | rfl <;> decide
  | wrapper s =>
    obtain ⟨name, _, rfl⟩ := List.mem_map.mp hp
    exact Naming.dotless_of_isIdentifierChar (Naming.isIdentifierChar_identifier name)

/-- Names stand for the parameters, and nothing has to stand for anything else. -/
def naming (o : Origin) (p : String) : Expr := if p ∈ o.params then .name p else .str ""

theorem lookups_body :
    Stmt.lookups (o.function a).body ⊆ (o.function a).paramNames ++ o.globals a := by
  have hbody : (o.function a).body = o.body a o.naming := by
    rw [body_function]
    apply body_congr
    intro p hp
    exact (if_pos hp).symm
  intro n hn
  rw [hbody] at hn
  obtain ⟨path, hpath, hassigned, rfl⟩ := Stmt.mem_lookups.mp hn
  rw [paramNames_function, List.mem_append]
  rcases (body_uniform a o).free_subset hpath with hblank | ⟨p, hp⟩
  · right
    rw [assigns_body a o o.naming Uniform.blank] at hassigned
    exact Stmt.mem_lookups.mpr ⟨path, hblank, hassigned, rfl⟩
  · left
    show pathHead path ∈ o.params
    have hparam : p ∈ o.params := by
      by_contra hnot
      rw [naming, if_neg hnot] at hp
      cases hp
    rw [naming, if_pos hparam] at hp
    obtain rfl := List.mem_singleton.mp hp
    rwa [pathHead_eq_self (dotless_params hparam)]

theorem globals_subset : o.globals a ⊆ Stmt.lookups (o.function a).body := by
  intro n hn
  obtain ⟨path, hpath, hassigned, rfl⟩ := Stmt.mem_lookups.mp hn
  rw [body_function]
  apply Stmt.mem_lookups.mpr
  refine ⟨path, (body_uniform a o).free_blank_subset .name hpath, ?_, rfl⟩
  rwa [assigns_body a o .name Uniform.blank]

theorem intends_globals (hn : n ∈ o.globals a) : ∃ path, Intends a o path ∧ pathHead path = n := by
  obtain ⟨path, hpath, hassigned, rfl⟩ := Stmt.mem_lookups.mp hn
  exact ⟨path, (intends_body hpath).resolve_left hassigned, rfl⟩

/-- The parameters of an accessor have the name of nothing global but the library. -/
theorem eq_runtime_of_accessor {model : Definition} {f : Field} {p : String}
    (hp : p ∈ (accessor model f).params) (hn : p ∈ (accessor model f).globals a) :
    p = pathHead a.options.runtimeAlias := by
  have hshort : p ∉ builtins ∧ p ≠ "None" ∧ 'J' ∉ p.toList := by
    rcases params_accessor hp with rfl | rfl <;> decide
  obtain ⟨path, hpath, rfl⟩ := intends_globals hn
  cases hpath with
  | runtime => rfl
  | none => exact absurd rfl hshort.2.1
  | builtin hbuiltin =>
    have hdotless : ∀ n ∈ builtins, Dotless n := by decide
    rw [pathHead_eq_self (hdotless _ hbuiltin)] at hshort
    exact absurd hbuiltin hshort.1
  | module hmodule => cases hmodule
  | converter dir ht hr =>
    rename_i t r
    have hname : IsConverterName (dir.converterName r) := ⟨dir, r, rfl⟩
    have hdotless := Naming.dotless_of_isIdentifierChar hname.isIdentifierChar
    rw [pathHead_eq_self hdotless] at hshort
    exact absurd hname.mem_J hshort.2.2

end Origin

theorem exists_origin {a : App} {g : Function} (hg : g ∈ a.members) :
    ∃ o : Origin, g = o.function a := by
  rcases member_cases hg with ⟨d, _, v, _, rfl⟩ | ⟨d, _, v, _, rfl⟩ | ⟨d, _, f, _, rfl⟩ |
    ⟨s, _, rfl⟩
  · exact ⟨.constructor false d v, rfl⟩
  · exact ⟨.constructor true d v, rfl⟩
  · exact ⟨.accessor d f, rfl⟩
  · exact ⟨.wrapper s, rfl⟩

/--
The body of a member looks up its parameters and global names, and the global names are the library,
`None`, built-in functions, the module of what it calls, and the converters of the datatypes in its
types. What a global name stands for is untouched by what a caller passes, whatever that is, exactly
if no parameter has its name; the parameters of an accessor only have that of the library, if any.
-/
theorem globals_reached (a : App) :
    (∀ g ∈ a.members, ∃ o : Origin, g = o.function a) ∧
    ∀ o : Origin, (o.function a).body = o.body a .name ∧
      Stmt.lookups (o.function a).body ⊆ (o.function a).paramNames ++ o.globals a ∧
      o.globals a ⊆ Stmt.lookups (o.function a).body ∧
      (∀ n ∈ o.globals a, ∃ path, o.Intends a path ∧ pathHead path = n) ∧
      ((∀ p ∈ (o.function a).paramNames, p ∉ o.globals a) ↔
        ∀ (V : Type) (outside : Locals V) (args : List V),
          args.length = (o.function a).paramNames.length → ∀ n ∈ o.globals a,
          outside.setEach ((o.function a).paramNames.zip args) n = outside n) ∧
      ∀ model f, o = .accessor model f → ∀ p ∈ (o.function a).paramNames, p ∈ o.globals a →
        p = pathHead a.options.runtimeAlias := by
  refine ⟨fun g => exists_origin, ?_⟩
  intro o
  refine ⟨Origin.body_function a o, Origin.lookups_body, Origin.globals_subset,
    fun n => Origin.intends_globals, Locals.setEach_zip_iff, ?_⟩
  rintro model f rfl p hp hn
  rw [Origin.paramNames_function] at hp
  exact Origin.eq_runtime_of_accessor hp hn

end App

open Declaration (parse)
open Generated (module)

def shadowingFunction : Signature :=
  ⟨"AppCore", "F", [⟨"int", .int "int"⟩, ⟨"n", .int "int"⟩], .int "int"⟩

def shadowingModule : Generated.Module := ⟨⟨"Domain", [], []⟩, [shadowingFunction], {}, .escaping⟩

/-- A parameter is declared under the name of the function that is to convert it. -/
theorem App.parameter_shadows :
    ∃ c m s, (parse "module AppCore { function F(int: int, n: int): int }").outcome = .ok c ∧
      (module c {}).outcome = .ok m ∧ m.app.wrapper s ∈ m.app.members ∧
      "int" ∈ (m.app.wrapper s).paramNames ∧ "int" ∈ (Origin.wrapper s).globals m.app ∧
      (m.app.wrapper s).lines false "" =
        ["def F(int, n):", "    return _to_number(AppCore.F(int(int), int(n)))"] := by
  have hmembers :
      shadowingModule.app.members = [shadowingModule.app.wrapper shadowingFunction] := rfl
  refine ⟨⟨[], [shadowingFunction]⟩, shadowingModule, shadowingFunction, by decide +kernel, rfl, ?_,
    by decide +kernel, by decide +kernel, by decide +kernel⟩
  rw [hmembers]
  exact List.mem_cons_self

end Marshal
