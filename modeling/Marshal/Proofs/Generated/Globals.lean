import Marshal.App
import Marshal.Converter
import Marshal.Proofs.Conversion.Mention

/-!
# Global names of generated functions

The converters of a definition and the members of the App class use no global names but built-in
ones and the converters of datatypes that the types at hand refer to.
-/

namespace Marshal
set_option autoImplicit false

open Code (Expr Function Param Stmt)
open Code.Stmt (Allows Closed)
open Conversion (Permits)
open Naming (Mangling identifier)

/-- What may be a global name: a name that conversions use as it is, or a bound variable. -/
structure Ambient (P : String → Prop) : Prop where
  builtin : ∀ n ∈ Conversion.builtins, P n
  bound : ∀ base ∈ Conversion.bases, ∀ depth, P (Conversion.placeholder base depth)
  none : P "None"

/-- Both converters of a datatype may be used. -/
def Reaches (P : String → Prop) (name : String) : Prop :=
  ∀ dir : Direction, P (dir.converterName name)

theorem constructor_only {P : String → Prop} (m : Mangling) (moduleName typeName variant : String) :
    (m.constructor moduleName typeName variant).Only P :=
  Expr.only_member.attr _

variable {P : String → Prop} {given : List String}

theorem Ambient.permits (h : Ambient P) {s : Scope} (hs : ∀ c ∈ s.converters, c.2 ∈ given) :
    Permits s (Allows given P) where
  builtin n hn := .inr (h.builtin n hn)
  bound base hb depth := .inr (h.bound base hb depth)
  param c hc := .inl (hs c hc)

theorem mem_fields {d : Definition} {v : Variant} {f : Field} (hv : v ∈ d.variants)
    (hf : f ∈ v.fields) : f ∈ d.fields := List.mem_flatMap.mpr ⟨v, hv, hf⟩

theorem erasedField?_mem {d : Definition} {f : Field} (h : d.erasedField? = some f) :
    f ∈ d.fields := by
  rw [Definition.erasedField?] at h
  split at h
  · rename_i name g hvariants
    cases h
    exact mem_fields (hvariants ▸ List.mem_cons_self) List.mem_cons_self
  · cases h

namespace Converter

section Fields
variable {s : Scope} {f : Field} {fs : List Field}

theorem readEntry_only (hj : "json" ∈ given) (f : Field) :
    (readEntry f).Only (Allows given P) :=
  Expr.Only.callAttr (Expr.only_name.mpr (.inl hj)) (by simp) "get"

theorem readSetup_closed (h : Permits s (Allows given P)) (hj : "json" ∈ given)
    (hr : ∀ r ∈ f.type.references, Reaches P r) : Closed given P (readSetup s f) := by
  rw [readSetup]
  split
  · exact Conversion.readMap_closed h (fun r hr' => .inr (hr r hr' _)) (readEntry_only hj f) _
  · exact .nil

theorem readTarget_assigned (hf : isBlockMap f) :
    readTarget f ∈ Stmt.assignsEach (readSetup s f) := by
  rw [readSetup, if_pos hf]
  exact List.mem_cons_self

theorem readValue_only (h : Permits s (Allows given P)) (hj : "json" ∈ given)
    (hr : ∀ r ∈ f.type.references, Reaches P r) (hf : isBlockMap f → readTarget f ∈ given) :
    (readValue s f).Only (Allows given P) := by
  rw [readValue]
  split
  · rename_i hb
    exact Expr.only_name.mpr (.inl (hf hb))
  · exact Conversion.convert_only h (fun r hr' => .inr (hr r hr' _)) (readEntry_only hj f) 0

/-- Setting up all fields and then using their values. -/
theorem readSetup_append {ss : List Stmt} (h : Permits s (Allows given P)) (hj : "json" ∈ given)
    (hr : ∀ f ∈ fs, ∀ r ∈ f.type.references, Reaches P r)
    (hss : ∀ given', given ⊆ given' →
      (∀ f ∈ fs, (readValue s f).Only (Allows given' P)) → Closed given' P ss) :
    Closed given P (fs.flatMap (readSetup s) ++ ss) := by
  refine .append (.flatMap fun f hf => readSetup_closed h hj (hr f hf)) ?_
  have hsub : given ⊆ given ++ Stmt.assignsEach (fs.flatMap (readSetup s)) :=
    List.subset_append_left _ _
  refine hss _ hsub fun f hf => ?_
  refine readValue_only (h.mono fun n hn => hn.mono hsub) (hsub hj) (hr f hf) fun hb => ?_
  exact List.mem_append_right _ (Stmt.mem_assignsEach_flatMap hf (readTarget_assigned hb))

theorem construct_closed (h : Permits s (Allows given P)) (hj : "json" ∈ given) {d : Definition}
    {v : Variant} (hr : ∀ f ∈ v.fields, ∀ r ∈ f.type.references, Reaches P r) (m : Mangling) :
    Closed given P (construct m s d v) := by
  rw [construct]
  split
  · exact .single (Expr.only_call.mpr ⟨constructor_only _ _ _ _, by simp⟩)
  · refine readSetup_append h hj hr fun given' _ hv => .single ?_
    refine (Expr.only_call (f := constructor m d v)).mpr ⟨constructor_only _ _ _ _, ?_⟩
    simpa using hv

theorem writeSetup_closed (h : Permits s (Allows given P))
    (hr : ∀ r ∈ f.type.references, Reaches P r) {source : Expr}
    (hs : source.Only (Allows given P)) : Closed given P (writeSetup s f source) := by
  rw [writeSetup]
  split
  · exact Conversion.writeMap_closed h (fun r hr' => .inr (hr r hr' _)) hs _
  · exact .nil

theorem writeTarget_assigned (hf : isBlockMap f) (source : Expr) :
    writeTarget f ∈ Stmt.assignsEach (writeSetup s f source) := by
  rw [writeSetup, if_pos hf]
  exact List.mem_cons_self

theorem writeEntry_only (h : Permits s (Allows given P))
    (hr : ∀ r ∈ f.type.references, Reaches P r) {source : Expr}
    (hs : source.Only (Allows given P)) (hf : isBlockMap f → writeTarget f ∈ given) :
    (writeEntry s f source).2.Only (Allows given P) := by
  rw [writeEntry]
  split
  · rename_i hb
    exact Expr.only_name.mpr (.inl (hf hb))
  · exact Conversion.convert_only h (fun r hr' => .inr (hr r hr' _)) hs 0

theorem writeSetup_append {ss : List Stmt} {source : Field → Expr} (h : Permits s (Allows given P))
    (hs : ∀ f, (source f).Only (Allows given P))
    (hr : ∀ f ∈ fs, ∀ r ∈ f.type.references, Reaches P r)
    (hss : ∀ given', given ⊆ given' →
      (∀ f ∈ fs, (writeEntry s f (source f)).2.Only (Allows given' P)) → Closed given' P ss) :
    Closed given P (fs.flatMap (fun f => writeSetup s f (source f)) ++ ss) := by
  refine .append (.flatMap fun f hf => writeSetup_closed h (hr f hf) (hs f)) ?_
  have hsub : given ⊆ given ++ Stmt.assignsEach (fs.flatMap fun f => writeSetup s f (source f)) :=
    List.subset_append_left _ _
  refine hss _ hsub fun f hf => ?_
  refine writeEntry_only (h.mono fun n hn => hn.mono hsub) (hr f hf)
    ((hs f).mono fun n hn => hn.mono hsub) fun hb => ?_
  exact List.mem_append_right _
    (Stmt.mem_assignsEach_flatMap hf (writeTarget_assigned hb (source f)))

/-- The statement that returns an object uses what its entries use. -/
theorem retEntries_only {Q : String → Prop} {entries : List (String × Expr)}
    (he : ∀ e ∈ entries, e.2.Only Q) :
    ∀ n ∈ (if entries.isEmpty then Stmt.ret (.dict []) else .retDict entries).mentions, Q n := by
  split
  · exact fun n hn => absurd hn List.not_mem_nil
  · exact Expr.only_dict.mpr he

theorem deconstruct_closed (h : Permits s (Allows given P)) {v : Variant}
    (hr : ∀ f ∈ v.fields, ∀ r ∈ f.type.references, Reaches P r) (m : Mangling) (tagged : Bool) :
    Closed given P (deconstruct m s tagged v) := by
  rw [deconstruct]
  refine writeSetup_append h (fun f => Expr.only_member) hr fun given' _ hv => .single ?_
  refine retEntries_only fun e he => ?_
  rcases List.mem_append.mp he with he | he
  · cases tagged with
    | true =>
      obtain rfl := List.mem_singleton.mp he
      exact Expr.only_str
    | false => exact absurd he List.not_mem_nil
  · obtain ⟨f, hf, rfl⟩ := List.mem_map.mp he
    exact hv f hf

end Fields

section Bodies
variable {d : Definition} {runtime : String}

theorem raiseUnknown_closed {offending : String} (ho : offending ∈ given) :
    Closed given P [raiseUnknown runtime d offending] := by
  refine .single (Expr.only_call.mpr ⟨Expr.only_member, ?_⟩)
  simp [Stmt.Allows, ho]

theorem closed_map_when {α : Type} {xs : List α} {cond : α → Expr} {body : α → List Stmt}
    (hc : ∀ x ∈ xs, (cond x).Only (Allows given P)) (hb : ∀ x ∈ xs, Closed given P (body x)) :
    Closed given P (xs.map fun x => .when (cond x) (body x)) := by
  rw [List.map_eq_flatMap]
  exact .flatMap fun x hx => .when (hc x hx) (hb x hx)

theorem fromJsonBody_closed (h : Permits (scope .fromExternal runtime d) (Allows given P))
    (hj : "json" ∈ given) (hr : ∀ f ∈ d.fields, ∀ r ∈ f.type.references, Reaches P r)
    (m : Mangling) : Closed given P (fromJsonBody m runtime d) := by
  have hjson : (Expr.name "json").Only (Allows given P) := Expr.only_name.mpr (.inl hj)
  have hcall (v : Variant) : (Expr.call (constructor m d v) []).Only (Allows given P) :=
    Expr.only_call.mpr ⟨constructor_only _ _ _ _, by simp⟩
  rw [fromJsonBody]
  split
  · rename_i f _ hf
    refine .append (readSetup_closed h hj (hr f (erasedField?_mem hf))) (.single ?_)
    have hsub : given ⊆ given ++ Stmt.assignsEach (readSetup (scope .fromExternal runtime d) f) :=
      List.subset_append_left _ _
    refine readValue_only (h.mono fun n hn => hn.mono hsub) (hsub hj) (hr f (erasedField?_mem hf))
      fun hb => List.mem_append_right _ (readTarget_assigned hb)
  · refine .append (closed_map_when ?_ ?_) ?_
    · exact fun v _ => Expr.only_equal.mpr ⟨hjson, Expr.only_str⟩
    · exact fun v _ => .single (hcall v)
    · exact raiseUnknown_closed (List.mem_append_left _ hj)
  · rename_i v hv _ _
    exact construct_closed h hj (fun f hf => hr f (mem_fields (hv ▸ List.mem_cons_self) hf)) m
  · -- from here on the tag is given
    have hsub : given ⊆ given ++ ["tag"] := List.subset_append_left _ _
    have htag : "tag" ∈ given ++ ["tag"] := by simp
    refine .cons (hjson.callAttr (by simp) "get") (.append (closed_map_when ?_ ?_) ?_)
    · exact fun v _ => Expr.only_equal.mpr ⟨Expr.only_name.mpr (.inl htag), Expr.only_str⟩
    · exact fun v hv => construct_closed (h.mono fun n hn => hn.mono hsub) (hsub hj)
        (fun f hf => hr f (mem_fields hv hf)) m
    · exact raiseUnknown_closed (List.mem_append_left _ htag)

theorem toJsonBody_closed (h : Permits (scope .toExternal runtime d) (Allows given P))
    (hv : "value" ∈ given) (hr : ∀ f ∈ d.fields, ∀ r ∈ f.type.references, Reaches P r)
    (m : Mangling) : Closed given P (toJsonBody m runtime d) := by
  have hvalue : (Expr.name "value").Only (Allows given P) := Expr.only_name.mpr (.inl hv)
  rw [toJsonBody]
  split
  · rename_i f _ hf
    have hf := erasedField?_mem hf
    refine .append (writeSetup_closed h (hr f hf) hvalue) (.single ?_)
    have hsub : given ⊆
        given ++ Stmt.assignsEach (writeSetup (scope .toExternal runtime d) f (.name "value")) :=
      List.subset_append_left _ _
    have hentry := writeEntry_only (h.mono fun n hn => hn.mono hsub) (hr f hf)
      (hvalue.mono fun n hn => hn.mono hsub)
      fun hb => List.mem_append_right _ (writeTarget_assigned hb (.name "value"))
    have hdict : (Expr.dict [writeEntry (scope .toExternal runtime d) f (.name "value")]).Only
        (Allows (given ++ Stmt.assignsEach
          (writeSetup (scope .toExternal runtime d) f (.name "value"))) P) :=
      Expr.only_dict.mpr (by simpa using hentry)
    exact hdict
  · refine .append (closed_map_when ?_ ?_) (raiseUnknown_closed (List.mem_append_left _ hv))
    · exact fun v _ => Expr.only_member
    · exact fun v _ => .single (Expr.only_str (s := v.name))
  · rename_i v hv _ _
    exact deconstruct_closed h (fun f hf => hr f (mem_fields (hv ▸ List.mem_cons_self) hf)) m _
  · refine .append (closed_map_when ?_ ?_) (raiseUnknown_closed (List.mem_append_left _ hv))
    · exact fun v _ => Expr.only_member
    · exact fun v hv => deconstruct_closed h (fun f hf => hr f (mem_fields hv hf)) m _

theorem permits_scope (ha : Ambient P) (dir : Direction) {value : String}
    {type : Code.TypeHint} :
    Permits (scope dir runtime d) (Allows ((params dir d value type).map (·.name)) P) := by
  refine ha.permits fun c hc => ?_
  simp only [params, List.map_cons, List.map_map]
  exact List.mem_cons_of_mem _ (List.mem_map.mpr ⟨c, hc, rfl⟩)

/-- The converters of a definition use no global names but those of the types of its fields. -/
theorem globals_fromJson (ha : Ambient P)
    (hr : ∀ f ∈ d.fields, ∀ r ∈ f.type.references, Reaches P r) (m : Mangling) :
    ∀ n ∈ (fromJson m runtime d).globals, P n :=
  Function.globals_of_closed
    (fromJsonBody_closed (permits_scope ha .fromExternal) List.mem_cons_self hr m)

theorem globals_toJson (ha : Ambient P)
    (hr : ∀ f ∈ d.fields, ∀ r ∈ f.type.references, Reaches P r) (m : Mangling) :
    ∀ n ∈ (toJson m runtime d).globals, P n :=
  Function.globals_of_closed
    (toJsonBody_closed (permits_scope ha .toExternal) List.mem_cons_self hr m)

end Bodies

end Converter

namespace App
variable {a : App}

theorem permits_scope (ha : Ambient P) : Permits a.scope (Allows given P) :=
  ha.permits fun _ hc => absurd hc List.not_mem_nil

theorem converted_only (ha : Ambient P) {f : Field}
    (hr : ∀ r ∈ f.type.references, Reaches P r) (hf : identifier f.name ∈ given) :
    (a.converted f).2.Only (Allows given P) :=
  Conversion.convert_only (permits_scope ha) (fun r hr' => .inr (hr r hr' _))
    (Expr.only_name.mpr (.inl hf)) 0

theorem passed_only {f : Field} (hf : identifier f.name ∈ given) :
    (a.passed f).2.Only (Allows given P) := Expr.only_name.mpr (.inl hf)

theorem param_name {param : Field → Param × Expr}
    (hp : ∀ f, param f = a.passed f ∨ param f = a.converted f) (f : Field) :
    (param f).1.name = identifier f.name := by
  rcases hp f with h | h
  · rw [h, passed]
  · rw [h, converted]

theorem args_only (ha : Ambient P) {fs : List Field} {param : Field → Param × Expr}
    (hp : ∀ f, param f = a.passed f ∨ param f = a.converted f)
    (hr : ∀ f ∈ fs, ∀ r ∈ f.type.references, Reaches P r) :
    ∀ e ∈ (fs.map param).map (·.2),
      e.Only (Allows (((fs.map param).map (·.1)).map (·.name)) P) := by
  intro e he
  rw [List.map_map] at he
  obtain ⟨f, hf, rfl⟩ := List.mem_map.mp he
  have hgiven : identifier f.name ∈ ((fs.map param).map (·.1)).map (·.name) := by
    rw [List.map_map, List.map_map, ← param_name hp f]
    exact List.mem_map.mpr ⟨f, hf, rfl⟩
  rcases hp f with h | h
  · simpa [h] using passed_only hgiven
  · simpa [h] using converted_only ha (hr f hf) hgiven

theorem constructorParam_cases (isAction : Bool) (f : Field) :
    a.constructorParam isAction f = a.passed f ∨ a.constructorParam isAction f = a.converted f := by
  rw [constructorParam]
  split
  · exact .inl rfl
  · exact .inr rfl

theorem headD_of_forall {Q : Expr → Prop} {es : List Expr} {e : Expr} (hes : ∀ e ∈ es, Q e)
    (he : Q e) : Q (es.headD e) := by
  cases es with
  | nil => exact he
  | cons e' es => exact hes e' List.mem_cons_self

theorem globals_constructor (ha : Ambient P) {d : Definition} {v : Variant}
    (hr : ∀ f ∈ v.fields, ∀ r ∈ f.type.references, Reaches P r) (isAction : Bool) :
    ∀ n ∈ (a.constructor isAction d v).globals, P n := by
  refine Function.globals_of_closed (.single ?_)
  have hargs := args_only ha (constructorParam_cases (a := a) isAction) hr
  have hcall := Expr.only_call.mpr ⟨constructor_only a.mangling d.moduleName d.name v.name, hargs⟩
  change Expr.Only _ (if _ then _ else _)
  split
  · exact headD_of_forall hargs hcall
  · exact hcall

theorem wrapperParam_cases (f : Field) :
    a.wrapperParam f = a.passed f ∨ a.wrapperParam f = a.converted f := by
  rw [wrapperParam]
  split
  · exact .inl rfl
  · exact .inr rfl

theorem globals_wrapper (ha : Ambient P) {s : Signature}
    (hr : ∀ r ∈ s.references, Reaches P r) : ∀ n ∈ (a.wrapper s).globals, P n := by
  have hreferences {t : TypeDescriptor} (ht : t ∈ s.types) : ∀ r ∈ t.references, Reaches P r :=
    fun r hr' => hr r (List.mem_flatMap.mpr ⟨t, ht, hr'⟩)
  have hparams : ∀ f ∈ s.parameters, ∀ r ∈ f.type.references, Reaches P r := fun f hf =>
    hreferences (List.mem_append_left _ (List.mem_map.mpr ⟨f, hf, rfl⟩))
  have hresult := hreferences (List.mem_append_right _ (List.mem_singleton.mpr rfl))
  have hargs := args_only ha (wrapperParam_cases (a := a)) hparams
  have hcall := (Expr.only_call (f := a.mangling.function a.options.appCoreModule s.name)).mpr
    ⟨Expr.only_member, hargs⟩
  refine Function.globals_of_closed (.single ?_)
  change Expr.Only _ (if _ then _ else _)
  split
  · exact Conversion.convert_only (permits_scope ha) (fun r hr' => .inr (hresult r hr' _)) hcall 0
  · exact hcall

theorem modelField_only {model : Definition} (hm : "m" ∈ given) (f : Field) :
    (a.modelField model f).Only (Allows given P) := by
  rw [modelField]
  split
  · exact Expr.only_name.mpr (.inl hm)
  · exact Expr.only_member

theorem mapArgs?_mem {t key value : TypeDescriptor} (h : t.mapArgs? = some (key, value)) :
    key ∈ t.args ∧ value ∈ t.args := by
  rw [TypeDescriptor.mapArgs?] at h
  split at h
  · rename_i hargs
    cases h
    rw [hargs]
    exact ⟨List.mem_cons_self, List.mem_cons_of_mem _ List.mem_cons_self⟩
  · cases h

theorem mapArgs?_references {t key value : TypeDescriptor} (h : t.mapArgs? = some (key, value)) :
    (∀ r ∈ key.references, r ∈ t.references) ∧ ∀ r ∈ value.references, r ∈ t.references := by
  obtain ⟨hkey, hvalue⟩ := mapArgs?_mem h
  obtain ⟨kind, name, args⟩ := t
  exact ⟨fun r hr => TypeDescriptor.references_of_arg hkey hr,
    fun r hr => TypeDescriptor.references_of_arg hvalue hr⟩

theorem globals_accessor (ha : Ambient P) {model : Definition} {f : Field}
    (hr : ∀ r ∈ f.type.references, Reaches P r) :
    ∀ n ∈ (a.accessor model f).globals, P n := by
  rw [accessor]
  cases h : f.type.mapArgs? with
  | none =>
    refine Function.globals_of_closed (.single ?_)
    exact Conversion.convert_only (permits_scope ha) (fun r hr' => .inr (hr r hr' _))
      (modelField_only (by simp) f) 0
  | some found =>
    obtain ⟨key, value⟩ := found
    obtain ⟨hkey, hvalue⟩ := mapArgs?_references h
    have hsource {l : List String} :
        (a.modelField model f).Only (Allows (["m", "key"] ++ l) P) :=
      modelField_only (by simp) f
    have hread : (Conversion.convert .fromExternal a.scope key (.name "key") 0).Only
        (Allows ["m", "key"] P) :=
      Conversion.convert_only (permits_scope ha) (fun r hr' => .inr (hr r (hkey r hr') _))
        (Expr.only_name.mpr (.inl (by simp))) 0
    have hwrite : (Conversion.convert .toExternal a.scope value (.name "val") 0).Only
        (Allows (["m", "key"] ++ ["dafny_key"] ++ ["val"]) P) :=
      Conversion.convert_only (permits_scope ha) (fun r hr' => .inr (hr r (hvalue r hr') _))
        (Expr.only_name.mpr (.inl (by simp))) 0
    have hlookup (member : String) :
        (Expr.callAttr (a.modelField model f) member [.name "dafny_key"]).Only
          (Allows (["m", "key"] ++ ["dafny_key"]) P) :=
      hsource.callAttr (by simp [Stmt.Allows]) member
    refine Function.globals_of_closed (.cons hread (.append (.when (hlookup "contains") ?_) ?_))
    · exact .cons (hlookup "get") (.single hwrite)
    · exact .single (Expr.only_name.mpr (.inr ha.none))

theorem kept?_of_rulings {taken : List String} {cs : List Candidate} {f : Function}
    (h : f ∈ (rulings taken cs).filterMap (·.kept?)) : ∃ c ∈ cs, c.function = f := by
  induction cs generalizing taken with
  | nil => exact absurd h List.not_mem_nil
  | cons c cs ih =>
    obtain ⟨r, hr, hf⟩ := List.mem_filterMap.mp h
    rw [rulings] at hr
    rcases List.mem_cons.mp hr with rfl | hr
    · refine ⟨c, List.mem_cons_self, ?_⟩
      rw [rule] at hf
      split at hf
      · cases hf
      · split at hf
        · cases hf
        · exact Option.some.inj hf
    · obtain ⟨c', hc', hf⟩ := ih (List.mem_filterMap.mpr ⟨r, hr, hf⟩)
      exact ⟨c', List.mem_cons_of_mem c hc', hf⟩

theorem kept?_of_ruleAll {taken : List String} {sections : List (String × List Candidate)}
    {r : String × List Ruling} (hr : r ∈ ruleAll taken sections) {f : Function}
    (hf : f ∈ r.2.filterMap (·.kept?)) : ∃ s ∈ sections, ∃ c ∈ s.2, c.function = f := by
  induction sections generalizing taken with
  | nil => exact absurd hr List.not_mem_nil
  | cons s sections ih =>
    obtain ⟨title, cs⟩ := s
    rw [ruleAll] at hr
    rcases List.mem_cons.mp hr with rfl | hr
    · obtain ⟨c, hc, hf⟩ := kept?_of_rulings hf
      exact ⟨(title, cs), List.mem_cons_self, c, hc, hf⟩
    · obtain ⟨s, hs, h⟩ := ih hr
      exact ⟨s, List.mem_cons_of_mem _ hs, h⟩

def members (a : App) : List Function := a.sections.flatMap (·.members)

theorem mem_members {f : Function} (h : f ∈ a.members) :
    ∃ s ∈ a.candidates, ∃ c ∈ s.2, c.function = f := by
  obtain ⟨s, hs, hf⟩ := List.mem_flatMap.mp h
  obtain ⟨r, hr, rfl⟩ := List.mem_map.mp (List.mem_of_mem_filter hs)
  exact kept?_of_ruleAll hr hf

theorem domainType?_mem {name : String} {d : Definition} (h : a.domainType? name = some d) :
    d ∈ a.generationSet.definitions := List.mem_of_find?_eq_some h

theorem mem_fields_of_modelFields {d : Definition} (h : a.model? = some d) {f : Field}
    (hf : f ∈ a.modelFields) : f ∈ d.fields := by
  obtain ⟨m, n, _ | ⟨v, vs⟩, ps⟩ := d
  · simp [modelFields, h] at hf
  · refine mem_fields (v := v) List.mem_cons_self ?_
    simpa [modelFields, h] using hf

/-- The four kinds of members, and what each is made for. -/
theorem member_cases {f : Function} (h : f ∈ a.members) :
    (∃ d ∈ a.generationSet.definitions, ∃ v ∈ d.variants, f = a.constructor false d v) ∨
      (∃ d, a.action? = some d ∧ ∃ v ∈ d.variants, f = a.constructor true d v) ∨
      (∃ d, a.model? = some d ∧ ∃ g ∈ a.modelFields, f = a.accessor d g) ∨
      ∃ s ∈ a.functions, f = a.wrapper s := by
  obtain ⟨sec, hsec, c, hc, rfl⟩ := mem_members h
  simp only [candidates, List.mem_append, List.mem_map, Option.mem_toList, List.mem_singleton]
    at hsec
  rcases hsec with ((⟨d, hd, rfl⟩ | ⟨d, hd, rfl⟩) | ⟨d, hd, rfl⟩) | rfl
  · obtain ⟨v, hv, rfl⟩ := List.mem_map.mp hc
    exact .inl ⟨d, List.mem_of_mem_filter hd, v, hv, rfl⟩
  · obtain ⟨v, hv, rfl⟩ := List.mem_map.mp hc
    exact .inr (.inl ⟨d, hd, v, hv, rfl⟩)
  · obtain ⟨g, hg, rfl⟩ := List.mem_map.mp hc
    exact .inr (.inr (.inl ⟨d, hd, g, hg, rfl⟩))
  · obtain ⟨s, hs, rfl⟩ := List.mem_map.mp hc
    exact .inr (.inr (.inr ⟨s, hs, rfl⟩))

theorem globals_members (ha : Ambient P)
    (hd : ∀ d ∈ a.generationSet.definitions, ∀ f ∈ d.fields, ∀ r ∈ f.type.references, Reaches P r)
    (hs : ∀ s ∈ a.functions, ∀ r ∈ s.references, Reaches P r) :
    ∀ f ∈ a.members, ∀ n ∈ f.globals, P n := by
  intro g hg
  rcases member_cases hg with ⟨d, hmem, v, hv, rfl⟩ | ⟨d, hmem, v, hv, rfl⟩ |
    ⟨d, hmem, f, hf, rfl⟩ | ⟨s, hmem, rfl⟩
  · exact globals_constructor ha (fun f hf => hd d hmem f (mem_fields hv hf)) false
  · exact globals_constructor ha
      (fun f hf => hd d (domainType?_mem hmem) f (mem_fields hv hf)) true
  · exact globals_accessor ha (hd d (domainType?_mem hmem) f (mem_fields_of_modelFields hmem hf))
  · exact globals_wrapper ha (hs s hmem)

end App

end Marshal
