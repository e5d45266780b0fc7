import Marshal.Declaration.Meaning
import Marshal.Proofs.Declaration.Layout
import Marshal.Proofs.Report

/-!
# What declarations stand for

The meaning of written types and declarations as relations, and the catalog of a text as that of
the modules it renders. A written type is read by the first rule that fits: a type parameter, a
built-in type, a datatype of the text, a foreign type.
-/

namespace Marshal.Declaration
set_option autoImplicit false

/-- Fields, variants and datatypes are told apart by their names; ghosts count. -/
def VariantDecl.Distinct (v : VariantDecl) : Prop := (v.fieldList.map (·.name)).Nodup

def DatatypeDecl.Distinct (d : DatatypeDecl) : Prop :=
  (d.variants.map (·.name)).Nodup ∧ ∀ v ∈ d.variants, v.Distinct

def ModuleDecl.Distinct (m : ModuleDecl) : Prop :=
  (m.datatypes.map (·.name)).Nodup ∧ ∀ d ∈ m.datatypes, d.Distinct

/-- Only predicates may leave their result type out. -/
def FunctionDecl.HasResult (f : FunctionDecl) : Prop := f.result = none → f.kind = .predicate

def ModuleDecl.offered (m : ModuleDecl) : List FunctionDecl := m.functions.filter (!·.isGhost)

/-- Declarations that have a catalog: abstract modules need no result types. -/
structure Valid (ms : List ModuleDecl) : Prop where
  distinct : ∀ m ∈ ms, m.Distinct
  results : ∀ m ∈ concreteModules ms, ∀ f ∈ m.offered, f.HasResult

def builtins : List String :=
  ["int", "nat", "bool", "string", "char", "seq", "set", "iset", "map", "imap"]

/--
What a written type stands for, given the datatypes that are known and the type parameters in
scope. Types other than type parameters go by the last component of their name.
-/
inductive Denotes (known params : List String) : TypeExpr → TypeDescriptor → Prop where
  | param {n : DottedName} {args : List TypeExpr} :
      n.text ∈ params → Denotes known params (.named n args) (.typeParam n.text)
  | int {n : DottedName} {args : List TypeExpr} :
      n.text ∉ params → n.last ∈ ["int", "nat"] → Denotes known params (.named n args) (.int n.last)
  | bool {n : DottedName} {args : List TypeExpr} :
      n.text ∉ params → n.last = "bool" → Denotes known params (.named n args) .bool
  | string {n : DottedName} {args : List TypeExpr} :
      n.text ∉ params → n.last ∈ ["string", "char"] → Denotes known params (.named n args) .string
  | seq {n : DottedName} {a : TypeExpr} {args : List TypeExpr} {t : TypeDescriptor} :
      n.text ∉ params → n.last = "seq" → Denotes known params a t →
      Denotes known params (.named n (a :: args)) (.seq t)
  | set {n : DottedName} {a : TypeExpr} {args : List TypeExpr} {t : TypeDescriptor} :
      n.text ∉ params → n.last ∈ ["set", "iset"] → Denotes known params a t →
      Denotes known params (.named n (a :: args)) (.set t)
  | map {n : DottedName} {a b : TypeExpr} {args : List TypeExpr} {t u : TypeDescriptor} :
      n.text ∉ params → n.last ∈ ["map", "imap"] → Denotes known params a t →
      Denotes known params b u → Denotes known params (.named n (a :: b :: args)) (.map t u)
  /-- Sequences, sets and maps without their arguments keep the name they are written with. -/
  | bareSeq {n : DottedName} : n.text ∉ params → n.last = "seq" →
      Denotes known params (.named n []) ⟨.seq, n.last, []⟩
  | bareSet {n : DottedName} : n.text ∉ params → n.last ∈ ["set", "iset"] →
      Denotes known params (.named n []) ⟨.set, n.last, []⟩
  | bareMap {n : DottedName} {args : List TypeExpr} {ts : List TypeDescriptor} :
      n.text ∉ params → n.last ∈ ["map", "imap"] → args.length < 2 →
      List.Forall₂ (Denotes known params) args ts →
      Denotes known params (.named n args) ⟨.map, n.last, ts⟩
  | datatype {n : DottedName} {args : List TypeExpr} {ts : List TypeDescriptor} :
      n.text ∉ params → n.last ∉ builtins → n.last ∈ known →
      List.Forall₂ (Denotes known params) args ts →
      Denotes known params (.named n args) (.datatype n.last ts)
  | foreign {n : DottedName} {args : List TypeExpr} :
      n.text ∉ params → n.last ∉ builtins → n.last ∉ known →
      Denotes known params (.named n args) (.foreign n.text)
  /-- A type in parentheses is that type. -/
  | paren {e : TypeExpr} {t : TypeDescriptor} :
      Denotes known params e t → Denotes known params (.tuple [e]) t
  | tuple {items : List TypeExpr} {ts : List TypeDescriptor} :
      items.length ≠ 1 → List.Forall₂ (Denotes known params) items ts →
      Denotes known params (.tuple items) (.tuple ts)

def FieldDecl.Denotes (known params : List String) (f : FieldDecl) (g : Field) : Prop :=
  g.name = f.name ∧ Declaration.Denotes known params f.type g.type

/-- What fields stand for; ghosts leave no trace. -/
def FieldsDenote (known params : List String) (fs : List FieldDecl) (gs : List Field) : Prop :=
  List.Forall₂ (FieldDecl.Denotes known params) (fs.filter (!·.isGhost)) gs

def VariantDecl.Denotes (known params : List String) (v : VariantDecl) (w : Variant) : Prop :=
  w.name = v.name ∧ FieldsDenote known params v.fieldList w.fields

def DatatypeDecl.Denotes (known : List String) (moduleName : String) (d : DatatypeDecl)
    (def' : Definition) : Prop :=
  def'.moduleName = moduleName ∧ def'.name = d.name ∧ def'.typeParams = d.typeParams ∧
    List.Forall₂ (VariantDecl.Denotes known d.typeParams) d.variants def'.variants

def FunctionDecl.ResultDenotes (known : List String) (f : FunctionDecl) (t : TypeDescriptor) :
    Prop :=
  match f.result with
  | some e => Declaration.Denotes known f.typeParams e t
  | none => t = .bool

def FunctionDecl.Denotes (known : List String) (moduleName : String) (f : FunctionDecl)
    (s : Signature) : Prop :=
  s.moduleName = moduleName ∧ s.name = f.name ∧
    FieldsDenote known f.typeParams f.params s.parameters ∧ f.ResultDenotes known s.result

/-- What a module stands for: its definitions and the signatures of the functions it offers. -/
def ModuleDecl.Denotes (known : List String) (m : ModuleDecl) (part : Catalog) : Prop :=
  List.Forall₂ (DatatypeDecl.Denotes known m.name.text) m.datatypes part.definitions ∧
    List.Forall₂ (FunctionDecl.Denotes known m.name.text) m.offered part.functions

/--
The catalog of modules is made of what the concrete ones stand for, in order. Known are the
datatypes of all of them.
-/
def IsCatalogOf (ms : List ModuleDecl) (c : Catalog) : Prop :=
  ∃ parts, List.Forall₂ (ModuleDecl.Denotes (knownNames (concreteModules ms))) (concreteModules ms)
      parts ∧
    c.definitions = parts.flatMap (·.definitions) ∧ c.functions = parts.flatMap (·.functions)

theorem TypeExpr.descriptors_eq_map (known params : List String) (ts : List TypeExpr) :
    TypeExpr.descriptors known params ts = ts.map (·.descriptor known params) := by
  induction ts with
  | nil => rfl
  | cons t ts ih => rw [TypeExpr.descriptors, ih, List.map_cons]

theorem forall₂_denotes_iff {known params : List String} {es : List TypeExpr}
    {ts : List TypeDescriptor}
    (h : ∀ e ∈ es, ∀ t, Denotes known params e t ↔ t = e.descriptor known params) :
    List.Forall₂ (Denotes known params) es ts ↔ ts = TypeExpr.descriptors known params es := by
  rw [TypeExpr.descriptors_eq_map]
  induction es generalizing ts with
  | nil => simp
  | cons e es ih =>
    have he := h e List.mem_cons_self
    have hes := fun ts => @ih ts fun e' he' => h e' (List.mem_cons_of_mem e he')
    simp [List.forall₂_cons_left_iff, he, hes]

theorem DottedName.kind_of_builtin (known : List String) {params : List String} {n : DottedName}
    (hp : n.text ∉ params) :
    (n.last ∈ ["int", "nat"] → n.kind known params = .int) ∧
    (n.last = "bool" → n.kind known params = .bool) ∧
    (n.last ∈ ["string", "char"] → n.kind known params = .string) ∧
    (n.last = "seq" → n.kind known params = .seq) ∧
    (n.last ∈ ["set", "iset"] → n.kind known params = .set) ∧
    (n.last ∈ ["map", "imap"] → n.kind known params = .map) := by
  simp only [kind, hp, if_false, List.mem_cons, List.not_mem_nil, or_false]
  refine ⟨?_, ?_, ?_, ?_, ?_, ?_⟩
  · intro h
    simp [h]
  · intro h
    simp [h]
  · rintro (h | h) <;> simp [h]
  · intro h
    simp [h]
  · rintro (h | h) <;> simp [h]
  · rintro (h | h) <;> simp [h]

theorem DottedName.kind_of_not_builtin (known : List String) {params : List String} {n : DottedName}
    (hp : n.text ∉ params) (hb : n.last ∉ builtins) :
    n.kind known params = if n.last ∈ known then .datatype else .foreign := by
  simp only [builtins, List.mem_cons, List.not_mem_nil, or_false, not_or] at hb
  simp [kind, hp, hb]

theorem DottedName.denotes {known params : List String} (n : DottedName) {args : List TypeExpr}
    (ih : ∀ e ∈ args, Denotes known params e (e.descriptor known params)) :
    Denotes known params (.named n args)
      (n.descriptor known params (args.map (·.descriptor known params))) := by
  have hargs : List.Forall₂ (Denotes known params) args
      (args.map (·.descriptor known params)) := by
    rw [List.forall₂_map_right_iff, List.forall₂_same]
    exact ih
  by_cases hp : n.text ∈ params
  · simpa [descriptor, kind, hp] using Denotes.param hp
  obtain ⟨hint, hbool, hstring, hseq, hset, hmap⟩ := kind_of_builtin known hp
  by_cases h : n.last ∈ ["int", "nat"]
  · simpa [descriptor, hint h] using Denotes.int hp h
  by_cases h : n.last = "bool"
  · simpa [descriptor, hbool h] using Denotes.bool hp h
  by_cases h : n.last ∈ ["string", "char"]
  · simpa [descriptor, hstring h] using Denotes.string hp h
  by_cases h : n.last = "seq"
  · cases args with
    | nil => simpa [descriptor, hseq h] using Denotes.bareSeq hp h
    | cons a args => simpa [descriptor, hseq h] using Denotes.seq hp h (ih a List.mem_cons_self)
  by_cases h : n.last ∈ ["set", "iset"]
  · cases args with
    | nil => simpa [descriptor, hset h] using Denotes.bareSet hp h
    | cons a args => simpa [descriptor, hset h] using Denotes.set hp h (ih a List.mem_cons_self)
  by_cases h : n.last ∈ ["map", "imap"]
  · obtain _ | ⟨a, _ | ⟨b, args⟩⟩ := args
    · simpa [descriptor, hmap h] using Denotes.bareMap hp h (by simp) hargs
    · simpa [descriptor, hmap h] using Denotes.bareMap hp h (by simp) hargs
    · simpa [descriptor, hmap h] using Denotes.map hp h (ih a List.mem_cons_self)
        (ih b (List.mem_cons_of_mem a List.mem_cons_self))
  have hb : n.last ∉ builtins := by
    simp_all [builtins]
  have hk := kind_of_not_builtin known hp hb
  by_cases h : n.last ∈ known
  · simpa [descriptor, hk, h] using Denotes.datatype hp hb h hargs
  · simpa [descriptor, hk, h] using Denotes.foreign hp hb h

theorem DottedName.eq_of_denotes {known params : List String} {n : DottedName}
    {args : List TypeExpr} {t : TypeDescriptor}
    (ih : ∀ e ∈ args, ∀ t, Denotes known params e t ↔ t = e.descriptor known params)
    (h : Denotes known params (.named n args) t) :
    t = n.descriptor known params (TypeExpr.descriptors known params args) := by
  cases h with
  | param hp => simp [descriptor, kind, hp]
  | int hp hn => simp [descriptor, (kind_of_builtin known hp).1 hn]
  | bool hp hn => simp [descriptor, (kind_of_builtin known hp).2.1 hn]
  | string hp hn => simp [descriptor, (kind_of_builtin known hp).2.2.1 hn]
  | seq hp hn ha =>
    obtain rfl := (ih _ List.mem_cons_self _).mp ha
    simp [descriptor, (kind_of_builtin known hp).2.2.2.1 hn, TypeExpr.descriptors]
  | set hp hn ha =>
    obtain rfl := (ih _ List.mem_cons_self _).mp ha
    simp [descriptor, (kind_of_builtin known hp).2.2.2.2.1 hn, TypeExpr.descriptors]
  | map hp hn ha hb =>
    obtain rfl := (ih _ List.mem_cons_self _).mp ha
    obtain rfl := (ih _ (List.mem_cons_of_mem _ List.mem_cons_self) _).mp hb
    simp [descriptor, (kind_of_builtin known hp).2.2.2.2.2 hn, TypeExpr.descriptors]
  | bareSeq hp hn => simp [descriptor, (kind_of_builtin known hp).2.2.2.1 hn, TypeExpr.descriptors]
  | bareSet hp hn => simp [descriptor, (kind_of_builtin known hp).2.2.2.2.1 hn, TypeExpr.descriptors]
  | bareMap hp hn hl ha =>
    obtain rfl := (forall₂_denotes_iff ih).mp ha
    obtain _ | ⟨a, _ | ⟨b, args⟩⟩ := args
    · simp [descriptor, (kind_of_builtin known hp).2.2.2.2.2 hn, TypeExpr.descriptors]
    · simp [descriptor, (kind_of_builtin known hp).2.2.2.2.2 hn, TypeExpr.descriptors]
    · exact absurd hl (by simp)
  | datatype hp hb hk ha =>
    obtain rfl := (forall₂_denotes_iff ih).mp ha
    simp [descriptor, kind_of_not_builtin known hp hb, hk]
  | foreign hp hb hk => simp [descriptor, kind_of_not_builtin known hp hb, hk]

/-- A written type stands for its descriptor, and for nothing else. -/
theorem denotes_iff {known params : List String} {e : TypeExpr} {t : TypeDescriptor} :
    Denotes known params e t ↔ t = e.descriptor known params := by
  induction e using TypeExpr.induction generalizing t with
  | named n args ih =>
    have hargs : ∀ e ∈ args, ∀ t, Denotes known params e t ↔ t = e.descriptor known params :=
      fun e he t => ih e he
    constructor
    · exact DottedName.eq_of_denotes hargs
    · rintro rfl
      rw [TypeExpr.descriptor, TypeExpr.descriptors_eq_map]
      exact n.denotes fun e he => (hargs e he _).mpr rfl
  | tuple items ih =>
    have hitems : ∀ ts, List.Forall₂ (Denotes known params) items ts ↔
        ts = TypeExpr.descriptors known params items :=
      fun ts => forall₂_denotes_iff fun e he t => ih e he
    constructor
    · intro h
      cases h with
      | paren h => simpa [TypeExpr.descriptor] using (ih _ List.mem_cons_self).mp h
      | tuple hl h =>
        obtain rfl := (hitems _).mp h
        obtain _ | ⟨a, _ | ⟨b, items⟩⟩ := items
        · rfl
        · exact absurd rfl hl
        · rfl
    · rintro rfl
      obtain _ | ⟨a, _ | ⟨b, items⟩⟩ := items
      · exact .tuple (by simp) ((hitems _).mpr rfl)
      · exact .paren ((ih a List.mem_cons_self).mpr rfl)
      · exact .tuple (by simp) ((hitems _).mpr rfl)

theorem resolve_outcome_eq_ok {known params : List String} {e : TypeExpr} {t : TypeDescriptor} :
    (e.resolve known params).outcome = .ok t ↔ Denotes known params e t := by
  rw [denotes_iff, TypeExpr.resolve, Except.ok.injEq, eq_comm]

theorem resolveFields_outcome_eq_ok {known params : List String} {fs : List FieldDecl}
    {gs : List Field} :
    (resolveFields known params fs).outcome = .ok gs ↔ FieldsDenote known params fs gs := by
  refine Report.mapM_outcome_eq_ok fun f g => ?_
  rw [Report.bind_outcome_eq_ok]
  constructor
  · rintro ⟨t, ht, h⟩
    cases h
    exact ⟨rfl, resolve_outcome_eq_ok.mp ht⟩
  · obtain ⟨name, t⟩ := g
    rintro ⟨rfl, ht⟩
    exact ⟨t, resolve_outcome_eq_ok.mpr ht, rfl⟩

theorem VariantDecl.resolve_outcome_eq_ok {known params : List String} (v : VariantDecl)
    (w : Variant) :
    (do
      let fields ← resolveFields known params v.fieldList
      return ⟨v.name, fields⟩ : Report Invalid Variant).outcome = .ok w ↔
      v.Denotes known params w := by
  rw [Report.bind_outcome_eq_ok]
  constructor
  · rintro ⟨gs, hgs, h⟩
    cases h
    exact ⟨rfl, resolveFields_outcome_eq_ok.mp hgs⟩
  · obtain ⟨name, gs⟩ := w
    rintro ⟨rfl, hgs⟩
    exact ⟨gs, resolveFields_outcome_eq_ok.mpr hgs, rfl⟩

theorem DatatypeDecl.resolve_outcome_eq_ok {known : List String} {moduleName : String}
    {d : DatatypeDecl} {def' : Definition} :
    (d.resolve known moduleName).outcome = .ok def' ↔ d.Denotes known moduleName def' := by
  rw [resolve, Report.bind_outcome_eq_ok]
  constructor
  · rintro ⟨ws, hws, h⟩
    cases h
    exact ⟨rfl, rfl, rfl, (Report.mapM_outcome_eq_ok VariantDecl.resolve_outcome_eq_ok).mp hws⟩
  · obtain ⟨m, n, ws, ps⟩ := def'
    rintro ⟨rfl, rfl, rfl, hws⟩
    exact ⟨ws, (Report.mapM_outcome_eq_ok VariantDecl.resolve_outcome_eq_ok).mpr hws, rfl⟩

theorem FunctionDecl.resolveResult_outcome_eq_ok {known : List String} {moduleName : String}
    {f : FunctionDecl} {t : TypeDescriptor} :
    (f.resolveResult known moduleName).outcome = .ok t ↔ f.HasResult ∧ f.ResultDenotes known t := by
  obtain ⟨g, k, n, tps, ps, r⟩ := f
  cases r with
  | some e => simp [resolveResult, HasResult, ResultDenotes, Declaration.resolve_outcome_eq_ok]
  | none => cases k <;> simp [resolveResult, HasResult, ResultDenotes, eq_comm]

theorem FunctionDecl.resolve_outcome_eq_ok {known : List String} {moduleName : String}
    {f : FunctionDecl} {s : Signature} :
    (f.resolve known moduleName).outcome = .ok s ↔
      f.HasResult ∧ f.Denotes known moduleName s := by
  rw [resolve, Report.bind_outcome_eq_ok]
  constructor
  · rintro ⟨t, ht, h⟩
    obtain ⟨gs, hgs, h⟩ := Report.bind_outcome_eq_ok.mp h
    cases h
    obtain ⟨hr, ht⟩ := resolveResult_outcome_eq_ok.mp ht
    exact ⟨hr, rfl, rfl, resolveFields_outcome_eq_ok.mp hgs, ht⟩
  · obtain ⟨m, n, gs, t⟩ := s
    rintro ⟨hr, rfl, rfl, hgs, ht⟩
    exact ⟨t, resolveResult_outcome_eq_ok.mpr ⟨hr, ht⟩,
      Report.bind_outcome_eq_ok.mpr ⟨gs, resolveFields_outcome_eq_ok.mpr hgs, rfl⟩⟩

theorem resolveFunctions_outcome_eq_ok {known : List String} {moduleName : String}
    {fs : List FunctionDecl} {ss : List Signature} :
    (resolveFunctions known moduleName fs).outcome = .ok ss ↔
      List.Forall₂ (fun f s => f.HasResult ∧ f.Denotes known moduleName s)
        (fs.filter (!·.isGhost)) ss := by
  induction fs generalizing ss with
  | nil => cases ss <;> simp [resolveFunctions]
  | cons f fs ih =>
    rw [resolveFunctions]
    cases hg : f.isGhost with
    | true => simpa [hg, bind, Except.bind] using ih
    | false =>
      rw [List.filter_cons_of_pos (by simp [hg]), List.forall₂_cons_left_iff, if_neg (by simp),
        Report.bind_outcome_eq_ok]
      constructor
      · rintro ⟨s, hs, h⟩
        obtain ⟨rest, hrest, h⟩ := Report.bind_outcome_eq_ok.mp h
        cases h
        exact ⟨s, rest, FunctionDecl.resolve_outcome_eq_ok.mp hs, ih.mp hrest, rfl⟩
      · rintro ⟨s, rest, hs, hrest, rfl⟩
        exact ⟨s, FunctionDecl.resolve_outcome_eq_ok.mpr hs,
          Report.bind_outcome_eq_ok.mpr ⟨rest, ih.mpr hrest, rfl⟩⟩

theorem ModuleDecl.resolve_outcome_eq_ok {known : List String} {m : ModuleDecl} {part : Catalog} :
    (m.resolve known).outcome = .ok part ↔
      (∀ f ∈ m.offered, f.HasResult) ∧ m.Denotes known part := by
  have hdefinitions (ds : List Definition) :
      (m.datatypes.mapM fun d => d.resolve known m.name.text : Report Invalid _).outcome = .ok ds ↔
        List.Forall₂ (DatatypeDecl.Denotes known m.name.text) m.datatypes ds :=
    Report.mapM_outcome_eq_ok fun d def' => DatatypeDecl.resolve_outcome_eq_ok
  rw [resolve, Report.bind_outcome_eq_ok]
  constructor
  · rintro ⟨ds, hds, h⟩
    obtain ⟨ss, hss, h⟩ := Report.bind_outcome_eq_ok.mp h
    cases h
    obtain ⟨hr, hss⟩ := (List.forall₂_and_left _ _).mp (resolveFunctions_outcome_eq_ok.mp hss)
    exact ⟨hr, (hdefinitions ds).mp hds, hss⟩
  · obtain ⟨ds, ss⟩ := part
    rintro ⟨hr, hds, hss⟩
    have hfunctions := resolveFunctions_outcome_eq_ok.mpr
      ((List.forall₂_and_left _ _).mpr ⟨hr, hss⟩)
    exact ⟨ds, (hdefinitions ds).mpr hds, Report.bind_outcome_eq_ok.mpr ⟨ss, hfunctions, rfl⟩⟩

theorem nodup_fresh_cons_iff {seen ns : List String} {n : String} :
    (n :: ns).Nodup ∧ (∀ k ∈ n :: ns, k ∉ seen) ↔
      n ∉ seen ∧ ns.Nodup ∧ ∀ k ∈ ns, k ∉ n :: seen := by
  simp only [List.nodup_cons, List.forall_mem_cons]
  constructor
  · rintro ⟨⟨hn, hns⟩, h, hseen⟩
    refine ⟨h, hns, fun k hk => List.not_mem_cons_of_ne_of_not_mem ?_ (hseen k hk)⟩
    rintro rfl
    exact hn hk
  · rintro ⟨h, hns, hseen⟩
    exact ⟨⟨fun hn => hseen n hn List.mem_cons_self, hns⟩, h,
      fun k hk => List.not_mem_of_not_mem_cons (hseen k hk)⟩

theorem firstRepeated?_eq_none_iff {seen ns : List String} :
    firstRepeated? seen ns = none ↔ ns.Nodup ∧ ∀ n ∈ ns, n ∉ seen := by
  induction ns generalizing seen with
  | nil => simp [firstRepeated?]
  | cons n ns ih =>
    rw [firstRepeated?, nodup_fresh_cons_iff, ← ih]
    by_cases h : n ∈ seen <;> simp [h]

theorem VariantDecl.distinct_iff (v : VariantDecl) :
    v.Distinct ↔ firstRepeated? [] (v.fieldList.map (·.name)) = none := by
  simp [Distinct, firstRepeated?_eq_none_iff]

theorem offenceInVariants?_eq_none_iff {m d : String} {seen : List String}
    {vs : List VariantDecl} :
    offenceInVariants? m d seen vs = none ↔
      ((vs.map (·.name)).Nodup ∧ ∀ n ∈ vs.map (·.name), n ∉ seen) ∧ ∀ v ∈ vs, v.Distinct := by
  induction vs generalizing seen with
  | nil => simp [offenceInVariants?]
  | cons v vs ih =>
    rw [offenceInVariants?, List.map_cons, nodup_fresh_cons_iff, List.forall_mem_cons,
      v.distinct_iff]
    by_cases hn : v.name ∈ seen
    · simp [hn]
    · cases hf : firstRepeated? [] (v.fieldList.map (·.name)) with
      | some f => simp [hn]
      | none => simp [hn, ih]

theorem DatatypeDecl.distinct_iff (m : String) (d : DatatypeDecl) :
    d.Distinct ↔ offenceInVariants? m d.name [] d.variants = none := by
  simp [Distinct, offenceInVariants?_eq_none_iff]

theorem offenceInDatatypes?_eq_none_iff {m : String} {seen : List String}
    {ds : List DatatypeDecl} :
    offenceInDatatypes? m seen ds = none ↔
      ((ds.map (·.name)).Nodup ∧ ∀ n ∈ ds.map (·.name), n ∉ seen) ∧ ∀ d ∈ ds, d.Distinct := by
  induction ds generalizing seen with
  | nil => simp [offenceInDatatypes?]
  | cons d ds ih =>
    rw [offenceInDatatypes?, List.map_cons, nodup_fresh_cons_iff, List.forall_mem_cons,
      d.distinct_iff m]
    by_cases hn : d.name ∈ seen
    · simp [hn]
    · cases hf : offenceInVariants? m d.name [] d.variants with
      | some e => simp [hn]
      | none => simp [hn, ih]

theorem duplicate?_eq_none_iff {ms : List ModuleDecl} :
    duplicate? ms = none ↔ ∀ m ∈ ms, m.Distinct := by
  simp [duplicate?, List.findSome?_eq_none_iff, offenceInDatatypes?_eq_none_iff,
    ModuleDecl.Distinct]

theorem catalogOf_outcome_eq_ok {ms : List ModuleDecl} {c : Catalog} :
    (catalogOf ms).outcome = .ok c ↔ Valid ms ∧ IsCatalogOf ms c := by
  have hparts (parts : List Catalog) :
      ((concreteModules ms).mapM fun m => m.resolve (knownNames (concreteModules ms)) :
          Report Invalid _).outcome = .ok parts ↔
        (∀ m ∈ concreteModules ms, ∀ f ∈ m.offered, f.HasResult) ∧
          List.Forall₂ (ModuleDecl.Denotes (knownNames (concreteModules ms))) (concreteModules ms)
            parts := by
    rw [← List.forall₂_and_left]
    exact Report.mapM_outcome_eq_ok fun m part => ModuleDecl.resolve_outcome_eq_ok
  rw [catalogOf]
  cases hd : duplicate? ms with
  | some e =>
    constructor
    · intro h
      cases h
    · rintro ⟨hv, -⟩
      rw [duplicate?_eq_none_iff.mpr hv.distinct] at hd
      cases hd
  | none =>
    have hdistinct := duplicate?_eq_none_iff.mp hd
    simp only [Report.bind_outcome_eq_ok]
    constructor
    · rintro ⟨-, -, parts, h, hc⟩
      cases hc
      obtain ⟨hr, hparts⟩ := (hparts parts).mp h
      exact ⟨⟨hdistinct, hr⟩, parts, hparts, rfl, rfl⟩
    · obtain ⟨ds, ss⟩ := c
      rintro ⟨hv, parts, h, rfl, rfl⟩
      exact ⟨(), rfl, parts, (hparts parts).mpr ⟨hv.results, h⟩, rfl⟩

theorem parse_of_renders {text : String} {ms : List ModuleDecl} {c : Catalog}
    (hms : Renders ms text.toList) :
    (parse text).outcome = .ok c ↔ (catalogOf ms).outcome = .ok c := by
  rw [parse, read_eq_ok_iff.mpr hms]
  exact Report.mapError_outcome_eq_ok

theorem modules_of_parse {text : String} {c : Catalog} (h : (parse text).outcome = .ok c) :
    ∃ ms, Renders ms text.toList ∧ Valid ms ∧ IsCatalogOf ms c := by
  unfold parse at h
  split at h
  · cases h
  · rename_i ms hms
    exact ⟨ms, read_eq_ok_iff.mp hms,
      catalogOf_outcome_eq_ok.mp (Report.mapError_outcome_eq_ok.mp h)⟩

/--
A text has a catalog exactly if it renders valid modules, and then it is the catalog of these.
-/
theorem parse_outcome_eq_ok_iff {text : String} {c : Catalog} :
    (parse text).outcome = .ok c ↔
      ∃ ms, Renders ms text.toList ∧ Valid ms ∧ IsCatalogOf ms c := by
  constructor
  · exact modules_of_parse
  · rintro ⟨ms, hms, h⟩
    rw [parse, read_eq_ok_iff.mpr hms]
    exact Report.mapError_outcome_eq_ok.mpr (catalogOf_outcome_eq_ok.mpr h)

end Marshal.Declaration
