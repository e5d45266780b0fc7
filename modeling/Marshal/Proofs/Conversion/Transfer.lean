import Marshal.Proofs.Code.Evaluation
import Marshal.Proofs.Conversion.Placeholder

/-!
# What conversions do to values

The conversion of a type is an expression, but what it does to a value follows the type alone: not
the source expression, nor the nesting depth, nor the variables around it (`follows_of_built`). This
holds of the types that are built from numbers, truth values, strings, sequences, sets, maps and
tuples, whose conversions call no other converters.
-/

namespace Marshal.Conversion
set_option autoImplicit false

open Code (Builtin Env Expr Operand mapM_bind_mapM)
open Code.Meaning

def keyKinds : List TypeKind := [.int, .bool, .string]

/-- Types that are built from numbers, truth values, strings, sequences, sets, tuples and maps with
keys of the first three. -/
inductive Built : TypeDescriptor → Prop where
  | int (name args) : Built ⟨.int, name, args⟩
  | bool (name args) : Built ⟨.bool, name, args⟩
  | string (name args) : Built ⟨.string, name, args⟩
  | seq (name : String) {a : TypeDescriptor} (rest) (ha : Built a) : Built ⟨.seq, name, a :: rest⟩
  | set (name : String) {a : TypeDescriptor} (rest) (ha : Built a) : Built ⟨.set, name, a :: rest⟩
  | map (name : String) {k a : TypeDescriptor} (rest) (hk : k.kind ∈ keyKinds) (ha : Built a) :
    Built ⟨.map, name, k :: a :: rest⟩
  | tuple (name : String) {ts : List TypeDescriptor} (hts : ∀ t ∈ ts, Built t) :
    Built ⟨.tuple, name, ts⟩

theorem built_of_key {k : TypeDescriptor} (hk : k.kind ∈ keyKinds) : Built k := by
  obtain ⟨kind, name, args⟩ := k
  simp only [keyKinds, List.mem_cons, List.not_mem_nil, or_false] at hk
  rcases hk with rfl | rfl | rfl
  · exact .int name args
  · exact .bool name args
  · exact .string name args

/-- Whether the conversion of a type is nothing but its source. -/
def stays (t : TypeDescriptor) : Bool := t.kind = .bool || t.kind = .tuple && t.args.isEmpty

section Transfer
variable (order : List Value → List Value)

/-- What is put into a collection for a value: an empty list if it counts as false. -/
def orList (v : Value) : Value := if v.truthy then v else .list []

def construct (c : LibraryClass) (v : Value) : Option Value :=
  ((Value.libraryClass c).apply [v]).toOption

def collect (c : LibraryClass) (asIs : Bool) (f : Value → Option Value) (v : Value) :
    Option Value :=
  if asIs then construct c (orList v)
  else do construct c (.list (← (← iterate order (orList v)).mapM f))

def listItems (asIs : Bool) (f : Value → Option Value) (v : Value) : Option Value :=
  if asIs then (iterate order v).map .list
  else do return .list (← (← iterate order v).mapM f)

theorem collect_true (c : LibraryClass) (f : Value → Option Value) (v : Value) :
    collect order c true f v = construct c (orList v) := rfl

theorem collect_false (c : LibraryClass) (f : Value → Option Value) (v : Value) :
    collect order c false f v = (iterate order (orList v)).bind fun items =>
      (items.mapM f).bind fun ws => construct c (.list ws) := rfl

theorem listItems_true (f : Value → Option Value) (v : Value) :
    listItems order true f v = (iterate order v).map .list := rfl

theorem listItems_false (f : Value → Option Value) (v : Value) :
    listItems order false f v = (iterate order v).bind fun items => (items.mapM f).map .list := by
  have hlist (o : Option (List Value)) : o.map Value.list = o.bind fun ws => some (.list ws) := by
    cases o <;> rfl
  simp only [hlist]
  rfl

def memberOf (name : String) (v : Value) : Option Value := (v.member name).toOption

def valueAt (m key : Value) : Option Value := do ((← memberOf "get" m).apply [key]).toOption

def keysOf (m : Value) : Option (List Value) := do
  iterate order (← memberOf "Elements" (← memberOf "Keys" m))

/-- The key of an external object for the converted key of a map. -/
def textKey (kind : TypeKind) (v : Value) : Option Value :=
  if kind = .string then some v else toText v

/-- The plain object with the converted entries of a map. -/
def fillDict (key value : Value → Option Value) (m : Value) : Option Value := do
  let es ← (← keysOf order m).mapM fun k => do return (← key k, ← (valueAt m k).bind value)
  dictOf es

def tupleOf (items : List Value) : Option Value := do
  let build ← (Library.named ("Tuple" ++ toString items.length)).toOption
  (build.apply items).toOption

mutual
def transfer (dir : Direction) : TypeDescriptor → Value → Option Value
  | ⟨.int, _, _⟩, v =>
    match dir with
    | .toExternal => some (toNumber v)
    | .fromExternal => toInt v
  | ⟨.bool, _, _⟩, v => some v
  | ⟨.string, _, _⟩, v =>
    match dir with
    | .toExternal => stringToJson order v
    | .fromExternal => (Value.stringOf v).toOption
  | ⟨.seq, _, a :: _⟩, v =>
    match dir with
    | .toExternal => (seqToList order v).bind (listItems order (stays a) (transfer dir a))
    | .fromExternal => collect order .seq (stays a) (transfer dir a) v
  | ⟨.set, _, a :: _⟩, v =>
    match dir with
    | .toExternal => (memberOf "Elements" v).bind (listItems order (stays a) (transfer dir a))
    | .fromExternal => collect order .set (stays a) (transfer dir a) v
  | ⟨.map, _, a :: b :: _⟩, v =>
    match dir with
    | .toExternal =>
      fillDict order (fun k => (transfer dir a k).bind (textKey a.kind)) (transfer dir b) v
    | .fromExternal => mapFromJson (transfer dir a) (transfer dir b) v
  | ⟨.tuple, _, []⟩, v => some v
  | ⟨.tuple, _, a :: as⟩, v => do
    let item ← (v.item (.int 0)).toOption
    let first ← transfer dir a item
    let items ← transferItems dir as v 1
    match dir with
    | .toExternal => return .list (first :: items)
    | .fromExternal => tupleOf (first :: items)
  | _, _ => none

def transferItems (dir : Direction) : List TypeDescriptor → Value → Nat → Option (List Value)
  | [], _, _ => some []
  | a :: as, v, i => do
    let item ← (v.item (.int i)).toOption
    let first ← transfer dir a item
    return first :: (← transferItems dir as v (i + 1))
end

end Transfer

variable {s : Scope} {env : Env} {depth : Int} {source : Expr} {dir : Direction}

/-- The names that conversions use mean what they stand for, and are not bound from a depth on. -/
structure Provides (env : Env) (s : Scope) (depth : Int) : Prop where
  runtime : env.find? s.runtime = some .runtime
  builtin : ∀ b : Builtin, env.find? b.name = some (.builtin b)
  apart : ¬ IsPlaceholder depth s.runtime

theorem IsPlaceholder.mono {d e : Int} {n : String} (h : IsPlaceholder e n) (hd : d ≤ e) :
    IsPlaceholder d n := by
  obtain ⟨base, hb, e', he, rfl⟩ := h
  exact ⟨base, hb, e', by omega, rfl⟩

theorem isPlaceholder_placeholder {base : String} (hb : base ∈ bases) (d : Int) :
    IsPlaceholder d (placeholder base d) := ⟨base, hb, d, Int.le_refl d, rfl⟩

theorem not_isPlaceholder_succ {base : String} (hb : base ∈ bases) (d : Int) :
    ¬ IsPlaceholder (d + 1) (placeholder base d) := by
  rintro ⟨base', hb', e, he, heq⟩
  have hdepth := (placeholder_inj hb hb' heq).2
  omega

theorem Provides.bind (h : Provides env s depth) {x : String} (hx : IsPlaceholder depth x)
    (v : Value) : Provides (env.bind x v) s (depth + 1) where
  runtime := by
    have hne : s.runtime ≠ x := fun heq => h.apart (heq.symm ▸ hx)
    rw [Env.find?_bind_of_ne env v hne, h.runtime]
  builtin b := by
    have hb : b.name ∈ builtins := by cases b <;> decide
    have hne : b.name ≠ x := fun heq => not_isPlaceholder_of_builtins hb depth (heq.symm ▸ hx)
    rw [Env.find?_bind_of_ne env v hne, h.builtin]
  apart hrt := h.apart (hrt.mono (by omega))

/-- No variable that is bound from a depth on occurs free in an expression. -/
def Apart (depth : Int) (source : Expr) : Prop := ∀ n ∈ source.free, ¬ IsPlaceholder depth n

theorem Apart.succ (h : Apart depth source) : Apart (depth + 1) source :=
  fun n hn hp => h n hn (hp.mono (by omega))

theorem apart_placeholder {base : String} (hb : base ∈ bases) :
    Apart (depth + 1) (.name (placeholder base depth)) := by
  intro n hn
  obtain rfl := List.mem_singleton.mp hn
  exact not_isPlaceholder_succ hb depth

theorem Apart.item (h : Apart depth source) (i : Nat) : Apart depth (.item source i) := h

theorem Apart.get (h : Apart depth source) {base : String} (hb : base ∈ bases) :
    Apart (depth + 1) (.callAttr source "get" [.name (placeholder base depth)]) := by
  intro n hn
  rcases List.mem_append.mp hn with hn | hn
  · exact h.succ n hn
  · exact apart_placeholder hb n hn

/-- A source keeps its value under the variables of a conversion. -/
theorem Apart.value_bind (h : Apart depth source) {x : String} (hx : IsPlaceholder depth x)
    (v : Value) : source.value (env.bind x v) = source.value env := by
  have hagree : Env.Agree source.free (env.bind x v) env :=
    ⟨rfl, fun n hn => Env.find?_bind_of_ne env v fun heq => h n hn (heq ▸ hx)⟩
  rw [Expr.value, Expr.eval_congr source hagree, Expr.value]

theorem value_name_bind (x : String) (v : Value) :
    (Expr.name x).value (env.bind x v) = some v := by
  rw [Expr.value, Expr.eval, Env.find?_bind_self]
  rfl

theorem value_item (i : Nat) : (Expr.item source i).value env =
    (source.value env).bind fun v => (v.item (.int i)).toOption := by
  rw [Expr.value, Expr.eval, Expr.value]
  cases (source.eval env).bind Operand.value? with
  | none => rfl
  | some v => cases h : (v.item (.int i)).toOption <;> simp [h]

theorem value_orList :
    (Expr.orList source).value env = (source.value env).map orList := by
  rw [Expr.value, Expr.eval, Expr.value]
  cases (source.eval env).bind Operand.value? <;> rfl

theorem value_group : (Expr.group source).value env = source.value env := rfl

theorem value_attr {name : String} (h : (Library.named name).toOption = none) :
    (Expr.attr source name).value env = (source.value env).bind (memberOf name) := by
  rw [Expr.value, Expr.eval, Expr.value]
  cases source.eval env with
  | none => rfl
  | some o =>
    cases o with
    | value v => cases hm : (v.member name).toOption <;> simp [Operand.member, memberOf, hm]
    | runtime => simp [Operand.member, h, Operand.value?]
    | builtin b => rfl
    | function f => rfl

theorem Provides.eval_rt (hp : Provides env s depth) {name : String} {v : Value}
    (h : Library.named name = .ok v) : (s.rt name).eval env = some (.value v) := by
  rw [Scope.rt, Expr.eval, Expr.eval, hp.runtime]
  simp [Operand.member, h, Except.toOption]

theorem Provides.value_builtin (hp : Provides env s depth) (b : Builtin) :
    (Expr.call (.name b.name) [source]).value env =
      (source.value env).bind (Operand.on env.order (.builtin b)) := by
  rw [Expr.value, Expr.eval, Expr.eval, hp.builtin b, Expr.value]
  simp only [Expr.evalEach]
  cases source.eval env with
  | none => rfl
  | some o =>
    cases o with
    | value v => cases b <;> simp [Operand.call]
    | runtime => cases b <;> rfl
    | builtin b' => cases b <;> rfl
    | function f => cases b <;> rfl

theorem value_call {f : Expr} {v : Value} (h : f.eval env = some (.value v)) (args : List Expr) :
    (Expr.call f args).value env =
      (args.mapM fun (e : Expr) => e.value env).bind fun vs => (v.apply vs).toOption := by
  have hargs : (args.mapM fun (e : Expr) => e.value env) =
      (args.mapM fun (e : Expr) => e.eval env).bind (·.mapM Operand.value?) :=
    (mapM_bind_mapM _ _ args).symm
  rw [Expr.value, Expr.eval, h, Expr.evalEach_eq_mapM, hargs]
  cases args.mapM fun (e : Expr) => e.eval env with
  | none => rfl
  | some os => simp [Operand.call]

theorem Provides.value_construct (hp : Provides env s depth) {name : String} {c : LibraryClass}
    (h : Library.named name = .ok (.libraryClass c)) :
    (Expr.call (s.rt name) [source]).value env = (source.value env).bind (construct c) := by
  rw [value_call (hp.eval_rt h)]
  cases hv : source.value env <;> simp [hv, construct]

theorem Provides.value_call_rt (hp : Provides env s depth) (name : String) (args : List Expr) :
    (Expr.call (s.rt name) args).value env =
      (args.mapM fun (e : Expr) => e.value env).bind fun vs =>
        (Library.named name).toOption.bind fun f => (f.apply vs).toOption := by
  cases h : Library.named name with
  | ok v => exact value_call (hp.eval_rt h) args
  | error fault =>
    have hnone : (s.rt name).eval env = none := by
      rw [Scope.rt, Expr.eval, Expr.eval, hp.runtime]
      simp [Operand.member, h, Except.toOption]
    rw [Expr.value, Expr.eval, hnone]
    cases args.mapM fun (e : Expr) => e.value env <;> rfl

theorem value_list (es : List Expr) :
    (Expr.list es).value env = (es.mapM fun (e : Expr) => e.value env).map .list := by
  have hes : (es.mapM fun (e : Expr) => e.value env) =
      (es.mapM fun (e : Expr) => e.eval env).bind (·.mapM Operand.value?) :=
    (mapM_bind_mapM _ _ es).symm
  rw [Expr.value, Expr.eval, Expr.evalEach_eq_mapM, hes]
  simp only [Option.bind_eq_bind, Option.bind_assoc, Option.pure_def, Option.bind_some,
    Operand.value?_value, Option.map_eq_bind, Function.comp_def]

theorem value_listFor (body : Expr) (x : String) : (Expr.listFor body x source).value env =
    (source.value env).bind fun v =>
      (iterate env.order v).bind fun items =>
        (items.mapM fun (item : Value) => body.value (env.bind x item)).map .list := by
  rw [Expr.value, Expr.eval]
  simp only [Option.bind_eq_bind, Option.bind_assoc, Option.pure_def, Option.bind_some,
    Operand.value?_value, Option.map_eq_bind, Function.comp_def, Expr.value]

theorem value_dictFor (key value : Expr) (x : String) :
    (Expr.dictFor key value x source).value env =
      (source.value env).bind fun v =>
        (iterate env.order v).bind fun items =>
          (items.mapM fun (item : Value) => do
            return (← key.value (env.bind x item), ← value.value (env.bind x item))).bind dictOf := by
  rw [Expr.value, Expr.eval]
  simp only [Option.bind_eq_bind, Option.bind_assoc, Option.pure_def, Option.bind_some,
    Operand.value?_value, Option.bind_fun_some, Expr.value]

theorem Provides.value_mapFromJson (hp : Provides env s depth) (k v : String) (key value : Expr) :
    (Expr.call (.name "_map_from_json") [source, .function k key, .function v value]).value env =
      (source.value env).bind
        (mapFromJson (fun w => key.value (env.bind k w)) (fun w => value.value (env.bind v w))) := by
  have hname : env.find? "_map_from_json" = some (.builtin .mapFromJson) := hp.builtin .mapFromJson
  rw [Expr.value, Expr.eval, Expr.eval, hname, Expr.value]
  simp only [Expr.evalEach, Expr.eval]
  cases source.eval env with
  | none => rfl
  | some o =>
    cases o with
    | value w =>
      simp only [Option.bind_eq_bind, Option.bind_assoc, Option.pure_def, Option.bind_some,
        Operand.value?_value, Option.bind_fun_some, Operand.call]
      rfl
    | runtime => rfl
    | builtin b => rfl
    | function f => rfl

section Forms
variable {elem : Expr} {x : String} {f : Value → Option Value}

theorem value_listFor_eq (hf : ∀ w, elem.value (env.bind x w) = f w) :
    (Expr.listFor elem x source).value env =
      (source.value env).bind (listItems env.order false f) := by
  simp only [value_listFor, hf]
  cases source.value env with
  | none => rfl
  | some v => exact (listItems_false env.order f v).symm

theorem seqToList_bind_listItems (order : List Value → List Value) (v : Value) :
    (seqToList order v).bind (listItems order true f) = seqToList order v := by
  cases h : seqToList order v with
  | none => rfl
  | some w =>
    unfold seqToList at h
    split at h
    · cases h
      rfl
    · obtain ⟨vs, -, rfl⟩ := Option.map_eq_some_iff.mp h
      rfl

theorem Provides.value_seqList (hp : Provides env s depth) :
    (seqList source).value env = (source.value env).bind (seqToList env.order) :=
  hp.value_builtin .seqToList

theorem Provides.value_collect_asIs (hp : Provides env s depth) {name : String} {c : LibraryClass}
    (h : Library.named name = .ok (.libraryClass c)) :
    (Expr.call (s.rt name) [.orList source]).value env =
      (source.value env).bind (collect env.order c true f) := by
  rw [hp.value_construct h, value_orList]
  cases source.value env <;> rfl

theorem Provides.value_collect (hp : Provides env s depth) {name : String} {c : LibraryClass}
    (h : Library.named name = .ok (.libraryClass c))
    (hf : ∀ w, elem.value (env.bind x w) = f w) :
    (Expr.call (s.rt name) [.listFor elem x (.group (.orList source))]).value env =
      (source.value env).bind (collect env.order c false f) := by
  rw [hp.value_construct h, value_listFor_eq hf, value_group, value_orList]
  cases source.value env with
  | none => rfl
  | some v =>
    simp only [Option.map_eq_bind, Option.bind_assoc, Function.comp_def, Option.bind_some,
      listItems_false, collect_false]

theorem value_ofSeq (hp : Provides env s depth) : (ofSeq dir s source).value env =
    (source.value env).bind fun v =>
      match dir with
      | .toExternal => (seqToList env.order v).bind (listItems env.order true f)
      | .fromExternal => collect env.order .seq true f v := by
  cases dir with
  | toExternal =>
    simp only [seqToList_bind_listItems]
    exact hp.value_seqList
  | fromExternal => exact hp.value_collect_asIs rfl

theorem value_ofSeqOf (hp : Provides env s depth) (hf : ∀ w, elem.value (env.bind x w) = f w) :
    (ofSeqOf dir s source elem x).value env =
      (source.value env).bind fun v =>
        match dir with
        | .toExternal => (seqToList env.order v).bind (listItems env.order false f)
        | .fromExternal => collect env.order .seq false f v := by
  cases dir with
  | toExternal =>
    rw [← Option.bind_assoc, ← hp.value_seqList]
    exact value_listFor_eq hf
  | fromExternal => exact hp.value_collect rfl hf

theorem value_ofSet (hp : Provides env s depth) : (ofSet dir s source).value env =
    (source.value env).bind fun v =>
      match dir with
      | .toExternal => (memberOf "Elements" v).bind (listItems env.order true f)
      | .fromExternal => collect env.order .set true f v := by
  cases dir with
  | toExternal =>
    rw [← Option.bind_assoc, ← value_attr rfl]
    exact hp.value_builtin .list
  | fromExternal => exact hp.value_collect_asIs rfl

theorem value_ofSetOf (hp : Provides env s depth) (hf : ∀ w, elem.value (env.bind x w) = f w) :
    (ofSetOf dir s source elem x).value env =
      (source.value env).bind fun v =>
        match dir with
        | .toExternal => (memberOf "Elements" v).bind (listItems env.order false f)
        | .fromExternal => collect env.order .set false f v := by
  cases dir with
  | toExternal =>
    rw [← Option.bind_assoc, ← value_attr rfl]
    exact value_listFor_eq hf
  | fromExternal => exact hp.value_collect rfl hf

end Forms

theorem value_mapKeys : (mapKeys source).value env =
    (source.value env).bind fun m => (memberOf "Keys" m).bind (memberOf "Elements") := by
  rw [mapKeys, value_attr rfl, value_attr rfl, Option.bind_assoc]

theorem value_externalKey (hp : Provides env s depth) (kind : TypeKind) :
    (externalKey kind source).value env = (source.value env).bind (textKey kind) := by
  unfold externalKey textKey
  split
  · rw [Option.bind_fun_some]
  · exact hp.value_builtin .str

/-- The value of a key is found where the map is, under a variable for the key. -/
theorem value_get (ha : Apart depth source) {base : String} (hb : base ∈ bases) (k : Value) :
    (Expr.callAttr source "get" [.name (placeholder base depth)]).value
        (env.bind (placeholder base depth) k) =
      (source.value env).bind fun m => valueAt m k := by
  rw [← ha.value_bind (isPlaceholder_placeholder hb depth) k]
  simp only [Expr.callAttr, Expr.value, Expr.eval, Expr.evalEach, Env.find?_bind_self]
  cases source.eval (env.bind (placeholder base depth) k) with
  | none => rfl
  | some o =>
    cases o with
    | value m =>
      cases h : (m.member "get").toOption <;>
        simp [Operand.member, h, valueAt, memberOf, Operand.call]
    | runtime => rfl
    | builtin b => rfl
    | function f => rfl

theorem isName_convert {a : TypeDescriptor} (ha : Built a) (x : String) (d : Int) :
    (convert dir s a (.name x) d).isName x = stays a := by
  cases ha with
  | int | string => cases dir <;> rfl
  | bool => simp [convert, stays, Expr.isName]
  | seq | set =>
    simp only [convert]
    split <;> cases dir <;> rfl
  | map => cases dir <;> rfl
  | @tuple name ts hts =>
    cases ts with
    | nil => simp [convert, stays, Expr.isName]
    | cons t ts => cases dir <;> rfl

/-- The conversion of a type does what the type says, whatever the source, the nesting depth and the
variables around it. -/
def Follows (dir : Direction) (s : Scope) (t : TypeDescriptor) : Prop :=
  ∀ {env : Env} {depth : Int} {source : Expr}, Provides env s depth → Apart depth source →
    (convert dir s t source depth).value env =
      (source.value env).bind (transfer env.order dir t)

section Follows
variable {a : TypeDescriptor}

theorem follows_int (name : String) (args : List TypeDescriptor) :
    Follows dir s ⟨.int, name, args⟩ := by
  intro env depth source hp _
  cases dir with
  | toExternal => exact hp.value_builtin .toNumber
  | fromExternal => exact hp.value_builtin .int

theorem follows_bool (name : String) (args : List TypeDescriptor) :
    Follows dir s ⟨.bool, name, args⟩ := fun _ _ => (Option.bind_fun_some _).symm

/-- Under a variable, a conversion of the variable is a function of its value. -/
theorem Follows.under (h : Follows dir s a) (hp : Provides env s depth) {base : String}
    (hb : base ∈ bases) (w : Value) :
    (convert dir s a (.name (placeholder base depth)) (depth + 1)).value
        (env.bind (placeholder base depth) w) = transfer env.order dir a w := by
  rw [h (hp.bind (isPlaceholder_placeholder hb depth) w) (apart_placeholder hb), value_name_bind]
  rfl

/-- Under a variable for a key, a conversion of its value is a function of map and key. -/
theorem Follows.get (h : Follows dir s a) (hp : Provides env s depth) (ha : Apart depth source)
    {base : String} (hb : base ∈ bases) (w : Value) :
    (convert dir s a (.callAttr source "get" [.name (placeholder base depth)]) (depth + 1)).value
        (env.bind (placeholder base depth) w) =
      ((source.value env).bind fun m => valueAt m w).bind (transfer env.order dir a) := by
  rw [h (hp.bind (isPlaceholder_placeholder hb depth) w) (ha.get hb), value_get ha hb]
  rfl

theorem length_convertItems (as : List TypeDescriptor) (i : Nat) :
    (convertItems dir s as source i depth).length = as.length := by
  induction as generalizing i with
  | nil => rfl
  | cons a as ih => simp [convertItems, ih]

theorem length_transferItems {order : List Value → List Value} {as : List TypeDescriptor}
    {v : Value} {i : Nat} {ws : List Value} (h : transferItems order dir as v i = some ws) :
    ws.length = as.length := by
  induction as generalizing i ws with
  | nil =>
    cases h
    rfl
  | cons a as ih =>
    simp only [transferItems, Option.bind_eq_bind, Option.bind_eq_some_iff, Option.pure_def,
      Option.some.injEq] at h
    obtain ⟨_, _, _, _, ws, hws, rfl⟩ := h
    simp [ih hws]

theorem Follows.items {as : List TypeDescriptor} {v : Value} (h : ∀ a ∈ as, Follows dir s a)
    (hp : Provides env s depth) (ha : Apart depth source) (hv : source.value env = some v)
    (i : Nat) :
    ((convertItems dir s as source i depth).mapM fun (e : Expr) => e.value env) =
      transferItems env.order dir as v i := by
  induction as generalizing i with
  | nil => rfl
  | cons a as ih =>
    have hfirst := h a List.mem_cons_self hp (ha.item i)
    have hrest := ih (fun b hb => h b (List.mem_cons_of_mem a hb)) (i + 1)
    rw [convertItems, List.mapM_cons, hfirst, hrest, value_item, hv, transferItems]
    simp only [Option.bind_some, Option.bind_eq_bind, Option.bind_assoc]

theorem follows_string (name : String) (args : List TypeDescriptor) :
    Follows dir s ⟨.string, name, args⟩ := by
  intro env depth source hp ha
  cases dir with
  | toExternal => exact hp.value_builtin .stringToJson
  | fromExternal =>
    have hf : (Expr.attr (s.rt "Seq") "from_string").eval env =
        some (.value (.method (.libraryClass .seq) .fromString)) := by
      rw [Expr.eval, hp.eval_rt rfl]
      rfl
    simp only [convert, ofString, Expr.callAttr, transfer, value_call hf]
    cases hv : source.value env <;> simp [hv]
    rfl

theorem Follows.seq (h : Follows dir s a) (ha : Built a) (name : String)
    (rest : List TypeDescriptor) : Follows dir s ⟨.seq, name, a :: rest⟩ := by
  intro env depth source hp _
  have hx : "x" ∈ bases := by decide
  have helem := h.under hp hx
  simp only [convert, isName_convert ha, transfer]
  cases stays a with
  | true => exact value_ofSeq hp
  | false => exact value_ofSeqOf hp helem

theorem Follows.set (h : Follows dir s a) (ha : Built a) (name : String)
    (rest : List TypeDescriptor) : Follows dir s ⟨.set, name, a :: rest⟩ := by
  intro env depth source hp _
  have hx : "x" ∈ bases := by decide
  have helem := h.under hp hx
  simp only [convert, isName_convert ha, transfer]
  cases stays a with
  | true => exact value_ofSet hp
  | false => exact value_ofSetOf hp helem

theorem Follows.map {k : TypeDescriptor} (hk : Follows dir s k) (h : Follows dir s a)
    (name : String) (rest : List TypeDescriptor) : Follows dir s ⟨.map, name, k :: a :: rest⟩ := by
  intro env depth source hp ha
  have hkb : "k" ∈ bases := by decide
  have hkey := hk.under hp hkb
  cases dir with
  | toExternal =>
    have hget := h.get hp ha hkb
    have hentry w {e : Expr} :
        (externalKey k.kind e).value (env.bind (placeholder "k" depth) w) =
          (e.value (env.bind (placeholder "k" depth) w)).bind (textKey k.kind) :=
      value_externalKey (hp.bind (isPlaceholder_placeholder hkb depth) w) k.kind
    simp only [convert, ofMapOf, entryValue, transfer, value_dictFor, value_mapKeys, hentry, hkey,
      hget]
    cases source.value env with
    | none => rfl
    | some m => simp [fillDict, keysOf, Option.bind_assoc]
  | fromExternal =>
    have hvb : "v" ∈ bases := by decide
    have hvalue := h.under hp hvb
    simp only [convert, ofMapOf, entryValue, transfer, hp.value_mapFromJson, hkey, hvalue]

theorem Follows.tuple {ts : List TypeDescriptor} (h : ∀ t ∈ ts, Follows dir s t) (name : String) :
    Follows dir s ⟨.tuple, name, ts⟩ := by
  intro env depth source hp ha
  cases ts with
  | nil =>
    simp only [convert, transfer]
    exact (Option.bind_fun_some _).symm
  | cons t ts =>
    have hfirst := h t List.mem_cons_self hp (ha.item 0)
    have hrest v (hv : source.value env = some v) :=
      Follows.items (fun a ha => h a (List.mem_cons_of_mem t ha)) hp ha hv 1
    rw [value_item] at hfirst
    simp only [convert, transfer]
    cases dir with
    | toExternal =>
      rw [ofTuple, value_list, List.mapM_cons, hfirst]
      cases hv : source.value env with
      | none => rfl
      | some v => simp [hrest v hv, Option.bind_assoc, Option.map_eq_bind]
    | fromExternal =>
      rw [ofTuple, hp.value_call_rt, List.mapM_cons, hfirst]
      cases hv : source.value env with
      | none => rfl
      | some v =>
        simp only [hrest v hv, Option.bind_eq_bind, Option.bind_assoc, Option.pure_def,
          Option.bind_some, List.length_cons, length_convertItems]
        refine Option.bind_congr fun item _ => Option.bind_congr fun w _ => ?_
        refine Option.bind_congr fun ws hws => ?_
        rw [tupleOf, List.length_cons, length_transferItems hws]
        rfl

theorem follows_of_key {k : TypeDescriptor} (hk : k.kind ∈ keyKinds) : Follows dir s k := by
  cases built_of_key hk with
  | int name args => exact follows_int name args
  | bool name args => exact follows_bool name args
  | string name args => exact follows_string name args
  | seq | set | map | tuple => simp [keyKinds] at hk

end Follows

/-- The conversion of a built type does to the value of its source what the type says. -/
theorem follows_of_built {t : TypeDescriptor} (ht : Built t) : Follows dir s t := by
  induction ht with
  | int name args => exact follows_int name args
  | bool name args => exact follows_bool name args
  | string name args => exact follows_string name args
  | seq name rest ha ih => exact ih.seq ha name rest
  | set name rest ha ih => exact ih.set ha name rest
  | map name rest hk _ ih => exact Follows.map (follows_of_key hk) ih name rest
  | tuple name _ ih => exact Follows.tuple ih name

end Marshal.Conversion
