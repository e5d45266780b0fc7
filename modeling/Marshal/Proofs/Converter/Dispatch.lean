import Marshal.Proofs.Code.Control
import Marshal.Proofs.Converter.ExternalForm
import Marshal.Proofs.Json.Strings
import Marshal.Proofs.Naming.Mangling

/-!
# Dispatch on variants

A converter of several variants has one branch for each, behind a guard that no other variant has,
and an error for whatever is none of them. A converter of one variant has no guard. Either way every
path ends with a return or with the error.
-/

namespace Marshal.Converter
set_option autoImplicit false

open Code (Ends Expr Function Outcomes Returns ReturnsAt Stmt indent)
open Naming (Mangling)

def subject (d : Definition) : Direction → String
  | .fromExternal => if d.isEnumLike then "json" else "tag"
  | .toExternal => "value"

/-- The condition under which a value is of a variant. -/
def guard (mangling : Mangling) (d : Definition) (v : Variant) : Direction → Expr
  | .fromExternal => .equal (.name (subject d .fromExternal)) (.str v.name)
  | .toExternal => mangling.isVariant (.name (subject d .toExternal)) v.name

def branch (mangling : Mangling) (runtime : String) (d : Definition) (v : Variant) :
    Direction → List Stmt
  | .fromExternal =>
    if d.isEnumLike then [.ret (.call (constructor mangling d v) [])]
    else construct mangling (scope .fromExternal runtime d) d v
  | .toExternal =>
    if d.isEnumLike then [.ret (.str v.name)]
    else deconstruct mangling (scope .toExternal runtime d) true v

def opening (d : Definition) : Direction → List Stmt
  | .fromExternal =>
    if d.isEnumLike then [] else [.assign "tag" (.callAttr (.name "json") "get" [.str "type"])]
  | .toExternal => []

def branchLines (mangling : Mangling) (runtime : String) (d : Definition) (v : Variant)
    (dir : Direction) : List String :=
  (indent ++ "if " ++ (guard mangling d v dir).text ++ ":") ::
    Stmt.blockLines (indent ++ indent) (branch mangling runtime d v dir)

/-- The line of the error; it names the type and shows what matched no variant. -/
def errorLine (runtime : String) (d : Definition) (dir : Direction) : String :=
  indent ++ "raise " ++ runtime ++ ".UnknownVariantError(" ++ Text.quoted d.name ++ ", " ++
    subject d dir ++ ")"

def function (mangling : Mangling) (runtime : String) (d : Definition) : Direction → Function
  | .fromExternal => fromJson mangling runtime d
  | .toExternal => toJson mangling runtime d

variable {mangling : Mangling} {runtime : String} {d : Definition} {v : Variant} {dir : Direction}

theorem text_guard_inj {u v : Variant} :
    (guard mangling d u dir).text = (guard mangling d v dir).text ↔ u.name = v.name := by
  constructor
  · intro h
    cases dir with
    | fromExternal =>
      have h := congrArg String.toList h
      simp only [guard, Expr.text, String.toList_append] at h
      exact Json.quoted_injective (String.toList_inj.mp (List.append_cancel_left h))
    | toExternal =>
      have h := congrArg String.toList h
      simp only [guard, Mangling.isVariant, Expr.text, String.toList_append] at h
      exact mangling.variantFlag_injective (String.toList_inj.mp (List.append_cancel_left h))
  · intro h
    cases dir with
    | fromExternal => rw [guard, guard, h]
    | toExternal => rw [guard, guard, h]

theorem exitsEach_readSetup (s : Scope) (f : Field) : Stmt.exitsEach (readSetup s f) = [] := by
  rw [readSetup]
  split
  · rfl
  · rfl

theorem exitsEach_writeSetup (s : Scope) (f : Field) (source : Expr) :
    Stmt.exitsEach (writeSetup s f source) = [] := by
  rw [writeSetup]
  split
  · rfl
  · rfl

theorem returns_construct (s : Scope) (d : Definition) (v : Variant) :
    Returns (construct mangling s d v) := by
  rw [construct]
  split
  · exact Returns.single rfl
  · exact ⟨_, _, rfl, rfl, Stmt.exitsEach_flatMap (exitsEach_readSetup s) v.fields⟩

theorem returns_deconstruct (s : Scope) (tagged : Bool) (v : Variant) :
    Returns (deconstruct mangling s tagged v) := by
  have hlast (entries : List (String × Expr)) :
      (if entries.isEmpty then Stmt.ret (.dict []) else .retDict entries).isReturn := by
    split
    · rfl
    · rfl
  have hsetup (f : Field) := exitsEach_writeSetup s f (mangling.destructor (.name "value") f.name)
  exact ⟨_, _, rfl, hlast _, Stmt.exitsEach_flatMap hsetup v.fields⟩

theorem returns_branch (mangling : Mangling) (runtime : String) (d : Definition) (v : Variant)
    (dir : Direction) : Returns (branch mangling runtime d v dir) := by
  cases dir with
  | fromExternal =>
    rw [branch]
    split
    · exact Returns.single rfl
    · exact returns_construct _ d v
  | toExternal =>
    rw [branch]
    split
    · exact Returns.single rfl
    · exact returns_deconstruct _ true v

/-- The body of the converter of an erased wrapper, whose field stands for the value. -/
def erasedBody (runtime : String) (d : Definition) (f : Field) : Direction → List Stmt
  | .fromExternal =>
    let s := scope .fromExternal runtime d
    readSetup s f ++ [.ret (readValue s f)]
  | .toExternal =>
    let s := scope .toExternal runtime d
    writeSetup s f (.name "value") ++ [.ret (.dict [writeEntry s f (.name "value")])]

/-- The body of the converter of any other single variant. -/
def soleBody (mangling : Mangling) (runtime : String) (d : Definition) (v : Variant) :
    Direction → List Stmt
  | .fromExternal => construct mangling (scope .fromExternal runtime d) d v
  | .toExternal => deconstruct mangling (scope .toExternal runtime d) false v

theorem body_erased {f : Field} (hv : d.variants = [v]) (hf : v.fields = [f]) :
    (function mangling runtime d dir).body = erasedBody runtime d f dir := by
  obtain ⟨moduleName, name, variants, typeParams⟩ := d
  obtain ⟨n, fields⟩ := v
  obtain rfl : variants = _ := hv
  obtain rfl : fields = _ := hf
  cases dir with
  | fromExternal => rfl
  | toExternal => rfl

theorem body_sole (hv : d.variants = [v]) (hf : ∀ f, v.fields ≠ [f]) :
    (function mangling runtime d dir).body = soleBody mangling runtime d v dir := by
  obtain ⟨moduleName, name, variants, typeParams⟩ := d
  obtain ⟨n, fields⟩ := v
  obtain rfl : variants = _ := hv
  obtain _ | ⟨f, _ | ⟨g, fs⟩⟩ := fields
  · cases dir with
    | fromExternal => rfl
    | toExternal => rfl
  · exact absurd rfl (hf f)
  · cases dir with
    | fromExternal => rfl
    | toExternal => rfl

theorem returns_body (hv : d.variants = [v]) :
    Returns (function mangling runtime d dir).body := by
  by_cases hf : ∃ f, v.fields = [f]
  · obtain ⟨f, hf⟩ := hf
    rw [body_erased hv hf]
    cases dir with
    | fromExternal => exact ⟨_, _, rfl, rfl, exitsEach_readSetup _ f⟩
    | toExternal => exact ⟨_, _, rfl, rfl, exitsEach_writeSetup _ f _⟩
  · rw [body_sole hv fun f h => hf ⟨f, h⟩]
    cases dir with
    | fromExternal => exact returns_construct _ d v
    | toExternal => exact returns_deconstruct _ false v

/-- Unless there is just one variant, the body is guarded branches and the error. -/
theorem body_eq (h : d.variants.length ≠ 1) :
    (function mangling runtime d dir).body = opening d dir ++
      (d.variants.map (fun v => .when (guard mangling d v dir) (branch mangling runtime d v dir)) ++
        [raiseUnknown runtime d (subject d dir)]) := by
  by_cases hnone : d.variants = []
  · -- a type without variants is no enumeration, so the tag is read although nothing is asked of it
    have hshape : d.shape = .general := by rw [Definition.shape, hnone]
    have henum : d.isEnumLike = false := by rw [Definition.isEnumLike, hshape]; rfl
    cases dir with
    | fromExternal =>
      simp [function, fromJson, fromJsonBody, opening, subject, henum, hshape, hnone]
    | toExternal => simp [function, toJson, toJsonBody, opening, subject, hshape, hnone]
  rcases d.shape_cases hnone with ⟨n, f, hv, -⟩ | ⟨v, hv, -⟩ | ⟨v, w, vs, hv, hs, -⟩ |
    ⟨v, w, vs, hv, hs⟩
  · rw [hv] at h
    exact absurd rfl h
  · rw [hv] at h
    exact absurd rfl h
  · have henum : d.isEnumLike = true := by rw [Definition.isEnumLike, hs]; rfl
    cases dir with
    | fromExternal =>
      simp [function, fromJson, fromJsonBody, opening, guard, branch, subject, henum, hs]
    | toExternal =>
      simp [function, toJson, toJsonBody, opening, guard, branch, subject, henum, hs]
  · have henum : d.isEnumLike = false := by rw [Definition.isEnumLike, hs]; rfl
    cases dir with
    | fromExternal =>
      simp [function, fromJson, fromJsonBody, opening, guard, branch, subject, henum, hs, hv]
    | toExternal =>
      simp [function, toJson, toJsonBody, opening, guard, branch, subject, henum, hs, hv]

theorem lines_eq (typed : Bool) (h : d.variants.length ≠ 1) :
    (function mangling runtime d dir).lines typed "" =
      (function mangling runtime d dir).header typed ::
        (Stmt.blockLines indent (opening d dir) ++
          (d.variants.flatMap (branchLines mangling runtime d · dir) ++
            [errorLine runtime d dir])) := by
  have hraise : (raiseUnknown runtime d (subject d dir)).lines indent =
      [errorLine runtime d dir] := by
    simp [raiseUnknown, errorLine, Stmt.lines, Expr.callAttr, Expr.text, Expr.texts,
      String.append_assoc]
  rw [Function.lines, String.empty_append, String.empty_append, body_eq h, Stmt.blockLines_append,
    Stmt.blockLines_append, Stmt.blockLines_map_when, Stmt.blockLines, hraise, Stmt.blockLines,
    List.append_nil]
  rfl

variable {outcome : Outcomes} {r : Option Stmt}

theorem exitsEach_opening (d : Definition) (dir : Direction) :
    Stmt.exitsEach (opening d dir) = [] := by
  cases dir with
  | fromExternal =>
    rw [opening]
    split
    · rfl
    · rfl
  | toExternal => rfl

/-- A path takes the branch of a variant whose guard can hold, or it passes all of them. -/
theorem ends_body (h : d.variants.length ≠ 1)
    (hr : Ends outcome (function mangling runtime d dir).body r) :
    (∃ v ∈ d.variants, outcome (guard mangling d v dir) true ∧
        r = (branch mangling runtime d v dir).getLast?) ∨
      (∀ v ∈ d.variants, outcome (guard mangling d v dir) false) ∧
        r = some (raiseUnknown runtime d (subject d dir)) := by
  rw [body_eq h] at hr
  exact Code.ends_branches (returns_branch mangling runtime d · dir) rfl
    (hr.of_append (exitsEach_opening d dir))

theorem not_ends_off (mangling : Mangling) (runtime : String) (d : Definition) (dir : Direction) :
    ¬ Ends outcome (function mangling runtime d dir).body none := by
  intro hoff
  by_cases h : d.variants.length = 1
  · obtain ⟨v, hv⟩ := List.length_eq_one_iff.mp h
    have hbody : Returns (function mangling runtime d dir).body := returns_body hv
    exact hbody.getLast?_ne_none (hbody.ends hoff).symm
  · rcases ends_body h hoff with ⟨v, -, -, hr⟩ | ⟨-, hr⟩
    · exact (returns_branch mangling runtime d v dir).getLast?_ne_none hr.symm
    · cases hr

/-- The guards tell that a value is of one variant and of no other. -/
def Tells (outcome : Outcomes) (mangling : Mangling) (d : Definition) (dir : Direction)
    (v : Variant) : Prop :=
  ∀ u ∈ d.variants, ∀ b, outcome (guard mangling d u dir) b ↔ b = decide (u = v)

/-- The guards tell that a value is of none of the variants. -/
def TellsNone (outcome : Outcomes) (mangling : Mangling) (d : Definition) (dir : Direction) :
    Prop :=
  ∀ u ∈ d.variants, ∀ b, outcome (guard mangling d u dir) b ↔ b = false

theorem ends_of_tells (h : d.variants.length ≠ 1) (hall : ∀ e, ∃ b, outcome e b)
    (hv : v ∈ d.variants) (htells : Tells outcome mangling d dir v) (r : Option Stmt) :
    Ends outcome (function mangling runtime d dir).body r ↔
      r = (branch mangling runtime d v dir).getLast? := by
  obtain ⟨s, hs⟩ := (returns_branch mangling runtime d v dir).exists_getLast?
  rw [hs]
  refine Ends.iff_eq_of_unique hall (fun r hr => ?_) r
  rcases ends_body h hr with ⟨u, hu, htrue, hr⟩ | ⟨hfalse, -⟩
  · obtain rfl : u = v := of_decide_eq_true ((htells u hu true).mp htrue).symm
    rw [hr, hs]
  · have hself := (htells v hv false).mp (hfalse v hv)
    rw [decide_eq_true rfl] at hself
    cases hself

theorem ends_of_tellsNone (h : d.variants.length ≠ 1) (hall : ∀ e, ∃ b, outcome e b)
    (htells : TellsNone outcome mangling d dir) (r : Option Stmt) :
    Ends outcome (function mangling runtime d dir).body r ↔
      r = some (raiseUnknown runtime d (subject d dir)) := by
  refine Ends.iff_eq_of_unique hall (fun r hr => ?_) r
  rcases ends_body h hr with ⟨u, hu, htrue, -⟩ | ⟨-, hr⟩
  · cases (htells u hu true).mp htrue
  · exact hr

theorem nodup_guards (h : (d.variants.map (·.name)).Nodup) :
    (d.variants.map fun v => (guard mangling d v dir).text).Nodup := by
  have hvariants := List.Nodup.of_map _ h
  refine (List.nodup_map_iff_inj_on hvariants).mpr fun u hu v hv huv => ?_
  exact (List.nodup_map_iff_inj_on hvariants).mp h u hu v hv (text_guard_inj.mp huv)

/--
Unless there is just one variant, a converter consists of one guarded branch for each variant, in
order, and the error for whatever is none of them; no two guards have one text, every branch is left
by a return at its end, and the guards decide which one it is. The converter of a single variant is
left by a return at its end. No path falls off the end of a converter.
-/
theorem dispatch_total (mangling : Mangling) (runtime : String) (typed : Bool) (dir : Direction)
    {d : Definition} (hnames : (d.variants.map (·.name)).Nodup) :
    (d.variants.length ≠ 1 →
      (function mangling runtime d dir).lines typed "" =
        (function mangling runtime d dir).header typed ::
          (Stmt.blockLines indent (opening d dir) ++
            (d.variants.flatMap (branchLines mangling runtime d · dir) ++
              [errorLine runtime d dir])) ∧
      (d.variants.map fun v => (guard mangling d v dir).text).Nodup ∧
      (∀ v ∈ d.variants, ReturnsAt (indent ++ indent) (branch mangling runtime d v dir)) ∧
      ∀ outcome : Outcomes, (∀ e, ∃ b, outcome e b) →
        (∀ v ∈ d.variants, Tells outcome mangling d dir v → ∀ r,
          Ends outcome (function mangling runtime d dir).body r ↔
            r = (branch mangling runtime d v dir).getLast?) ∧
        (TellsNone outcome mangling d dir → ∀ r,
          Ends outcome (function mangling runtime d dir).body r ↔
            r = some (raiseUnknown runtime d (subject d dir)))) ∧
    (∀ v, d.variants = [v] → ReturnsAt indent (function mangling runtime d dir).body) ∧
    ∀ outcome, ¬ Ends outcome (function mangling runtime d dir).body none := by
  refine ⟨fun h => ⟨lines_eq typed h, nodup_guards hnames, ?_, ?_⟩, ?_, ?_⟩
  · intro v _
    exact (returns_branch mangling runtime d v dir).at _
  · intro outcome hall
    exact ⟨fun v hv htells => ends_of_tells h hall hv htells,
      fun htells => ends_of_tellsNone h hall htells⟩
  · intro v hv
    exact (returns_body hv).at indent
  · intro outcome
    exact not_ends_off mangling runtime d dir

/-- A lamp that is off, or on at some level. -/
def dispatchedLamp : Definition := ⟨"M", "Lamp", [⟨"Off", []⟩, ⟨"On", [⟨"level", .int "int"⟩]⟩], []⟩

theorem dispatch_lamp :
    ∃ d : Definition, d.variants.map (·.name) = ["Off", "On"] ∧
      (d.variants.map (·.name)).Nodup ∧
      ∀ dir : Direction,
        (d.variants.map fun v => (guard .escaping d v dir).text).Nodup ∧
        ∀ outcome, ¬ Ends outcome (function .escaping "_rt" d dir).body none := by
  have hnames : (dispatchedLamp.variants.map (·.name)).Nodup := by decide
  refine ⟨dispatchedLamp, rfl, hnames, fun dir => ?_⟩
  have h := dispatch_total .escaping "_rt" false dir hnames
  exact ⟨(h.1 (by decide)).2.1, h.2.2⟩

end Marshal.Converter
