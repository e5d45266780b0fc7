import Marshal.Declaration.Meaning
import Marshal.Proofs.Closure.Reachable
import Marshal.Proofs.Code.Running
import Marshal.Proofs.Conversion.Hygiene
import Marshal.Proofs.Converter.Part
import Marshal.Proofs.Naming.Spelling

/-!
# Variables in which maps are built

A converter builds the maps of the fields of a variant one after the other, each in a variable of
its own name, and uses them together in the end. So the variables have to differ from each other and
from all that the conversions use. Two of them are one variable where the names of the fields match.
-/

namespace Marshal
set_option autoImplicit false

open Code (Expr Interpretation Locals Stmt)
open Code.Stmt (Apart Uses changesEach runEach)
open Conversion (IsPlaceholder builtins globals)
open Declaration (parse)
open Naming (IsConverterName Mangling Matching identifier sanitize spelled)

namespace Conversion

variable {dir : Direction} {s : Scope} {t : TypeDescriptor} {source : Expr} {given : List String}

/-- What conversions use besides the values that they convert. -/
def Serves (given : List String) (dir : Direction) (s : Scope) (t : TypeDescriptor) : Prop :=
  s.runtime ∈ given ∧ globals dir s t ⊆ given

theorem Serves.arg (h : Serves given dir s t) {a : TypeDescriptor} (ha : a ∈ t.args) :
    Serves given dir s a := by
  refine ⟨h.1, fun n hn => h.2 ?_⟩
  obtain ⟨kind, name, args⟩ := t
  rcases List.mem_append.mp hn with hn | hn
  · exact List.mem_append_left _ hn
  · obtain ⟨r, hr, rfl⟩ := List.mem_map.mp hn
    exact List.mem_append_right _
      (List.mem_map_of_mem (TypeDescriptor.references_of_arg ha hr))

theorem Serves.mono (h : Serves given dir s t) {given' : List String} (hsub : given ⊆ given') :
    Serves given' dir s t := ⟨hsub h.1, List.Subset.trans h.2 hsub⟩

theorem free_name {n : String} (h : n ∈ given) : (Expr.name n).free ⊆ given := by
  intro m hm
  obtain rfl := List.mem_singleton.mp hm
  exact h

theorem free_convert (hparams : ∀ c ∈ s.converters, ¬ IsPlaceholder 0 c.2) {depth : Int}
    (hdepth : 0 ≤ depth) (h : Serves given dir s t) (hs : source.free ⊆ given) :
    (convert dir s t source depth).free ⊆ given := by
  intro n hn
  have hdeep : ∀ c ∈ s.converters, ¬ IsPlaceholder depth c.2 := by
    rintro c hc ⟨base, hb, e, he, heq⟩
    exact hparams c hc ⟨base, hb, e, le_trans hdepth he, heq⟩
  have hsetting : Conversion.Hygienic (setting dir s t depth [source] []) []
      (convert dir s t source depth) := convert_setting hdeep nofun
  rcases hsetting.free hn with hnone | ⟨e, he, hfree⟩ | rfl | hglobal
  · cases hnone
  · rw [List.mem_singleton.mp he] at hfree
    exact hs hfree
  · exact h.1
  · exact h.2 hglobal

theorem free_externalKey (h : Serves given dir s t) {key : Expr} (hk : key.free ⊆ given)
    (kind : TypeKind) : (externalKey kind key).free ⊆ given := by
  rw [externalKey]
  split
  · exact hk
  · have hstr : "str" ∈ given := by
      refine h.2 (List.mem_append_left _ (List.mem_append_left _ ?_))
      decide
    simpa [Expr.free, Expr.freeEach, hstr] using hk

section Blocks
variable (hparams : ∀ c ∈ s.converters, ¬ IsPlaceholder 0 c.2)
  (hkey : Serves given dir s t.keyValue.1) (hvalue : Serves given dir s t.keyValue.2)
  (hs : source.free ⊆ given)
include hparams hkey hvalue hs

theorem uses_readMap (hdir : dir = .fromExternal) (target : String) :
    Uses given (readMap s t source target) (target :: given) := by
  subst hdir
  have hall : given ⊆ ["k", "v"] ++ target :: given := fun n hn =>
    List.mem_append_right _ (List.mem_cons_of_mem _ hn)
  have hk : (convert .fromExternal s t.keyValue.1 (.name "k") 1).free ⊆ _ :=
    free_convert hparams (by decide) (hkey.mono hall) (free_name List.mem_cons_self)
  have hv : (convert .fromExternal s t.keyValue.2 (.name "v") 1).free ⊆ _ :=
    free_convert hparams (by decide) (hvalue.mono hall)
      (free_name (List.mem_cons_of_mem _ List.mem_cons_self))
  have hitems : (Expr.callAttr (.group (.orDict source)) "items" []).free ⊆ target :: given := by
    have hfree : (Expr.callAttr (.group (.orDict source)) "items" []).free = source.free :=
      List.append_nil _
    rw [hfree]
    exact List.Subset.trans hs (List.subset_cons_self _ _)
  refine .assign (free_name hkey.1) (.forEach hitems (.assign ?_ .nil) .nil)
  intro n hn
  simp only [Expr.callAttr, Expr.free, Expr.freeEach, List.append_nil, List.mem_append,
    List.mem_singleton] at hn
  rcases hn with rfl | hn | hn
  · exact List.mem_append_right _ List.mem_cons_self
  · exact hk hn
  · exact hv hn

theorem uses_writeMap (hdir : dir = .toExternal) (target : String) :
    Uses given (writeMap s t source target) (target :: given) := by
  subst hdir
  have hall : given ⊆ ["v", "k"] ++ target :: given := fun n hn =>
    List.mem_append_right _ (List.mem_cons_of_mem _ hn)
  have hk : (convert .toExternal s t.keyValue.1 (.name "k") 1).free ⊆ _ :=
    free_convert hparams (by decide) (hkey.mono hall)
      (free_name (List.mem_cons_of_mem _ List.mem_cons_self))
  have hv : (convert .toExternal s t.keyValue.2 (.name "v") 1).free ⊆ _ :=
    free_convert hparams (by decide) (hvalue.mono hall) (free_name List.mem_cons_self)
  have hs' : source.free ⊆ target :: given := List.Subset.trans hs (List.subset_cons_self _ _)
  refine .assign (List.nil_subset _)
    (.when hs' (.forEach hs' (.assign ?_ (.assignItem ?_ ?_ hv .nil)) .nil) .nil)
  · have hfree : (Expr.callAttr source "get" [.name "k"]).free = source.free ++ ["k"] := rfl
    rw [hfree]
    refine List.append_subset.mpr ⟨fun n hn => ?_, ?_⟩
    · exact List.mem_cons_of_mem _ (hs' hn)
    · exact free_name List.mem_cons_self
  · exact List.mem_cons_of_mem _ (List.mem_cons_of_mem _ List.mem_cons_self)
  · exact free_externalKey (hkey.mono hall) hk _

end Blocks

end Conversion

namespace Converter

variable {V : Type} {I : Interpretation V} {mangling : Mangling} {runtime : String} {d : Definition}
  {v : Variant} {dir : Direction} {f g : Field} {source : Field → Expr}

def holder : Direction → String
  | .fromExternal => "json"
  | .toExternal => "value"

/-- The variable in which the map of a field is built. -/
def target : Direction → Field → String
  | .fromExternal, f => readTarget f
  | .toExternal, f => writeTarget f

def setup (dir : Direction) (s : Scope) (source : Field → Expr) (f : Field) : List Stmt :=
  match dir with
  | .fromExternal => readSetup s f
  | .toExternal => writeSetup s f (source f)

/-- What is used for a field when all of them are prepared. -/
def prepared (dir : Direction) (s : Scope) (source : Field → Expr) (f : Field) : Expr :=
  match dir with
  | .fromExternal => readValue s f
  | .toExternal => (writeEntry s f (source f)).2

theorem toList_target (dir : Direction) (f : Field) :
    ∃ cs, (target dir f).toList = '_' :: '_' :: cs := by
  cases dir with
  | fromExternal =>
    refine ⟨(identifier f.name).toList, ?_⟩
    rw [target, readTarget, String.toList_append]
    rfl
  | toExternal =>
    refine ⟨(identifier f.name).toList ++ "_json".toList, ?_⟩
    rw [target, writeTarget, String.toList_append, String.toList_append]
    rfl

theorem target_ne_of_head {n : String} (h : n.toList.take 2 ≠ ['_', '_']) :
    target dir f ≠ n := by
  rintro rfl
  obtain ⟨cs, hcs⟩ := toList_target dir f
  rw [hcs] at h
  exact h rfl

theorem target_not_mem {ns : List String} (h : ∀ n ∈ ns, n.toList.take 2 ≠ ['_', '_']) :
    target dir f ∉ ns := fun hn => target_ne_of_head (h _ hn) rfl

theorem target_eq_iff :
    target dir f = target dir g ↔ Matching (spelled f.name) (spelled g.name) := by
  rw [← Naming.identifier_eq_iff]
  cases dir with
  | fromExternal => exact String.append_right_inj "__"
  | toExternal =>
    exact (String.append_left_inj "_json").trans (String.append_right_inj "__")

theorem mem_typeParamConverters {n : String} :
    n ∈ (typeParamConverters dir d).map (·.2) ↔
      ∃ p ∈ d.genericParams, n = sanitize p ++ paramEnding dir := by
  rw [typeParamConverters, List.map_map, List.mem_map]
  constructor
  · rintro ⟨p, hp, rfl⟩
    exact ⟨p, (mem_extendFresh.mp hp).resolve_left List.not_mem_nil, rfl⟩
  · rintro ⟨p, hp, rfl⟩
    exact ⟨p, mem_extendFresh.mpr (Or.inr hp), rfl⟩

theorem readTarget_eq_param_iff {p : String} :
    readTarget f = sanitize p ++ "_fromJson" ↔
      Matching ("__" ++ spelled f.name) (p ++ "_fromJson") := by
  rw [← Naming.sanitize_eq_iff, Naming.sanitize_append, Naming.sanitize_append, readTarget,
    Naming.identifier_eq_sanitize]
  exact Iff.rfl

theorem suffix_append {a b : String} {cs : List Char} (h : cs <:+ b.toList) :
    cs <:+ (a ++ b).toList := by
  rw [String.toList_append]
  exact h.trans (List.suffix_append _ _)

theorem suffix_writeTarget : ['_', 'j', 's', 'o', 'n'] <:+ (writeTarget f).toList :=
  suffix_append (by decide)

theorem writeTarget_ne_param (p : String) : writeTarget f ≠ sanitize p ++ "_toJson" := by
  intro h
  have hparam : ['o', 'J', 's', 'o', 'n'] <:+ (writeTarget f).toList := by
    rw [h]
    exact suffix_append (by decide)
  exact absurd (eq_of_suffixes suffix_writeTarget hparam rfl) (by decide)

theorem writeTarget_ne_converterName (t : String) :
    writeTarget f ≠ Direction.toExternal.converterName t := by
  intro h
  have hname : ['o', 'J', 's', 'o', 'n'] <:+ (writeTarget f).toList := by
    rw [h, Naming.converterName_eq]
    exact suffix_append (by decide)
  exact absurd (eq_of_suffixes suffix_writeTarget hname rfl) (by decide)

theorem params_eq :
    (function mangling runtime d dir).params.map (·.name) =
      holder dir :: (typeParamConverters dir d).map (·.2) := by
  cases dir with
  | fromExternal =>
    rw [function, fromJson, params, List.map_cons, List.map_map]
    rfl
  | toExternal =>
    rw [function, toJson, params, List.map_cons, List.map_map]
    rfl

/-- A variable is a parameter only where a field and a type parameter are named for it. -/
theorem target_mem_params :
    target dir f ∈ (function mangling runtime d dir).params.map (·.name) ↔
      dir = .fromExternal ∧
        ∃ p ∈ d.genericParams, Matching ("__" ++ spelled f.name) (p ++ "_fromJson") := by
  have hholder : target dir f ≠ holder dir := target_ne_of_head (by cases dir <;> decide)
  rw [params_eq, List.mem_cons, or_iff_right hholder, mem_typeParamConverters]
  cases dir with
  | fromExternal =>
    refine (exists_congr fun p => and_congr_right' readTarget_eq_param_iff).trans ?_
    exact (and_iff_right rfl).symm
  | toExternal =>
    refine iff_of_false ?_ nofun
    rintro ⟨p, -, h⟩
    exact writeTarget_ne_param p h

/-- The variables of a variant are apart from each other and from what conversions use. -/
structure Clear (dir : Direction) (runtime : String) (d : Definition) (v : Variant) : Prop where
  targets : ((v.fields.filter isBlockMap).map (target dir)).Nodup
  params : ∀ f ∈ v.fields, isBlockMap f → target dir f ∉ (typeParamConverters dir d).map (·.2)
  converters : ∀ f ∈ v.fields, isBlockMap f → ∀ g ∈ v.fields, ∀ r ∈ g.type.references,
    target dir f ≠ dir.converterName r
  library : ∀ f ∈ v.fields, isBlockMap f → target dir f ≠ runtime
  loops : runtime ∉ ["k", "v"]

/-- Variables of objects are no converters, by their ending. -/
theorem clear_toExternal (htargets : ((v.fields.filter isBlockMap).map writeTarget).Nodup)
    (hlibrary : ∀ f ∈ v.fields, isBlockMap f → writeTarget f ≠ runtime)
    (hloops : runtime ∉ ["k", "v"]) : Clear .toExternal runtime d v where
  targets := htargets
  params f _ _ h := by
    obtain ⟨p, -, hp⟩ := mem_typeParamConverters.mp h
    exact writeTarget_ne_param p hp
  converters _ _ _ _ _ r _ := writeTarget_ne_converterName r
  library := hlibrary
  loops := hloops

/-- What the conversions of some fields use, and where they find their values. -/
def served (dir : Direction) (s : Scope) (fs : List Field) : List String :=
  holder dir :: s.runtime :: fs.flatMap fun f => globals dir s f.type

theorem mem_served {s : Scope} {fs : List Field} {n : String} (h : n ∈ served dir s fs) :
    n = holder dir ∨ n = s.runtime ∨ n ∈ builtins ∨ n ∈ s.converters.map (·.2) ∨
      ∃ f ∈ fs, ∃ r ∈ f.type.references, n = dir.converterName r := by
  rcases List.mem_cons.mp h with rfl | h
  · exact Or.inl rfl
  rcases List.mem_cons.mp h with rfl | h
  · exact Or.inr (Or.inl rfl)
  obtain ⟨f, hf, h⟩ := List.mem_flatMap.mp h
  rcases List.mem_append.mp h with h | h
  · rcases List.mem_append.mp h with h | h
    · exact Or.inr (Or.inr (Or.inl h))
    · exact Or.inr (Or.inr (Or.inr (Or.inl h)))
  · obtain ⟨r, hr, rfl⟩ := List.mem_map.mp h
    exact Or.inr (Or.inr (Or.inr (Or.inr ⟨f, hf, r, hr, rfl⟩)))

theorem serves_served {s : Scope} {fs : List Field} (hf : f ∈ fs) :
    Conversion.Serves (served dir s fs) dir s f.type := by
  refine ⟨List.mem_cons_of_mem _ List.mem_cons_self, fun n hn => ?_⟩
  exact List.mem_cons_of_mem _ (List.mem_cons_of_mem _ (List.mem_flatMap.mpr ⟨f, hf, hn⟩))

theorem mem_J_param {p : String} : 'J' ∈ (sanitize p ++ paramEnding dir).toList := by
  rw [String.toList_append]
  refine List.mem_append_right _ ?_
  cases dir <;> decide

theorem not_isPlaceholder_of_scope :
    ∀ c ∈ (scope dir runtime d).converters, ¬ IsPlaceholder 0 c.2 := by
  rintro c hc ⟨base, hbase, e, -, heq⟩
  obtain ⟨p, -, rfl⟩ := List.mem_map.mp hc
  exact Naming.not_mem_placeholder hbase e (heq ▸ mem_J_param)

/-- Neither variable of the loops is used for anything else. -/
theorem loop_not_mem_served (hloops : runtime ∉ ["k", "v"]) {n : String} (hn : n ∈ ["k", "v"])
    (fs : List Field) : n ∉ served dir (scope dir runtime d) fs := by
  have hJ : 'J' ∉ n.toList := by
    revert n
    decide
  have hbuiltin : n ∉ builtins := by
    revert n
    decide
  intro h
  rcases mem_served h with rfl | rfl | h | h | ⟨f, -, r, -, rfl⟩
  · cases dir <;> revert hn <;> decide
  · exact hloops hn
  · exact hbuiltin h
  · obtain ⟨c, hc, rfl⟩ := List.mem_map.mp h
    obtain ⟨p, -, rfl⟩ := List.mem_map.mp hc
    exact hJ mem_J_param
  · exact hJ (IsConverterName.mem_J ⟨dir, r, rfl⟩)

theorem target_not_mem_served (h : Clear dir runtime d v) (hf : f ∈ v.fields)
    (hmap : isBlockMap f) : target dir f ∉ served dir (scope dir runtime d) v.fields := by
  intro hmem
  rcases mem_served hmem with heq | heq | hbuiltin | hparam | ⟨g, hg, r, hr, heq⟩
  · exact target_ne_of_head (by cases dir <;> decide) heq
  · exact h.library f hf hmap heq
  · exact target_not_mem (by decide) hbuiltin
  · exact h.params f hf hmap hparam
  · exact h.converters f hf hmap g hg r hr heq

def own (dir : Direction) (f : Field) : List String := if isBlockMap f then [target dir f] else []

theorem changesEach_setup {s : Scope} {n : String} (hn : n ∈ changesEach (setup dir s source f)) :
    isBlockMap f ∧ (n = target dir f ∨ n ∈ ["k", "v"]) := by
  cases dir with
  | fromExternal =>
    rw [setup, readSetup] at hn
    split at hn
    · rename_i hmap
      refine ⟨hmap, ?_⟩
      have hn : n ∈ [readTarget f, "k", "v", readTarget f] := hn
      simp only [List.mem_cons, List.not_mem_nil, or_false] at hn ⊢
      tauto
    · cases hn
  | toExternal =>
    rw [setup, writeSetup] at hn
    split at hn
    · rename_i hmap
      refine ⟨hmap, ?_⟩
      have hn : n ∈ [writeTarget f, "k", "v", writeTarget f] := hn
      simp only [List.mem_cons, List.not_mem_nil, or_false] at hn ⊢
      tauto
    · cases hn

theorem uses_setup {fs : List Field} (hsource : ∀ f, (source f).free ⊆ [holder .toExternal])
    (hf : f ∈ fs) :
    Uses (served dir (scope dir runtime d) fs) (setup dir (scope dir runtime d) source f)
      (own dir f ++ served dir (scope dir runtime d) fs) := by
  have hparams : ∀ c ∈ (scope dir runtime d).converters, ¬ IsPlaceholder 0 c.2 :=
    not_isPlaceholder_of_scope
  have hserves : Conversion.Serves (served dir (scope dir runtime d) fs) dir (scope dir runtime d)
      f.type := serves_served hf
  have hholder : holder dir ∈ served dir (scope dir runtime d) fs := List.mem_cons_self
  rw [own]
  cases dir with
  | fromExternal =>
    rw [setup, readSetup]
    split
    · rename_i hmap
      obtain ⟨hkey, hvalue⟩ := keyValue_mem_args hmap
      have hentry : (readEntry f).free ⊆ served .fromExternal _ fs := Conversion.free_name hholder
      exact Conversion.uses_readMap hparams (hserves.arg hkey) (hserves.arg hvalue) hentry rfl _
    · exact .nil
  | toExternal =>
    rw [setup, writeSetup]
    split
    · rename_i hmap
      obtain ⟨hkey, hvalue⟩ := keyValue_mem_args hmap
      exact Conversion.uses_writeMap hparams (hserves.arg hkey) (hserves.arg hvalue)
        (List.Subset.trans (hsource f) (Conversion.free_name hholder)) rfl _
    · exact .nil

theorem free_prepared {fs : List Field} (hsource : ∀ f, (source f).free ⊆ [holder .toExternal])
    (hf : f ∈ fs) :
    (prepared dir (scope dir runtime d) source f).free ⊆
      own dir f ++ served dir (scope dir runtime d) fs := by
  have hparams : ∀ c ∈ (scope dir runtime d).converters, ¬ IsPlaceholder 0 c.2 :=
    not_isPlaceholder_of_scope
  have hserves : Conversion.Serves (served dir (scope dir runtime d) fs) dir (scope dir runtime d)
      f.type := serves_served hf
  have hholder : holder dir ∈ served dir (scope dir runtime d) fs := List.mem_cons_self
  rw [own]
  cases dir with
  | fromExternal =>
    rw [prepared, readValue]
    split
    · exact List.subset_append_left _ _
    · exact Conversion.free_convert hparams (Int.le_refl 0) hserves (Conversion.free_name hholder)
  | toExternal =>
    rw [prepared, writeEntry]
    split
    · exact List.subset_append_left _ _
    · exact Conversion.free_convert hparams (Int.le_refl 0) hserves
        (List.Subset.trans (hsource f) (Conversion.free_name hholder))

theorem apart_setup (h : Clear dir runtime d v)
    (hsource : ∀ f, (source f).free ⊆ [holder .toExternal]) :
    Apart (served dir (scope dir runtime d) v.fields) (own dir)
      (setup dir (scope dir runtime d) source) v.fields where
  uses f hf := uses_setup hsource hf
  kept f hf n hn := by
    obtain ⟨hmap, rfl | hloop⟩ := changesEach_setup hn
    · exact target_not_mem_served h hf hmap
    · exact loop_not_mem_served h.loops hloop v.fields
  apart := by
    -- fields without a map settle nothing, so those with a map are all there is to compare
    have hpairs := List.pairwise_filter.mp (List.pairwise_map.mp h.targets)
    refine hpairs.imp fun {f g} hfg n hn hc => ?_
    rw [own] at hn
    split at hn
    · rename_i hmap
      obtain rfl := List.mem_singleton.mp hn
      obtain ⟨hmap', heq | hloop⟩ := changesEach_setup hc
      · exact hfg hmap hmap' heq
      · exact target_not_mem (by decide) hloop
    · cases hn

/-- The code for a variant: what builds it, or what writes its object. -/
def variantBody (mangling : Mangling) (s : Scope) (tagged : Bool) (d : Definition) (v : Variant) :
    Direction → List Stmt
  | .fromExternal => construct mangling s d v
  | .toExternal => deconstruct mangling s tagged v

/-- The end of this code: the arguments or entries are those of the fields, in order. -/
def variantEnd (mangling : Mangling) (s : Scope) (tagged : Bool) (d : Definition) (v : Variant)
    (source : Field → Expr) : Direction → Stmt
  | .fromExternal =>
    .retCall (constructor mangling d v) (v.fields.map (prepared .fromExternal s source))
  | .toExternal =>
    let tag : List (String × Expr) := if tagged then [("type", .str v.name)] else []
    returnEntries (tag ++ v.fields.map fun f => (f.name, prepared .toExternal s source f))

theorem variantBody_eq {s : Scope} (tagged : Bool) (hfields : v.fields.isEmpty = false)
    (hsource : source = fun f => mangling.destructor (.name "value") f.name) :
    variantBody mangling s tagged d v dir =
      v.fields.flatMap (setup dir s source) ++ [variantEnd mangling s tagged d v source dir] := by
  cases dir with
  | fromExternal =>
    rw [variantBody, construct, hfields]
    rfl
  | toExternal =>
    subst hsource
    rfl

theorem prepared_eq_iff {s : Scope} (hf : isBlockMap f) (hg : isBlockMap g) :
    prepared dir s source f = prepared dir s source g ↔
      Matching (spelled f.name) (spelled g.name) := by
  have hname {f : Field} (hf : isBlockMap f) :
      prepared dir s source f = .name (target dir f) := by
    cases dir with
    | fromExternal => exact if_pos hf
    | toExternal => exact if_pos hf
  have htarget : target dir f = target dir g ↔ Matching (spelled f.name) (spelled g.name) :=
    target_eq_iff
  rw [hname hf, hname hg, ← htarget]
  exact ⟨fun h => Expr.name.inj h, congrArg Expr.name⟩

/--
The variables of two maps are one, and so are their values, exactly if the names of the fields match
as they are spelled. None is a variable of a loop, and one is a parameter only where the name of a
type parameter with the ending of its converter matches that of the field. The code for a variant
first prepares its fields and then uses them all. Where no two variables are one and none is a name
that the conversions use, the statements for all fields together give every field the value that the
statements for this field alone give it, and they fail only if those of some field do.
-/
theorem temporaries_apart {V : Type} (I : Interpretation V) (mangling : Mangling)
    (runtime : String) (d : Definition) (v : Variant) (dir : Direction) (source : Field → Expr)
    (hsource : ∀ f, (source f).free ⊆ [holder .toExternal]) :
    (∀ f g, target dir f = target dir g ↔ Matching (spelled f.name) (spelled g.name)) ∧
      (∀ f g, isBlockMap f → isBlockMap g →
        (prepared dir (scope dir runtime d) source f = prepared dir (scope dir runtime d) source g ↔
          Matching (spelled f.name) (spelled g.name))) ∧
      (∀ f, target dir f ∉ ["k", "v", "json", "value", "tag"]) ∧
      (∀ f, target dir f ∈ (function mangling runtime d dir).params.map (·.name) ↔
        dir = .fromExternal ∧
          ∃ p ∈ d.genericParams, Matching ("__" ++ spelled f.name) (p ++ "_fromJson")) ∧
      (∀ tagged, v.fields.isEmpty = false →
        (source = fun f => mangling.destructor (.name "value") f.name) →
        variantBody mangling (scope dir runtime d) tagged d v dir =
          v.fields.flatMap (setup dir (scope dir runtime d) source) ++
            [variantEnd mangling (scope dir runtime d) tagged d v source dir]) ∧
      (Clear dir runtime d v → ∀ env,
        ((∃ r, runEach I (v.fields.flatMap (setup dir (scope dir runtime d) source)) env = some r) ↔
          ∀ f ∈ v.fields, ∃ e, runEach I (setup dir (scope dir runtime d) source f) env = some e) ∧
        ∀ r, runEach I (v.fields.flatMap (setup dir (scope dir runtime d) source)) env = some r →
          ∀ f ∈ v.fields, ∃ e,
            runEach I (setup dir (scope dir runtime d) source f) env = some e ∧
            I.value (prepared dir (scope dir runtime d) source f) r =
              I.value (prepared dir (scope dir runtime d) source f) e) := by
  refine ⟨fun f g => target_eq_iff, fun f g => prepared_eq_iff, fun f => target_not_mem (by decide),
    fun f => target_mem_params, variantBody_eq, fun hclear env => ?_⟩
  have hapart := apart_setup hclear hsource
  refine ⟨hapart.exists_run_iff, fun r hr f hf => ?_⟩
  obtain ⟨e, he, hsame⟩ := (hapart.run hr).2 f hf
  exact ⟨e, he, (Stmt.value_eq_of_same (free_prepared hsource hf) hsame).symm⟩

def shelf : Variant :=
  ⟨"Shelf", [⟨"a", .map .string (.int "int")⟩, ⟨"b", .map .string (.int "int")⟩]⟩

def shelfDefinition : Definition := ⟨"M", "Shelf", [shelf], []⟩

def shelfClass : DataClass := ⟨0, "Shelf", [("Shelf", ["a", "b"])], .escaping, none⟩

/-- A shelf is the value that is converted. -/
def shelfLocals : Locals Value := fun n =>
  if n = "value" then
    some (.data .fresh shelfClass "Shelf"
      [.map .fresh [(.text "x", .int 1)], .map .fresh [(.text "y", .int 2)]])
  else none

def shelfSource (f : Field) : Expr := Mangling.escaping.destructor (.name "value") f.name

/-- What the variables hold when one field alone is prepared. -/
def shelfRun (f : Field) : Option (Locals Value) :=
  runEach (Interpretation.plain id "_rt")
    (setup .toExternal (scope .toExternal "_rt" shelfDefinition) shelfSource f) shelfLocals

/-- Both maps of a shelf are written out, each into its own variable. -/
theorem temporaries_apart_shelf :
    ∃ (d : Definition) (env : Locals Value) (r : Locals Value),
      d.variants = [shelf] ∧ Clear .toExternal "_rt" d shelf ∧
      runEach (Interpretation.plain id "_rt")
        (deconstruct .escaping (scope .toExternal "_rt" d) false shelf).dropLast env = some r ∧
      r "__a_json" = some (.dict [(.text "x", .int 1)]) ∧
      r "__b_json" = some (.dict [(.text "y", .int 2)]) := by
  have hclear : Clear .toExternal "_rt" shelfDefinition shelf :=
    clear_toExternal (by decide) (by decide) (by decide)
  obtain ⟨-, -, -, -, -, h⟩ := temporaries_apart (Interpretation.plain id "_rt") .escaping "_rt"
    shelfDefinition shelf .toExternal shelfSource fun f => List.Subset.refl _
  obtain ⟨hruns, hvalues⟩ := h hclear shelfLocals
  have hone : ∀ f ∈ shelf.fields, ∃ e, shelfRun f = some e := by
    intro f hf
    rcases List.mem_cons.mp hf with rfl | hf
    · exact ⟨_, rfl⟩
    · obtain rfl := List.mem_singleton.mp hf
      exact ⟨_, rfl⟩
  obtain ⟨r, hr⟩ := hruns.mpr hone
  -- what a variable holds in the end is what it holds when its field alone is prepared
  have hfinal (f : Field) (hf : f ∈ shelf.fields) (hmap : isBlockMap f = true) (w : Value)
      (halone : (shelfRun f).bind (· (writeTarget f)) = some w) : r (writeTarget f) = some w := by
    obtain ⟨e, he, hvalue⟩ := hvalues r hr f hf
    have hprepared : prepared .toExternal (scope .toExternal "_rt" shelfDefinition) shelfSource f =
        .name (writeTarget f) := if_pos hmap
    have hrun : shelfRun f = some e := he
    rw [hprepared, Interpretation.value_name, Interpretation.value_name] at hvalue
    rw [hvalue, ← halone, hrun]
    rfl
  exact ⟨shelfDefinition, shelfLocals, r, rfl, hclear, hr, hfinal _ List.mem_cons_self rfl _ rfl,
    hfinal _ (List.mem_cons_of_mem _ List.mem_cons_self) rfl _ rfl⟩

def reserved : String :=
  "module M { datatype D = D(class: map<string, int>, class_: map<string, int>) }"

def classField : Field := ⟨"class", .map .string (.int "int")⟩

def classBarField : Field := ⟨"class_", .map .string (.int "int")⟩

def classFields : Definition := ⟨"M", "D", [⟨"D", [classField, classBarField]⟩], []⟩

/-- A reserved word and its spelling name one variable. -/
theorem temporaries_shared :
    ∃ c d v f g, (parse reserved).outcome = .ok c ∧
      d ∈ c.definitions ∧ v ∈ d.variants ∧ (v.fields.map (·.name)).Nodup ∧ f ∈ v.fields ∧
      g ∈ v.fields ∧ f ≠ g ∧ isBlockMap f ∧ isBlockMap g ∧ readTarget f = readTarget g ∧
      writeTarget f = writeTarget g ∧
      readValue (scope .fromExternal "_rt" d) f = readValue (scope .fromExternal "_rt" d) g := by
  refine ⟨⟨[classFields], []⟩, classFields, ⟨"D", [classField, classBarField]⟩, classField,
    classBarField, by decide +kernel, List.mem_cons_self, List.mem_cons_self, by decide,
    List.mem_cons_self, List.mem_cons_of_mem _ List.mem_cons_self, by decide, rfl, rfl, by decide,
    by decide, ?_⟩
  have hname : readTarget classField = readTarget classBarField := by decide
  exact congrArg Expr.name hname

end Converter

end Marshal
