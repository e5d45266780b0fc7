import Marshal.Proofs.Conversion.Part
import Marshal.Proofs.Converter.Called
import Marshal.Proofs.Generated.Globals

/-!
# Expressions inside converters

A converter is made of conversions of its fields, of the object displays that it returns, and of
expressions that are neither.
-/

namespace Marshal.Converter
set_option autoImplicit false

open Code (Expr Stmt)
open Conversion (Covers)
open Naming (IsConverterName Mangling converterEnding lowerName sanitize)

variable {mangling : Mangling} {runtime : String} {d : Definition} {v : Variant} {f : Field}
  {dir : Direction} {s : Scope} {R : TypeDescriptor → Prop} {P : Expr → Prop}

def entries (mangling : Mangling) (s : Scope) (tagged : Bool) (v : Variant) :
    List (String × Expr) :=
  (if tagged then [("type", .str v.name)] else []) ++
    v.fields.map fun f => writeEntry s f (mangling.destructor (.name "value") f.name)

theorem deconstruct_eq (tagged : Bool) :
    deconstruct mangling s tagged v =
      v.fields.flatMap (fun f => writeSetup s f (mangling.destructor (.name "value") f.name)) ++
        [returnEntries (entries mangling s tagged v)] := rfl

/-- What is written into the objects that a converter to the external form returns. -/
def Written (mangling : Mangling) (runtime : String) (d : Definition)
    (es : List (String × Expr)) : Prop :=
  (∃ f, es = [writeEntry (scope .toExternal runtime d) f (.name "value")]) ∨
    ∃ v ∈ d.variants,
      es = entries mangling (scope .toExternal runtime d) (decide (1 < d.variants.length)) v

theorem eq_of_suffixes {α : Type} {xs ys zs : List α} (hxs : xs <:+ zs) (hys : ys <:+ zs)
    (h : xs.length = ys.length) : xs = ys :=
  (List.suffix_of_suffix_length_le hxs hys h.le).eq_of_length h

/-- The ending of a converter parameter begins with a lower-case letter. -/
theorem not_isConverterName_param (dir : Direction) (p : String) :
    ¬ IsConverterName (sanitize p ++ paramEnding dir) := by
  rintro ⟨dir', t, h⟩
  have h := congrArg String.toList h
  rw [Naming.toList_converterName, String.toList_append] at h
  have hparam (cs : List Char) (hcs : cs <:+ (paramEnding dir).toList) :
      cs <:+ (lowerName t).toList ++ (converterEnding dir').toList :=
    h ▸ hcs.trans (List.suffix_append _ _)
  have hname (cs : List Char) (hcs : cs <:+ (converterEnding dir').toList) :
      cs <:+ (lowerName t).toList ++ (converterEnding dir').toList :=
    hcs.trans (List.suffix_append _ _)
  cases dir <;> cases dir'
  · have hp := hparam ['t', 'o', 'J', 's', 'o', 'n'] (by decide)
    have hn := hname ['T', 'o', 'J', 's', 'o', 'n'] (by decide)
    exact absurd (eq_of_suffixes hp hn rfl) (by decide)
  · have hp := hparam ['o', 'J', 's', 'o', 'n'] (by decide)
    have hn := hname ['m', 'J', 's', 'o', 'n'] (by decide)
    exact absurd (eq_of_suffixes hp hn rfl) (by decide)
  · have hp := hparam ['m', 'J', 's', 'o', 'n'] (by decide)
    have hn := hname ['o', 'J', 's', 'o', 'n'] (by decide)
    exact absurd (eq_of_suffixes hp hn rfl) (by decide)
  · have hp := hparam ['f', 'r', 'o', 'm', 'J', 's', 'o', 'n'] (by decide)
    have hn := hname ['F', 'r', 'o', 'm', 'J', 's', 'o', 'n'] (by decide)
    exact absurd (eq_of_suffixes hp hn rfl) (by decide)

theorem not_isConverterName_of_scope :
    ∀ c ∈ (scope dir runtime d).converters, ¬ IsConverterName c.2 := by
  intro c hc
  obtain ⟨p, -, rfl⟩ := List.mem_map.mp hc
  exact not_isConverterName_param dir p

theorem keyValue_mem_args (h : isBlockMap f) :
    f.type.keyValue.1 ∈ f.type.args ∧ f.type.keyValue.2 ∈ f.type.args := by
  obtain ⟨name, kind, tname, args⟩ := f
  obtain _ | ⟨a, _ | ⟨b, rest⟩⟩ := args
  · cases kind <;> cases h
  · cases kind <;> cases h
  · exact ⟨List.mem_cons_self, List.mem_cons_of_mem _ List.mem_cons_self⟩

theorem parts_readEntry (h : Covers dir s R P) (f : Field) : (readEntry f).EachPart P := by
  refine h.call_attr (h.name "json") "get" (List.forall_mem_singleton.mpr ?_)
  exact Expr.eachPart_str.mpr (h.plain trivial)

theorem parts_readSetup (h : Covers .fromExternal s R P) (hf : R f.type) :
    Stmt.EachPart P (readSetup s f) := by
  rw [readSetup]
  split
  · rename_i hmap
    obtain ⟨hkey, hvalue⟩ := keyValue_mem_args hmap
    exact h.readMap (h.arg hf hkey) (h.arg hf hvalue) (parts_readEntry h f) _
  · exact Stmt.eachPart_nil

theorem parts_readValue (h : Covers .fromExternal s R P) (hf : R f.type) :
    (readValue s f).EachPart P := by
  rw [readValue]
  split
  · exact h.name _
  · exact h.convert hf (parts_readEntry h f) 0

theorem parts_writeSetup (h : Covers .toExternal s R P) (hf : R f.type) {source : Expr}
    (hs : source.EachPart P) : Stmt.EachPart P (writeSetup s f source) := by
  rw [writeSetup]
  split
  · rename_i hmap
    obtain ⟨hkey, hvalue⟩ := keyValue_mem_args hmap
    exact h.writeMap (h.arg hf hkey) (h.arg hf hvalue) hs _
  · exact Stmt.eachPart_nil

theorem parts_writeEntry (h : Covers .toExternal s R P) (hf : R f.type) {source : Expr}
    (hs : source.EachPart P) : (writeEntry s f source).2.EachPart P := by
  rw [writeEntry]
  dsimp only
  split
  · exact h.name _
  · exact h.convert hf hs 0

theorem parts_create (h : Covers dir s R P) {args : List Expr}
    (hargs : ∀ e ∈ args, e.EachPart P) :
    (Expr.call (constructor mangling d v) args).EachPart P :=
  h.call_attr (h.attr (h.name _) _) _ hargs

theorem parts_construct (h : Covers .fromExternal s R P) (hr : ∀ f ∈ v.fields, R f.type) :
    Stmt.EachPart P (construct mangling s d v) := by
  rw [construct]
  split
  · exact Stmt.eachPart_ret.mpr ⟨parts_create h (List.forall_mem_nil _), Stmt.eachPart_nil⟩
  · rw [Stmt.eachPart_append, Stmt.eachPart_flatMap, Stmt.eachPart_retCall]
    refine ⟨fun f hf => parts_readSetup h (hr f hf), parts_create h ?_, Stmt.eachPart_nil⟩
    intro e he
    obtain ⟨f, hf, rfl⟩ := List.mem_map.mp he
    exact parts_readValue h (hr f hf)

theorem parts_returnEntries (h : Covers dir s R P) {es : List (String × Expr)} (hes : P (.dict es))
    (he : ∀ e ∈ es, e.2.EachPart P) : Stmt.EachPart P [returnEntries es] := by
  rw [returnEntries]
  split
  · have hempty : (Expr.dict []).EachPart P :=
      Expr.eachPart_dict.mpr ⟨h.empty, List.forall_mem_nil _⟩
    exact Stmt.eachPart_ret.mpr ⟨hempty, Stmt.eachPart_nil⟩
  · exact Stmt.eachPart_retDict.mpr ⟨Expr.eachPart_dict.mpr ⟨hes, he⟩, Stmt.eachPart_nil⟩

theorem parts_deconstruct (h : Covers .toExternal s R P) (hr : ∀ f ∈ v.fields, R f.type)
    {tagged : Bool} (hes : P (.dict (entries mangling s tagged v))) :
    Stmt.EachPart P (deconstruct mangling s tagged v) := by
  have hsource (f : Field) : (mangling.destructor (.name "value") f.name).EachPart P :=
    h.attr (h.name "value") _
  rw [deconstruct_eq, Stmt.eachPart_append, Stmt.eachPart_flatMap]
  refine ⟨fun f hf => parts_writeSetup h (hr f hf) (hsource f), parts_returnEntries h hes ?_⟩
  rw [entries, List.forall_mem_append]
  constructor
  · intro e he
    cases tagged with
    | false => cases he
    | true =>
      obtain rfl := List.mem_singleton.mp he
      exact Expr.eachPart_str.mpr (h.plain trivial)
  · intro e he
    obtain ⟨f, hf, rfl⟩ := List.mem_map.mp he
    exact parts_writeEntry h (hr f hf) (hsource f)

section Bodies
variable (h : Covers dir (scope dir runtime d) R P) (hr : ∀ f ∈ d.fields, R f.type)
  (hes : ∀ es, Written mangling runtime d es → P (.dict es))
include h hr hes

theorem parts_erasedBody (hf : f ∈ d.fields) : Stmt.EachPart P (erasedBody runtime d f dir) := by
  cases dir with
  | fromExternal =>
    rw [erasedBody, Stmt.eachPart_append, Stmt.eachPart_ret]
    exact ⟨parts_readSetup h (hr f hf), parts_readValue h (hr f hf), Stmt.eachPart_nil⟩
  | toExternal =>
    rw [erasedBody, Stmt.eachPart_append, Stmt.eachPart_ret, Expr.eachPart_dict]
    refine ⟨parts_writeSetup h (hr f hf) (h.name _), ⟨hes _ (.inl ⟨f, rfl⟩), ?_⟩, ?_⟩
    · exact List.forall_mem_singleton.mpr (parts_writeEntry h (hr f hf) (h.name _))
    · exact Stmt.eachPart_nil

theorem parts_soleBody (hv : d.variants = [v]) :
    Stmt.EachPart P (soleBody mangling runtime d v dir) := by
  have hmem : v ∈ d.variants := hv ▸ List.mem_cons_self
  have hfields : ∀ f ∈ v.fields, R f.type := fun f hf => hr f (mem_fields hmem hf)
  cases dir with
  | fromExternal => exact parts_construct h hfields
  | toExternal =>
    have hone : decide (1 < d.variants.length) = false := by
      rw [hv]
      rfl
    have hwritten : Written mangling runtime d
        (entries mangling (scope .toExternal runtime d) false v) :=
      .inr ⟨v, hmem, by rw [hone]⟩
    exact parts_deconstruct h hfields (hes _ hwritten)

theorem parts_branch (hone : d.variants.length ≠ 1) (hv : v ∈ d.variants) :
    Stmt.EachPart P (branch mangling runtime d v dir) := by
  have hfields : ∀ f ∈ v.fields, R f.type := fun f hf => hr f (mem_fields hv hf)
  cases dir with
  | fromExternal =>
    rw [branch]
    split
    · exact Stmt.eachPart_ret.mpr ⟨parts_create h (List.forall_mem_nil _), Stmt.eachPart_nil⟩
    · exact parts_construct h hfields
  | toExternal =>
    rw [branch]
    split
    · exact Stmt.eachPart_ret.mpr ⟨Expr.eachPart_str.mpr (h.plain trivial), Stmt.eachPart_nil⟩
    · have hpos := List.length_pos_of_mem hv
      have hmany : decide (1 < d.variants.length) = true := decide_eq_true (by omega)
      have hwritten : Written mangling runtime d
          (entries mangling (scope .toExternal runtime d) true v) :=
        .inr ⟨v, hv, by rw [hmany]⟩
      exact parts_deconstruct h hfields (hes _ hwritten)

omit hr hes in
theorem parts_opening : Stmt.EachPart P (opening d dir) := by
  cases dir with
  | fromExternal =>
    rw [opening]
    split
    · exact Stmt.eachPart_nil
    · rw [Stmt.eachPart_assign]
      refine ⟨h.call_attr (h.name "json") "get" ?_, Stmt.eachPart_nil⟩
      exact List.forall_mem_singleton.mpr (Expr.eachPart_str.mpr (h.plain trivial))
  | toExternal => exact Stmt.eachPart_nil

omit hr hes in
theorem parts_guard (v : Variant) : (guard mangling d v dir).EachPart P := by
  cases dir with
  | fromExternal =>
    exact Expr.eachPart_equal.mpr
      ⟨h.plain trivial, h.name _, Expr.eachPart_str.mpr (h.plain trivial)⟩
  | toExternal => exact h.attr (h.name _) _

omit hr hes in
theorem parts_raiseUnknown (offending : String) :
    Stmt.EachPart P [raiseUnknown runtime d offending] := by
  rw [raiseUnknown, Stmt.eachPart_raise]
  refine ⟨h.call_attr (h.name runtime) _ (List.forall_mem_cons.mpr ⟨?_, ?_⟩), Stmt.eachPart_nil⟩
  · exact Expr.eachPart_str.mpr (h.plain trivial)
  · exact List.forall_mem_singleton.mpr (h.name offending)

/-- Every part of a converter has the property if its displays do. -/
theorem parts_body : Stmt.EachPart P (function mangling runtime d dir).body := by
  by_cases hone : d.variants.length = 1
  · obtain ⟨v, hv⟩ := List.length_eq_one_iff.mp hone
    by_cases hf : ∃ f, v.fields = [f]
    · obtain ⟨f, hf⟩ := hf
      rw [body_erased hv hf]
      exact parts_erasedBody h hr hes
        (mem_fields (hv ▸ List.mem_cons_self) (hf ▸ List.mem_cons_self))
    · rw [body_sole hv fun f hf' => hf ⟨f, hf'⟩]
      exact parts_soleBody h hr hes hv
  · rw [body_eq hone, Stmt.eachPart_append, Stmt.eachPart_append, Stmt.eachPart_map_when]
    refine ⟨parts_opening h, ?_, parts_raiseUnknown h _⟩
    exact fun v hv => ⟨parts_guard h v, parts_branch h hr hes hone hv⟩

end Bodies

end Marshal.Converter
