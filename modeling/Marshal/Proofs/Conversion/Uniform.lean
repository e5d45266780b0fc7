import Marshal.Proofs.Catalog.References
import Marshal.Proofs.Code.Uniform
import Marshal.Proofs.Conversion.Placeholder

/-!
# Conversions of any source

A conversion only puts its source into place: the forms that it chooses depend on the type and on
the variables that it binds. So its text is one context around the text of the source, a function
that converts one value is that context around a variable, and the statements that convert a map
entry by entry convert keys and values as the expression for the whole map does.
-/

namespace Marshal.Conversion
set_option autoImplicit false

open Code (Context Expr Fills Stmt Uniform UniformEach)

section Forms
variable {ι : Type} {dir : Direction} {s : Scope} {source elem key value : (ι → Expr) → Expr}

/-- A call of a function that does not depend on what fills the holes. -/
theorem call_uniform (f : Expr) (h : Uniform source) : Uniform fun σ => .call f [source σ] :=
  UniformEach.call (.fixed f) (.single h)

theorem ofInt_uniform (h : Uniform source) : Uniform fun σ => ofInt dir (source σ) := by
  cases dir with
  | toExternal => exact call_uniform _ h
  | fromExternal => exact call_uniform _ h

theorem ofString_uniform (h : Uniform source) : Uniform fun σ => ofString dir s (source σ) := by
  cases dir with
  | toExternal => exact call_uniform _ h
  | fromExternal => exact call_uniform _ h

theorem ofSeq_uniform (h : Uniform source) : Uniform fun σ => ofSeq dir s (source σ) := by
  cases dir with
  | toExternal => exact call_uniform _ h
  | fromExternal => exact call_uniform _ h.orList

theorem ofSeqOf_uniform (x : String) (h : Uniform source) (he : Uniform elem) :
    Uniform fun σ => ofSeqOf dir s (source σ) (elem σ) x := by
  cases dir with
  | toExternal => exact .listFor x he (call_uniform _ h)
  | fromExternal => exact call_uniform _ (.listFor x he h.orList.group)

theorem ofSet_uniform (h : Uniform source) : Uniform fun σ => ofSet dir s (source σ) := by
  cases dir with
  | toExternal => exact call_uniform _ (h.attr "Elements")
  | fromExternal => exact call_uniform _ h.orList

theorem ofSetOf_uniform (x : String) (h : Uniform source) (he : Uniform elem) :
    Uniform fun σ => ofSetOf dir s (source σ) (elem σ) x := by
  cases dir with
  | toExternal => exact .listFor x he (h.attr "Elements")
  | fromExternal => exact call_uniform _ (.listFor x he h.orList.group)

theorem externalKey_uniform (kind : TypeKind) (h : Uniform key) :
    Uniform fun σ => externalKey kind (key σ) := by
  unfold externalKey
  split
  · exact h
  · exact call_uniform _ h

theorem entryValue_uniform (k v : String) (h : Uniform source) :
    Uniform fun σ => entryValue dir (source σ) k v := by
  cases dir with
  | toExternal => exact UniformEach.call (h.attr "get") (.single (.fixed (.name k)))
  | fromExternal => exact .fixed (.name v)

theorem ofMapOf_uniform (kind : TypeKind) (k v : String) (h : Uniform source) (hk : Uniform key)
    (hv : Uniform value) :
    Uniform fun σ => ofMapOf dir (source σ) kind (key σ) (value σ) k v := by
  cases dir with
  | toExternal =>
    exact .dictFor k (externalKey_uniform kind hk) hv ((h.attr "Keys").attr "Elements")
  | fromExternal =>
    exact UniformEach.call (.fixed _) (.cons h (.cons (.function k hk) (.single (.function v hv))))

theorem ofTuple_uniform {items : (ι → Expr) → List Expr} (h : UniformEach items) :
    Uniform fun σ => ofTuple dir s (items σ) := by
  cases dir with
  | toExternal => exact h.list
  | fromExternal =>
    -- the constructor of a tuple is named for the number of its components
    obtain ⟨gs, hgs, heq⟩ := h
    have hlength : ∀ σ, (items σ).length = gs.length := fun σ => by rw [heq σ, List.length_map]
    have hcall : Uniform fun σ => .call (s.rt ("Tuple" ++ toString gs.length)) (items σ) :=
      UniformEach.call (.fixed _) ⟨gs, hgs, heq⟩
    simpa only [ofTuple, hlength] using hcall

theorem ofParam_uniform (p : String) (h : Uniform source) :
    Uniform fun σ => ofParam s p (source σ) := by
  unfold ofParam
  split
  · split
    · exact h
    · exact call_uniform _ h
  · exact h

theorem convertItems_uniform {as : List TypeDescriptor} {depth : Int}
    (ha : ∀ a ∈ as, ∀ {source : (ι → Expr) → Expr}, Uniform source →
      Uniform fun σ => convert dir s a (source σ) depth)
    (h : Uniform source) (i : Nat) :
    UniformEach fun σ => convertItems dir s as (source σ) i depth := by
  induction as generalizing i with
  | nil => exact .fixed []
  | cons a as ih =>
    refine .cons (ha a List.mem_cons_self (h.item i)) ?_
    exact ih (fun b hb => ha b (List.mem_cons_of_mem a hb)) (i + 1)

/-- A conversion puts its source into place, whatever the source is. -/
theorem convert_uniform (t : TypeDescriptor) (depth : Int) (h : Uniform source) :
    Uniform fun σ => convert dir s t (source σ) depth := by
  induction t using TypeDescriptor.induction generalizing source depth with
  | step kind name args ih =>
    cases kind with
    | int => exact ofInt_uniform h
    | bool => exact h
    | string => exact ofString_uniform h
    | seq =>
      cases args with
      | nil => exact ofSeq_uniform h
      | cons a args =>
        -- whether elements are converted depends on their type only
        by_cases hx : (convert dir s a (.name (placeholder "x" depth)) (depth + 1)).isName
            (placeholder "x" depth)
        · simp only [convert, if_pos hx]
          exact ofSeq_uniform h
        · simp only [convert, if_neg hx]
          exact ofSeqOf_uniform _ h (.fixed _)
    | set =>
      cases args with
      | nil => exact ofSet_uniform h
      | cons a args =>
        by_cases hx : (convert dir s a (.name (placeholder "x" depth)) (depth + 1)).isName
            (placeholder "x" depth)
        · simp only [convert, if_pos hx]
          exact ofSet_uniform h
        · simp only [convert, if_neg hx]
          exact ofSetOf_uniform _ h (.fixed _)
    | map =>
      have hentry : Uniform fun σ =>
          entryValue dir (source σ) (placeholder "k" depth) (placeholder "v" depth) :=
        entryValue_uniform _ _ h
      obtain _ | ⟨a, _ | ⟨b, args⟩⟩ := args
      · exact ofMapOf_uniform _ _ _ h (.fixed _) hentry
      · exact ofMapOf_uniform _ _ _ h (.fixed _) hentry
      · simp only [convert]
        refine ofMapOf_uniform _ _ _ h (.fixed _) ?_
        exact ih b (List.mem_cons_of_mem a List.mem_cons_self) (depth + 1) hentry
    | tuple =>
      cases args with
      | nil => exact h
      | cons a args =>
        simp only [convert]
        refine ofTuple_uniform (.cons (ih a List.mem_cons_self depth (h.item 0)) ?_)
        refine convertItems_uniform ?_ h 1
        intro b hb source hsource
        exact ih b (List.mem_cons_of_mem a hb) depth hsource
    | datatype =>
      simp only [convert]
      exact UniformEach.call (.fixed _) (.cons h (.fixed _))
    | typeParam => exact ofParam_uniform name h
    | foreign => exact h

end Forms

section Agreement
variable {dir : Direction} {s : Scope} {t : TypeDescriptor}

theorem text_convert (dir : Direction) (s : Scope) (t : TypeDescriptor) (depth : Int) :
    ∃ c : Context Unit, ∀ source,
      (convert dir s t source depth).text = c.fill fun _ => source.text := by
  have huniform : Uniform fun σ : Unit → Expr => convert dir s t (σ ()) depth :=
    convert_uniform t depth (.hole ())
  obtain ⟨c, hc⟩ := huniform.text
  exact ⟨c, fun source => hc fun _ => source⟩

theorem converter_cases (hs : ∀ c ∈ s.converters, c.2 ≠ "") (depth : Int) :
    converter dir s t depth = .function (placeholder "x" depth)
        (convert dir s t (.name (placeholder "x" depth)) (depth + 1)) ∨
      ∃ f, converter dir s t depth = .name f ∧
        ∀ source, convert dir s t source depth = .call (.name f) [source] := by
  obtain ⟨kind, name, args⟩ := t
  unfold converter asFunction
  split
  · rename_i hkind hargs
    obtain rfl : kind = .datatype := hkind
    obtain rfl : args = [] := hargs
    refine .inr ⟨_, rfl, ?_⟩
    intro source
    simp only [convert, converters]
  · rename_i f hkind hf
    obtain rfl : kind = .typeParam := hkind
    have hf : s.converter? name = some f := hf
    have hempty : ¬ f.isEmpty := by
      obtain ⟨l, r, hlist, -⟩ := List.lookup_eq_some_iff.mp hf
      have hne := hs (name, f) (hlist ▸ List.mem_append_right l List.mem_cons_self)
      simpa using hne
    refine .inr ⟨_, rfl, ?_⟩
    intro source
    simp only [convert, ofParam, hf, if_neg hempty]
  · exact .inl rfl

theorem convert_map (ht : t.kind = .map) (source : Expr) (depth : Int) :
    convert dir s t source depth =
      ofMapOf dir source t.keyValue.1.kind
        (convert dir s t.keyValue.1 (.name (placeholder "k" depth)) (depth + 1))
        (convert dir s t.keyValue.2
          (entryValue dir source (placeholder "k" depth) (placeholder "v" depth)) (depth + 1))
        (placeholder "k" depth) (placeholder "v" depth) := by
  obtain ⟨kind, name, args⟩ := t
  obtain rfl : kind = .map := ht
  obtain _ | ⟨a, _ | ⟨b, args⟩⟩ := args
  · rfl
  · rfl
  · simp only [convert, TypeDescriptor.keyValue]

theorem readMap_agrees (s : Scope) (ht : t.kind = .map) :
    ∃ key value, ∀ source,
      convert .fromExternal s t source 0 =
          .call (.name "_map_from_json") [source, .function "k" key, .function "v" value] ∧
        ∀ target margin, Stmt.blockLines margin (readMap s t source target) =
          [margin ++ target ++ " = " ++ s.runtime ++ ".Map.Empty",
            margin ++ "for k, v in (" ++ source.text ++ " or \x7b\x7d).items():",
            margin ++ "    " ++ target ++ " = " ++ target ++ ".update(" ++ key.text ++ ", " ++
              value.text ++ ")"] := by
  refine ⟨convert .fromExternal s t.keyValue.1 (.name "k") 1,
    convert .fromExternal s t.keyValue.2 (.name "v") 1, ?_⟩
  intro source
  refine ⟨convert_map ht source 0, ?_⟩
  intro target margin
  simp [readMap, Stmt.blockLines, Stmt.lines, Code.indent, Scope.rt, Expr.callAttr, Expr.text,
    Expr.texts, ← String.toList_inj]

theorem writeMap_agrees (s : Scope) (ht : t.kind = .map) :
    ∃ key, ∃ c : Context Unit, ∀ source,
      (∃ value, convert .toExternal s t source 0 = .dictFor key value "k" (mapKeys source) ∧
          value.text = c.fill fun _ => source.text ++ ".get(k)") ∧
        ∀ target margin, Stmt.blockLines margin (writeMap s t source target) =
          [margin ++ target ++ " = \x7b\x7d",
            margin ++ "if " ++ source.text ++ " is not None:",
            margin ++ "    for k in " ++ source.text ++ ".Keys.Elements:",
            margin ++ "        v = " ++ source.text ++ ".get(k)",
            margin ++ "        " ++ target ++ "[" ++ key.text ++ "] = " ++
              c.fill fun _ => "v"] := by
  obtain ⟨c, hc⟩ := text_convert .toExternal s t.keyValue.2 1
  refine ⟨externalKey t.keyValue.1.kind (convert .toExternal s t.keyValue.1 (.name "k") 1), c, ?_⟩
  intro source
  refine ⟨⟨_, convert_map ht source 0, ?_⟩, ?_⟩
  · have hget : (entryValue .toExternal source "k" "v").text = source.text ++ ".get(k)" := by
      simp [entryValue, Expr.callAttr, Expr.text, Expr.texts, ← String.toList_inj]
    rw [← hget]
    exact hc _
  · intro target margin
    have hvalue : (convert .toExternal s t.keyValue.2 (.name "v") 1).text = c.fill fun _ => "v" :=
      hc (.name "v")
    rw [← hvalue]
    simp [writeMap, Stmt.blockLines, Stmt.lines, Code.indent, mapKeys, Expr.callAttr, Expr.text,
      Expr.texts, Expr.entryTexts, ← String.toList_inj]

/--
Three forms of one conversion agree. As an expression it is one context around its source. As a
function it is a variable bound around that expression, or the function that the expression calls.
For a map, statement by statement, it converts keys and values as the expression does.
-/
theorem conversions_agree (s : Scope) (hs : ∀ c ∈ s.converters, c.2 ≠ "") (t : TypeDescriptor) :
    (∀ dir depth, ∃ c : Context Unit, ∀ source,
      (convert dir s t source depth).text = c.fill fun _ => source.text) ∧
    (∀ dir depth,
      converter dir s t depth = .function (placeholder "x" depth)
          (convert dir s t (.name (placeholder "x" depth)) (depth + 1)) ∨
        ∃ f, converter dir s t depth = .name f ∧
          ∀ source, convert dir s t source depth = .call (.name f) [source]) ∧
    (t.kind = .map →
      (∃ key value, ∀ source,
        convert .fromExternal s t source 0 =
            .call (.name "_map_from_json") [source, .function "k" key, .function "v" value] ∧
          ∀ target margin, Stmt.blockLines margin (readMap s t source target) =
            [margin ++ target ++ " = " ++ s.runtime ++ ".Map.Empty",
              margin ++ "for k, v in (" ++ source.text ++ " or \x7b\x7d).items():",
              margin ++ "    " ++ target ++ " = " ++ target ++ ".update(" ++ key.text ++ ", " ++
                value.text ++ ")"]) ∧
      ∃ key, ∃ c : Context Unit, ∀ source,
        (∃ value, convert .toExternal s t source 0 = .dictFor key value "k" (mapKeys source) ∧
            value.text = c.fill fun _ => source.text ++ ".get(k)") ∧
          ∀ target margin, Stmt.blockLines margin (writeMap s t source target) =
            [margin ++ target ++ " = \x7b\x7d",
              margin ++ "if " ++ source.text ++ " is not None:",
              margin ++ "    for k in " ++ source.text ++ ".Keys.Elements:",
              margin ++ "        v = " ++ source.text ++ ".get(k)",
              margin ++ "        " ++ target ++ "[" ++ key.text ++ "] = " ++
                c.fill fun _ => "v"]) := by
  refine ⟨fun dir depth => text_convert dir s t depth, fun dir depth => converter_cases hs depth, ?_⟩
  intro ht
  exact ⟨readMap_agrees s ht, writeMap_agrees s ht⟩

/-- Boxes of a generic type, by name, and the converter of what is in them. -/
def boxes : TypeDescriptor := .map .string (.datatype "Box" [.typeParam "T"])

def boxScope : Scope := ⟨"_rt", [("T", "T_toJson")]⟩

theorem conversions_agree_boxes :
    (∀ c ∈ boxScope.converters, c.2 ≠ "") ∧ boxes.kind = .map ∧
      ∃ key, ∃ c : Context Unit,
        (convert .toExternal boxScope boxes (.name "value") 0).text =
            "\x7b" ++ key ++ ": " ++ c.fill (fun _ => "value.get(k)") ++
              " for k in value.Keys.Elements\x7d" ∧
          (Stmt.blockLines "" (writeMap boxScope boxes (.name "value") "result")).getLast? =
            some ("        result[" ++ key ++ "] = " ++ c.fill fun _ => "v") := by
  have hs : ∀ c ∈ boxScope.converters, c.2 ≠ "" := by decide
  refine ⟨hs, rfl, ?_⟩
  obtain ⟨-, -, hmap⟩ := conversions_agree boxScope hs boxes
  obtain ⟨-, key, c, h⟩ := hmap rfl
  obtain ⟨⟨value, hconvert, hvalue⟩, hlines⟩ := h (.name "value")
  refine ⟨key.text, c, ?_, ?_⟩
  · rw [hconvert]
    have hvalue : value.text = c.fill fun _ => "value.get(k)" := hvalue
    rw [← hvalue]
    simp [Expr.text, mapKeys, ← String.toList_inj]
  · rw [hlines]
    rfl

end Agreement

end Marshal.Conversion
