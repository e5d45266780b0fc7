import Marshal.Converter
import Marshal.Proofs.Catalog.References
import Mathlib.Data.List.Dedup

/-!
# Keys that converters read

The converter from the external form takes the entries of an object one by one. A conversion reads
the keys that its source reads, and no others, however often the source occurs in it.
-/

namespace Marshal.Code
set_option autoImplicit false

namespace Expr

def key? : Expr → List Expr → Option String
  | .attr (.name "json") "get", [.str k] => some k
  | _, _ => none

mutual
/-- The keys that an expression reads, as they stand in its text. -/
def keys : Expr → List String
  | .name _ => []
  | .str _ => []
  | .attr e _ => e.keys
  | .item e _ => e.keys
  | .call f args => (key? f args).toList ++ f.keys ++ keysEach args
  | .orList e => e.keys
  | .orDict e => e.keys
  | .group e => e.keys
  | .list es => keysEach es
  | .dict es => keysEntries es
  | .listFor b _ s => b.keys ++ s.keys
  | .dictFor k v _ s => k.keys ++ v.keys ++ s.keys
  | .function _ b => b.keys
  | .equal a b => a.keys ++ b.keys
  | .present e => e.keys

def keysEach : List Expr → List String
  | [] => []
  | e :: es => e.keys ++ keysEach es

def keysEntries : List (String × Expr) → List String
  | [] => []
  | (_, e) :: es => e.keys ++ keysEntries es
end

/-- A key counts once for an expression that reads it several times. -/
def reads (e : Expr) : List String := e.keys.dedup

@[simp] theorem key?_name (n : String) (args : List Expr) : key? (.name n) args = none := rfl

@[simp] theorem key?_attr_attr (e : Expr) (a b : String) (args : List Expr) :
    key? (.attr (.attr e a) b) args = none := rfl

@[simp] theorem key?_attr_group (e : Expr) (a : String) (args : List Expr) :
    key? (.attr (.group e) a) args = none := rfl

theorem key?_of_ne_get {e : Expr} {a : String} (h : a ≠ "get") (args : List Expr) :
    key? (.attr e a) args = none := by
  unfold key?
  split
  · rename_i he
    cases he
    exact absurd rfl h
  · rfl

theorem reads_eq_singleton {e : Expr} {k : String} (h : ∀ x, x ∈ e.keys ↔ x = k) :
    e.reads = [k] := by
  have hnodup : e.reads.Nodup := List.nodup_dedup _
  have hmem : ∀ x, x ∈ e.reads ↔ x ∈ [k] := by
    intro x
    rw [reads, List.mem_dedup, h, List.mem_singleton]
  exact List.perm_singleton.mp
    ((List.perm_ext_iff_of_nodup hnodup (List.nodup_singleton k)).mpr hmem)

end Expr

namespace Stmt

mutual
/-- The keys that a statement reads, in the order of its text. -/
def reads : Stmt → List String
  | .assign _ e => e.reads
  | .assignItem _ k e => k.reads ++ e.reads
  | .forEach _ e body => e.reads ++ readsEach body
  | .when e body => e.reads ++ readsEach body
  | .ret e => e.reads
  | .retCall f args => f.reads ++ args.flatMap Expr.reads
  | .retDict es => es.flatMap fun e => e.2.reads
  | .raise e => e.reads

def readsEach : List Stmt → List String
  | [] => []
  | s :: ss => s.reads ++ readsEach ss
end

theorem readsEach_append (ss ts : List Stmt) :
    readsEach (ss ++ ts) = readsEach ss ++ readsEach ts := by
  induction ss with
  | nil => rfl
  | cons s ss ih => rw [List.cons_append, readsEach, readsEach, ih, List.append_assoc]

theorem readsEach_flatMap {α : Type} (xs : List α) (f : α → List Stmt) :
    readsEach (xs.flatMap f) = xs.flatMap fun x => readsEach (f x) := by
  induction xs with
  | nil => rfl
  | cons x xs ih => rw [List.flatMap_cons, readsEach_append, ih, List.flatMap_cons]

end Stmt

end Marshal.Code

namespace Marshal.Conversion
set_option autoImplicit false

open Code (Expr Stmt)

variable {s : Scope}

@[simp] theorem key?_rt (member : String) (args : List Expr) (h : member ≠ "get") :
    Expr.key? (s.rt member) args = none :=
  Expr.key?_of_ne_get h args

@[simp] theorem keys_rt (member : String) : (s.rt member).keys = [] := rfl

theorem mem_keys_ofParam {k : String} (param : String) (source : Expr) :
    k ∈ (ofParam s param source).keys ↔ k ∈ source.keys := by
  rw [ofParam]
  split
  · split
    · rfl
    · simp [Expr.keys, Expr.keysEach]
  · rfl

theorem keys_ofTuple (items : List Expr) :
    (ofTuple .fromExternal s items).keys = Expr.keysEach items := by
  have hget : "Tuple" ++ toString items.length ≠ "get" := by
    intro h
    have hlist := congrArg String.toList h
    rw [String.toList_append] at hlist
    exact absurd (List.cons.inj hlist).1 (by decide)
  rw [ofTuple, Expr.keys, key?_rt _ _ hget]
  rfl

theorem keys_asFunction {t : TypeDescriptor} {body : Expr} (hb : ∀ k, k ∉ body.keys) (x : String)
    (k : String) : k ∉ (asFunction .fromExternal s t x body).keys := by
  rw [asFunction]
  split
  · simp [Expr.keys]
  · simp [Expr.keys]
  · exact hb k

theorem mem_keys_convertItems {as : List TypeDescriptor} {depth : Int} {k : String}
    (ha : ∀ a ∈ as, ∀ source,
      k ∈ (convert .fromExternal s a source depth).keys ↔ k ∈ source.keys)
    {source : Expr} {i : Nat}
    (h : k ∈ Expr.keysEach (convertItems .fromExternal s as source i depth)) :
    k ∈ source.keys := by
  induction as generalizing i with
  | nil => simp [convertItems, Expr.keysEach] at h
  | cons a as ih =>
    rw [convertItems, Expr.keysEach, List.mem_append] at h
    rcases h with h | h
    · exact (ha a List.mem_cons_self (.item source i)).mp h
    · exact ih (fun b hb => ha b (List.mem_cons_of_mem a hb)) h

theorem keys_converters {as : List TypeDescriptor} {depth : Int}
    (ha : ∀ a ∈ as, ∀ x k, k ∉ (convert .fromExternal s a (.name x) (depth + 1)).keys)
    (k : String) : k ∉ Expr.keysEach (converters .fromExternal s as depth) := by
  induction as with
  | nil => simp [converters, Expr.keysEach]
  | cons a as ih =>
    rw [converters, Expr.keysEach, List.mem_append, not_or]
    constructor
    · exact keys_asFunction (ha a List.mem_cons_self _) _ k
    · exact ih fun b hb => ha b (List.mem_cons_of_mem a hb)

theorem mem_keys_convert {t : TypeDescriptor} {source : Expr} {depth : Int} {k : String} :
    k ∈ (convert .fromExternal s t source depth).keys ↔ k ∈ source.keys := by
  induction t using TypeDescriptor.induction generalizing source depth k with
  | step kind name args ih =>
    have hbound : ∀ a ∈ args, ∀ x depth k,
        k ∉ (convert .fromExternal s a (.name x) depth).keys := by
      intro a ha x depth k hk
      exact List.not_mem_nil ((ih a ha).mp hk)
    cases kind with
    | int => simp [convert, ofInt, Expr.keys, Expr.keysEach]
    | bool => rfl
    | string => simp [convert, ofString, Expr.callAttr, Expr.keys, Expr.keysEach, Scope.rt]
    | seq =>
      obtain _ | ⟨a, args⟩ := args
      · simp [convert, ofSeq, Expr.keys, Expr.keysEach]
      · have := hbound a List.mem_cons_self
        rw [convert]
        split <;> simp [ofSeq, ofSeqOf, Expr.keys, Expr.keysEach, this]
    | set =>
      obtain _ | ⟨a, args⟩ := args
      · simp [convert, ofSet, Expr.keys, Expr.keysEach]
      · have := hbound a List.mem_cons_self
        rw [convert]
        split <;> simp [ofSet, ofSetOf, Expr.keys, Expr.keysEach, this]
    | map =>
      obtain _ | ⟨a, _ | ⟨b, args⟩⟩ := args
      · simp [convert, ofMapOf, entryValue, Expr.keys, Expr.keysEach]
      · simp [convert, ofMapOf, entryValue, Expr.keys, Expr.keysEach]
      · have ha := hbound a List.mem_cons_self
        have hb := hbound b (List.mem_cons_of_mem a List.mem_cons_self)
        simp [convert, ofMapOf, entryValue, Expr.keys, Expr.keysEach, ha, hb]
    | tuple =>
      obtain _ | ⟨a, args⟩ := args
      · rfl
      · have ha : k ∈ (convert .fromExternal s a (.item source 0) depth).keys ↔ k ∈ source.keys :=
          ih a List.mem_cons_self
        rw [convert, keys_ofTuple, Expr.keysEach, List.mem_append, ha]
        refine or_iff_left_of_imp ?_
        exact mem_keys_convertItems fun b hb _ => ih b (List.mem_cons_of_mem a hb)
    | datatype =>
      have hargs : ∀ k, k ∉ Expr.keysEach (converters .fromExternal s args depth) :=
        keys_converters fun a ha x k => hbound a ha x _ k
      simp [convert, Expr.keys, Expr.keysEach, hargs]
    | typeParam => exact mem_keys_ofParam name source
    | foreign => rfl

theorem keys_convert_name (t : TypeDescriptor) (x : String) (depth : Int) :
    (convert .fromExternal s t (.name x) depth).keys = [] := by
  apply List.eq_nil_iff_forall_not_mem.mpr
  intro k hk
  exact List.not_mem_nil (mem_keys_convert.mp hk)

theorem reads_readMap (t : TypeDescriptor) (source : Expr) (target : String) :
    Stmt.readsEach (readMap s t source target) = source.reads := by
  have hempty : (Expr.attr (s.rt "Map") "Empty").reads = [] := rfl
  have hitems : (Expr.callAttr (.group (.orDict source)) "items" []).reads = source.reads := by
    simp [Expr.reads, Expr.callAttr, Expr.keys, Expr.keysEach]
  have hupdate : (Expr.callAttr (.name target) "update"
      [convert .fromExternal s t.keyValue.1 (.name "k") 1,
        convert .fromExternal s t.keyValue.2 (.name "v") 1]).reads = [] := by
    simp [Expr.reads, Expr.callAttr, Expr.keys, Expr.keysEach, keys_convert_name,
      Expr.key?_of_ne_get]
  simp [readMap, Stmt.readsEach, Stmt.reads, hempty, hitems, hupdate]

end Marshal.Conversion
