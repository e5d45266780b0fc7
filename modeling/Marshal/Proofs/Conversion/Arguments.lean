import Marshal.Proofs.Conversion.Part

/-!
# Arguments of converters

Conversions call the converter of a datatype on a value, and on one function for each argument of
the type, which converts values of that argument.
-/

namespace Marshal.Conversion
set_option autoImplicit false

open Code (Expr)
open Naming (IsConverterName)

variable {dir : Direction} {s : Scope} {R : TypeDescriptor → Prop} {t : TypeDescriptor}

/-- A function whose calls are conversions, or one that converts its variable. -/
inductive Converts (dir : Direction) (s : Scope) (t : TypeDescriptor) : Expr → Prop where
  | name {f : String} :
    (∀ source depth, convert dir s t source depth = .call (.name f) [source]) →
    Converts dir s t (.name f)
  | function (x : String) (depth : Int) :
    Converts dir s t (.function x (convert dir s t (.name x) depth))

def Applied (dir : Direction) (s : Scope) (R : TypeDescriptor → Prop) (n : String)
    (args : List Expr) : Prop :=
  ∃ r ts source cs, R (.datatype r ts) ∧ n = dir.converterName r ∧ args = source :: cs ∧
    List.Forall₂ (Converts dir s) ts cs

/-- The converters of type parameters have names. -/
def Named (s : Scope) : Prop := ∀ c ∈ s.converters, c.2 ≠ ""

theorem converter?_ne_empty (h : Named s) {p f : String} (hf : s.converter? p = some f) :
    f ≠ "" := by
  obtain ⟨before, after, hconverters, -⟩ := List.lookup_eq_some_iff.mp hf
  exact h (p, f) (hconverters ▸ List.mem_append_right _ List.mem_cons_self)

theorem ofParam_eq_call (h : Named s) {p f : String} (hf : s.converter? p = some f)
    (source : Expr) : ofParam s p source = .call (.name f) [source] := by
  have hempty : f.isEmpty = false := by
    rw [Bool.eq_false_iff, ne_eq, String.isEmpty_iff]
    exact converter?_ne_empty h hf
  rw [ofParam, hf]
  simp only [hempty, Bool.false_eq_true, if_false]

theorem converts_asFunction (h : Named s) (x : String) (depth : Int) :
    Converts dir s t (asFunction dir s t x (convert dir s t (.name x) depth)) := by
  obtain ⟨kind, name, args⟩ := t
  rw [asFunction]
  split
  · rename_i hkind hargs
    obtain rfl : kind = .datatype := hkind
    obtain rfl : args = [] := hargs
    exact .name fun source depth => rfl
  · rename_i f hkind hf
    obtain rfl : kind = .typeParam := hkind
    refine .name fun source depth => ?_
    rw [convert]
    exact ofParam_eq_call h hf source
  · exact .function x depth

theorem converts_converters (h : Named s) (ts : List TypeDescriptor) (depth : Int) :
    List.Forall₂ (Converts dir s) ts (converters dir s ts depth) := by
  induction ts with
  | nil => exact .nil
  | cons t ts ih =>
    rw [converters]
    exact .cons (converts_asFunction h _ _) ih

def CalledAs (P : String → List Expr → Prop) (e : Expr) : Prop :=
  ∀ n args, e = .call (.name n) args → IsConverterName n → P n args

/-- All calls of converters inside conversions are made for types of a class. -/
theorem covers_applied {P : String → List Expr → Prop} (h : Named s)
    (hparam : ∀ c ∈ s.converters, ¬ IsConverterName c.2)
    (harg : ∀ t a, R t → a ∈ t.args → R a) (hP : ∀ n args, Applied dir s R n args → P n args) :
    Covers dir s R (CalledAs P) where
  plain he n args heq hn := by
    subst heq
    exact absurd hn he
  empty := nofun
  param := hparam
  arg ht ha := harg _ _ ht ha
  call {name ts} source depth hr n args heq _ := by
    injection heq with hname hargs
    injection hname with hname
    refine hP n args ⟨name, ts, source, _, hr, hname.symm, hargs.symm, ?_⟩
    exact converts_converters h ts depth

end Marshal.Conversion
