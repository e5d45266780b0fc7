import Marshal.Proofs.Code.Margin

/-!
# How blocks end

A path through a block takes every condition one way or the other, and goes through a loop until it
is done or until some round of it leaves the function. The path ends with the statement that leaves
the function, or it falls off the end of the block.
-/

namespace Marshal.Code
set_option autoImplicit false

namespace Stmt

/-- Whether a statement leaves the function with a value. -/
def isReturn : Stmt → Bool
  | .ret _ | .retCall .. | .retDict _ => true
  | _ => false

/-- Whether a statement leaves the function. -/
def isExit : Stmt → Bool
  | .raise _ => true
  | s => s.isReturn

/-- Whether a statement binds a name or an entry and does nothing else. -/
def isAssignment : Stmt → Bool
  | .assign .. | .assignItem .. => true
  | _ => false

mutual
/-- The statements in which the function can be left. -/
def exits : Stmt → List Stmt
  | .forEach _ _ body => exitsEach body
  | .when _ body => exitsEach body
  | s => if s.isExit then [s] else []

def exitsEach : List Stmt → List Stmt
  | [] => []
  | s :: ss => s.exits ++ exitsEach ss
end

theorem exitsEach_append (ss ts : List Stmt) :
    exitsEach (ss ++ ts) = exitsEach ss ++ exitsEach ts := by
  induction ss with
  | nil => rfl
  | cons s ss ih => rw [List.cons_append, exitsEach, exitsEach, ih, List.append_assoc]

theorem exitsEach_flatMap {α : Type} {f : α → List Stmt} (h : ∀ x, exitsEach (f x) = [])
    (xs : List α) : exitsEach (xs.flatMap f) = [] := by
  induction xs with
  | nil => rfl
  | cons x xs ih => rw [List.flatMap_cons, exitsEach_append, h, ih, List.append_nil]

theorem exits_of_isExit {s : Stmt} (h : s.isExit) : s.exits = [s] := by
  cases s with
  | forEach | when => cases h
  | assign | assignItem => cases h
  | ret | retCall | retDict | raise => rfl

theorem exits_of_isAssignment {s : Stmt} (h : s.isAssignment) : s.exits = [] := by
  cases s with
  | assign | assignItem => rfl
  | _ => cases h

theorem isExit_of_isReturn {s : Stmt} (h : s.isReturn) : s.isExit := by
  cases s with
  | ret | retCall | retDict => rfl
  | _ => cases h

theorem lines_of_isReturn {s : Stmt} (h : s.isReturn) (margin : String) :
    ∃ value rest, s.lines margin = (margin ++ "return " ++ value) :: rest := by
  cases s with
  | ret e => exact ⟨_, _, rfl⟩
  | retCall f args => exact ⟨f.text ++ "(", _, by rw [lines, ← String.append_assoc]⟩
  | retDict es => exact ⟨"\x7b", _, by rw [lines, String.append_assoc]; rfl⟩
  | _ => cases h

theorem blockLines_append (margin : String) (ss ts : List Stmt) :
    blockLines margin (ss ++ ts) = blockLines margin ss ++ blockLines margin ts := by
  induction ss with
  | nil => rfl
  | cons s ss ih => rw [List.cons_append, blockLines, blockLines, ih, List.append_assoc]

theorem blockLines_map_when {α : Type} (margin : String) (guard : α → Expr)
    (branch : α → List Stmt) (xs : List α) :
    blockLines margin (xs.map fun x => .when (guard x) (branch x)) =
      xs.flatMap fun x => (margin ++ "if " ++ (guard x).text ++ ":") ::
        blockLines (margin ++ indent) (branch x) := by
  induction xs with
  | nil => rfl
  | cons x xs ih => rw [List.map_cons, blockLines, ih, List.flatMap_cons, lines]

end Stmt

/-- The ways in which conditions can come out. -/
def Outcomes := Expr → Bool → Prop

/-- How a path through a block ends. -/
inductive Ends (outcome : Outcomes) : List Stmt → Option Stmt → Prop where
  | off : Ends outcome [] none
  | exit {s : Stmt} (ss : List Stmt) : s.isExit → Ends outcome (s :: ss) (some s)
  | assigned {s : Stmt} {ss : List Stmt} {r : Option Stmt} :
    s.isAssignment → Ends outcome ss r → Ends outcome (s :: ss) r
  | skipped {e : Expr} {ss : List Stmt} {r : Option Stmt} (body : List Stmt) :
    outcome e false → Ends outcome ss r → Ends outcome (.when e body :: ss) r
  | left {e : Expr} {body : List Stmt} {s : Stmt} (ss : List Stmt) :
    outcome e true → Ends outcome body (some s) → Ends outcome (.when e body :: ss) (some s)
  | passed {e : Expr} {body ss : List Stmt} {r : Option Stmt} :
    outcome e true → Ends outcome body none → Ends outcome ss r →
      Ends outcome (.when e body :: ss) r
  | looped {ss : List Stmt} {r : Option Stmt} (xs : List String) (e : Expr) (body : List Stmt) :
    Ends outcome ss r → Ends outcome (.forEach xs e body :: ss) r
  | loopLeft {body : List Stmt} {s : Stmt} (xs : List String) (e : Expr) (ss : List Stmt) :
    Ends outcome body (some s) → Ends outcome (.forEach xs e body :: ss) (some s)

namespace Ends

variable {outcome : Outcomes} {ss ts : List Stmt} {s : Stmt} {r : Option Stmt}

/-- A path that leaves the function does so in one of the statements that can. -/
theorem mem_exits (h : Ends outcome ss r) : ∀ s, r = some s → s ∈ Stmt.exitsEach ss := by
  induction h with
  | off => nofun
  | exit ss hs =>
    rintro _ ⟨rfl⟩
    rw [Stmt.exitsEach, Stmt.exits_of_isExit hs]
    exact List.mem_cons_self
  | assigned _ _ ih => exact fun s hs => List.mem_append_right _ (ih s hs)
  | skipped _ _ _ ih => exact fun s hs => List.mem_append_right _ (ih s hs)
  | left _ _ _ ih => exact fun s hs => List.mem_append_left _ (ih s hs)
  | passed _ _ _ _ ih => exact fun s hs => List.mem_append_right _ (ih s hs)
  | looped _ _ _ _ ih => exact fun s hs => List.mem_append_right _ (ih s hs)
  | loopLeft _ _ _ _ ih => exact fun s hs => List.mem_append_left _ (ih s hs)

/-- Where no statement leaves the function, paths go on with what follows. -/
theorem of_append (hss : Stmt.exitsEach ss = []) (h : Ends outcome (ss ++ ts) r) :
    Ends outcome ts r := by
  induction ss with
  | nil => exact h
  | cons t ss ih =>
    obtain ⟨ht, hss⟩ := List.append_eq_nil_iff.mp hss
    apply ih hss
    -- a path cannot end in the first statement, nor in a block of it
    cases h with
    | exit _ hs =>
      rw [Stmt.exits_of_isExit hs] at ht
      cases ht
    | assigned _ h => exact h
    | skipped _ _ h => exact h
    | left _ _ h =>
      have hmem := h.mem_exits _ rfl
      rw [Stmt.exits] at ht
      rw [ht] at hmem
      cases hmem
    | passed _ _ h => exact h
    | looped _ _ _ h => exact h
    | loopLeft _ _ _ h =>
      have hmem := h.mem_exits _ rfl
      rw [Stmt.exits] at ht
      rw [ht] at hmem
      cases hmem

theorem of_exit (hs : s.isExit) (h : Ends outcome (s :: ss) r) : r = some s := by
  cases h with
  | exit => rfl
  | assigned ht =>
    have hexits := Stmt.exits_of_isExit hs
    rw [Stmt.exits_of_isAssignment ht] at hexits
    cases hexits
  | skipped | left | passed | looped | loopLeft => cases hs

/-- If every condition comes out some way, there is a path. -/
theorem exists_path (hall : ∀ e, ∃ b, outcome e b) : ∀ ss : List Stmt, ∃ r, Ends outcome ss r
  | [] => ⟨none, .off⟩
  | .assign x e :: ss => (exists_path hall ss).imp fun _ h => .assigned rfl h
  | .assignItem x k e :: ss => (exists_path hall ss).imp fun _ h => .assigned rfl h
  | .forEach xs e body :: ss => (exists_path hall ss).imp fun _ h => .looped xs e body h
  | .when e body :: ss => by
    obtain ⟨r, hss⟩ := exists_path hall ss
    obtain ⟨_ | _, he⟩ := hall e
    · exact ⟨r, .skipped body he hss⟩
    · obtain ⟨_ | s, hbody⟩ := exists_path hall body
      · exact ⟨r, .passed he hbody hss⟩
      · exact ⟨some s, .left ss he hbody⟩
  | .ret e :: ss => ⟨_, .exit ss rfl⟩
  | .retCall f args :: ss => ⟨_, .exit ss rfl⟩
  | .retDict es :: ss => ⟨_, .exit ss rfl⟩
  | .raise e :: ss => ⟨_, .exit ss rfl⟩

/-- If only one end is possible, every choice of the conditions leads there. -/
theorem iff_eq_of_unique (hall : ∀ e, ∃ b, outcome e b)
    (hunique : ∀ r, Ends outcome ss r → r = some s) (r : Option Stmt) :
    Ends outcome ss r ↔ r = some s := by
  constructor
  · exact hunique r
  · rintro rfl
    obtain ⟨r, hr⟩ := exists_path hall ss
    exact hunique r hr ▸ hr

end Ends

/-- A block that is left by a return at its end and nowhere else. -/
def Returns (ss : List Stmt) : Prop :=
  ∃ init last, ss = init ++ [last] ∧ last.isReturn ∧ Stmt.exitsEach init = []

namespace Returns

variable {outcome : Outcomes} {ss : List Stmt} {r : Option Stmt}

theorem single {s : Stmt} (h : s.isReturn) : Returns [s] := ⟨[], s, rfl, h, rfl⟩

theorem ends (hss : Returns ss) (h : Ends outcome ss r) : r = ss.getLast? := by
  obtain ⟨init, last, rfl, hlast, hinit⟩ := hss
  rw [(h.of_append hinit).of_exit (Stmt.isExit_of_isReturn hlast), List.getLast?_concat]

theorem exists_getLast? (hss : Returns ss) : ∃ s, ss.getLast? = some s := by
  obtain ⟨init, last, rfl, -⟩ := hss
  exact ⟨last, List.getLast?_concat⟩

theorem getLast?_ne_none (hss : Returns ss) : ss.getLast? ≠ none := by
  obtain ⟨s, hs⟩ := hss.exists_getLast?
  rw [hs]
  exact Option.some_ne_none s

end Returns

/-- A block that is left by a return at its end, on a line that begins at the given margin. -/
def ReturnsAt (margin : String) (ss : List Stmt) : Prop :=
  ∃ init last value rest, ss = init ++ [last] ∧ last.isReturn ∧ Stmt.exitsEach init = [] ∧
    last.lines margin = (margin ++ "return " ++ value) :: rest

theorem Returns.at {ss : List Stmt} (hss : Returns ss) (margin : String) : ReturnsAt margin ss := by
  obtain ⟨init, last, hsplit, hlast, hinit⟩ := hss
  obtain ⟨value, rest, hlines⟩ := Stmt.lines_of_isReturn hlast margin
  exact ⟨init, last, value, rest, hsplit, hlast, hinit, hlines⟩

/-- Of guarded branches that return, one whose guard can hold is taken, or all are passed. -/
theorem ends_branches {α : Type} {outcome : Outcomes} {guard : α → Expr} {branch : α → List Stmt}
    (hbranch : ∀ x, Returns (branch x)) {xs : List α} {last : Stmt} (hlast : last.isExit)
    {r : Option Stmt}
    (h : Ends outcome (xs.map (fun x => .when (guard x) (branch x)) ++ [last]) r) :
    (∃ x ∈ xs, outcome (guard x) true ∧ r = (branch x).getLast?) ∨
      (∀ x ∈ xs, outcome (guard x) false) ∧ r = some last := by
  induction xs with
  | nil => exact Or.inr ⟨nofun, h.of_exit hlast⟩
  | cons x xs ih =>
    cases h with
    | exit _ hs => cases hs
    | assigned hs => cases hs
    | skipped _ hx h =>
      rcases ih h with ⟨y, hy, hr⟩ | ⟨hxs, hr⟩
      · exact Or.inl ⟨y, List.mem_cons_of_mem x hy, hr⟩
      · exact Or.inr ⟨List.forall_mem_cons.mpr ⟨hx, hxs⟩, hr⟩
    | left _ hx h => exact Or.inl ⟨x, List.mem_cons_self, hx, (hbranch x).ends h⟩
    | passed _ h => exact absurd ((hbranch x).ends h).symm (hbranch x).getLast?_ne_none

end Marshal.Code
