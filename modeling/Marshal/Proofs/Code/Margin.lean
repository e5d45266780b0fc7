import Marshal.Code.Function
import Mathlib.Data.List.Basic

/-!
# Margins

All lines of a statement stand behind its margin. So the header of a function is its only line that
does not stand behind one more step of indentation.
-/

namespace Marshal.Code
set_option autoImplicit false

def Behind (margin line : String) : Prop := ∃ rest, line = margin ++ rest

theorem behind_append (margin rest : String) : Behind margin (margin ++ rest) := ⟨rest, rfl⟩

theorem Behind.append {margin line : String} (h : Behind margin line) (rest : String) :
    Behind margin (line ++ rest) := by
  obtain ⟨first, rfl⟩ := h
  exact ⟨first ++ rest, String.append_assoc⟩

theorem Behind.outer {margin rest line : String} (h : Behind (margin ++ rest) line) :
    Behind margin line := by
  obtain ⟨last, rfl⟩ := h
  exact (behind_append margin rest).append last

namespace Stmt

/-- Lines behind a margin one step deeper, closed by a line behind the margin. -/
theorem behind_of_items {margin first last line : String} {items : List String}
    (h : line ∈ first :: (items.map (fun t => margin ++ indent ++ t ++ ",") ++ [last]))
    (hfirst : Behind margin first) (hlast : Behind margin last) : Behind margin line := by
  rcases List.mem_cons.mp h with rfl | h
  · exact hfirst
  · rcases List.mem_append.mp h with h | h
    · obtain ⟨t, -, rfl⟩ := List.mem_map.mp h
      exact (((behind_append margin indent).append t).append ",")
    · obtain rfl := List.mem_singleton.mp h
      exact hlast

mutual
theorem behind_of_lines {line : String} : ∀ (s : Stmt) (margin : String),
    line ∈ s.lines margin → Behind margin line
  | .assign x e, margin, h => by
    obtain rfl := List.mem_singleton.mp h
    exact ((behind_append margin x).append " = ").append e.text
  | .assignItem x k e, margin, h => by
    obtain rfl := List.mem_singleton.mp h
    exact ((((behind_append margin x).append "[").append k.text).append "] = ").append e.text
  | .forEach xs e body, margin, h => by
    rcases List.mem_cons.mp h with rfl | h
    · exact ((((behind_append margin "for ").append _).append " in ").append e.text).append ":"
    · exact (behind_of_blockLines body _ h).outer
  | .when e body, margin, h => by
    rcases List.mem_cons.mp h with rfl | h
    · exact ((behind_append margin "if ").append e.text).append ":"
    · exact (behind_of_blockLines body _ h).outer
  | .ret e, margin, h => by
    obtain rfl := List.mem_singleton.mp h
    exact (behind_append margin "return ").append e.text
  | .retCall f args, margin, h => by
    refine behind_of_items h ?_ (behind_append margin ")")
    exact ((behind_append margin "return ").append f.text).append "("
  | .retDict es, margin, h =>
    behind_of_items h (behind_append margin _) (behind_append margin _)
  | .raise e, margin, h => by
    obtain rfl := List.mem_singleton.mp h
    exact (behind_append margin "raise ").append e.text

theorem behind_of_blockLines {line : String} : ∀ (ss : List Stmt) (margin : String),
    line ∈ blockLines margin ss → Behind margin line
  | [], _, h => absurd h List.not_mem_nil
  | s :: ss, margin, h => by
    rcases List.mem_append.mp h with h | h
    · exact behind_of_lines s margin h
    · exact behind_of_blockLines ss margin h
end

end Stmt

theorem Function.mem_lines {typed : Bool} {margin line : String} {f : Function}
    (h : line ∈ f.lines typed margin) :
    line = margin ++ f.header typed ∨ Behind (margin ++ indent) line :=
  (List.mem_cons.mp h).imp_right (Stmt.behind_of_blockLines f.body _)

end Marshal.Code
