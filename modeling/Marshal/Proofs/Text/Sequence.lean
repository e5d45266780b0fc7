import Marshal.Text.Wide

/-!
# Texts without control sequences

A control sequence is dropped wherever it stands, and nothing is added. So a text with a control
sequence is not printed as it is.
-/

namespace Marshal.Text
set_option autoImplicit false

variable {held ps params before after : List Nat} {final : Nat}

def sequenceOf (params : List Nat) (final : Nat) : List Nat :=
  escapePoint :: 0x5b :: (params ++ [final])

theorem isParameter_ne_escape {p : Nat} (h : isParameter p) : p ≠ escapePoint := by
  rintro rfl
  cases h

theorem isFinal_ne_escape {p : Nat} (h : isFinal p) : p ≠ escapePoint := by
  rintro rfl
  cases h

theorem not_isParameter_of_isFinal {p : Nat} (h : isFinal p) : isParameter p = false := by
  simp only [isFinal, Bool.or_eq_true, Bool.and_eq_true, decide_eq_true_eq] at h
  simp only [isParameter, Bool.or_eq_false_iff, Bool.and_eq_false_iff, decide_eq_false_iff_not]
  omega

theorem dropSequences_params (hparams : ∀ p ∈ params, isParameter p) (hfinal : isFinal final)
    (a b : Nat) (held : List Nat) :
    dropSequences (a :: b :: held) (params ++ final :: ps) = dropSequences [] ps := by
  induction params generalizing held with
  | nil =>
    simp [dropSequences, isFinal_ne_escape hfinal, not_isParameter_of_isFinal hfinal, hfinal]
  | cons p params ih =>
    obtain ⟨hp, hparams⟩ := List.forall_mem_cons.mp hparams
    simpa [dropSequences, isParameter_ne_escape hp, hp] using ih hparams (held ++ [p])

/-- A control sequence is dropped; what was held back in front of it is none, and stays. -/
theorem dropSequences_sequence (hparams : ∀ p ∈ params, isParameter p) (hfinal : isFinal final)
    (held ps : List Nat) :
    dropSequences held (sequenceOf params final ++ ps) = held ++ dropSequences [] ps := by
  have hbracket : (0x5b : Nat) ≠ escapePoint := by decide
  simp [sequenceOf, dropSequences, hbracket, dropSequences_params hparams hfinal]

/-- Of what is held back and the next code point, some is kept and some is held back. -/
theorem dropSequences_cons (held : List Nat) (p : Nat) (ps : List Nat) :
    ∃ kept held', dropSequences held (p :: ps) = kept ++ dropSequences held' ps ∧
      kept.length + held'.length ≤ held.length + 1 := by
  by_cases hescape : p = escapePoint
  · exact ⟨held, [p], by simp [dropSequences, hescape], by simp⟩
  · rcases held with _ | ⟨a, _ | ⟨b, held⟩⟩
    · exact ⟨[p], [], by simp [dropSequences, hescape], by simp⟩
    · by_cases hbracket : p = 0x5b
      · subst hbracket
        exact ⟨[], [a, 0x5b], by simp [dropSequences, hescape], by simp⟩
      · exact ⟨[a, p], [], by simp [dropSequences, hescape, hbracket], by simp⟩
    · by_cases hparam : isParameter p
      · exact ⟨[], a :: b :: held ++ [p], by simp [dropSequences, hescape, hparam], by simp⟩
      · by_cases hfinal : isFinal p
        · exact ⟨[], [], by simp [dropSequences, hescape, hparam, hfinal], by simp⟩
        · exact ⟨a :: b :: held ++ [p], [], by simp [dropSequences, hescape, hparam, hfinal],
            by simp⟩

theorem length_dropSequences_le (held ps : List Nat) :
    (dropSequences held ps).length ≤ held.length + ps.length := by
  induction ps generalizing held with
  | nil => exact Nat.le_refl _
  | cons p ps ih =>
    obtain ⟨kept, held', heq, hlength⟩ := dropSequences_cons held p ps
    have hrest := ih held'
    rw [heq, List.length_append, List.length_cons]
    omega

/-- A control sequence makes the text shorter, behind whatever is held back. -/
theorem length_dropSequences_lt (hparams : ∀ p ∈ params, isParameter p) (hfinal : isFinal final)
    (held before after : List Nat) :
    (dropSequences held (before ++ (sequenceOf params final ++ after))).length <
      held.length + (before ++ (sequenceOf params final ++ after)).length := by
  induction before generalizing held with
  | nil =>
    have hafter := length_dropSequences_le [] after
    rw [List.nil_append, dropSequences_sequence hparams hfinal, List.length_append,
      List.length_append, sequenceOf, List.length_cons]
    rw [List.length_nil] at hafter
    omega
  | cons p before ih =>
    obtain ⟨kept, held', heq, hlength⟩ :=
      dropSequences_cons held p (before ++ (sequenceOf params final ++ after))
    have hrest := ih held'
    rw [List.cons_append, heq, List.length_append, List.length_cons]
    omega

theorem length_of_ofPoints {s : String} (h : Wide.ofPoints ps = .text s) :
    ps.length = s.toList.length := by
  rw [Wide.ofPoints] at h
  split at h
  · rw [← Wide.text.inj h, ofWhole, String.toList_ofList, List.length_map]
  · cases h

/-- A text with a control sequence is not printed as it is. -/
theorem Wide.withoutSequences_ne (hparams : ∀ p ∈ params, isParameter p) (hfinal : isFinal final)
    {s : String} (h : pointsOf s = before ++ (sequenceOf params final ++ after)) :
    (Wide.text s).withoutSequences ≠ .text s := by
  intro hsame
  have hshorter := length_dropSequences_lt hparams hfinal [] before after
  have hlength := length_of_ofPoints hsame
  rw [Wide.points, h] at hlength
  have hpoints : (pointsOf s).length = s.toList.length := List.length_map ..
  rw [h] at hpoints
  rw [List.length_nil] at hshorter
  omega

end Marshal.Text
