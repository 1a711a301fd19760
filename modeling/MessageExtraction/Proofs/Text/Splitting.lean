import MessageExtraction.Text.Lines

/-!
# Splitting texts

The pieces of a text between separators, and the lines that end at line feeds, by what the text is put
together from.

* `splitOn_eq`: the pieces of a text are those of the list of its characters.
* `splitOn_append_separator`, `splitOn_of_not_mem`: the pieces around a separator, and without any.
* `lines_append`: the lines of a text up to a line feed, and those behind it.
-/

namespace MessageExtraction.Text

/-! ## Pieces -/

section Pieces

variable {separator : Char}

/-- The pieces of a text are those of the list of its characters. -/
theorem splitOn_eq (s : List Char) : splitOn separator s = s.splitOn separator := by
  induction s with
  | nil => simp [splitOn]
  | cons c s ih =>
    rw [splitOn, List.splitOn_cons_eq_if_modifyHead, ih]
    simp only [beq_iff_eq]
    split
    · rfl
    · split
      · rename_i none
        exact absurd none (List.splitOn_ne_nil _ _)
      · rename_i some
        rw [some, List.modifyHead_cons]

theorem splitOn_append_separator (s t : List Char) :
    splitOn separator (s ++ separator :: t) = splitOn separator s ++ splitOn separator t := by
  simp only [splitOn_eq, List.splitOn_append_cons_self]

theorem splitOn_of_not_mem {s : List Char} (h : separator ∉ s) : splitOn separator s = [s] := by
  rw [splitOn_eq, List.splitOn_eq_singleton h]

/-- Splitting undoes joining, if no piece holds the separator. -/
theorem splitOn_joinWith {pieces : List (List Char)} (nonempty : pieces ≠ [])
    (free : ∀ piece ∈ pieces, separator ∉ piece) :
    splitOn separator (joinWith separator pieces) = pieces := by
  induction pieces with
  | nil => contradiction
  | cons piece pieces ih =>
    have here := splitOn_of_not_mem (free piece List.mem_cons_self)
    cases pieces with
    | nil => exact here
    | cons next pieces =>
      rw [joinWith, splitOn_append_separator, here,
        ih (List.cons_ne_nil _ _) fun p mem => free p (List.mem_cons_of_mem _ mem)]
      · rfl
      · exact List.cons_ne_nil _ _

theorem not_mem_of_mem_splitOn {s piece : List Char} (h : piece ∈ splitOn separator s) :
    separator ∉ piece := by
  induction s generalizing piece with
  | nil => simp_all [splitOn]
  | cons c s ih =>
    rw [splitOn] at h
    split at h
    · rcases List.mem_cons.mp h with rfl | h
      · exact List.not_mem_nil
      · exact ih h
    · rename_i other
      split at h
      · rename_i none
        exact absurd none (splitOn_ne_nil _ _)
      · rename_i first pieces eq
        rcases List.mem_cons.mp h with rfl | h
        · rw [List.mem_cons, not_or]
          exact ⟨Ne.symm other, ih (eq ▸ List.mem_cons_self)⟩
        · exact ih (eq ▸ List.mem_cons_of_mem _ h)

theorem length_splitOn (s : List Char) :
    (splitOn separator s).length = s.count separator + 1 := by
  induction s with
  | nil => rfl
  | cons c s ih =>
    rw [splitOn]
    split
    · rename_i eq
      rw [List.length_cons, ih, eq, List.count_cons_self]
    · rename_i ne
      rw [List.count_cons_of_ne ne]
      cases eq : splitOn separator s with
      | nil => exact absurd eq (splitOn_ne_nil separator s)
      | cons piece pieces => simpa [eq] using ih

end Pieces

/-! ## Lines -/

variable {s t : List Char}

/-- The lines of a text up to a line feed, and those behind it. -/
theorem lines_append (s t : List Char) :
    lines (s ++ '\n' :: t) = (splitOn '\n' s).map dropReturn ++ lines t := by
  have last : (splitOn '\n' s ++ splitOn '\n' t).getLast? = (splitOn '\n' t).getLast? := by
    rw [List.getLast?_append]
    cases eq : (splitOn '\n' t).getLast? with
    | none => exact absurd (List.getLast?_eq_none_iff.mp eq) (splitOn_ne_nil '\n' t)
    | some piece => rfl
  unfold lines
  dsimp only
  rw [splitOn_append_separator, List.dropLast_append_of_ne_nil (splitOn_ne_nil '\n' t),
    List.map_append, last]
  split
  · rw [List.append_assoc]
  · rfl

/-- The line at the front of a text that a line feed ends. -/
theorem lines_head_append (feed : '\n' ∉ s) : (lines (s ++ '\n' :: t)).getD 0 [] = dropReturn s := by
  rw [lines_append, splitOn_of_not_mem feed]
  rfl

/-- The line at the front of a text without line feeds. -/
theorem lines_head_of_not_mem (feed : '\n' ∉ s) : (lines s).getD 0 [] = s := by
  unfold lines
  rw [splitOn_of_not_mem feed]
  cases s <;> rfl

theorem length_dropReturn (s : List Char) : s.length - 1 ≤ (dropReturn s).length := by
  unfold dropReturn
  split
  · exact Nat.le_of_eq List.length_dropLast.symm
  · exact Nat.sub_le s.length 1

end MessageExtraction.Text
