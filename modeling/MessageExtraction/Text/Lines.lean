/-!
# Pieces and lines of a text
-/

namespace MessageExtraction.Text

/-- The pieces of a text between the separators; a text without separator is one piece. -/
def splitOn (separator : Char) : List Char → List (List Char)
  | [] => [[]]
  | c :: r =>
      if c = separator then [] :: splitOn separator r
      else
        match splitOn separator r with
        | [] => [[c]]
        | piece :: pieces => (c :: piece) :: pieces

/-- The text of pieces with a separator between two of them. -/
def joinWith (separator : Char) : List (List Char) → List Char
  | [] => []
  | [piece] => piece
  | piece :: pieces => piece ++ separator :: joinWith separator pieces

theorem splitOn_ne_nil (separator : Char) (s : List Char) : splitOn separator s ≠ [] := by
  cases s with
  | nil => simp [splitOn]
  | cons c r =>
      simp only [splitOn]
      split
      · simp
      · split <;> simp

/-- Joining undoes splitting. -/
theorem joinWith_splitOn (separator : Char) (s : List Char) :
    joinWith separator (splitOn separator s) = s := by
  induction s with
  | nil => rfl
  | cons c r ih =>
      simp only [splitOn]
      split
      · next h =>
          cases eq : splitOn separator r with
          | nil => exact absurd eq (splitOn_ne_nil _ _)
          | cons piece pieces => simp [joinWith, ← eq, ih, h]
      · cases eq : splitOn separator r with
        | nil => exact absurd eq (splitOn_ne_nil _ _)
        | cons piece pieces =>
            cases pieces with
            | nil => simp_all [joinWith]
            | cons p ps => simp_all [joinWith]

/-- A line without the carriage return that ends it. -/
def dropReturn (line : List Char) : List Char :=
  if line.getLast? = some '\r' then line.dropLast else line

/-- The lines of a text. A line ends at a line feed, or at a carriage return and a line feed; what follows
the last line feed is a line if it is not empty. -/
def lines (s : List Char) : List (List Char) :=
  let pieces := splitOn '\n' s
  let ended := pieces.dropLast.map dropReturn
  match pieces.getLast? with
  | some (c :: r) => ended ++ [c :: r]
  | _ => ended

end MessageExtraction.Text
