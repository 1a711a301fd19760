import MessageExtraction.Text.Lines

/-!
# Patterns for paths

A pattern is made of characters, `?` for any character, `*` for any run of characters, classes in brackets,
and `**` for any run of whole components, which must stand between slashes or at an end. A slash is a
character like any other where a whole path is matched.
-/

namespace MessageExtraction.Glob

/-- A part of a pattern. -/
inductive Token where
  | char (c : Char)
  | anyChar
  | anyRun
  /-- Any run of whole components. -/
  | anyComponents
  /-- A character in one of the ranges, ends included. -/
  | within (ranges : List (Char × Char))
  /-- A character in none of the ranges. -/
  | except (ranges : List (Char × Char))
deriving DecidableEq, Repr

/-- A pattern. -/
abbrev Pattern := List Token

/-! ## Reading patterns -/

/-- Why a pattern is refused. -/
inductive PatternCause where
  | wildcards
  | recursion
  | range
deriving DecidableEq, Repr, Inhabited

/-- A refused pattern, and the number of the character at which it is refused. -/
structure PatternError where
  cause : PatternCause
  position : Nat
deriving DecidableEq, Repr, Inhabited

/-- The wording of a cause. -/
def PatternCause.text : PatternCause → String
  | .wildcards => "wildcards are either regular `*` or recursive `**`"
  | .recursion => "recursive wildcards must form a single path component"
  | .range => "invalid range pattern"

/-- The wording of a refused pattern. -/
def PatternError.text (e : PatternError) : String :=
  "Pattern syntax error near position " ++ toString e.position ++ ": " ++ e.cause.text

/-- The ranges of a class. A character on its own is a range too. -/
def ranges : List Char → List (Char × Char)
  | a :: '-' :: b :: r => (a, b) :: ranges r
  | a :: r => (a, a) :: ranges r
  | [] => []

/-- The class behind an opening bracket with what stands behind its closing one. A class has at least one
character, which may be a closing bracket. -/
def class? : List Char → Option (Token × List Char)
  | '!' :: a :: r =>
      match r.dropWhile (· != ']') with
      | _ :: rest => some (.except (ranges (a :: r.takeWhile (· != ']'))), rest)
      | [] => none
  | '!' :: [] => none
  | a :: r =>
      match r.dropWhile (· != ']') with
      | _ :: rest => some (.within (ranges (a :: r.takeWhile (· != ']'))), rest)
      | [] => none
  | [] => none

theorem class?_length {s : List Char} {token : Token} {rest : List Char}
    (h : class? s = some (token, rest)) : rest.length < s.length := by
  have bound : ∀ (r : List Char) (c : Char) (t : List Char),
      r.dropWhile (· != ']') = c :: t → t.length < r.length := by
    intro r c t eq
    have := (List.dropWhile_suffix (l := r) (· != ']')).length_le
    rw [eq, List.length_cons] at this
    omega
  unfold class? at h
  split at h
  · split at h
    · next eq => have := bound _ _ _ eq; simp at h; simp [← h.2]; omega
    · simp at h
  · simp at h
  · split at h
    · next eq => have := bound _ _ _ eq; simp at h; simp [← h.2]; omega
    · simp at h
  · simp at h

/-- The tokens so far, last one first, with one for any run of components. It is left out after another such
one, unless that is the very first token. -/
def addComponents : List Token → List Token
  | .anyComponents :: t :: tokens => .anyComponents :: t :: tokens
  | tokens => .anyComponents :: tokens

/-- Reads a pattern from character number `position` on, behind the character `before` and the tokens
`done`, last one first. -/
def parseFrom (position : Nat) (before : Option Char) (done : List Token) (s : List Char) :
    Except PatternError Pattern :=
  match s with
  | [] => .ok done.reverse
  | '?' :: r => parseFrom (position + 1) (some '?') (.anyChar :: done) r
  | '*' :: '*' :: '*' :: _ => .error ⟨.wildcards, position + 2⟩
  | '*' :: '*' :: r =>
      if before = none ∨ before = some '/' then
        match r with
        | [] => .ok (addComponents done).reverse
        | '/' :: r => parseFrom (position + 3) (some '/') (addComponents done) r
        | _ :: _ => .error ⟨.recursion, position + 2⟩
      else .error ⟨.recursion, position - 1⟩
  | '*' :: r => parseFrom (position + 1) (some '*') (.anyRun :: done) r
  | '[' :: r =>
      match h : class? r with
      | some (token, rest) =>
          have := class?_length h
          parseFrom (position + 1 + (r.length - rest.length)) (some ']') (token :: done) rest
      | none => .error ⟨.range, position⟩
  | c :: r => parseFrom (position + 1) (some c) (.char c :: done) r
termination_by s.length
decreasing_by all_goals (simp; try omega)

/-- Reads a pattern. -/
def parse (text : String) : Except PatternError Pattern := parseFrom 0 none [] text.toList

/-! ## Matching

A row says for each rest of a text, the whole text first and the empty rest last, whether a pattern stands
for it. The row of a pattern comes from the row of the pattern without its first token, so each rest is
looked at once for each token.
-/

/-- Whether a character is in one of the ranges. -/
def isWithin (c : Char) (ranges : List (Char × Char)) : Bool :=
  ranges.any fun (lo, hi) => lo ≤ c && c ≤ hi

/-- The row of a token for one character that satisfies `p`, before a pattern with the row `row`. -/
def characterRow (p : Char → Bool) : List Char → List Bool → List Bool
  | c :: r, _ :: row => (p c && row.headD false) :: characterRow p r row
  | _, _ => [false]

/-- The row of any run of characters before a pattern with the row `row`. -/
def runRow : List Bool → List Bool
  | [] => []
  | b :: row =>
      let later := runRow row
      (b || later.headD false) :: later

/-- For each rest, whether a pattern with the row `row` stands for what is behind a slash in it, or for its
end. -/
def behindSlashRow : List Char → List Bool → List Bool
  | c :: r, _ :: row =>
      let later := behindSlashRow r row
      ((c == '/' && row.headD false) || later.headD false) :: later
  | _, row => row

/-- The row of a token before a pattern with the row `row`. -/
def Token.row (s : List Char) (row : List Bool) : Token → List Bool
  | .char d => characterRow (· == d) s row
  | .anyChar => characterRow (fun _ => true) s row
  | .within ranges => characterRow (isWithin · ranges) s row
  | .except ranges => characterRow (!isWithin · ranges) s row
  | .anyRun => runRow row
  | .anyComponents => List.zipWith (· || ·) row (behindSlashRow s row)

/-- The row of a pattern. The empty pattern stands for the empty rest only. -/
def Pattern.row (s : List Char) : Pattern → List Bool
  | [] => List.replicate s.length false ++ [true]
  | token :: tokens => token.row s (Pattern.row s tokens)

/-- Whether a pattern stands for a text. -/
def covers (pattern : Pattern) (s : List Char) : Bool := (pattern.row s).headD false

/-- Whether a text is to be read as a pattern, and not as a path. -/
def isPattern (text : String) : Bool := text.toList.any fun c => c == '*' || c == '?'

end MessageExtraction.Glob
