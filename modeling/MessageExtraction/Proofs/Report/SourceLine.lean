import Mathlib.Algebra.GroupWithZero.Nat
import Mathlib.Data.Bool.AllAny
import MessageExtraction.Proofs.Message.Scanner
import MessageExtraction.Proofs.Text.Splitting
import MessageExtraction.SourceFile

/-!
# The line of a node

Locations count lines by three breaks: a line feed, a carriage return, and both together. The line that is
shown for a location is looked up among the lines that end at line feeds. Here a line of a text is said by
rules (`IsLine`), and both ways of counting are compared with it.

* `advance_before`, `advance_unbroken`, `advance_line`: how positions are counted over whole lines, over a
  part of a line, and up to any byte of a line.
* `lines_head_iff`, `lines_getD_count`: the lines that end at line feeds, at the front and behind a part.
* `exists_standsOn`: each node stands on a line.
* `sourceLine_eq_iff`: as long as no carriage return stands alone before a line, the line that is shown is
  this one, unless one ends it.
* `sourceLine_locate_iff`: the right line is shown for every node exactly when no carriage return stands
  alone in the file.
-/

namespace MessageExtraction

open Message (byteLength byteLength_nil byteLength_cons byteLength_append)

namespace Text

/-! ## Lines by all breaks -/

/-- Whether a character breaks a line, alone or with another one. -/
def isBreak (c : Char) : Bool := c == '\n' || c == '\r'

/-- The line break at the front of a text, if there is one. -/
def leadingBreak : List Char → List Char
  | '\r' :: '\n' :: _ => ['\r', '\n']
  | c :: _ => if isBreak c then [c] else []
  | [] => []

/-- Whether a text before `rest` is empty or ends with a line break that does not go on in `rest`. -/
def EndsLine (s rest : List Char) : Prop :=
  s = [] ∨ s.getLast? = some '\n' ∨ (s.getLast? = some '\r' ∧ rest.head? ≠ some '\n')

/-- A line of the text `before ++ line ++ rest`. -/
structure IsLine (before line rest : List Char) : Prop where
  begins : EndsLine before (line ++ rest)
  unbroken : ∀ c ∈ line, isBreak c = false
  ends : rest = [] ∨ leadingBreak rest ≠ []

/-- Whether a carriage return stands in a text without a line feed behind it. -/
def HasLoneReturn (s : List Char) : Prop :=
  ∃ front back, s = front ++ '\r' :: back ∧ back.head? ≠ some '\n'

/-- How many lines a text ends. -/
def breaks : List Char → Nat
  | [] => 0
  | '\r' :: '\n' :: s => breaks s + 1
  | c :: s => if isBreak c then breaks s + 1 else breaks s

variable {s t before line rest : List Char} {c : Char}

theorem eq_of_isBreak (h : isBreak c = true) : c = '\n' ∨ c = '\r' := by
  simpa [isBreak] using h

theorem ne_return_of_not_isBreak (h : isBreak c = false) : c ≠ '\r' := by
  rintro rfl
  contradiction

theorem leadingBreak_cons (apart : c = '\r' → s.head? ≠ some '\n') :
    leadingBreak (c :: s) = if isBreak c then [c] else [] := by
  rw [leadingBreak.eq_def]
  split
  · rename_i eq
    cases eq
    exact absurd rfl (apart rfl)
  · rename_i eq
    cases eq
    rfl
  · contradiction

theorem breaks_cons (apart : c = '\r' → s.head? ≠ some '\n') :
    breaks (c :: s) = if isBreak c then breaks s + 1 else breaks s := by
  rw [breaks.eq_def]
  split
  · contradiction
  · rename_i eq
    cases eq
    exact absurd rfl (apart rfl)
  · rename_i eq
    cases eq
    rfl

theorem leadingBreak_cons_eq_nil_iff : leadingBreak (c :: s) = [] ↔ isBreak c = false := by
  rw [leadingBreak.eq_def]
  split
  · rename_i eq
    cases eq
    simp [isBreak]
  · rename_i eq
    cases eq
    simp
  · contradiction

/-- A text begins with a line feed, with a carriage return, or with both; or it goes on in its line. -/
theorem leadingBreak_cases (s : List Char) :
    (∃ r, s = '\r' :: '\n' :: r ∧ leadingBreak s = ['\r', '\n'])
      ∨ (∃ r, s = '\n' :: r ∧ leadingBreak s = ['\n'])
      ∨ (∃ r, s = '\r' :: r ∧ r.head? ≠ some '\n' ∧ leadingBreak s = ['\r'])
      ∨ leadingBreak s = [] := by
  cases s with
  | nil => exact .inr (.inr (.inr rfl))
  | cons c r =>
    by_cases both : c = '\r' ∧ r.head? = some '\n'
    · obtain ⟨rfl, head⟩ := both
      obtain ⟨r, rfl⟩ := List.head?_eq_some_iff.mp head
      exact .inl ⟨r, rfl, rfl⟩
    · have apart : c = '\r' → r.head? ≠ some '\n' := fun eq head => both ⟨eq, head⟩
      have eq := leadingBreak_cons apart
      cases broken : isBreak c with
      | false => exact .inr (.inr (.inr (by rw [eq, broken]; rfl)))
      | true =>
        rw [broken, if_pos rfl] at eq
        rcases eq_of_isBreak broken with rfl | rfl
        · exact .inr (.inl ⟨r, rfl, eq⟩)
        · exact .inr (.inr (.inl ⟨r, rfl, apart rfl, eq⟩))

theorem EndsLine.tail (h : EndsLine (c :: s) rest) : EndsLine s rest := by
  cases s with
  | nil => exact .inl rfl
  | cons d s =>
    rw [EndsLine, List.getLast?_cons_cons] at h
    exact .inr (h.resolve_left (List.cons_ne_nil c _))

/-- A carriage return and a line feed are not split by the end of whole lines. -/
theorem EndsLine.apart (h : EndsLine (c :: s) t) (other : c = '\r' → s.head? ≠ some '\n') :
    c = '\r' → (s ++ t).head? ≠ some '\n' := by
  cases s with
  | cons d s => exact other
  | nil =>
    rintro rfl
    simpa [EndsLine] using h

theorem EndsLine.append (h : EndsLine s (before ++ t)) (h' : EndsLine before t) :
    EndsLine (s ++ before) t := by
  cases before with
  | nil => simpa using h
  | cons c before =>
    rcases h'.resolve_left (List.cons_ne_nil c before) with feed | ⟨ret, apart⟩
    · exact .inr (.inl (by rw [List.getLast?_append, feed]; rfl))
    · exact .inr (.inr ⟨by rw [List.getLast?_append, ret]; rfl, apart⟩)

/-- The front of a text up to its first line break, and that break. -/
theorem exists_first_line (s : List Char) :
    ∃ line rest, s = line ++ rest ∧ IsLine [] line rest := by
  induction s with
  | nil => exact ⟨[], [], rfl, .inl rfl, by simp, .inl rfl⟩
  | cons c s ih =>
    by_cases broken : leadingBreak (c :: s) = []
    · obtain ⟨line, rest, rfl, isLine⟩ := ih
      refine ⟨c :: line, rest, rfl, .inl rfl, ?_, isLine.ends⟩
      intro d mem
      rcases List.mem_cons.mp mem with rfl | mem
      · exact leadingBreak_cons_eq_nil_iff.mp broken
      · exact isLine.unbroken d mem
    · exact ⟨[], c :: s, rfl, .inl rfl, by simp, .inr broken⟩

/-- What stands behind a line is its break and the text behind that; the break is whole. -/
theorem exists_behind_line (line : List Char) (h : leadingBreak rest ≠ []) :
    ∃ r, rest = leadingBreak rest ++ r ∧ EndsLine (line ++ leadingBreak rest) r := by
  rcases leadingBreak_cases rest with ⟨r, rfl, eq⟩ | ⟨r, rfl, eq⟩ | ⟨r, rfl, apart, eq⟩ | eq
  · exact ⟨r, by rw [eq]; rfl, .inr (.inl (by simp [eq]))⟩
  · exact ⟨r, by rw [eq]; rfl, .inr (.inl (by simp [eq]))⟩
  · exact ⟨r, by rw [eq]; rfl, .inr (.inr ⟨by simp [eq], apart⟩)⟩
  · exact absurd eq h

/-- A line of what stands behind some lines is a line of the whole text. -/
theorem IsLine.behind (whole : EndsLine s (before ++ line ++ rest)) (h : IsLine before line rest) :
    IsLine (s ++ before) line rest :=
  ⟨EndsLine.append (by rwa [← List.append_assoc]) h.begins, h.unbroken, h.ends⟩

/-- Induction over the lines of a text: from what stands behind the first line break to the whole. -/
theorem induction_on_lines {P : List Char → Prop}
    (step : ∀ line rest, IsLine [] line rest →
      (∀ r, rest = leadingBreak rest ++ r → EndsLine (line ++ leadingBreak rest) r →
        leadingBreak rest ≠ [] → P r) → P (line ++ rest))
    (s : List Char) : P s := by
  induction length : s.length using Nat.strongRecOn generalizing s with
  | ind length ih =>
    subst length
    obtain ⟨line, rest, rfl, first⟩ := exists_first_line s
    refine step line rest first fun r eq _ broken => ih r.length ?_ r rfl
    have positive := List.length_pos_iff.mpr broken
    have split := congrArg List.length eq
    rw [List.length_append] at split ⊢
    omega

/-- Each byte of a text belongs to a line, the bytes of a line break to the line before. -/
theorem exists_line_at (s : List Char) (n : Nat) :
    ∃ before line rest, s = before ++ line ++ rest ∧ IsLine before line rest
      ∧ byteLength before ≤ n
      ∧ (rest = [] ∨ n < byteLength (before ++ line ++ leadingBreak rest)) := by
  induction s using induction_on_lines generalizing n with
  | step line rest first ih =>
    by_cases within : rest = [] ∨ n < byteLength (line ++ leadingBreak rest)
    · exact ⟨[], line, rest, rfl, first, Nat.zero_le n, within⟩
    rw [not_or, Nat.not_lt] at within
    have broken : leadingBreak rest ≠ [] := first.ends.resolve_left within.1
    obtain ⟨r, eq, whole⟩ := exists_behind_line line broken
    obtain ⟨before, line', rest', rfl, isLine, begins, within'⟩ :=
      ih r eq whole broken (n - byteLength (line ++ leadingBreak rest))
    refine ⟨line ++ leadingBreak rest ++ before, line', rest', ?_, isLine.behind whole, ?_, ?_⟩
    · exact (congrArg (line ++ ·) eq).trans (by simp only [List.append_assoc])
    · rw [byteLength_append]
      omega
    · refine within'.imp id fun less => ?_
      simp only [byteLength_append] at less within ⊢
      omega

/-! ## Carriage returns that stand alone -/

theorem not_hasLoneReturn_nil : ¬ HasLoneReturn [] := by
  rintro ⟨front, back, eq, -⟩
  simp at eq

theorem hasLoneReturn_cons :
    HasLoneReturn (c :: s) ↔ (c = '\r' ∧ s.head? ≠ some '\n') ∨ HasLoneReturn s := by
  constructor
  · rintro ⟨front, back, eq, apart⟩
    cases front with
    | nil =>
      cases eq
      exact .inl ⟨rfl, apart⟩
    | cons d front =>
      cases eq
      exact .inr ⟨front, back, rfl, apart⟩
  · rintro (⟨rfl, apart⟩ | ⟨front, back, rfl, apart⟩)
    · exact ⟨[], s, rfl, apart⟩
    · exact ⟨c :: front, back, rfl, apart⟩

/-- A carriage return at the end of a whole line stands alone in a longer text too. -/
theorem hasLoneReturn_append (whole : EndsLine s t) :
    HasLoneReturn (s ++ t) ↔ HasLoneReturn s ∨ HasLoneReturn t := by
  induction s with
  | nil => simp [not_hasLoneReturn_nil]
  | cons c s ih =>
    rw [List.cons_append, hasLoneReturn_cons, hasLoneReturn_cons, ih whole.tail, or_assoc]
    cases s with
    | cons d s => rfl
    | nil =>
      -- The last character of the first text: what stands behind it is the second text.
      have apart : (c = '\r' ∧ t.head? ≠ some '\n') ↔ (c = '\r' ∧ ([] : List Char).head? ≠ some '\n') := by
        refine and_congr_right fun eq => ?_
        subst eq
        simpa [EndsLine] using whole
      exact or_congr_left apart

theorem hasLoneReturn_unbroken (unbroken : ∀ c ∈ line, isBreak c = false) :
    HasLoneReturn (line ++ t) ↔ HasLoneReturn t := by
  induction line with
  | nil => rfl
  | cons c line ih =>
    have notReturn := ne_return_of_not_isBreak (unbroken c List.mem_cons_self)
    rw [List.cons_append, hasLoneReturn_cons, ih fun d mem => unbroken d (List.mem_cons_of_mem c mem)]
    simp [notReturn]

/-- A text without carriage returns that stand alone ends its last line whatever stands behind it. -/
theorem EndsLine.of_regular (whole : EndsLine s t) (regular : ¬ HasLoneReturn s) : EndsLine s rest := by
  rcases whole with empty | feed | ⟨ret, -⟩
  · exact .inl empty
  · exact .inr (.inl feed)
  · obtain ⟨front, rfl⟩ := List.getLast?_eq_some_iff.mp ret
    exact absurd ⟨front, [], rfl, by simp⟩ regular

/-- The break behind a line stands alone exactly if it is a carriage return. -/
theorem hasLoneReturn_leadingBreak : HasLoneReturn (leadingBreak rest) ↔ leadingBreak rest = ['\r'] := by
  rcases leadingBreak_cases rest with ⟨r, -, eq⟩ | ⟨r, -, eq⟩ | ⟨r, -, -, eq⟩ | eq <;>
    simp [eq, hasLoneReturn_cons, not_hasLoneReturn_nil]

theorem hasLoneReturn_of_leadingBreak (h : leadingBreak rest = ['\r']) : HasLoneReturn rest := by
  rcases leadingBreak_cases rest with ⟨r, rfl, eq⟩ | ⟨r, rfl, eq⟩ | ⟨r, rfl, apart, -⟩ | eq
  · simp [eq] at h
  · simp [eq] at h
  · exact ⟨[], r, rfl, apart⟩
  · simp [eq] at h

/-- The first carriage return that stands alone ends a line, and the lines before end otherwise. -/
theorem exists_returned_line (h : HasLoneReturn s) :
    ∃ before line rest, s = before ++ line ++ rest ∧ IsLine before line rest
      ∧ ¬ HasLoneReturn before ∧ leadingBreak rest = ['\r'] := by
  induction s using induction_on_lines with
  | step line rest first ih =>
    by_cases returned : leadingBreak rest = ['\r']
    · exact ⟨[], line, rest, rfl, first, not_hasLoneReturn_nil, returned⟩
    have broken : leadingBreak rest ≠ [] := by
      refine first.ends.resolve_left fun empty => not_hasLoneReturn_nil ?_
      rwa [hasLoneReturn_unbroken first.unbroken, empty] at h
    obtain ⟨r, eq, whole⟩ := exists_behind_line line broken
    have regular : ¬ HasLoneReturn (line ++ leadingBreak rest) := by
      rwa [hasLoneReturn_unbroken first.unbroken, hasLoneReturn_leadingBreak]
    have split : line ++ rest = line ++ leadingBreak rest ++ r := by
      rw [List.append_assoc, ← eq]
    rw [split, hasLoneReturn_append whole, or_iff_right regular] at h
    obtain ⟨before, line', rest', rfl, isLine, regular', returned'⟩ := ih r eq whole broken h
    refine ⟨line ++ leadingBreak rest ++ before, line', rest', ?_, isLine.behind whole, ?_, returned'⟩
    · exact split.trans (by simp only [List.append_assoc])
    · rw [hasLoneReturn_append (EndsLine.of_regular whole regular), not_or]
      exact ⟨regular, regular'⟩

theorem breaks_eq_count (h : ¬ HasLoneReturn s) : breaks s = s.count '\n' := by
  induction s using breaks.induct with
  | case1 => rfl
  | case2 s ih =>
    rw [hasLoneReturn_cons, hasLoneReturn_cons, not_or, not_or] at h
    rw [breaks, ih h.2.2]
    simp
  | case3 c s other broken ih =>
    rw [hasLoneReturn_cons, not_or] at h
    have notReturn : c ≠ '\r' := by
      rintro rfl
      refine h.1 ⟨rfl, fun head => ?_⟩
      obtain ⟨r, rfl⟩ := List.head?_eq_some_iff.mp head
      exact other r rfl rfl
    rw [breaks_cons fun eq => absurd eq notReturn, if_pos broken, ih h.2]
    obtain rfl := (eq_of_isBreak broken).resolve_right notReturn
    simp
  | case4 c s other broken ih =>
    rw [hasLoneReturn_cons, not_or] at h
    have notBreak : c ≠ '\n' ∧ c ≠ '\r' := by simpa [isBreak] using broken
    rw [breaks_cons fun eq => absurd eq notBreak.2, if_neg broken, ih h.2,
      List.count_cons_of_ne notBreak.1]

/-! ## Lines by line feeds -/

theorem not_mem_of_unbroken (unbroken : ∀ c ∈ line, isBreak c = false) :
    '\n' ∉ line ∧ '\r' ∉ line :=
  ⟨fun mem => absurd (unbroken _ mem) (by decide), fun mem => absurd (unbroken _ mem) (by decide)⟩

/-- A line is found at the front of a text if no carriage return alone ends it. -/
theorem lines_head_iff (unbroken : ∀ c ∈ line, isBreak c = false)
    (ends : rest = [] ∨ leadingBreak rest ≠ []) :
    (lines (line ++ rest)).getD 0 [] = line ↔ leadingBreak rest ≠ ['\r'] := by
  obtain ⟨feed, ret⟩ := not_mem_of_unbroken unbroken
  rcases leadingBreak_cases rest with ⟨r, rfl, eq⟩ | ⟨r, rfl, eq⟩ | ⟨r, rfl, apart, eq⟩ | eq
  · have ended : line ++ '\r' :: '\n' :: r = (line ++ ['\r']) ++ '\n' :: r := by simp
    rw [ended, lines_head_append (by simpa using feed)]
    simp [eq, dropReturn]
  · have kept : line.getLast? ≠ some '\r' := fun last => ret (List.mem_of_getLast? last)
    rw [lines_head_append feed]
    simp [eq, dropReturn, kept]
  · simp only [eq, ne_eq, not_true_eq_false, iff_false]
    intro found
    have longer : line.length < ((lines (line ++ '\r' :: r)).getD 0 []).length := by
      by_cases mem : '\n' ∈ r
      · obtain ⟨front, back, rfl, before⟩ := List.eq_append_cons_of_mem mem
        have split : line ++ '\r' :: (front ++ '\n' :: back)
            = (line ++ '\r' :: front) ++ '\n' :: back := by simp
        have positive : 0 < front.length := by
          cases front with
          | nil => exact absurd rfl apart
          | cons c front => exact Nat.succ_pos _
        have := length_dropReturn (line ++ '\r' :: front)
        rw [split, lines_head_append (by simp [feed, before])]
        simp only [List.length_append, List.length_cons] at this ⊢
        omega
      · rw [lines_head_of_not_mem (by simp [feed, mem])]
        simp
    rw [found] at longer
    exact absurd longer (Nat.lt_irrefl _)
  · have empty : rest = [] := ends.resolve_right (not_not_intro eq)
    subst empty
    rw [List.append_nil, lines_head_of_not_mem feed]
    simp [eq]

/-- Lines that do not end with a carriage return alone are counted by their line feeds. -/
theorem lines_getD_count (whole : EndsLine before t) (regular : ¬ HasLoneReturn before) :
    (lines (before ++ t)).getD (before.count '\n') [] = (lines t).getD 0 [] := by
  have ended : EndsLine before ['\n'] := whole.of_regular regular
  rcases ended with rfl | feed | ⟨-, apart⟩
  · rfl
  · obtain ⟨front, rfl⟩ := List.getLast?_eq_some_iff.mp feed
    rw [List.append_assoc, List.singleton_append, lines_append, List.getD_eq_getElem?_getD,
      List.getElem?_append_right] <;> simp [length_splitOn]
  · exact absurd rfl apart

end Text

/-! ## Where a node stands -/

namespace SourceFile

open Syntax (Span)
open Text (IsLine EndsLine HasLoneReturn leadingBreak leadingBreak_cases isBreak breaks)

variable {before line rest s t : List Char}

theorem advance_cons {c : Char} (apart : c = '\r' → s.head? ≠ some '\n') (n column k : Nat) :
    advance n column k (c :: s)
      = if k < c.utf8Size then (n, column)
        else if isBreak c then advance (n + 1) 1 (k - c.utf8Size) s
        else advance n (column + columns c) (k - c.utf8Size) s := by
  rw [advance.eq_def]
  split
  · contradiction
  · rename_i eq
    cases eq
    exact absurd rfl (apart rfl)
  · rename_i eq
    cases eq
    simp [isBreak]

theorem advance_cons_of_not_isBreak {c : Char} (h : isBreak c = false) (n column k : Nat) :
    advance n column k (c :: s)
      = if k < c.utf8Size then (n, column)
        else advance n (column + columns c) (k - c.utf8Size) s := by
  rw [advance_cons fun eq => absurd eq (Text.ne_return_of_not_isBreak h), h, if_neg Bool.false_ne_true]

/-- Over whole lines, each line break is counted, and the column begins anew. -/
theorem advance_before (whole : EndsLine before t) (n column k : Nat) :
    advance n column (byteLength before + k) (before ++ t)
      = advance (n + breaks before) (if before = [] then column else 1) k t := by
  induction before using MessageExtraction.Text.breaks.induct generalizing n column with
  | case1 => simp [breaks]
  | case2 s ih =>
    have size : '\r'.utf8Size + ('\n'.utf8Size + byteLength s) + k = byteLength s + k + 2 := by
      have ret : '\r'.utf8Size = 1 := rfl
      have feed : '\n'.utf8Size = 1 := rfl
      omega
    rw [byteLength_cons, byteLength_cons, size, List.cons_append, List.cons_append, advance,
      if_neg (by omega), Nat.add_sub_cancel, ih whole.tail.tail, ite_self, breaks, if_neg (by simp),
      Nat.add_right_comm, Nat.add_assoc]
  | case3 c s other broken ih =>
    have apart : c = '\r' → s.head? ≠ some '\n' := by
      intro ret head
      obtain ⟨r, rfl⟩ := List.head?_eq_some_iff.mp head
      exact other r ret rfl
    rw [byteLength_cons, List.cons_append, advance_cons (whole.apart apart), if_neg (by omega),
      if_pos broken, Nat.add_assoc, Nat.add_sub_cancel_left, ih whole.tail, ite_self,
      Text.breaks_cons apart, if_pos broken, if_neg (List.cons_ne_nil c s), Nat.add_right_comm,
      Nat.add_assoc]
  | case4 c s other broken ih =>
    have apart : c = '\r' → s.head? ≠ some '\n' := by
      rintro rfl
      exact absurd rfl broken
    have more : s ≠ [] := by
      rintro rfl
      simp_all [EndsLine, isBreak]
    rw [byteLength_cons, List.cons_append, advance_cons (whole.apart apart), if_neg (by omega),
      if_neg broken, Nat.add_assoc, Nat.add_sub_cancel_left, ih whole.tail, if_neg more,
      Text.breaks_cons apart, if_neg broken, if_neg (List.cons_ne_nil c s)]

/-- Over a part of a line, the columns of its characters are counted. -/
theorem advance_unbroken (unbroken : ∀ c ∈ line, isBreak c = false) (n column k : Nat) :
    advance n column (byteLength line + k) (line ++ t)
      = advance n (column + (line.map columns).sum) k t := by
  induction line generalizing column with
  | nil => simp
  | cons c line ih =>
    have later (d : Char) (mem : d ∈ line) := unbroken d (List.mem_cons_of_mem c mem)
    rw [byteLength_cons, List.cons_append, advance_cons_of_not_isBreak (unbroken c List.mem_cons_self),
      if_neg (by omega), Nat.add_assoc, Nat.add_sub_cancel_left, ih later, List.map_cons,
      List.sum_cons, Nat.add_assoc]

/-- A line goes on to the end of its line break. -/
theorem advance_line (unbroken : ∀ c ∈ line, isBreak c = false) (n column k : Nat)
    (within : rest = [] ∨ k < byteLength (line ++ leadingBreak rest)) :
    (advance n column k (line ++ rest)).1 = n := by
  induction line generalizing column k with
  | nil =>
    rw [List.nil_append] at within ⊢
    rcases leadingBreak_cases rest with ⟨r, rfl, eq⟩ | ⟨r, rfl, eq⟩ | ⟨r, rfl, apart, eq⟩ | eq
    · have size : byteLength ['\r', '\n'] = 2 := rfl
      have less : k < 2 := by simpa [eq, size] using within
      rw [advance, if_pos less]
    · have less : k < '\n'.utf8Size := by simpa [eq] using within
      rw [advance_cons (by simp), if_pos less]
    · have less : k < '\r'.utf8Size := by simpa [eq] using within
      rw [advance_cons fun _ => apart, if_pos less]
    · obtain rfl : rest = [] := by simpa [eq] using within
      rfl
  | cons c line ih =>
    have later (d : Char) (mem : d ∈ line) := unbroken d (List.mem_cons_of_mem c mem)
    rw [List.cons_append, advance_cons_of_not_isBreak (unbroken c List.mem_cons_self)]
    split
    · rfl
    · refine ih later _ _ (within.imp id fun less => ?_)
      rw [List.cons_append, byteLength_cons] at less
      omega

/-! ### In a file -/

/-- The bytes of a byte order mark at the front of the text. -/
def markLength (file : SourceFile) : Nat :=
  if file.text.toList.head? = some byteOrderMark then byteOrderMark.utf8Size else 0

/-- Where a node begins in the text of its file, in bytes. -/
def position (file : SourceFile) (span : Span) : Nat := file.markLength + (span.lo - 1)

/-- The line of its file that a node begins on. -/
structure StandsOn (file : SourceFile) (span : Span) (before line rest : List Char) : Prop where
  text : file.text.toList = before ++ line ++ rest
  isLine : IsLine before line rest
  begins : byteLength before ≤ file.position span
  within : rest = [] ∨ file.position span < byteLength (before ++ line ++ leadingBreak rest)

variable {file : SourceFile} {span : Span}

/-- Each node stands on a line. -/
theorem exists_standsOn (file : SourceFile) (span : Span) :
    ∃ before line rest, file.StandsOn span before line rest := by
  obtain ⟨before, line, rest, text, isLine, begins, within⟩ :=
    Text.exists_line_at file.text.toList (file.position span)
  exact ⟨before, line, rest, text, isLine, begins, within⟩

/-- A byte order mark takes no column, so it makes no difference whether positions are counted from behind
it or from the front of the text. -/
theorem locate_eq (real : span.isMade = false) :
    file.locate (some span)
      = ⟨file.path, (advance 1 1 (file.position span) file.text.toList).1,
          (advance 1 1 (file.position span) file.text.toList).2⟩ := by
  have counted : advance 1 1 (span.lo - 1) file.characters
      = advance 1 1 (file.position span) file.text.toList := by
    rw [position, markLength, characters]
    cases eq : file.text.toList with
    | nil => rfl
    | cons c s =>
      by_cases mark : c = byteOrderMark
      · subst mark
        have unbroken : ∀ d ∈ [byteOrderMark], isBreak d = false :=
          List.all_iff_forall_prop.mp (by decide)
        have skipped := advance_unbroken (t := s) unbroken 1 1 (span.lo - 1)
        have width : ([byteOrderMark].map columns).sum = 0 := by decide +kernel
        rw [width, List.singleton_append] at skipped
        simpa using skipped.symm
      · simp [mark]
  simp [locate, real, counted]

theorem markLength_le {front : List Char} (text : file.text.toList = front ++ rest)
    (apart : rest.head? ≠ some byteOrderMark) : file.markLength ≤ byteLength front := by
  rw [markLength, text]
  cases front with
  | nil => simp [apart]
  | cons c front =>
    split
    · rename_i head
      obtain rfl : c = byteOrderMark := by simpa using head
      exact Nat.le_add_right _ _
    · exact Nat.zero_le _

/-- Behind a byte order mark, a node can begin at each byte. -/
theorem exists_position {n : Nat} (h : file.markLength ≤ n) :
    ∃ span : Span, span.isMade = false ∧ file.position span = n := by
  refine ⟨⟨n - file.markLength + 1, 0⟩, by simp [Span.isMade, Span.made], ?_⟩
  rw [position, Nat.add_sub_cancel, Nat.add_sub_cancel' h]

/-- The line of a location is that which the node stands on, counted by all breaks. -/
theorem line_locate (real : span.isMade = false) (stands : file.StandsOn span before line rest) :
    (file.locate (some span)).line = breaks before + 1 := by
  obtain ⟨k, eq⟩ := Nat.exists_eq_add_of_le stands.begins
  have within : rest = [] ∨ k < byteLength (line ++ leadingBreak rest) := by
    refine stands.within.imp id fun less => ?_
    rw [eq, List.append_assoc, byteLength_append] at less
    omega
  have whole := stands.isLine.begins
  rw [locate_eq real, stands.text, List.append_assoc, eq, advance_before whole,
    advance_line stands.isLine.unbroken _ _ _ within, Nat.add_comm]

/-- As long as no carriage return stands alone before the line that a node begins on, this line is shown,
unless such a carriage return ends it. -/
theorem sourceLine_eq_iff (real : span.isMade = false) (stands : file.StandsOn span before line rest)
    (regular : ¬ HasLoneReturn before) :
    ((file.locate (some span)).sourceLine file.text).toList = line ↔ leadingBreak rest ≠ ['\r'] := by
  have found : (file.locate (some span)).sourceLine file.text
      = String.ofList ((Text.lines (line ++ rest)).getD 0 []) := by
    unfold Location.sourceLine
    rw [line_locate real stands, stands.text, Text.breaks_eq_count regular, List.append_assoc]
    dsimp only
    rw [Text.lines_getD_count stands.isLine.begins regular]
  rw [found, String.toList_ofList]
  exact Text.lines_head_iff stands.isLine.unbroken stands.isLine.ends

/-- Each node stands on a line, and the line that is shown is this one for all nodes that a file can have
exactly if no carriage return stands alone in the file. -/
theorem sourceLine_locate_iff (file : SourceFile) :
    (∀ span, ∃ before line rest, file.StandsOn span before line rest)
      ∧ ((∀ span before line rest, span.isMade = false → file.StandsOn span before line rest →
            ((file.locate (some span)).sourceLine file.text).toList = line)
          ↔ ¬ HasLoneReturn file.text.toList) := by
  refine ⟨exists_standsOn file, ?_, ?_⟩
  · intro right lone
    obtain ⟨before, line, rest, text, isLine, regular, returned⟩ := Text.exists_returned_line lone
    have mark : file.markLength ≤ byteLength (before ++ line) := by
      refine markLength_le text fun head => ?_
      rcases Text.leadingBreak_cases rest with ⟨r, rfl, eq⟩ | ⟨r, rfl, eq⟩ | ⟨r, rfl, -, eq⟩ | eq
      all_goals simp_all [byteOrderMark]
    -- The place of the carriage return itself is on the line that it ends.
    obtain ⟨span, real, position⟩ := exists_position mark
    have stands : file.StandsOn span before line rest := by
      refine ⟨text, isLine, ?_, .inr ?_⟩
      · rw [position, byteLength_append]
        exact Nat.le_add_right _ _
      · rw [position, returned, byteLength_append (before ++ line)]
        exact Nat.lt_add_of_pos_right (by decide)
    exact (sourceLine_eq_iff real stands regular).mp (right span before line rest real stands) returned
  · intro regular span before line rest real stands
    have whole := stands.isLine.begins
    rw [stands.text, List.append_assoc, Text.hasLoneReturn_append whole,
      Text.hasLoneReturn_unbroken stands.isLine.unbroken, not_or] at regular
    refine (sourceLine_eq_iff real stands regular.1).mpr fun returned => ?_
    exact regular.2 (Text.hasLoneReturn_of_leadingBreak returned)

/-- A file whose two lines are parted by a carriage return. -/
def returnedFile : SourceFile :=
  ⟨"src/a.ts", "import { translate } from \"react-intl\";\rtranslate(x);"⟩

/-- The call on the second line of `returnedFile` is shown with an empty line. -/
theorem sourceLine_returnedFile :
    returnedFile.StandsOn ⟨41, 53⟩ "import { translate } from \"react-intl\";\r".toList
        "translate(x);".toList []
      ∧ ((returnedFile.locate (some ⟨41, 53⟩)).sourceLine returnedFile.text).toList
        ≠ "translate(x);".toList := by
  have unbroken : ∀ c ∈ "translate(x);".toList, isBreak c = false :=
    List.all_iff_forall_prop.mp (by decide)
  refine ⟨⟨by decide, ⟨.inr (.inr (by decide)), unbroken, .inl rfl⟩, by decide, .inl rfl⟩, ?_⟩
  decide +kernel

end SourceFile

end MessageExtraction
