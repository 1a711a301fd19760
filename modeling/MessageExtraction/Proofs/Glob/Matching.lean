import MessageExtraction.Glob.Pattern

/-!
# What patterns stand for

The texts that a pattern stands for are given by rules, one token after the other. Matching goes by rows of
truth values, of which each says for one token on which of all rests the pattern from there on stands.

* `Fits`: the rules.
* `IsRow`: what a row says.
* `isRow_row`: the row of a pattern says for each rest whether the pattern stands for it by the rules.
* `covers_iff`: so a text is matched exactly if the pattern stands for it.
-/

namespace MessageExtraction.Glob

/-! ## Rules -/

/-- Whether a token stands for one character. -/
def Token.StandsFor (c : Char) : Token → Prop
  | .char d => c = d
  | .anyChar => True
  | .within ranges => ∃ range ∈ ranges, range.1 ≤ c ∧ c ≤ range.2
  | .except ranges => ∀ range ∈ ranges, ¬(range.1 ≤ c ∧ c ≤ range.2)
  | .anyRun => False
  | .anyComponents => False

/-- Whether a pattern stands for a text. A run of whole components ends behind a slash, unless it is empty or
the text ends with it. -/
inductive Fits : Pattern → List Char → Prop
  | done : Fits [] []
  | character {token : Token} {tokens : Pattern} {c : Char} {s : List Char} :
      token.StandsFor c → Fits tokens s → Fits (token :: tokens) (c :: s)
  | run {tokens : Pattern} {s : List Char} (run : List Char) :
      Fits tokens s → Fits (.anyRun :: tokens) (run ++ s)
  | noComponents {tokens : Pattern} {s : List Char} :
      Fits tokens s → Fits (.anyComponents :: tokens) s
  | components {tokens : Pattern} {s : List Char} (front : List Char) :
      Fits tokens s → Fits (.anyComponents :: tokens) (front ++ '/' :: s)
  | allComponents {tokens : Pattern} (s : List Char) :
      Fits tokens [] → Fits (.anyComponents :: tokens) s

variable {token : Token} {tokens pattern : Pattern} {s : List Char}

theorem fits_nil_iff : Fits [] s ↔ s = [] := by
  constructor
  · rintro ⟨⟩
    rfl
  · rintro rfl
    exact .done

theorem fits_character_iff (single : token ≠ .anyRun) (single' : token ≠ .anyComponents) :
    Fits (token :: tokens) s ↔ ∃ c r, s = c :: r ∧ token.StandsFor c ∧ Fits tokens r := by
  constructor
  · intro fits
    cases fits with
    | character stands fits => exact ⟨_, _, rfl, stands, fits⟩
    | run => contradiction
    | noComponents => contradiction
    | components => contradiction
    | allComponents => contradiction
  · rintro ⟨c, r, rfl, stands, fits⟩
    exact .character stands fits

theorem fits_run_iff : Fits (.anyRun :: tokens) s ↔ ∃ r, r <:+ s ∧ Fits tokens r := by
  constructor
  · intro fits
    cases fits with
    | character stands => exact stands.elim
    | run run fits => exact ⟨_, List.suffix_append _ _, fits⟩
  · rintro ⟨r, ⟨run, rfl⟩, fits⟩
    exact .run run fits

theorem fits_components_iff :
    Fits (.anyComponents :: tokens) s
      ↔ Fits tokens s ∨ Fits tokens [] ∨ ∃ front r, s = front ++ '/' :: r ∧ Fits tokens r := by
  constructor
  · intro fits
    cases fits with
    | character stands => exact stands.elim
    | noComponents fits => exact .inl fits
    | components front fits => exact .inr (.inr ⟨front, _, rfl, fits⟩)
    | allComponents s fits => exact .inr (.inl fits)
  · rintro (fits | fits | ⟨front, r, rfl, fits⟩)
    · exact .noComponents fits
    · exact .allComponents s fits
    · exact .components front fits

/-! ## Rows -/

/-- Whether a row says for each rest of a text, the whole text first, if it has a property. -/
inductive IsRow (P : List Char → Prop) : List Char → List Bool → Prop
  | nil {b : Bool} : (b = true ↔ P []) → IsRow P [] [b]
  | cons {c : Char} {s : List Char} {b : Bool} {row : List Bool} :
      (b = true ↔ P (c :: s)) → IsRow P s row → IsRow P (c :: s) (b :: row)

variable {P Q : List Char → Prop} {row row' : List Bool}

theorem IsRow.congr (h : IsRow P s row) (same : ∀ r, P r ↔ Q r) : IsRow Q s row := by
  induction h with
  | nil here => exact .nil (here.trans (same _))
  | cons here _ ih => exact .cons (here.trans (same _)) ih

/-- A row starts with what it says of the whole text. -/
theorem IsRow.headD (h : IsRow P s row) : row.headD false = true ↔ P s := by
  cases h with
  | nil here => exact here
  | cons here _ => exact here

theorem isRow_nil (s : List Char) : IsRow (· = []) s (List.replicate s.length false ++ [true]) := by
  induction s with
  | nil => exact .nil (by simp)
  | cons c s ih => exact .cons (by simp) ih

theorem isRow_characterRow {p : Char → Bool} {q : Char → Prop} (h : IsRow P s row)
    (same : ∀ c, p c = true ↔ q c) :
    IsRow (fun r => ∃ c t, r = c :: t ∧ q c ∧ P t) s (characterRow p s row) := by
  induction h with
  | nil => exact .nil (by simp)
  | @cons c s b row here later ih =>
    refine .cons ?_ ih
    rw [Bool.and_eq_true, same, later.headD]
    constructor
    · rintro ⟨stands, behind⟩
      exact ⟨c, s, rfl, stands, behind⟩
    · rintro ⟨d, t, eq, stands, behind⟩
      cases eq
      exact ⟨stands, behind⟩

theorem isRow_runRow (h : IsRow P s row) : IsRow (fun r => ∃ t, t <:+ r ∧ P t) s (runRow row) := by
  induction h with
  | nil here => exact .nil (by simpa [runRow] using here)
  | @cons c s b row here later ih =>
    refine .cons ?_ ih
    rw [Bool.or_eq_true, here, ih.headD]
    constructor
    · rintro (fits | ⟨t, suffix, below⟩)
      · exact ⟨_, List.suffix_rfl, fits⟩
      · exact ⟨t, suffix.trans (List.suffix_cons c s), below⟩
    · rintro ⟨t, suffix, below⟩
      rcases List.suffix_cons_iff.mp suffix with rfl | suffix
      · exact .inl below
      · exact .inr ⟨t, suffix, below⟩

theorem isRow_behindSlashRow (h : IsRow P s row) :
    IsRow (fun r => P [] ∨ ∃ front t, r = front ++ '/' :: t ∧ P t) s (behindSlashRow s row) := by
  induction h with
  | nil here => exact .nil (by simpa [behindSlashRow] using here)
  | @cons c s b row here later ih =>
    refine .cons ?_ ih
    rw [Bool.or_eq_true, Bool.and_eq_true, beq_iff_eq, later.headD, ih.headD]
    constructor
    · rintro (⟨rfl, below⟩ | last | ⟨front, t, rfl, below⟩)
      · exact .inr ⟨[], s, rfl, below⟩
      · exact .inl last
      · exact .inr ⟨c :: front, t, rfl, below⟩
    · rintro (last | ⟨front, t, eq, below⟩)
      · exact .inr (.inl last)
      · cases front with
        | nil =>
          cases eq
          exact .inl ⟨rfl, below⟩
        | cons d front =>
          cases eq
          exact .inr (.inr ⟨front, t, rfl, below⟩)

theorem isRow_zipWith (h : IsRow P s row) (h' : IsRow Q s row') :
    IsRow (fun r => P r ∨ Q r) s (List.zipWith (· || ·) row row') := by
  induction h generalizing row' with
  | nil here =>
    obtain ⟨here'⟩ := h'
    exact .nil (by rw [Bool.or_eq_true, here, here'])
  | cons here _ ih =>
    obtain ⟨⟩ | ⟨here', later'⟩ := h'
    exact .cons (by rw [Bool.or_eq_true, here, here']) (ih later')

/-! ## Matching -/

theorem isWithin_iff {c : Char} {ranges : List (Char × Char)} :
    isWithin c ranges = true ↔ ∃ range ∈ ranges, range.1 ≤ c ∧ c ≤ range.2 := by
  simp [isWithin, List.any_eq_true]

/-- The row of a token comes from that of the tokens behind it. -/
theorem isRow_token (h : IsRow (Fits tokens) s row) :
    IsRow (Fits (token :: tokens)) s (token.row s row) := by
  have characters {p : Char → Bool} (single : token ≠ .anyRun) (single' : token ≠ .anyComponents)
      (same : ∀ c, p c = true ↔ token.StandsFor c) :
      IsRow (Fits (token :: tokens)) s (characterRow p s row) :=
    (isRow_characterRow h same).congr fun _ => (fits_character_iff single single').symm
  cases token with
  | char d => exact characters nofun nofun fun c => beq_iff_eq
  | anyChar => exact characters nofun nofun fun c => by simp [Token.StandsFor]
  | within ranges => exact characters nofun nofun fun c => isWithin_iff
  | except ranges =>
    refine characters nofun nofun fun c => ?_
    rw [Bool.not_eq_true', ← Bool.not_eq_true, isWithin_iff]
    simp [Token.StandsFor]
  | anyRun => exact (isRow_runRow h).congr fun _ => fits_run_iff.symm
  | anyComponents =>
    exact (isRow_zipWith h (isRow_behindSlashRow h)).congr fun _ => fits_components_iff.symm

/-- The row of a pattern says for each rest of a text whether the pattern stands for it. -/
theorem isRow_row (pattern : Pattern) (s : List Char) : IsRow (Fits pattern) s (pattern.row s) := by
  induction pattern with
  | nil => exact (isRow_nil s).congr fun _ => fits_nil_iff.symm
  | cons token tokens ih => exact isRow_token ih

/-- A text is matched exactly if the pattern stands for it. -/
theorem covers_iff : covers pattern s = true ↔ Fits pattern s := (isRow_row pattern s).headD

end MessageExtraction.Glob
