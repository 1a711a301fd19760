import MessageExtraction.Message.Printer

/-!
# Reading written literals

`quoteLiteral` quotes the special characters of a literal one at a time; `literal` reads quoted runs.
The two are not inverse to each other: between two quoted characters the closing apostrophe of the one
and the opening apostrophe of the other are read as an apostrophe of the text.

* What is read back is characterized for every literal and everything that can stand behind it
  (`literal_quote_iff`): each special character is followed by an ordinary one or by nothing but
  apostrophes (`separated`), or the literal ends the message and a run that is left open ends with it
  (`runsOn`).
* Different literals are written differently (`quoteLiteral_inj`), so nothing is lost by writing: it is
  the reader that takes the text for another.
-/

namespace MessageExtraction.Message

/-! ## Which literals are read back -/

/-- A character that stands for itself wherever it is written. -/
def isOrdinary (inPlural : Bool) (c : Char) : Bool := c != '\'' && !isSpecial inPlural c

/-- Whether the quotes of a special character before `r` close where they should: nothing but
apostrophes is left, or an ordinary character comes next. -/
def setOff (inPlural : Bool) (r : List Char) : Bool :=
  r.all (· == '\'') || r.head?.any (isOrdinary inPlural)

/-- Every special character is set off from what follows it. -/
def separated (inPlural : Bool) : List Char → Bool
  | [] => true
  | c :: r => (!isSpecial inPlural c || setOff inPlural r) && separated inPlural r

/-- Ordinary text with no apostrophes but at its end. -/
def isPlainTail (inPlural : Bool) (r : List Char) : Bool :=
  (r.dropWhile (isOrdinary inPlural)).all (· == '\'')

/-- Apostrophes and a plain tail behind them: the quotes of a special character before `r` do not close,
and there is nothing left that would need them closed. -/
def staysOpen (inPlural : Bool) (r : List Char) : Bool :=
  let text := r.dropWhile (· == '\'')
  r.head? == some '\'' && !text.isEmpty && isPlainTail inPlural text

/-- One special character stays open to the end, and those before it are set off. -/
def runsOn (inPlural : Bool) : List Char → Bool
  | [] => false
  | c :: r =>
      if isSpecial inPlural c then staysOpen inPlural r || (setOff inPlural r && runsOn inPlural r)
      else runsOn inPlural r

/-- Whether a literal is read as it was written; `last` says that nothing stands behind it. -/
def readsBackLiteral (inPlural last : Bool) (t : List Char) : Bool :=
  separated inPlural t || (last && runsOn inPlural t)

/-- Where literal text stops: the end of the message or a special character. -/
def IsBoundary (inPlural : Bool) (q : List Char) : Prop :=
  ∀ c ∈ q.head?, isSpecial inPlural c = true

variable {inPlural : Bool}

/-! ## Characters -/

theorem isSpecial_apostrophe : isSpecial inPlural '\'' = false := by
  simp [isSpecial]

theorem isSpecial_ne_apostrophe {c : Char} (h : isSpecial inPlural c = true) : c ≠ '\'' := by
  rintro rfl
  exact Bool.false_ne_true (isSpecial_apostrophe.symm.trans h)

theorem special_cases {c : Char} (h : isSpecial inPlural c = true) :
    c = '{' ∨ c = '}' ∨ c = '#' ∧ inPlural = true := by
  simp only [isSpecial] at h
  grind

theorem char_cases (inPlural : Bool) (c : Char) :
    c = '\'' ∨ isSpecial inPlural c = true ∨ isOrdinary inPlural c = true := by
  unfold isOrdinary
  grind

theorem not_special_of_ordinary {c : Char} (h : isOrdinary inPlural c = true) :
    isSpecial inPlural c = false := by
  unfold isOrdinary at h; grind

theorem ne_apostrophe_of_ordinary {c : Char} (h : isOrdinary inPlural c = true) : c ≠ '\'' := by
  unfold isOrdinary at h; grind

theorem isOrdinary_apostrophe : isOrdinary inPlural '\'' = false := by
  simp [isOrdinary]

theorem isOrdinary_of_special {c : Char} (h : isSpecial inPlural c = true) :
    isOrdinary inPlural c = false := by
  simp [isOrdinary, h]

/-- The text behind an apostrophe, by how the apostrophe is written. -/
theorem head_cases (inPlural : Bool) (r : List Char) :
    r.head?.any (isOrdinary inPlural) = false
      ∨ ∃ c t, r = c :: t ∧ isOrdinary inPlural c = true := by
  cases r with
  | nil => exact .inl rfl
  | cons c t =>
    cases h : isOrdinary inPlural c with
    | false => exact .inl (by simpa using h)
    | true => exact .inr ⟨c, t, rfl, h⟩

/-- Nothing but apostrophes starts with no ordinary character. -/
theorem head_of_apostrophes {t : List Char} (h : t.all (· == '\'') = true) :
    t.head?.any (isOrdinary inPlural) = false := by
  cases t with
  | nil => rfl
  | cons d t =>
    obtain rfl : d = '\'' := by simp_all
    simp [isOrdinary_apostrophe]

theorem isBoundary_nil : IsBoundary inPlural [] := by
  simp [IsBoundary]

theorem IsBoundary.head_ne {q : List Char} (h : IsBoundary inPlural q) : q.head? ≠ some '\'' := by
  intro eq
  exact isSpecial_ne_apostrophe (h '\'' eq) rfl

/-! ## One step of the reader -/

theorem literal_special {c : Char} (h : isSpecial inPlural c = true) (r : List Char) :
    literal inPlural false (c :: r) = ([], c :: r) := by
  have := isSpecial_ne_apostrophe h
  rw [literal.eq_def]
  grind

theorem literal_boundary {q : List Char} (h : IsBoundary inPlural q) :
    literal inPlural false q = ([], q) := by
  cases q with
  | nil => rfl
  | cons c r => exact literal_special (h c rfl) r

theorem literal_ordinary {c : Char} (h : isOrdinary inPlural c = true) (r : List Char) :
    literal inPlural false (c :: r)
      = (c :: (literal inPlural false r).1, (literal inPlural false r).2) := by
  have := not_special_of_ordinary h
  have := ne_apostrophe_of_ordinary h
  rw [literal.eq_def]
  grind

theorem literal_doubled (quoted : Bool) (r : List Char) :
    literal inPlural quoted ('\'' :: '\'' :: r)
      = ('\'' :: (literal inPlural quoted r).1, (literal inPlural quoted r).2) := by
  rw [literal]

theorem literal_single {c : Char} (h : isOrdinary inPlural c = true) (r : List Char) :
    literal inPlural false ('\'' :: c :: r)
      = ('\'' :: (literal inPlural false (c :: r)).1, (literal inPlural false (c :: r)).2) := by
  have := not_special_of_ordinary h
  have := ne_apostrophe_of_ordinary h
  rw [literal.eq_def]
  grind

theorem literal_open {c : Char} (h : isSpecial inPlural c = true) (r : List Char) :
    literal inPlural false ('\'' :: c :: r)
      = (c :: (literal inPlural true r).1, (literal inPlural true r).2) := by
  have := isSpecial_ne_apostrophe h
  rw [literal.eq_def]
  grind

theorem literal_inside {c : Char} (h : c ≠ '\'') (r : List Char) :
    literal inPlural true (c :: r)
      = (c :: (literal inPlural true r).1, (literal inPlural true r).2) := by
  rw [literal.eq_def]
  grind

theorem literal_close {r : List Char} (h : r.head? ≠ some '\'') :
    literal inPlural true ('\'' :: r) = literal inPlural false r := by
  rw [literal.eq_def]
  cases r <;> grind

/-! ## One step of the printer -/

theorem quoteLiteral_special {c : Char} (h : isSpecial inPlural c = true) (r : List Char) :
    quoteLiteral inPlural (c :: r) = '\'' :: c :: '\'' :: quoteLiteral inPlural r := by
  have := isSpecial_ne_apostrophe h
  rw [quoteLiteral.eq_def]
  grind

theorem quoteLiteral_ordinary {c : Char} (h : isOrdinary inPlural c = true) (r : List Char) :
    quoteLiteral inPlural (c :: r) = c :: quoteLiteral inPlural r := by
  have := not_special_of_ordinary h
  have := ne_apostrophe_of_ordinary h
  rw [quoteLiteral.eq_def]
  grind

/-- An apostrophe before ordinary text is written once. -/
theorem quoteLiteral_single {c : Char} (h : isOrdinary inPlural c = true) (r : List Char) :
    quoteLiteral inPlural ('\'' :: c :: r) = '\'' :: c :: quoteLiteral inPlural r := by
  have := not_special_of_ordinary h
  have := ne_apostrophe_of_ordinary h
  rw [quoteLiteral, quoteLiteral_ordinary h]
  grind

/-- Any other apostrophe is written twice. -/
theorem quoteLiteral_doubled {r : List Char} (h : r.head?.any (isOrdinary inPlural) = false) :
    quoteLiteral inPlural ('\'' :: r) = '\'' :: '\'' :: quoteLiteral inPlural r := by
  cases r with
  | nil => simp [quoteLiteral]
  | cons c r =>
    rw [quoteLiteral]
    have := char_cases inPlural c
    grind

/-! ## Reading what was written

The cases follow the place at which reading resumes: outside of quotes, inside a run that goes on, and
behind a special character, where the apostrophe of its own quotes comes next. -/

theorem isPlainTail_ordinary {c : Char} (h : isOrdinary inPlural c = true) (r : List Char) :
    isPlainTail inPlural (c :: r) = isPlainTail inPlural r := by
  simp [isPlainTail, h]

/-- Behind the first character that is not ordinary a plain tail holds only apostrophes. -/
theorem isPlainTail_of_head {r : List Char} (h : r.head?.any (isOrdinary inPlural) = false) :
    isPlainTail inPlural r = r.all (· == '\'') := by
  cases r with
  | nil => rfl
  | cons c r =>
    have hc : isOrdinary inPlural c = false := by simpa using h
    rw [isPlainTail, List.dropWhile_cons, hc, if_neg Bool.false_ne_true]

/-! ### Outside of quoted runs -/

theorem literal_quote_apostrophe (r q : List Char) :
    literal inPlural false (quoteLiteral inPlural ('\'' :: r) ++ q)
      = ('\'' :: (literal inPlural false (quoteLiteral inPlural r ++ q)).1,
          (literal inPlural false (quoteLiteral inPlural r ++ q)).2) := by
  rcases head_cases inPlural r with h | ⟨c, t, rfl, hc⟩
  · rw [quoteLiteral_doubled h]
    exact literal_doubled false _
  · rw [quoteLiteral_single hc, quoteLiteral_ordinary hc]
    exact literal_single hc _

theorem literal_quote_ordinary {c : Char} (h : isOrdinary inPlural c = true) (r q : List Char) :
    literal inPlural false (quoteLiteral inPlural (c :: r) ++ q)
      = (c :: (literal inPlural false (quoteLiteral inPlural r ++ q)).1,
          (literal inPlural false (quoteLiteral inPlural r ++ q)).2) := by
  rw [quoteLiteral_ordinary h]
  exact literal_ordinary h _

theorem literal_quote_special {c : Char} (h : isSpecial inPlural c = true) (r q : List Char) :
    literal inPlural false (quoteLiteral inPlural (c :: r) ++ q)
      = (c :: (literal inPlural true ('\'' :: (quoteLiteral inPlural r ++ q))).1,
          (literal inPlural true ('\'' :: (quoteLiteral inPlural r ++ q))).2) := by
  rw [quoteLiteral_special h]
  exact literal_open h _

/-! ### In a quoted run that goes on -/

theorem literal_open_plainTail {t : List Char} (h : isPlainTail inPlural t = true) :
    literal inPlural true (quoteLiteral inPlural t) = (t, []) := by
  induction t with
  | nil => rfl
  | cons c t ih =>
    rcases char_cases inPlural c with rfl | hc | hc
    · rw [isPlainTail_of_head (by simp [isOrdinary_apostrophe])] at h
      have ht : t.all (· == '\'') = true := by simpa using h
      have head : t.head?.any (isOrdinary inPlural) = false := head_of_apostrophes ht
      rw [quoteLiteral_doubled head, literal_doubled, ih (by rw [isPlainTail_of_head head, ht])]
    · rw [isPlainTail_of_head (by simp [isOrdinary_of_special hc])] at h
      have := isSpecial_ne_apostrophe hc
      simp [this] at h
    · rw [isPlainTail_ordinary hc] at h
      rw [quoteLiteral_ordinary hc, literal_inside (ne_apostrophe_of_ordinary hc), ih h]

theorem plainTail_of_literal_open {q : List Char} (hq : IsBoundary inPlural q) {t : List Char}
    (h : (literal inPlural true (quoteLiteral inPlural t ++ q)).1 = t) :
    q = [] ∧ isPlainTail inPlural t = true := by
  induction t with
  | nil =>
    cases q with
    | nil => exact ⟨rfl, rfl⟩
    | cons d q =>
      have hd : d ≠ '\'' := isSpecial_ne_apostrophe (hq d rfl)
      simp [quoteLiteral, literal_inside hd] at h
  | cons c t ih =>
    rcases char_cases inPlural c with rfl | hc | hc
    · rcases head_cases inPlural t with head | ⟨d, t, rfl, hd⟩
      · rw [quoteLiteral_doubled head, List.cons_append, List.cons_append, literal_doubled] at h
        obtain ⟨rfl, tail⟩ := ih (List.cons.inj h).2
        rw [isPlainTail_of_head head] at tail
        refine ⟨rfl, ?_⟩
        rw [isPlainTail_of_head (by simp [isOrdinary_apostrophe])]
        simpa using tail
      · -- the apostrophe closes the run
        have hd' := ne_apostrophe_of_ordinary hd
        rw [quoteLiteral_single hd, List.cons_append, List.cons_append,
          literal_close (by simpa using hd'), literal_ordinary hd] at h
        exact absurd (List.cons.inj h).1 hd'
    · -- the apostrophe before the special character closes the run
      have hc' := isSpecial_ne_apostrophe hc
      rw [quoteLiteral_special hc, List.cons_append, List.cons_append,
        literal_close (by simpa using hc'), literal_special hc] at h
      exact absurd h (List.cons_ne_nil c t).symm
    · rw [quoteLiteral_ordinary hc, List.cons_append,
        literal_inside (ne_apostrophe_of_ordinary hc)] at h
      rw [isPlainTail_ordinary hc]
      exact ih (List.cons.inj h).2

/-! ### Behind a special character, before the apostrophe that closes its quotes -/

theorem literal_closing_apostrophes {q : List Char} (hq : IsBoundary inPlural q) {t : List Char}
    (h : t.all (· == '\'') = true) :
    literal inPlural true ('\'' :: (quoteLiteral inPlural t ++ q)) = (t, q) := by
  induction t with
  | nil => rw [quoteLiteral, List.nil_append, literal_close hq.head_ne, literal_boundary hq]
  | cons c t ih =>
    obtain ⟨rfl, ht⟩ : c = '\'' ∧ t.all (· == '\'') = true := by simpa using h
    rw [quoteLiteral_doubled (head_of_apostrophes ht), List.cons_append, List.cons_append,
      literal_doubled, ih ht]

theorem staysOpen_single {c : Char} (h : isOrdinary inPlural c = true) (r : List Char) :
    staysOpen inPlural ('\'' :: c :: r) = isPlainTail inPlural (c :: r) := by
  have := ne_apostrophe_of_ordinary h
  simp [staysOpen, this]

theorem staysOpen_doubled {r : List Char} (h : r.head?.any (isOrdinary inPlural) = false) :
    staysOpen inPlural ('\'' :: r) = staysOpen inPlural r := by
  cases r with
  | nil => rfl
  | cons c r =>
    rcases char_cases inPlural c with rfl | hc | hc
    · simp [staysOpen]
    · have hc' := isSpecial_ne_apostrophe hc
      simp [staysOpen, hc', isPlainTail_of_head h]
    · simp [hc] at h

theorem literal_closing_staysOpen {t : List Char} (h : staysOpen inPlural t = true) :
    literal inPlural true ('\'' :: quoteLiteral inPlural t) = (t, []) := by
  induction t with
  | nil => simp [staysOpen] at h
  | cons c t ih =>
    obtain rfl : c = '\'' := by
      simp only [staysOpen, List.head?_cons, Bool.and_eq_true, beq_iff_eq] at h
      exact Option.some.inj h.1.1
    rcases head_cases inPlural t with head | ⟨d, t, rfl, hd⟩
    · rw [staysOpen_doubled head] at h
      rw [quoteLiteral_doubled head, literal_doubled, ih h]
    · rw [staysOpen_single hd] at h
      have tail := literal_open_plainTail h
      rw [quoteLiteral_ordinary hd] at tail
      rw [quoteLiteral_single hd, literal_doubled, tail]

/-- Behind a special character and before an ordinary one reading is where it should be again. -/
theorem literal_closing_ordinary {c : Char} (h : isOrdinary inPlural c = true) (r q : List Char) :
    literal inPlural true ('\'' :: (quoteLiteral inPlural (c :: r) ++ q))
      = literal inPlural false (quoteLiteral inPlural (c :: r) ++ q) := by
  have := ne_apostrophe_of_ordinary h
  rw [quoteLiteral_ordinary h, List.cons_append, literal_close (by simpa using this)]

theorem of_literal_closing {q : List Char} (hq : IsBoundary inPlural q) {t : List Char}
    (head : t.head?.any (isOrdinary inPlural) = false)
    (h : (literal inPlural true ('\'' :: (quoteLiteral inPlural t ++ q))).1 = t) :
    t.all (· == '\'') = true ∨ q = [] ∧ staysOpen inPlural t = true := by
  induction t with
  | nil => exact .inl rfl
  | cons c t ih =>
    rcases char_cases inPlural c with rfl | hc | hc
    · rcases head_cases inPlural t with head' | ⟨d, t, rfl, hd⟩
      · rw [quoteLiteral_doubled head', List.cons_append, List.cons_append,
          literal_doubled] at h
        rw [staysOpen_doubled head']
        simpa using ih head' (List.cons.inj h).2
      · rw [quoteLiteral_single hd, List.cons_append, literal_doubled] at h
        rw [← quoteLiteral_ordinary hd] at h
        obtain ⟨rfl, tail⟩ := plainTail_of_literal_open hq (List.cons.inj h).2
        exact .inr ⟨rfl, by rw [staysOpen_single hd, tail]⟩
    · -- the two apostrophes in front of the special character are read as one
      rw [quoteLiteral_special hc, List.cons_append, literal_doubled] at h
      exact absurd (List.cons.inj h).1.symm (isSpecial_ne_apostrophe hc)
    · simp [hc] at head

/-! ### From the start of a literal -/

theorem separated_of_apostrophes {t : List Char} (h : t.all (· == '\'') = true) :
    separated inPlural t = true := by
  induction t with
  | nil => rfl
  | cons c t ih =>
    obtain ⟨rfl, ht⟩ : c = '\'' ∧ t.all (· == '\'') = true := by simpa using h
    simp [separated, isSpecial, ih ht]

/-- Separated text is read as it was written, whatever special character or end follows. -/
theorem literal_quote_of_separated {q : List Char} (hq : IsBoundary inPlural q) {t : List Char}
    (h : separated inPlural t = true) :
    literal inPlural false (quoteLiteral inPlural t ++ q) = (t, q) := by
  induction t with
  | nil => exact literal_boundary hq
  | cons c t ih =>
    obtain ⟨off, rest⟩ : (isSpecial inPlural c = true → setOff inPlural t = true)
        ∧ separated inPlural t = true := by
      simp only [separated, Bool.and_eq_true] at h
      exact ⟨fun hc => by simpa [hc] using h.1, h.2⟩
    rcases char_cases inPlural c with rfl | hc | hc
    · rw [literal_quote_apostrophe, ih rest]
    · rw [literal_quote_special hc]
      rcases head_cases inPlural t with head | ⟨d, t, rfl, hd⟩
      · have all : t.all (· == '\'') = true := by simpa [setOff, head] using off hc
        rw [literal_closing_apostrophes hq all]
      · rw [literal_closing_ordinary hd, ih rest]
    · rw [literal_quote_ordinary hc, ih rest]

/-- At the end of a message text whose last run stays open is read as it was written. -/
theorem literal_quote_of_runsOn {t : List Char} (h : runsOn inPlural t = true) :
    literal inPlural false (quoteLiteral inPlural t ++ []) = (t, []) := by
  induction t with
  | nil => simp [runsOn] at h
  | cons c t ih =>
    rw [runsOn] at h
    rcases char_cases inPlural c with rfl | hc | hc
    · rw [literal_quote_apostrophe, ih (by simpa [isSpecial] using h)]
    · rw [literal_quote_special hc]
      simp only [hc, if_true, Bool.or_eq_true, Bool.and_eq_true] at h
      rcases h with h | ⟨off, rest⟩
      · rw [List.append_nil, literal_closing_staysOpen h]
      · rcases head_cases inPlural t with head | ⟨d, t, rfl, hd⟩
        · have all : t.all (· == '\'') = true := by simpa [setOff, head] using off
          rw [literal_closing_apostrophes isBoundary_nil all]
        · rw [literal_closing_ordinary hd, ih rest]
    · rw [literal_quote_ordinary hc, ih (by simpa [not_special_of_ordinary hc] using h)]

theorem of_literal_quote {q : List Char} (hq : IsBoundary inPlural q) {t : List Char}
    (h : (literal inPlural false (quoteLiteral inPlural t ++ q)).1 = t) :
    separated inPlural t = true ∨ q = [] ∧ runsOn inPlural t = true := by
  induction t with
  | nil => exact .inl rfl
  | cons c t ih =>
    rcases char_cases inPlural c with rfl | hc | hc
    · rw [literal_quote_apostrophe] at h
      simpa [separated, runsOn, isSpecial] using ih (List.cons.inj h).2
    · rw [literal_quote_special hc] at h
      rcases head_cases inPlural t with head | ⟨d, t, rfl, hd⟩
      · rcases of_literal_closing hq head (List.cons.inj h).2 with all | ⟨rfl, op⟩
        · left
          simp [separated, hc, setOff, all, separated_of_apostrophes all]
        · exact .inr ⟨rfl, by simp [runsOn, hc, op]⟩
      · rw [literal_closing_ordinary hd] at h
        have off : setOff inPlural (d :: t) = true := by simp [setOff, hd]
        rcases ih (List.cons.inj h).2 with sep | ⟨rfl, run⟩
        · exact .inl (by rw [separated, off, sep]; simp)
        · exact .inr ⟨rfl, by rw [runsOn, off, run]; simp [hc]⟩
    · rw [literal_quote_ordinary hc] at h
      simpa [separated, runsOn, not_special_of_ordinary hc] using ih (List.cons.inj h).2

theorem literal_quote_iff {q : List Char} (hq : IsBoundary inPlural q) {t : List Char} :
    literal inPlural false (quoteLiteral inPlural t ++ q) = (t, q)
      ↔ readsBackLiteral inPlural q.isEmpty t = true := by
  simp only [readsBackLiteral, Bool.or_eq_true, Bool.and_eq_true, List.isEmpty_iff]
  constructor
  · intro h
    exact of_literal_quote hq (congrArg Prod.fst h)
  · rintro (h | ⟨rfl, h⟩)
    · exact literal_quote_of_separated hq h
    · exact literal_quote_of_runsOn h

/-- If the text comes out right, so does what is left. -/
theorem literal_quote_eq {q : List Char} (hq : IsBoundary inPlural q) {t : List Char}
    (h : (literal inPlural false (quoteLiteral inPlural t ++ q)).1 = t) :
    literal inPlural false (quoteLiteral inPlural t ++ q) = (t, q) := by
  rw [literal_quote_iff hq]
  simpa [readsBackLiteral] using of_literal_quote hq h

/-! ### Written text determines the literal -/

theorem quoteLiteral_cons_ne_nil (c : Char) (t : List Char) :
    quoteLiteral inPlural (c :: t) ≠ [] := by
  rcases char_cases inPlural c with rfl | hc | hc
  · rcases head_cases inPlural t with head | ⟨d, t, rfl, hd⟩
    · rw [quoteLiteral_doubled head]; exact List.cons_ne_nil _ _
    · rw [quoteLiteral_single hd]; exact List.cons_ne_nil _ _
  · rw [quoteLiteral_special hc]; exact List.cons_ne_nil _ _
  · rw [quoteLiteral_ordinary hc]; exact List.cons_ne_nil _ _

/-- Written literal text does not start with a special character. -/
theorem head_quoteLiteral {c d : Char} {t s : List Char}
    (h : quoteLiteral inPlural (c :: t) = d :: s) : isSpecial inPlural d = false := by
  rcases char_cases inPlural c with rfl | hc | hc
  · rcases head_cases inPlural t with head | ⟨d, t, rfl, hd⟩
    · rw [quoteLiteral_doubled head] at h; cases h; exact isSpecial_apostrophe
    · rw [quoteLiteral_single hd] at h; cases h; exact isSpecial_apostrophe
  · rw [quoteLiteral_special hc] at h; cases h; exact isSpecial_apostrophe
  · rw [quoteLiteral_ordinary hc] at h; cases h; exact not_special_of_ordinary hc

theorem boundary_ne_quoteLiteral {c : Char} {t q q' : List Char} (hq : IsBoundary inPlural q) :
    q ≠ quoteLiteral inPlural (c :: t) ++ q' := by
  intro h
  cases e : quoteLiteral inPlural (c :: t) with
  | nil => exact quoteLiteral_cons_ne_nil c t e
  | cons d s =>
    rw [e] at h
    have := hq d (by rw [h]; rfl)
    rw [head_quoteLiteral e] at this
    exact Bool.false_ne_true this

theorem quoteLiteral_inj {t t' q q' : List Char} (hq : IsBoundary inPlural q)
    (hq' : IsBoundary inPlural q')
    (h : quoteLiteral inPlural t ++ q = quoteLiteral inPlural t' ++ q') : t = t' ∧ q = q' := by
  induction t generalizing t' with
  | nil =>
    cases t' with
    | nil => exact ⟨rfl, h⟩
    | cons c t' => exact absurd h (boundary_ne_quoteLiteral hq)
  | cons c t ih =>
    cases t' with
    | nil => exact absurd h.symm (boundary_ne_quoteLiteral hq')
    | cons c' t' =>
      have := @isSpecial_ne_apostrophe inPlural
      have := @ne_apostrophe_of_ordinary inPlural
      have := @isOrdinary_of_special inPlural
      rcases char_cases inPlural c with rfl | hc | hc <;>
        rcases char_cases inPlural c' with rfl | hc' | hc'
      · rcases head_cases inPlural t with head | ⟨d, t, rfl, hd⟩ <;>
          rcases head_cases inPlural t' with head' | ⟨d', t', rfl, hd'⟩ <;>
          grind [quoteLiteral_doubled, quoteLiteral_single, quoteLiteral_ordinary]
      all_goals grind [quoteLiteral_doubled, quoteLiteral_single, quoteLiteral_special,
          quoteLiteral_ordinary, head_cases]


end MessageExtraction.Message
