import MessageExtraction.Proofs.Message.RoundTrip

/-!
# Messages that can be read

Every well-formed message has a text from which it is read. Its canonical text need not be one, since
quoting special characters one at a time can go wrong. So a message is spelled in another way here: once a
literal needs quotes, they stay open up to its end.

* `literal_spell`: a literal spelled so is read back, whatever it holds.
* `readElements_spell`, `readBranches_spell`: and so is every well-formed message.
* `exists_parse_iff`: the messages that are read from some text are the well-formed ones.
-/

namespace MessageExtraction.Message

open MessageExtraction.Text

variable {inPlural : Bool}

/-! ## Literals -/

/-- The rest of a literal inside of quotes, with the apostrophe that closes them. -/
def spellQuoted : List Char → List Char
  | [] => ['\'']
  | c :: r => if c = '\'' then '\'' :: '\'' :: spellQuoted r else c :: spellQuoted r

/-- A literal in which all apostrophes are doubled, and everything from the first special character on
stands in quotes. -/
def spellLiteral (inPlural : Bool) : List Char → List Char
  | [] => []
  | c :: r =>
      if isSpecial inPlural c then '\'' :: c :: spellQuoted r
      else if c = '\'' then '\'' :: '\'' :: spellLiteral inPlural r
      else c :: spellLiteral inPlural r

/-- Inside of quotes every character is read as it is, and the closing apostrophe closes them, since what
stops a literal is no apostrophe. -/
theorem literal_spellQuoted {q : List Char} (hq : IsBoundary inPlural q) (t : List Char) :
    literal inPlural true (spellQuoted t ++ q) = (t, q) := by
  induction t with
  | nil =>
    rw [spellQuoted, List.singleton_append, literal_close hq.head_ne, literal_boundary hq]
  | cons c t ih =>
    rw [spellQuoted]
    split
    · subst c
      rw [List.cons_append, List.cons_append, literal_doubled, ih]
    · rw [List.cons_append, literal_inside ‹_›, ih]

/-- What is spelled as a literal is read back as that literal. -/
theorem literal_spell {q : List Char} (hq : IsBoundary inPlural q) (t : List Char) :
    literal inPlural false (spellLiteral inPlural t ++ q) = (t, q) := by
  induction t with
  | nil => exact literal_boundary hq
  | cons c t ih =>
    rw [spellLiteral]
    rcases char_cases inPlural c with rfl | special | ordinary
    · rw [if_neg (by simp [isSpecial_apostrophe]), if_pos rfl, List.cons_append, List.cons_append,
        literal_doubled, ih]
    · rw [if_pos special, List.cons_append, List.cons_append, literal_open special,
        literal_spellQuoted hq]
    · rw [if_neg (by simp [not_special_of_ordinary ordinary]),
        if_neg (ne_apostrophe_of_ordinary ordinary), List.cons_append, literal_ordinary ordinary, ih]

/-! ## Messages -/

mutual
/-- An element as it is spelled; only its literals are written in another way than `Element.print` does. -/
def Element.spell (inPlural : Bool) : Element → List Char
  | .literal text => spellLiteral inPlural text.toList
  | .plural name ordinal offset bs =>
      '{' :: (name.toList ++ (if ordinal then ", selectordinal, " else ", plural, ").toList
        ++ offsetText offset ++ spellBranches true bs ++ ['}'])
  | .select name bs =>
      '{' :: (name.toList ++ ", select, ".toList ++ spellBranches inPlural bs ++ ['}'])
  | e => e.print inPlural

/-- The elements one after another. -/
def spellElements (inPlural : Bool) : List Element → List Char
  | [] => []
  | e :: es => e.spell inPlural ++ spellElements inPlural es

/-- The branches one after another. -/
def spellBranches (inPlural : Bool) : List (String × List Element) → List Char
  | [] => []
  | (selector, es) :: bs =>
      selector.toList ++ ' ' :: '{' :: (spellElements inPlural es ++ '}' :: spellBranches inPlural bs)
end

/-- A text from which a message is read. -/
def spell (es : List Element) : String := String.ofList (spellElements false es)

/-- A branch with what stands behind it. -/
theorem spellBranches_cons (selector : String) (es : List Element) (bs : List Branch)
    (s : List Char) :
    spellBranches inPlural ((selector, es) :: bs) ++ s
      = selector.toList ++ ' ' :: '{' :: (spellElements inPlural es
          ++ '}' :: (spellBranches inPlural bs ++ s)) := by
  simp [spellBranches]

theorem afterBlank_spellBranches {restricted : Bool} {seen : List String} {bs : List Branch}
    (h : BranchesRead inPlural restricted seen bs) (s : List Char) :
    afterBlank (spellBranches inPlural bs ++ '}' :: s) = spellBranches inPlural bs ++ '}' :: s := by
  cases bs with
  | nil => exact afterBlank_cons (by decide) s
  | cons b bs =>
    obtain ⟨selector, es⟩ := b
    rw [spellBranches_cons]
    exact (h.names selector (by simp)).afterBlank _

/-- An element that is not literal text is spelled with a character in front that ends a literal. -/
theorem spell_isBoundary {e : Element} (h : e.WellFormed inPlural) (lit : e.isLiteral = false)
    (q : List Char) : IsBoundary inPlural (e.spell inPlural ++ q) := by
  cases e with
  | literal text => contradiction
  | plural | select =>
    rw [Element.spell]
    rintro _ ⟨⟩
    rfl
  | argument | formatted | pound =>
    rw [Element.spell] <;> first | exact print_isBoundary h lit q | nofun

/-- What stands behind a literal in a spelled message ends it. -/
theorem isBoundary_spell {nested : Bool} {es : List Element} {q : List Char}
    (h : ElementsWellFormed inPlural es) (head : ∀ e ∈ es.head?, e.isLiteral = false)
    (hq : Ends nested q) : IsBoundary inPlural (spellElements inPlural es ++ q) := by
  cases es with
  | nil => exact hq.isBoundary
  | cons e es =>
    rw [spellElements, List.append_assoc]
    exact spell_isBoundary h.1 (head e rfl) _

/-! ## Reading what was spelled -/

mutual
/-- A spelled element that starts with a brace is read from behind the brace on. -/
theorem readBody_spell : (e : Element) → {p : Bool} → e.WellFormed p → e.isLiteral = false →
    e ≠ .pound → (s : List Char) →
      ∃ t o q, e.spell p ++ s = '{' :: t ∧ opening t = .ok (o, q) ∧ readBody p o q = .ok (e, s)
  | .literal _, _, _, lit, _, _ => nomatch lit
  | .pound, _, _, _, pound, _ => absurd rfl pound
  | .argument name, p, h, lit, pound, s => by
    obtain ⟨t, o, q, text, opened, opens⟩ := opening_print h lit pound s
    cases opens
    exact ⟨t, _, s, by rwa [Element.spell] <;> nofun, opened, rfl⟩
  | .formatted name format style, p, h, lit, pound, s => by
    obtain ⟨t, o, q, text, opened, opens⟩ := opening_print h lit pound s
    cases opens
    exact ⟨t, _, s, by rwa [Element.spell] <;> nofun, opened, rfl⟩
  | .plural name ordinal offset bs, p, h, _, _, s => by
    obtain ⟨hn, ho, hb, messages⟩ := h
    have selectors := BranchesRead.of_selectors hb messages
    cases bs with
    | nil => exact absurd hb.other (by simp)
    | cons b bs =>
      obtain ⟨selector, es⟩ := b
      obtain ⟨q, read, left⟩ := opening_plural hn ordinal ho (hb.names selector (by simp))
        (hb.plural selector (by simp) rfl)
        (' ' :: '{' :: (spellElements true es ++ '}' :: (spellBranches true bs ++ '}' :: s)))
      rw [← spellBranches_cons] at read left
      refine ⟨_, _, q, by simp [Element.spell], read, ?_⟩
      rw [readBody, readBranches_spell ((selector, es) :: bs) selectors left]
      rfl
  | .select name bs, p, h, _, _, s => by
    obtain ⟨hn, hb, messages⟩ := h
    have selectors := BranchesRead.of_selectors hb messages
    refine ⟨_, _, _, by simp [Element.spell], opening_select hn (spellBranches p bs ++ '}' :: s), ?_⟩
    have start : afterBlank (' ' :: (spellBranches p bs ++ '}' :: s))
        = spellBranches p bs ++ '}' :: s := by
      rw [afterBlank_space, afterBlank_spellBranches selectors]
    rw [readBody, readBranches_spell bs selectors start]
    rfl

theorem readElements_spell : (es : List Element) → {p nested : Bool} → {q : List Char} →
    ElementsWellFormed p es → Ends nested q →
      readElements nested p (spellElements p es ++ q) = .ok (es, q)
  | [], p, nested, q, h, hq => hq.readElements
  | e :: es, p, nested, q, h, hq => by
    obtain ⟨wf, head, more⟩ := h
    have rest := readElements_spell es more hq
    rw [spellElements, List.append_assoc]
    -- The first element is a literal, which ends where the next one starts, or a number sign, or it stands
    -- in braces.
    by_cases lit : e.isLiteral = true
    · obtain ⟨text, rfl⟩ := exists_literal lit
      rw [Element.spell, readElements_literal,
        literal_spell (isBoundary_spell more (head rfl) hq), rest, map_ok]
      dsimp only
      have nonempty : text.toList ≠ [] := wf
      rw [withLiteral, if_neg (by simpa using nonempty), String.ofList_toList]
    by_cases pound : e = .pound
    · subst pound
      obtain rfl : p = true := wf
      exact readElements_pound_iff.mpr rest
    · obtain ⟨t, o, q', text, opened, body⟩ := readBody_spell e wf (by simpa using lit) pound
        (spellElements p es ++ q)
      rw [text]
      exact (readElements_brace_iff opened).mpr ⟨_, body, rest⟩

theorem readBranches_spell : (bs : List Branch) → {p restricted : Bool} → {seen : List String} →
    {s q : List Char} → BranchesRead p restricted seen bs →
      afterBlank s = spellBranches p bs ++ '}' :: q →
        readBranches p restricted seen s = .ok (bs, q)
  | [], p, restricted, seen, s, q, h, hs => by
    have other : "other" ∈ seen := by simpa using h.other
    have nonempty : seen.isEmpty = false := by
      cases seen with
      | nil => simp at other
      | cons s seen => rfl
    rw [readBranches_eq, hs]
    simp [spellBranches, other, nonempty]
  | (selector, es) :: bs, p, restricted, seen, s, q, h, hs => by
    rw [spellBranches_cons] at hs
    rw [readBranches_cons_iff h hs]
    exact ⟨_, readElements_spell es h.messages.1 (.branch _),
      readBranches_spell bs h.tail (afterBlank_spellBranches h.tail q)⟩
end

/-- A well-formed message is read from its spelling. -/
theorem parse_spell {es : List Element} (h : ElementsWellFormed false es) :
    parse (spell es) = .ok es := by
  have read := readElements_spell es h .message
  rw [List.append_nil] at read
  exact parse_ok_iff.mpr ⟨[], by rw [spell, String.toList_ofList, read]⟩

/-- The messages that are read from some text are the well-formed ones. -/
theorem exists_parse_iff (es : List Element) :
    (∃ text, parse text = .ok es) ↔ ElementsWellFormed false es :=
  ⟨fun ⟨_, read⟩ => wellFormed_of_parse read, fun h => ⟨spell es, parse_spell h⟩⟩

end MessageExtraction.Message
