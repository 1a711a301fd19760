import MessageExtraction.Proofs.Message.Opening
import Mathlib.Control.Monad.Basic

/-!
# Reading written messages

Writing a message and reading it again gives the message exactly when each of its literals is read back
where it stands (`elementsReadBack`). Everything else of a message is: names, styles, offsets, selectors
and the nesting of branches.

* `readElements_print_iff`: what is read of written elements, with what stands behind them.
* `printElements_inj`: well-formed messages that are written alike are the same.
* `parse_print_iff`: for every message that was read from a text, reading its canonical text gives it back
  exactly when its literals are read back, and so does canonicalizing twice give what canonicalizing
  once does.
* `canonical_text_changes`: two braces in one quoted run are a message for which it does not.
-/

namespace MessageExtraction.Message

open MessageExtraction.Text

/-! ## The condition -/

mutual
/-- Whether the literals of an element are read back; `last` says that the message ends with it. -/
def Element.readsBack (inPlural last : Bool) : Element → Bool
  | .literal text => readsBackLiteral inPlural last text.toList
  | .plural _ _ _ bs => branchesReadBack true bs
  | .select _ bs => branchesReadBack inPlural bs
  | _ => true

/-- Whether the literals of a row of elements are read back; `last` says that nothing stands behind
it. -/
def elementsReadBack (inPlural last : Bool) : List Element → Bool
  | [] => true
  | e :: es => e.readsBack inPlural (last && es.isEmpty) && elementsReadBack inPlural last es

/-- Whether the literals of all branches are read back. A closing brace stands behind each. -/
def branchesReadBack (inPlural : Bool) : List (String × List Element) → Bool
  | [] => true
  | (_, es) :: bs => elementsReadBack inPlural false es && branchesReadBack inPlural bs
end

variable {inPlural : Bool}

theorem exists_literal {e : Element} (h : e.isLiteral = true) : ∃ text, e = .literal text := by
  cases e with
  | literal text => exact ⟨text, rfl⟩
  | _ => contradiction

/-! ## Where elements end -/

/-- What can stand behind elements: the end of the message, or the brace that closes the branch they
are nested in. -/
inductive Ends : (nested : Bool) → List Char → Prop
  | message : Ends false []
  | branch (q : List Char) : Ends true ('}' :: q)

theorem Ends.isBoundary {nested : Bool} {q : List Char} (h : Ends nested q) :
    IsBoundary inPlural q := by
  cases h with
  | message => exact isBoundary_nil
  | branch q => rintro _ ⟨⟩; simp [isSpecial]

theorem Ends.readElements {nested : Bool} {q : List Char} (h : Ends nested q) :
    readElements nested inPlural q = .ok ([], q) := by
  rw [readElements_eq, literal_boundary h.isBoundary]
  cases h <;> rfl

/-- An element that is not literal text starts with a character that ends a literal, but no branch. -/
theorem print_head {e : Element} (h : e.WellFormed inPlural) (lit : e.isLiteral = false) :
    ∃ c t, e.print inPlural = c :: t ∧ isSpecial inPlural c = true ∧ c ≠ '}' := by
  by_cases pound : e = .pound
  · subst pound
    exact ⟨'#', [], by simp [Element.print], by simp [isSpecial, show inPlural = true from h],
      by decide⟩
  · obtain ⟨t, o, q, text, -, -⟩ := opening_print h lit pound []
    exact ⟨'{', t, by simpa using text, by simp [isSpecial], by decide⟩

theorem print_isBoundary {e : Element} (h : e.WellFormed inPlural) (lit : e.isLiteral = false)
    (q : List Char) : IsBoundary inPlural (e.print inPlural ++ q) := by
  obtain ⟨c, t, text, special, -⟩ := print_head h lit
  rw [text]
  rintro _ ⟨⟩
  exact special

/-- What stands behind a literal in a written message ends it. -/
theorem isBoundary_print {nested : Bool} {es : List Element} {q : List Char}
    (h : ElementsWellFormed inPlural es) (head : ∀ e ∈ es.head?, e.isLiteral = false)
    (hq : Ends nested q) : IsBoundary inPlural (printElements inPlural es ++ q) := by
  cases es with
  | nil => exact hq.isBoundary
  | cons e es =>
    rw [printElements, List.append_assoc]
    exact print_isBoundary h.1 (head e rfl) _

theorem isEmpty_print {es : List Element} (h : ElementsWellFormed inPlural es)
    (head : ∀ e ∈ es.head?, e.isLiteral = false) (q : List Char) :
    (printElements inPlural es ++ q).isEmpty = (q.isEmpty && es.isEmpty) := by
  cases es with
  | nil => simp [printElements]
  | cons e es =>
    obtain ⟨c, t, text, -⟩ := print_head h.1 (head e rfl)
    simp [printElements, text]

/-! ## One step of reading a written message -/

/-- Reading elements is reading literal text and then elements that do not start with any. -/
theorem readElements_literal (nested : Bool) (s : List Char) :
    readElements nested inPlural s
      = (readElements nested inPlural (literal inPlural false s).2).map fun (es, r) =>
          (withLiteral (literal inPlural false s).1 es, r) := by
  have boundary : literal inPlural false (literal inPlural false s).2
      = ([], (literal inPlural false s).2) := literal_boundary (isBoundary_literal false s)
  have special : IsBoundary inPlural (literal inPlural false s).2 := isBoundary_literal false s
  cases read : literal inPlural false s with
  | mk text q =>
    rw [read] at boundary special
    dsimp only at boundary special ⊢
    rcases q with _ | ⟨c, q⟩
    · rw [readElements_end nested read, readElements_end nested boundary]
      rfl
    · rcases special_cases (special c rfl) with rfl | rfl | ⟨rfl, -⟩
      · rw [readElements_brace nested read, readElements_brace nested boundary]
        rcases opening q with f | ⟨o, q₁⟩
        · rfl
        dsimp only [bind, Except.bind]
        rcases readBody inPlural o q₁ with f | ⟨e, q₂⟩
        · rfl
        dsimp only
        rcases readElements nested inPlural q₂ with f | ⟨es, q₃⟩ <;> rfl
      · rw [readElements_close nested read, readElements_close nested boundary]
        cases nested <;> rfl
      · rw [readElements_pound nested read, readElements_pound nested boundary]
        rcases readElements nested inPlural q with f | ⟨es, q₃⟩ <;> rfl

/-- Elements that are read where literal text ends do not start with literal text. -/
theorem head_of_readElements {nested : Bool} {s r : List Char} {es : List Element}
    (hs : IsBoundary inPlural s) (h : readElements nested inPlural s = .ok (es, r)) :
    ∀ e ∈ es.head?, e.isLiteral = false := by
  have stop := literal_boundary hs
  rcases s with _ | ⟨c, q⟩
  · rw [readElements_end nested stop] at h
    cases h
    simp [withLiteral]
  · rcases special_cases (hs c rfl) with rfl | rfl | ⟨rfl, -⟩
    · rw [readElements_brace nested stop] at h
      obtain ⟨⟨o, q₁⟩, opened, h⟩ := bind_ok h
      obtain ⟨⟨e, q₂⟩, body, h⟩ := bind_ok h
      obtain ⟨⟨fs, q₃⟩, -, h⟩ := bind_ok h
      cases h
      rintro _ ⟨⟩
      exact (wellFormed_of_readBody (wellFormed_of_opening opened)
        (fun h => (wellFormed_of_read _).2 (Nat.lt_succ_self _) h) body).2
    · rw [readElements_close nested stop] at h
      split at h <;> cases h
      simp [withLiteral]
    · rw [readElements_pound nested stop] at h
      obtain ⟨⟨fs, q₁⟩, -, h⟩ := bind_ok h
      cases h
      rintro _ ⟨⟩
      rfl

theorem readElements_brace_iff {nested : Bool} {e : Element} {es : List Element}
    {t q r : List Char} {o : Opening} (opened : opening t = .ok (o, q)) :
    readElements nested inPlural ('{' :: t) = .ok (e :: es, r)
      ↔ ∃ q', readBody inPlural o q = .ok (e, q')
          ∧ readElements nested inPlural q' = .ok (es, r) := by
  have stop : literal inPlural false ('{' :: t) = ([], '{' :: t) :=
    literal_special (by simp [isSpecial]) t
  rw [readElements_brace nested stop, opened]
  constructor
  · intro h
    obtain ⟨_, ⟨⟩, h⟩ := bind_ok h
    obtain ⟨⟨e', q₁⟩, body, h⟩ := bind_ok h
    obtain ⟨⟨fs, q₂⟩, more, h⟩ := bind_ok h
    cases h
    exact ⟨q₁, body, more⟩
  · rintro ⟨q₁, body, more⟩
    simp only [bind, Except.bind, body, more]
    rfl

theorem readElements_pound_iff {nested : Bool} {es : List Element} {t r : List Char} :
    readElements nested true ('#' :: t) = .ok (.pound :: es, r)
      ↔ readElements nested true t = .ok (es, r) := by
  have stop : literal true false ('#' :: t) = ([], '#' :: t) :=
    literal_special (by simp [isSpecial]) t
  rw [readElements_pound nested stop]
  constructor
  · intro h
    obtain ⟨⟨fs, q₁⟩, more, h⟩ := bind_ok h
    cases h
    exact more
  · intro more
    rw [more]
    rfl

/-- A written literal and what follows it are read if the literal is read back and what follows is. -/
theorem readElements_literal_iff {nested : Bool} {text : String} {es : List Element}
    {q r : List Char} (hq : IsBoundary inPlural q) (nonempty : text.toList ≠ []) :
    readElements nested inPlural (quoteLiteral inPlural text.toList ++ q) = .ok (.literal text :: es, r)
      ↔ readsBackLiteral inPlural q.isEmpty text.toList = true
          ∧ readElements nested inPlural q = .ok (es, r) := by
  rw [← literal_quote_iff hq, readElements_literal]
  constructor
  · intro h
    cases more : readElements nested inPlural
        (literal inPlural false (quoteLiteral inPlural text.toList ++ q)).2 with
    | error f => rw [more] at h; contradiction
    | ok a =>
      obtain ⟨fs, r'⟩ := a
      have head := head_of_readElements (isBoundary_literal false _) more
      rw [more, map_ok] at h
      injection h with h
      obtain ⟨eq, rfl⟩ := Prod.mk.inj h
      rw [withLiteral] at eq
      split at eq
      · subst eq
        exact Bool.noConfusion (head _ rfl)
      · obtain ⟨lit, rfl⟩ := List.cons.inj eq
        have read := literal_quote_eq hq
          (String.toList_ofList.symm.trans (congrArg String.toList (Element.literal.inj lit)))
        rw [read] at more
        exact ⟨read, more⟩
  · rintro ⟨read, more⟩
    rw [read, more, map_ok]
    dsimp only
    rw [withLiteral, if_neg (by simpa using nonempty), String.ofList_toList]

theorem close_ne_name {name : String} {q q' : List Char} (h : IsName name) :
    '}' :: q ≠ name.toList ++ q' := by
  obtain ⟨c, w, text, word⟩ := h.head
  intro eq
  rw [text] at eq
  rw [← (List.cons.inj eq).1] at word
  exact absurd word (by decide)

/-- One branch, with the branches behind it. -/
theorem readBranches_cons_iff {restricted : Bool} {seen : List String} {selector : String}
    {es : List Element} {bs : List Branch} {s q r : List Char}
    (h : BranchesRead inPlural restricted seen ((selector, es) :: bs))
    (start : afterBlank s = selector.toList ++ ' ' :: '{' :: q) :
    readBranches inPlural restricted seen s = .ok ((selector, es) :: bs, r)
      ↔ ∃ q', readElements true inPlural q = .ok (es, '}' :: q')
          ∧ readBranches inPlural restricted (selector :: seen) q' = .ok (bs, r) := by
  have name : IsName selector := h.names selector (by simp)
  have stop : ∀ c ∈ (' ' :: '{' :: q).head?, isWordChar c = false := by
    rintro _ ⟨⟩
    decide
  have allowed : (restricted && !isPluralSelector selector) = false := by
    have := h.plural selector (by simp)
    grind
  have fresh : seen.contains selector = false := by
    have := h.fresh selector (by simp)
    simpa using this
  have brace : afterBlank (' ' :: '{' :: q) = '{' :: q := by
    rw [afterBlank_space, afterBlank_cons (by decide)]
  rw [readBranches_eq]
  split
  · rename_i e
    rw [start] at e
    simp at e
  · rename_i t e
    rw [start] at e
    exact absurd e.symm (close_ne_name name)
  · rename_i c t closing e
    rw [← e, start, word_append name.2 stop, afterWord_append name.2 stop, String.ofList_toList]
    dsimp only
    rw [if_neg (by simpa using name.1), allowed, fresh, brace]
    simp only [Bool.false_eq_true, if_false]
    constructor
    · intro h
      obtain ⟨_, ⟨⟩, h⟩ := bind_ok h
      obtain ⟨⟨es', q₁⟩, message, h⟩ := bind_ok h
      obtain ⟨q₂, close, h⟩ := bind_ok h
      obtain ⟨⟨bs', q₃⟩, more, h⟩ := bind_ok h
      cases h
      obtain rfl : q₁ = '}' :: q₂ := expect_ok close
      exact ⟨q₂, message, more⟩
    · rintro ⟨q', message, more⟩
      simp only [expect, bind, Except.bind, message, more, if_true]

/-! ## The round trip -/

mutual
theorem readBody_print_iff : (e : Element) → {p : Bool} → {s q r : List Char} → {o : Opening} →
    e.WellFormed p → Opens p s e o q →
      (readBody p o q = .ok (e, r) ↔ r = s ∧ e.readsBack p false = true)
  | .literal _, _, _, _, _, _, _, ho => nomatch ho
  | .pound, _, _, _, _, _, _, ho => nomatch ho
  | .argument _, _, _, _, _, _, _, .argument _ => by
    simp [readBody, Element.readsBack, eq_comm]
  | .formatted .., _, _, _, _, _, _, .formatted .. => by
    simp [readBody, Element.readsBack, eq_comm]
  | .plural name ordinal offset bs, p, s, q, r, _, h, .plural _ _ _ _ left => by
    obtain ⟨-, -, selectors, messages⟩ := h
    rw [Element.readsBack, ← readBranches_print_iff bs (.of_selectors selectors messages) left]
    rw [readBody]
    rcases readBranches true true [] q with f | ⟨cs, t⟩ <;> simp [bind, Except.bind]
  | .select name bs, p, s, q, r, _, h, .select _ _ left => by
    obtain ⟨-, selectors, messages⟩ := h
    rw [Element.readsBack, ← readBranches_print_iff bs (.of_selectors selectors messages) left]
    rw [readBody]
    rcases readBranches p false [] q with f | ⟨cs, t⟩ <;> simp [bind, Except.bind]

theorem readElements_print_iff : (es : List Element) → {p nested : Bool} → {q r : List Char} →
    ElementsWellFormed p es → Ends nested q →
      (readElements nested p (printElements p es ++ q) = .ok (es, r)
        ↔ r = q ∧ elementsReadBack p q.isEmpty es = true)
  | [], p, nested, q, r, h, hq => by
    rw [printElements, List.nil_append, hq.readElements]
    simp [elementsReadBack, eq_comm]
  | e :: es, p, nested, q, r, h, hq => by
    obtain ⟨wf, head, more⟩ := h
    rw [printElements, List.append_assoc, elementsReadBack, Bool.and_eq_true]
    by_cases lit : e.isLiteral = true
    · obtain ⟨text, rfl⟩ := exists_literal lit
      have boundary := isBoundary_print more (head rfl) hq
      rw [Element.print, readElements_literal_iff boundary wf, isEmpty_print more (head rfl),
        readElements_print_iff es more hq, Element.readsBack]
      exact and_left_comm
    by_cases pound : e = .pound
    · subst pound
      obtain rfl : p = true := wf
      rw [Element.print, List.singleton_append, readElements_pound_iff,
        readElements_print_iff es more hq]
      simp [Element.readsBack]
    · obtain ⟨t, o, q', text, opened, opens⟩ := opening_print wf (by simpa using lit) pound
        (printElements p es ++ q)
      rw [text, readElements_brace_iff opened]
      have last : e.readsBack p (q.isEmpty && es.isEmpty) = e.readsBack p false := by
        cases e <;> simp_all [Element.readsBack, Element.isLiteral]
      simp only [readBody_print_iff e wf opens, last]
      constructor
      · rintro ⟨q', ⟨rfl, body⟩, read⟩
        obtain ⟨rfl, back⟩ := (readElements_print_iff es more hq).mp read
        exact ⟨rfl, body, back⟩
      · rintro ⟨rfl, body, back⟩
        exact ⟨_, ⟨rfl, body⟩, (readElements_print_iff es more hq).mpr ⟨rfl, back⟩⟩

theorem readBranches_print_iff : (bs : List Branch) → {p restricted : Bool} → {seen : List String} →
    {s q r : List Char} → BranchesRead p restricted seen bs →
      afterBlank s = printBranches p bs ++ '}' :: q →
        (readBranches p restricted seen s = .ok (bs, r) ↔ r = q ∧ branchesReadBack p bs = true)
  | [], p, restricted, seen, s, q, r, h, hs => by
    have other : "other" ∈ seen := by simpa using h.other
    have nonempty : seen.isEmpty = false := by
      cases seen with
      | nil => simp at other
      | cons s seen => rfl
    rw [readBranches_eq, hs]
    simp [printBranches, other, nonempty, branchesReadBack, eq_comm]
  | (selector, es) :: bs, p, restricted, seen, s, q, r, h, hs => by
    rw [printBranches_cons] at hs
    rw [readBranches_cons_iff h hs]
    simp only [readElements_print_iff es h.messages.1 (.branch _)]
    rw [branchesReadBack, Bool.and_eq_true]
    have rest := readBranches_print_iff bs (r := r) h.tail (afterBlank_branchesBehind h.tail q)
    constructor
    · rintro ⟨q', ⟨eq, back⟩, read⟩
      rw [(List.cons.inj eq).2] at read
      obtain ⟨rfl, more⟩ := rest.mp read
      exact ⟨rfl, back, more⟩
    · rintro ⟨rfl, back, more⟩
      exact ⟨_, ⟨rfl, back⟩, rest.mpr ⟨rfl, more⟩⟩
end

/-! ## Different messages are written differently -/

/-- Elements that are written alike are opened alike. -/
theorem opens_of_print_eq {e e' : Element} {s s' : List Char} (h : e.WellFormed inPlural)
    (h' : e'.WellFormed inPlural) (lit : e.isLiteral = false) (lit' : e'.isLiteral = false)
    (eq : e.print inPlural ++ s = e'.print inPlural ++ s') :
    e = .pound ∧ e' = .pound ∧ s = s'
      ∨ ∃ o q, Opens inPlural s e o q ∧ Opens inPlural s' e' o q := by
  by_cases pound : e = .pound <;> by_cases pound' : e' = .pound
  · subst pound pound'
    exact .inl ⟨rfl, rfl, by simpa [Element.print] using eq⟩
  · obtain ⟨t, o, q, text, -⟩ := opening_print h' lit' pound' s'
    simp [pound, Element.print, text] at eq
  · obtain ⟨t, o, q, text, -⟩ := opening_print h lit pound s
    simp [pound', Element.print, text] at eq
  · obtain ⟨t, o, q, text, opened, opens⟩ := opening_print h lit pound s
    obtain ⟨t', o', q', text', opened', opens'⟩ := opening_print h' lit' pound' s'
    rw [text, text'] at eq
    obtain rfl : t = t' := (List.cons.inj eq).2
    obtain ⟨rfl, rfl⟩ := Prod.mk.inj (Except.ok.inj (opened.symm.trans opened'))
    exact .inr ⟨o, q, opens, opens'⟩

/-- Literal text is not written like what ends it. -/
theorem print_literal_ne {text : String} {q q' : List Char} (nonempty : text.toList ≠ [])
    (hq : IsBoundary inPlural q) : q ≠ (Element.literal text).print inPlural ++ q' := by
  rw [Element.print]
  cases e : text.toList with
  | nil => exact absurd e nonempty
  | cons c t => exact boundary_ne_quoteLiteral hq

theorem print_ne_end {nested : Bool} {e : Element} {q q' : List Char} (h : e.WellFormed inPlural)
    (hq : Ends nested q) : q ≠ e.print inPlural ++ q' := by
  by_cases lit : e.isLiteral = true
  · obtain ⟨text, rfl⟩ := exists_literal lit
    exact print_literal_ne h hq.isBoundary
  · obtain ⟨c, t, text, -, brace⟩ := print_head h (by simpa using lit)
    rw [text]
    cases hq with
    | message => exact (List.cons_ne_nil c _).symm
    | branch q =>
      intro eq
      exact brace (List.cons.inj eq).1.symm

mutual
theorem print_inj : (e e' : Element) → {p : Bool} → {s s' : List Char} → e.WellFormed p →
    e'.WellFormed p → e.isLiteral = false → e'.isLiteral = false →
      e.print p ++ s = e'.print p ++ s' → e = e' ∧ s = s'
  | .literal _, _, _, _, _, _, _, lit, _, _ => nomatch lit
  | .pound, e', p, s, s', h, h', lit, lit', eq => by
    rcases opens_of_print_eq h h' lit lit' eq with ⟨-, rfl, rfl⟩ | ⟨o, q, opens, -⟩
    · exact ⟨rfl, rfl⟩
    · nomatch opens
  | .argument _, e', p, s, s', h, h', lit, lit', eq => by
    rcases opens_of_print_eq h h' lit lit' eq with ⟨e, -⟩ | ⟨o, q, opens, opens'⟩
    · nomatch e
    · cases opens
      cases opens'
      exact ⟨rfl, rfl⟩
  | .formatted .., e', p, s, s', h, h', lit, lit', eq => by
    rcases opens_of_print_eq h h' lit lit' eq with ⟨e, -⟩ | ⟨o, q, opens, opens'⟩
    · nomatch e
    · cases opens
      cases opens'
      exact ⟨rfl, rfl⟩
  | .plural _ _ _ bs, e', p, s, s', h, h', lit, lit', eq => by
    rcases opens_of_print_eq h h' lit lit' eq with ⟨e, -⟩ | ⟨o, q, opens, opens'⟩
    · nomatch e
    · cases opens with
      | plural _ _ _ _ left =>
        cases opens' with
        | plural _ _ _ bs' left' =>
          obtain ⟨rfl, rfl⟩ := printBranches_inj bs bs' h.2.2.1.names h'.2.2.1.names h.2.2.2 h'.2.2.2
            (left.symm.trans left')
          exact ⟨rfl, rfl⟩
  | .select _ bs, e', p, s, s', h, h', lit, lit', eq => by
    rcases opens_of_print_eq h h' lit lit' eq with ⟨e, -⟩ | ⟨o, q, opens, opens'⟩
    · nomatch e
    · cases opens with
      | select _ _ left =>
        cases opens' with
        | select _ bs' left' =>
          obtain ⟨rfl, rfl⟩ := printBranches_inj bs bs' h.2.1.names h'.2.1.names h.2.2 h'.2.2
            (left.symm.trans left')
          exact ⟨rfl, rfl⟩

theorem printElements_inj : (es es' : List Element) → {p nested : Bool} → {q q' : List Char} →
    ElementsWellFormed p es → ElementsWellFormed p es' → Ends nested q → Ends nested q' →
      printElements p es ++ q = printElements p es' ++ q' → es = es' ∧ q = q'
  | [], [], _, _, _, _, _, _, _, _, eq => ⟨rfl, eq⟩
  | [], e' :: es', p, nested, q, q', h, h', hq, hq', eq => by
    rw [printElements, printElements, List.append_assoc] at eq
    exact absurd eq (print_ne_end h'.1 hq)
  | e :: es, [], p, nested, q, q', h, h', hq, hq', eq => by
    rw [printElements, printElements, List.append_assoc] at eq
    exact absurd eq.symm (print_ne_end h.1 hq')
  | e :: es, e' :: es', p, nested, q, q', ⟨wf, head, more⟩, ⟨wf', head', more'⟩, hq, hq', eq => by
    rw [printElements, printElements, List.append_assoc, List.append_assoc] at eq
    have same : e = e' ∧ printElements p es ++ q = printElements p es' ++ q' := by
      by_cases lit : e.isLiteral = true <;> by_cases lit' : e'.isLiteral = true
      · obtain ⟨text, rfl⟩ := exists_literal lit
        obtain ⟨text', rfl⟩ := exists_literal lit'
        obtain ⟨eq, behind⟩ := quoteLiteral_inj (isBoundary_print more (head rfl) hq)
          (isBoundary_print more' (head' rfl) hq') eq
        exact ⟨congrArg Element.literal (String.toList_inj.mp eq), behind⟩
      · obtain ⟨text, rfl⟩ := exists_literal lit
        exact absurd eq.symm (print_literal_ne wf (print_isBoundary wf' (by simpa using lit') _))
      · obtain ⟨text, rfl⟩ := exists_literal lit'
        exact absurd eq (print_literal_ne wf' (print_isBoundary wf (by simpa using lit) _))
      · exact print_inj e e' wf wf' (by simpa using lit) (by simpa using lit') eq
    obtain ⟨rfl, behind⟩ := same
    obtain ⟨rfl, rfl⟩ := printElements_inj es es' more more' hq hq' behind
    exact ⟨rfl, rfl⟩

theorem printBranches_inj : (bs bs' : List Branch) → {p : Bool} → {q q' : List Char} →
    (∀ s ∈ bs.map Prod.fst, IsName s) → (∀ s ∈ bs'.map Prod.fst, IsName s) →
    BranchesWellFormed p bs → BranchesWellFormed p bs' →
      printBranches p bs ++ '}' :: q = printBranches p bs' ++ '}' :: q' → bs = bs' ∧ q = q'
  | [], [], _, _, _, _, _, _, _, eq => ⟨rfl, by simpa [printBranches] using eq⟩
  | [], (selector, es) :: bs, p, q, q', _, names, _, _, eq => by
    rw [printBranches_cons] at eq
    exact absurd eq (close_ne_name (names selector (by simp)))
  | (selector, es) :: bs, [], p, q, q', names, _, _, _, eq => by
    rw [printBranches_cons] at eq
    exact absurd eq.symm (close_ne_name (names selector (by simp)))
  | (selector, es) :: bs, (selector', es') :: bs', p, q, q', names, names', h, h', eq => by
    have stop (t : List Char) : ∀ c ∈ (' ' :: t).head?, isWordChar c = false := by
      rintro _ ⟨⟩
      decide
    rw [printBranches_cons, printBranches_cons] at eq
    have words := congrArg word eq
    rw [word_append (names selector (by simp)).2 (stop _),
      word_append (names' selector' (by simp)).2 (stop _)] at words
    obtain rfl : selector = selector' := String.toList_inj.mp words
    have bodies := (List.cons.inj (List.cons.inj (List.append_cancel_left eq)).2).2
    obtain ⟨rfl, behind⟩ := printElements_inj es es' h.1 h'.1 (.branch _) (.branch _) bodies
    have others : printBranches p bs ++ '}' :: q = printBranches p bs' ++ '}' :: q' := by
      have := (List.cons.inj behind).2
      cases bs <;> cases bs' <;> simp_all [branchesBehind, printBranches]
    obtain ⟨rfl, rfl⟩ := printBranches_inj bs bs' (fun s hs => names s (List.mem_cons_of_mem _ hs))
      (fun s hs => names' s (List.mem_cons_of_mem _ hs)) h.2 h'.2 others
    exact ⟨rfl, rfl⟩
end

/-! ## Whole messages -/

/-- For every message that was read from a text, reading its canonical text gives it back exactly when
its literals are read back, and exactly then the canonical text is its own canonical text. -/
theorem parse_print_iff {text : String} {es : List Element} (h : parse text = .ok es) :
    (parse (print es) = .ok es ↔ elementsReadBack false true es = true)
      ∧ ∀ origin, (normalize origin (print es) = .ok (print es)
          ↔ elementsReadBack false true es = true) := by
  have wf := wellFormed_of_parse h
  have back : parse (print es) = .ok es ↔ elementsReadBack false true es = true := by
    have read (r : List Char) := readElements_print_iff es wf .message (r := r)
    simp only [List.append_nil] at read
    simp [parse_ok_iff, print, read]
  refine ⟨back, fun origin => ?_⟩
  rw [← back, normalize]
  cases again : parse (print es) with
  | error e => simp
  | ok fs =>
    have inj : print fs = print es → fs = es := by
      intro eq
      have eq' := congrArg String.toList eq
      simp only [print, String.toList_ofList] at eq'
      refine (printElements_inj fs es (wellFormed_of_parse again) wf .message .message ?_).1
      simpa using eq'
    simp only [Except.ok.injEq]
    exact ⟨inj, congrArg print⟩

/-- A plural with quoted braces and pound signs in its branches, all of them set off. -/
theorem parse_print_of_plural :
    parse "\x7bn, plural, =1 \x7bit''s '\x7b'\x7d other \x7b# '#'s\x7d\x7d"
        = .ok [.plural "n" false 0
            [("=1", [.literal "it's \x7b"]), ("other", [.pound, .literal " #s"])]]
      ∧ parse (print [.plural "n" false 0
            [("=1", [.literal "it's \x7b"]), ("other", [.pound, .literal " #s"])]])
          = .ok [.plural "n" false 0
            [("=1", [.literal "it's \x7b"]), ("other", [.pound, .literal " #s"])]] := by
  have read : parse "\x7bn, plural, =1 \x7bit''s '\x7b'\x7d other \x7b# '#'s\x7d\x7d"
      = .ok [.plural "n" false 0
          [("=1", [.literal "it's \x7b"]), ("other", [.pound, .literal " #s"])]] := by
    decide +kernel
  exact ⟨read, (parse_print_iff read).1.mpr (by decide)⟩

/-- Two braces in one quoted run: the canonical text quotes each of them, is read as another message
and is not its own canonical text. -/
theorem canonical_text_changes :
    parse "'\x7b\x7b'" = .ok [.literal "\x7b\x7b"]
      ∧ normalize .script "'\x7b\x7b'" = .ok "'\x7b''\x7b'"
      ∧ parse "'\x7b''\x7b'" = .ok [.literal "\x7b'\x7b"]
      ∧ normalize .script "'\x7b''\x7b'" = .ok "'\x7b''''\x7b'" := by
  decide +kernel

end MessageExtraction.Message
