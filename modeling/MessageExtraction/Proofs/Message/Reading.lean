import MessageExtraction.Message.Printer

/-!
# The readers without their bounds

`elements` and `branches` carry the proof that they leave no more than they were given. Proofs about
what they read have no use for it: `readElements` and `readBranches` forget it, and `readElements_eq` and
`readBranches_eq` say how one step goes, with the three ways an opening brace can go on in one function
(`readBody`).
-/

namespace MessageExtraction.Message

/-- What `elements` reads, with what is left. -/
def readElements (nested inPlural : Bool) (s : List Char) :
    Except Failure (List Element × List Char) :=
  (elements nested inPlural s).map fun (es, r) => (es, r.1)

/-- What `branches` reads, with what is left. -/
def readBranches (inPlural restricted : Bool) (seen : List String) (s : List Char) :
    Except Failure (List Branch × List Char) :=
  (branches inPlural restricted seen s).map fun (bs, r) => (bs, r.1)

/-- What an opening brace begins, with its branches if it has any. -/
def readBody (inPlural : Bool) : Opening → List Char → Except Failure (Element × List Char)
  | .element e, r => .ok (e, r)
  | .plural name ordinal offset, r => do
      let (bs, r) ← readBranches true true [] r
      .ok (.plural name ordinal offset bs, r)
  | .select name, r => do
      let (bs, r) ← readBranches inPlural false [] r
      .ok (.select name bs, r)

theorem map_ok {α β : Type} (f : α → β) (a : α) :
    (Except.ok a : Except Failure α).map f = .ok (f a) := rfl

theorem bind_ok {α β : Type} {x : Except Failure α} {f : α → Except Failure β} {b : β}
    (h : (x >>= f) = .ok b) : ∃ a, x = .ok a ∧ f a = .ok b := by
  cases x with
  | error e => contradiction
  | ok a => exact ⟨a, rfl, h⟩

theorem expect_ok {c : Char} {k : Cause} {s r : List Char} (h : expect c k s = .ok r) :
    s = c :: r := by
  unfold expect at h
  split at h
  · contradiction
  · split at h <;> cases h
    subst c
    rfl

/-- One step of reading elements: literal text, and what stops it. -/
theorem readElements_eq (nested inPlural : Bool) (s : List Char) :
    readElements nested inPlural s = (
      match literal inPlural false s with
      | (text, []) => .ok (withLiteral text [], [])
      | (text, '}' :: r) =>
          if nested then .ok (withLiteral text [], '}' :: r)
          else .error ⟨.unmatchedClosingBrace, '}' :: r⟩
      | (text, '{' :: r) => do
          let (o, r) ← opening r
          let (e, r) ← readBody inPlural o r
          let (es, r) ← readElements nested inPlural r
          .ok (withLiteral text (e :: es), r)
      | (text, _ :: r) => do
          let (es, r) ← readElements nested inPlural r
          .ok (withLiteral text (.pound :: es), r)) := by
  unfold readElements
  rw [elements]
  simp only
  split
  · rename_i h; simp [h, Except.map]
  · rename_i h; simp [h]; split <;> simp [Except.map]
  · rename_i h
    simp only [h]
    split
    · rename_i h; simp [h, Except.map, bind, Except.bind]
    · rename_i h
      simp only [h, Except.map, bind, Except.bind, readBody]
      rcases elements nested inPlural _ with _ | ⟨bs, r⟩ <;> simp
    · rename_i h
      simp only [h, Except.map, bind, Except.bind, readBody, readBranches]
      rcases branches true true [] _ with _ | ⟨bs, r⟩
      · rfl
      · simp only
        rcases elements nested inPlural r.1 with _ | ⟨bs, r⟩ <;> simp
    · rename_i h
      simp only [h, Except.map, bind, Except.bind, readBody, readBranches]
      rcases branches inPlural false [] _ with _ | ⟨bs, r⟩
      · rfl
      · simp only
        rcases elements nested inPlural r.1 with _ | ⟨bs, r⟩ <;> simp
  · rename_i h
    simp only [h, Except.map, bind, Except.bind]
    rcases elements nested inPlural _ with _ | ⟨bs, r⟩ <;> simp

variable {inPlural : Bool}

/-- Literal text up to the end. -/
theorem readElements_end (nested : Bool) {s text : List Char}
    (h : literal inPlural false s = (text, [])) :
    readElements nested inPlural s = .ok (withLiteral text [], []) := by
  rw [readElements_eq, h]

/-- Literal text up to a closing brace. -/
theorem readElements_close (nested : Bool) {s text r : List Char}
    (h : literal inPlural false s = (text, '}' :: r)) :
    readElements nested inPlural s = (
      if nested then .ok (withLiteral text [], '}' :: r)
      else .error ⟨.unmatchedClosingBrace, '}' :: r⟩) := by
  rw [readElements_eq, h]
  rfl

/-- Literal text up to an opening brace. -/
theorem readElements_brace (nested : Bool) {s text r : List Char}
    (h : literal inPlural false s = (text, '{' :: r)) :
    readElements nested inPlural s = (do
      let (o, r) ← opening r
      let (e, r) ← readBody inPlural o r
      let (es, r) ← readElements nested inPlural r
      .ok (withLiteral text (e :: es), r)) := by
  rw [readElements_eq, h]
  rfl

/-- Literal text up to a pound sign that means the number. -/
theorem readElements_pound (nested : Bool) {s text r : List Char}
    (h : literal inPlural false s = (text, '#' :: r)) :
    readElements nested inPlural s = (do
      let (es, r) ← readElements nested inPlural r
      .ok (withLiteral text (.pound :: es), r)) := by
  rw [readElements_eq, h]
  rfl

/-- One step of reading branches: the closing brace, or a branch and those behind it. -/
theorem readBranches_eq (inPlural restricted : Bool) (seen : List String) (s : List Char) :
    readBranches inPlural restricted seen s = (
      match afterBlank s with
      | [] => .error ⟨.unclosedArgument, []⟩
      | '}' :: r =>
          if seen.isEmpty then .error ⟨.expectedSelector, r⟩
          else if !seen.contains "other" then .error ⟨.missingOtherBranch, r⟩
          else .ok ([], r)
      | c :: r =>
          let selector := String.ofList (word (c :: r))
          if (word (c :: r)).isEmpty then .error ⟨.expectedSelector, c :: r⟩
          else if restricted && !isPluralSelector selector then
            .error ⟨.invalidPluralSelector selector, c :: r⟩
          else if seen.contains selector then .error ⟨.duplicateSelector selector, c :: r⟩
          else do
            let r ← expect '{' .expectedBranchBody (afterBlank (afterWord (c :: r)))
            let (es, r) ← readElements true inPlural r
            let r ← expect '}' .unclosedArgument r
            let (bs, r) ← readBranches inPlural restricted (selector :: seen) r
            .ok ((selector, es) :: bs, r)) := by
  unfold readBranches
  rw [branches]
  simp only
  split
  · rename_i h; simp [h, Except.map]
  · rename_i h; simp only [h]; split
    · rfl
    · split <;> rfl
  · rename_i h
    simp only [h]
    split
    · rfl
    split
    · rfl
    split
    · rfl
    split
    · rename_i h'; simp only [h', Except.map, bind, Except.bind]
    · rename_i h'
      simp only [h', bind, Except.bind, readElements]
      rcases elements true inPlural _ with _ | ⟨es, r⟩
      · rfl
      simp only [map_ok]
      split
      · rename_i h'; simp only [h']; rfl
      · rename_i h'
        simp only [h']
        rcases branches inPlural restricted _ _ with _ | ⟨bs, r⟩ <;> rfl

/-! ## What is left -/

theorem readElements_length {nested : Bool} {s r : List Char} {es : List Element}
    (h : readElements nested inPlural s = .ok (es, r)) : r.length ≤ s.length := by
  rw [readElements] at h
  cases read : elements nested inPlural s with
  | error f => rw [read] at h; contradiction
  | ok a =>
    rw [read] at h
    cases h
    exact a.2.2

theorem readBranches_length {restricted : Bool} {seen : List String} {s r : List Char}
    {bs : List Branch} (h : readBranches inPlural restricted seen s = .ok (bs, r)) :
    r.length ≤ s.length := by
  rw [readBranches] at h
  cases read : branches inPlural restricted seen s with
  | error f => rw [read] at h; contradiction
  | ok a =>
    rw [read] at h
    cases h
    exact a.2.2

theorem readBody_length {o : Opening} {s r : List Char} {e : Element}
    (h : readBody inPlural o s = .ok (e, r)) : r.length ≤ s.length := by
  cases o with
  | element e => cases h; exact Nat.le_refl _
  | plural name ordinal offset =>
    obtain ⟨⟨bs, q⟩, read, h⟩ := bind_ok h
    cases h
    exact readBranches_length read
  | select name =>
    obtain ⟨⟨bs, q⟩, read, h⟩ := bind_ok h
    cases h
    exact readBranches_length read

/-! ## Whole messages -/

/-- Reading a text is reading its elements to the end. -/
theorem parse_ok_iff {text : String} {es : List Element} :
    parse text = .ok es ↔ ∃ r, readElements false false text.toList = .ok (es, r) := by
  rw [parse, readElements]
  rcases elements false false text.toList with f | ⟨fs, r⟩ <;> simp [Except.map]

end MessageExtraction.Message
