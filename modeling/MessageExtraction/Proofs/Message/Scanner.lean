import MessageExtraction.Message.Parser

/-!
# Reading by byte offsets

The readers take characters from the front of what is left. Here the same text is read through slices of it,
at a byte offset that is moved over what was read: character by character, by a slice of a word, or past a
keyword in one go. A slice is refused where no character starts, and a loop where it takes more turns than
there are characters to move over. Then there is no outcome.

* `isSome_splitBytes?_iff`: a slice is refused exactly where no character starts.
* `scan`: reads a text as a message by byte offsets.
-/

namespace MessageExtraction.Message

open MessageExtraction.Text

/-! ## Bytes -/

@[simp] theorem byteLength_nil : byteLength [] = 0 := rfl

@[simp] theorem byteLength_cons (c : Char) (s : List Char) :
    byteLength (c :: s) = c.utf8Size + byteLength s := rfl

@[simp] theorem byteLength_append (s t : List Char) :
    byteLength (s ++ t) = byteLength s + byteLength t := by
  induction s with
  | nil => simp
  | cons c s ih => simp [ih, Nat.add_assoc]

theorem byteLength_toList (text : String) : byteLength text.toList = text.utf8ByteSize := by
  suffices h : ∀ s : List Char, byteLength s = (String.ofList s).utf8ByteSize by
    rw [h, String.ofList_toList]
  intro s
  induction s with
  | nil => simp
  | cons c s ih =>
    rw [byteLength_cons, ih, ← List.singleton_append, String.ofList_append, String.utf8ByteSize_append,
      ← String.singleton_eq_ofList, String.utf8ByteSize_singleton]

/-- The characters that take up that many bytes, with those behind them. -/
def splitBytes? : Nat → List Char → Option (List Char × List Char)
  | 0, s => some ([], s)
  | _ + 1, [] => none
  | n + 1, c :: s =>
      if c.utf8Size ≤ n + 1 then
        (splitBytes? (n + 1 - c.utf8Size) s).map fun (front, back) => (c :: front, back)
      else none

theorem splitBytes?_append (front back : List Char) :
    splitBytes? (byteLength front) (front ++ back) = some (front, back) := by
  induction front with
  | nil => rw [byteLength_nil, splitBytes?, List.nil_append]
  | cons c front ih =>
    have := c.utf8Size_pos
    obtain ⟨n, eq⟩ : ∃ n, byteLength (c :: front) = n + 1 :=
      ⟨c.utf8Size + byteLength front - 1, by rw [byteLength_cons]; omega⟩
    rw [List.cons_append, eq, splitBytes?, ← eq, byteLength_cons, if_pos (by omega),
      Nat.add_sub_cancel_left, ih]
    rfl

theorem eq_of_splitBytes? {n : Nat} {s front back : List Char}
    (h : splitBytes? n s = some (front, back)) : s = front ++ back ∧ n = byteLength front := by
  induction n, s using splitBytes?.induct generalizing front with
  | case1 s =>
    rw [splitBytes?] at h
    cases h
    exact ⟨rfl, rfl⟩
  | case2 n =>
    rw [splitBytes?] at h
    cases h
  | case3 n c s fits ih =>
    rw [splitBytes?, if_pos fits] at h
    obtain ⟨⟨front', back'⟩, split, eq⟩ := Option.map_eq_some_iff.mp h
    cases eq
    obtain ⟨rfl, size⟩ := ih split
    exact ⟨rfl, by rw [byteLength_cons]; omega⟩
  | case4 n c s large =>
    rw [splitBytes?, if_neg large] at h
    cases h

/-- A text can be split exactly where a character starts, or at its end. -/
theorem isSome_splitBytes?_iff {text : String} {n : Nat} :
    (splitBytes? n text.toList).isSome = true ↔ String.Pos.Raw.IsValid text ⟨n⟩ := by
  rw [String.Pos.Raw.isValid_iff_exists_append, Option.isSome_iff_exists]
  constructor
  · rintro ⟨⟨front, back⟩, split⟩
    obtain ⟨eq, rfl⟩ := eq_of_splitBytes? split
    refine ⟨.ofList front, .ofList back, ?_, ?_⟩
    · rw [← String.ofList_append, ← eq, String.ofList_toList]
    · rw [String.rawEndPos, ← byteLength_toList, String.toList_ofList]
  · rintro ⟨front, back, rfl, eq⟩
    obtain rfl : n = front.utf8ByteSize := congrArg String.Pos.Raw.byteIdx eq
    rw [String.toList_append, ← byteLength_toList]
    exact ⟨_, splitBytes?_append _ _⟩

/-! ## Scans -/

/-- A scan of a text, from a byte offset on, which it moves. It ends in a value or in a syntax error, or
gives nothing: a slice or a loop was refused. -/
abbrev Scanner := ReaderT (List Char) (StateT Nat (ExceptT SyntaxError Option))

namespace Scanner

variable {α β : Type}

theorem run_bind (x : Scanner α) (f : α → Scanner β) (text : List Char) (pos : Nat) :
    (x >>= f) text pos = @Option.bind (Except SyntaxError (α × Nat)) _ (x text pos) fun
      | .ok (a, pos) => f a text pos
      | .error e => some (.error e) := by
  show @Option.bind (Except SyntaxError (α × Nat)) _ (x text pos) _ = _
  congr 1
  funext outcome
  rcases outcome with e | ⟨a, pos⟩ <;> rfl

/-- Nothing. -/
def refuse : Scanner α := fun _ _ => none

/-- How many turns a loop may take: one for each character, and one to see the end. -/
def turns : Scanner Nat := do return (← read).length + 1

/-- The first `n` bytes of a text, and the others, unless `n` is inside a character. -/
def split (n : Nat) (s : List Char) : Scanner (List Char × List Char) := fun _ pos =>
  (splitBytes? n s).map fun parts => .ok (parts, pos)

/-- The slice of the text from the offset on. -/
def ahead : Scanner (List Char) := do
  let parts ← split (← get) (← read)
  return parts.2

/-- The slice of the text from `start` to the offset. -/
def slice (start : Nat) : Scanner (List Char) := do
  let parts ← split (← get) (← read)
  let parts ← split start parts.1
  return parts.2

/-- The next character. -/
def peek : Scanner (Option Char) := do return (← ahead).head?

/-- The next character, which is moved over. -/
def bump : Scanner (Option Char) := do
  match ← peek with
  | none => return none
  | some c => do
      modify (· + c.utf8Size)
      return some c

/-- Ends in a syntax error at `start`. -/
def stopAt (start : Nat) (cause : Cause) : Scanner α := throw ⟨cause, start, false⟩

/-- Ends in a syntax error here. -/
def stop (cause : Cause) : Scanner α := do stopAt (← get) cause

/-- Moves over characters with a property in that many turns. -/
def skipWhileIn (p : Char → Bool) : Nat → Scanner Unit
  | 0 => refuse
  | n + 1 => do
      match ← peek with
      | none => return
      | some c => if p c then do let _ ← bump; skipWhileIn p n else return

/-- Moves over the characters with a property. -/
def skipWhile (p : Char → Bool) : Scanner Unit := do skipWhileIn p (← turns)

/-- Moves over the character that must come next. -/
def expect (c : Char) (otherwise : Cause) : Scanner Unit := do
  match ← peek with
  | none => stop .unclosedArgument
  | some d =>
      if d = c then do
        let _ ← bump
        return
      else stop otherwise

/-- The longest word here, which is moved over. -/
def word : Scanner (List Char) := do
  let start ← get
  skipWhile isWordChar
  slice start

/-! ## Arguments -/

/-- Moves over a style, up to the closing brace or the end, in that many turns. -/
def skipStyle : Nat → Scanner Unit
  | 0 => refuse
  | n + 1 => do
      match ← peek with
      | none => return
      | some c =>
          if c = '}' then return
          else if c = '{' then stop .malformedArgument
          else do let _ ← bump; skipStyle n

/-- The style of a formatted argument. -/
def style : Scanner (Option String) := do
  match ← peek with
  | none => stop .unclosedArgument
  | some c =>
      if c = '}' then do
        let _ ← bump
        return none
      else if c = ',' then do
        let _ ← bump
        let start ← get
        skipStyle (← turns)
        let text := trimBlank (← slice start)
        if text.isEmpty then stop .expectedArgumentStyle
        else do
          expect '}' .unclosedArgument
          return some (.ofList text)
      else stop .malformedArgument

/-- What the offset of a plural starts with. -/
def offsetKeyword : List Char := "offset:".toList

/-- The offset of a plural. -/
def pluralOffset : Scanner Int := do
  if offsetKeyword.isPrefixOf (← ahead) then do
    modify (· + byteLength offsetKeyword)
    skipWhile isBlank
    match integer? (← word) with
    | some offset => return offset
    | none => stop .invalidOffset
  else return 0

/-- The typed argument `name`, from its type on. -/
def typed (name : String) : Scanner Opening := do
  let start ← get
  let type ← word
  if type.isEmpty then stop .expectedArgumentType
  else do
    skipWhile isBlank
    match ValueFormat.ofKeyword? (.ofList type) with
    | some format => return .element (.formatted name format (← style))
    | none =>
        if String.ofList type = "plural" ∨ String.ofList type = "selectordinal" then do
          expect ',' .malformedArgument
          skipWhile isBlank
          return .plural name (String.ofList type = "selectordinal") (← pluralOffset)
        else if String.ofList type = "select" then do
          expect ',' .malformedArgument
          return .select name
        else stopAt start (.invalidArgumentType (.ofList type))

/-- What an opening brace begins, from behind the brace on. -/
def opening : Scanner Opening := do
  skipWhile isBlank
  let name ← word
  if name.isEmpty then do
    match ← peek with
    | none => stop .unclosedArgument
    | some c => if c = '}' then stop .emptyArgument else stop .malformedArgument
  else do
    skipWhile isBlank
    match ← peek with
    | none => stop .unclosedArgument
    | some c =>
        if c = '}' then do
          let _ ← bump
          return .element (.argument (.ofList name))
        else if c = ',' then do
          let _ ← bump
          skipWhile isBlank
          typed (.ofList name)
        else stop .malformedArgument

/-! ## Elements and branches -/

/-- The literal text with the rest of a quoted run behind it, in that many turns. -/
def quotedRun : Nat → (text : List Char) → Scanner (List Char)
  | 0, _ => refuse
  | n + 1, text => do
      match ← bump with
      | none => return text
      | some c =>
          if c = '\'' then do
            if (← peek) = some '\'' then do
              let _ ← bump
              quotedRun n (text ++ ['\''])
            else return text
          else quotedRun n (text ++ [c])

/-- The literal text with what an apostrophe means behind it. -/
def apostrophe (inPlural : Bool) (text : List Char) : Scanner (List Char) := do
  let _ ← bump
  match ← peek with
  | none => return text ++ ['\'']
  | some c =>
      if c = '\'' then do
        let _ ← bump
        return text ++ ['\'']
      else if isSpecial inPlural c then quotedRun (← turns) text
      else return text ++ ['\'']

/-- The element of an argument, from its opening brace on, with the scan of its branches. -/
def argument (branches : (inPlural restricted : Bool) → Scanner (List Branch)) (inPlural : Bool) :
    Scanner Element := do
  let _ ← bump
  match ← opening with
  | .element e => return e
  | .plural name ordinal offset => return .plural name ordinal offset (← branches true true)
  | .select name => return .select name (← branches inPlural false)

mutual
/-- The elements here, behind literal text, in that many turns. -/
def elements : Nat → (nested inPlural : Bool) → (text : List Char) → Scanner (List Element)
  | 0, _, _, _ => refuse
  | n + 1, nested, inPlural, text => do
      match ← peek with
      | none => return withLiteral text []
      | some c =>
          if c = '{' then do
            let e ← argument (fun inPlural restricted => branches n inPlural restricted []) inPlural
            let es ← elements n nested inPlural []
            return withLiteral text (e :: es)
          else if c = '}' then
            if nested then return withLiteral text [] else stop .unmatchedClosingBrace
          else if inPlural && c == '#' then do
            let _ ← bump
            let es ← elements n nested inPlural []
            return withLiteral text (.pound :: es)
          else if c = '\'' then do
            let text ← apostrophe inPlural text
            elements n nested inPlural text
          else do
            let _ ← bump
            elements n nested inPlural (text ++ [c])

/-- The branches up to the closing brace of their element, behind those with the selectors `seen`, in that
many turns. -/
def branches : Nat → (inPlural restricted : Bool) → (seen : List String) → Scanner (List Branch)
  | 0, _, _, _ => refuse
  | n + 1, inPlural, restricted, seen => do
      skipWhile isBlank
      match ← peek with
      | none => stop .unclosedArgument
      | some c =>
          if c = '}' then do
            let _ ← bump
            if seen.isEmpty then stop .expectedSelector
            else if !seen.contains "other" then stop .missingOtherBranch
            else return []
          else do
            let start ← get
            let text ← word
            let selector := String.ofList text
            if text.isEmpty then stop .expectedSelector
            else if restricted && !isPluralSelector selector then
              stopAt start (.invalidPluralSelector selector)
            else if seen.contains selector then stopAt start (.duplicateSelector selector)
            else do
              skipWhile isBlank
              expect '{' .expectedBranchBody
              let es ← elements n true inPlural []
              expect '}' .unclosedArgument
              let bs ← branches n inPlural restricted (selector :: seen)
              return (selector, es) :: bs
end

end Scanner

/-- Reads a text as a message by byte offsets. -/
def scan (text : String) : Option (Except SyntaxError (List Element)) :=
  (((Scanner.elements (text.length + 1) false false []).run text.toList).run' 0).run

end MessageExtraction.Message
