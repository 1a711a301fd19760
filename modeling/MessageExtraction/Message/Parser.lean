import MessageExtraction.Message.Basic
import MessageExtraction.Message.Error
import MessageExtraction.Text.Blank

/-!
# Reading messages

`Message.parse` reads a text as a message.

- `{name}` is an argument, `{name, number, style}` a formatted one.
- `{name, plural, offset:1 =0 {…} other {…}}` and `{name, select, …}` branch; one branch is `other`.
- `#` stands for the number inside a plural and is plain text elsewhere.
- Two apostrophes are one apostrophe. An apostrophe before a special character opens a quoted run,
  which lasts until the next single apostrophe or the end. Any other apostrophe is plain text.

Each reader takes the characters that are left and gives what it read with the characters that are left
then, never more than before. A failure names the characters left where it arose, so its offset is the
size of what stands before them.
-/

namespace MessageExtraction.Message

open MessageExtraction.Text

/-- The characters left after reading from `s`. -/
abbrev Rest (s : List Char) := { r : List Char // r.length ≤ s.length }

/-- A failure: its cause, and the characters left at the place it speaks of. -/
structure Failure where
  cause : Cause
  rest : List Char
deriving DecidableEq, Repr

/-! ## Words, blanks and numbers -/

/-- A character of names, types and selectors. -/
def isWordChar (c : Char) : Bool :=
  !isBlank c && c != '{' && c != '}' && c != ',' && c != '#' && c != '\''

/-- The longest word at the front. -/
def word (s : List Char) : List Char := s.takeWhile isWordChar

/-- What stands after the longest word at the front. -/
def afterWord (s : List Char) : List Char := s.dropWhile isWordChar

/-- What stands after the blanks at the front. -/
def afterBlank (s : List Char) : List Char := s.dropWhile isBlank

theorem afterWord_length_le (s : List Char) : (afterWord s).length ≤ s.length :=
  (List.dropWhile_suffix _).length_le

theorem afterBlank_length_le (s : List Char) : (afterBlank s).length ≤ s.length :=
  (List.dropWhile_suffix _).length_le

/-- The value of a row of decimal digits, none if there is no digit or another character. -/
def digits? : List Char → Option Nat
  | [] => none
  | ds => if ds.all Char.isDigit then some (ds.foldl (fun n d => 10 * n + (d.toNat - 48)) 0) else none

/-- A signed decimal number in the range of 64-bit integers. -/
def integer? (s : List Char) : Option Int := do
  let i : Int ← match s with
    | '-' :: ds => (digits? ds).map fun n => -(n : Int)
    | '+' :: ds => (digits? ds).map fun n => (n : Int)
    | ds => (digits? ds).map fun n => (n : Int)
  if -9223372036854775808 ≤ i ∧ i ≤ 9223372036854775807 then some i else none

/-- The keywords that select a branch of a plural by category. -/
def pluralKeywords : List String := ["zero", "one", "two", "few", "many", "other"]

/-- A plural is selected by `=` and a number, or by a category. -/
def isPluralSelector (selector : String) : Bool :=
  match selector.toList with
  | '=' :: ds => !ds.isEmpty && ds.all Char.isDigit
  | _ => pluralKeywords.contains selector

/-! ## Literal text -/

/-- A character that means something unless it is quoted: a brace, and the pound sign inside a plural. -/
def isSpecial (inPlural : Bool) (c : Char) : Bool :=
  c == '{' || c == '}' || (inPlural && c == '#')

/-- The literal text at the front, with what stands after it: the end or a special character. The flag
`quoted` says that reading is inside a quoted run. -/
def literal (inPlural : Bool) : (quoted : Bool) → List Char → List Char × List Char
  | _, [] => ([], [])
  | quoted, '\'' :: '\'' :: r =>
      let (text, rest) := literal inPlural quoted r
      ('\'' :: text, rest)
  | true, '\'' :: r => literal inPlural false r
  | true, c :: r =>
      let (text, rest) := literal inPlural true r
      (c :: text, rest)
  | false, '\'' :: c :: r =>
      if isSpecial inPlural c then
        let (text, rest) := literal inPlural true r
        (c :: text, rest)
      else
        let (text, rest) := literal inPlural false (c :: r)
        ('\'' :: text, rest)
  | false, c :: r =>
      if isSpecial inPlural c then ([], c :: r) else
        let (text, rest) := literal inPlural false r
        (c :: text, rest)

theorem literal_length_le (inPlural quoted : Bool) (s : List Char) :
    (literal inPlural quoted s).2.length ≤ s.length := by
  fun_induction literal inPlural quoted s <;> simp_all <;> omega

/-- Puts literal text, if there is any, in front of a message. -/
def withLiteral (text : List Char) (es : List Element) : List Element :=
  if text.isEmpty then es else .literal (String.ofList text) :: es

/-! ## Arguments -/

/-- What an opening brace begins: a whole element, or a branching form whose branches follow. -/
inductive Opening where
  | element (e : Element)
  | plural (name : String) (ordinal : Bool) (offset : Int)
  | select (name : String)
deriving DecidableEq

/-- What is left of `s` after the character `c`, which must come next. -/
def expect (c : Char) (otherwise : Cause) : List Char → Except Failure (List Char)
  | [] => .error ⟨.unclosedArgument, []⟩
  | d :: r => if d = c then .ok r else .error ⟨otherwise, d :: r⟩

/-- The style of a formatted argument, with what stands after the closing brace. A style is any text
without braces that is not blank; the blanks around it do not belong to it. -/
def style : List Char → Except Failure (Option String × List Char)
  | [] => .error ⟨.unclosedArgument, []⟩
  | '}' :: r => .ok (none, r)
  | ',' :: r =>
      let inStyle := fun c => c != '{' && c != '}'
      let text := trimBlank (r.takeWhile inStyle)
      match r.dropWhile inStyle with
      | '{' :: r => .error ⟨.malformedArgument, '{' :: r⟩
      | [] => .error ⟨if text.isEmpty then .expectedArgumentStyle else .unclosedArgument, []⟩
      | c :: r =>
          if text.isEmpty then .error ⟨.expectedArgumentStyle, c :: r⟩
          else .ok (some (String.ofList text), r)
  | s => .error ⟨.malformedArgument, s⟩

/-- The offset of a plural, zero where none is written. -/
def pluralOffset : List Char → Except Failure (Int × List Char)
  | 'o' :: 'f' :: 'f' :: 's' :: 'e' :: 't' :: ':' :: r =>
      let r := afterBlank r
      match integer? (word r) with
      | some offset => .ok (offset, afterWord r)
      | none => .error ⟨.invalidOffset, afterWord r⟩
  | s => .ok (0, s)

/-- The typed argument `name`, from its type on. -/
def typed (name : String) (s : List Char) : Except Failure (Opening × List Char) :=
  let type := String.ofList (word s)
  let r := afterBlank (afterWord s)
  if (word s).isEmpty then .error ⟨.expectedArgumentType, s⟩ else
    match ValueFormat.ofKeyword? type with
    | some format => do
        let (style, r) ← style r
        .ok (.element (.formatted name format style), r)
    | none =>
        if type = "plural" ∨ type = "selectordinal" then do
          let r ← expect ',' .malformedArgument r
          let (offset, r) ← pluralOffset (afterBlank r)
          .ok (.plural name (type = "selectordinal") offset, r)
        else if type = "select" then do
          let r ← expect ',' .malformedArgument r
          .ok (.select name, r)
        else .error ⟨.invalidArgumentType type, s⟩

/-- What an opening brace begins, from behind the brace on. -/
def opening (s : List Char) : Except Failure (Opening × List Char) :=
  let s := afterBlank s
  let name := String.ofList (word s)
  if (word s).isEmpty then
    match s with
    | [] => .error ⟨.unclosedArgument, []⟩
    | '}' :: r => .error ⟨.emptyArgument, '}' :: r⟩
    | s => .error ⟨.malformedArgument, s⟩
  else
    match afterBlank (afterWord s) with
    | [] => .error ⟨.unclosedArgument, []⟩
    | '}' :: r => .ok (.element (.argument name), r)
    | ',' :: r => typed name (afterBlank r)
    | r => .error ⟨.malformedArgument, r⟩

theorem expect_length {c : Char} {k : Cause} {s r : List Char} (h : expect c k s = .ok r) :
    r.length < s.length := by
  unfold expect at h
  split at h <;> try contradiction
  split at h <;> cases h
  simp

theorem style_length {s r : List Char} {x : Option String} (h : style s = .ok (x, r)) :
    r.length ≤ s.length := by
  unfold style at h
  split at h
  · contradiction
  · cases h; simp
  · rename_i t
    have suffix := (List.dropWhile_suffix (l := t) fun c => c != '{' && c != '}').length_le
    simp only at h
    split at h
    · contradiction
    · contradiction
    · rename_i eq
      split at h <;> cases h
      simp_all only [List.length_cons]
      omega
  · contradiction

theorem pluralOffset_length {s r : List Char} {i : Int} (h : pluralOffset s = .ok (i, r)) :
    r.length ≤ s.length := by
  unfold pluralOffset at h
  split at h
  · rename_i t
    simp only at h
    split at h <;> cases h
    have := afterWord_length_le (afterBlank t)
    have := afterBlank_length_le t
    simp only [List.length_cons]
    omega
  · cases h; exact Nat.le_refl _

theorem typed_length {name : String} {s r : List Char} {o : Opening}
    (h : typed name s = .ok (o, r)) : r.length ≤ s.length := by
  have blank := afterBlank_length_le (afterWord s)
  have word := afterWord_length_le s
  unfold typed at h
  simp only [bind, Except.bind] at h
  split at h <;> try contradiction
  split at h
  · split at h <;> cases h
    rename_i eq
    have := style_length eq
    omega
  · split at h
    · split at h <;> try contradiction
      rename_i eq
      split at h <;> cases h
      rename_i eq'
      have := expect_length eq
      have := pluralOffset_length eq'
      have := afterBlank_length_le ‹List Char›
      grind
    · split at h <;> try contradiction
      split at h <;> cases h
      rename_i eq
      have := expect_length eq
      omega

theorem opening_length {s r : List Char} {o : Opening} (h : opening s = .ok (o, r)) :
    r.length ≤ s.length := by
  have blank := afterBlank_length_le s
  have word := afterWord_length_le (afterBlank s)
  have blank' := afterBlank_length_le (afterWord (afterBlank s))
  unfold opening at h
  simp only at h
  split at h
  · split at h <;> contradiction
  · split at h
    · contradiction
    · cases h
      simp_all only [List.length_cons]
      omega
    · have := typed_length h
      have := afterBlank_length_le ‹List Char›
      simp_all only [List.length_cons]
      omega
    · contradiction

/-! ## Elements and branches -/

mutual
/-- The elements up to the end, or up to the closing brace of the branch they are `nested` in. -/
def elements (nested inPlural : Bool) (s : List Char) :
    Except Failure (List Element × Rest s) :=
  have bound := literal_length_le inPlural false s
  match read : literal inPlural false s with
  | (text, []) => .ok (withLiteral text [], ⟨[], by simp⟩)
  | (text, '}' :: r) =>
      if nested then .ok (withLiteral text [], ⟨'}' :: r, by simpa [read] using bound⟩)
      else .error ⟨.unmatchedClosingBrace, '}' :: r⟩
  | (text, '{' :: r) =>
      match opened : opening r with
      | .error e => .error e
      | .ok (.element e, r₁) => do
          let (es, r₂) ← elements nested inPlural r₁
          .ok (withLiteral text (e :: es), ⟨r₂.1, by
            have := opening_length opened; have := r₂.2; simp [read] at bound; omega⟩)
      | .ok (.plural name ordinal offset, r₁) => do
          let (bs, r₂) ← branches true true [] r₁
          let (es, r₃) ← elements nested inPlural r₂.1
          .ok (withLiteral text (.plural name ordinal offset bs :: es), ⟨r₃.1, by
            have := opening_length opened; have := r₂.2; have := r₃.2
            simp [read] at bound; omega⟩)
      | .ok (.select name, r₁) => do
          let (bs, r₂) ← branches inPlural false [] r₁
          let (es, r₃) ← elements nested inPlural r₂.1
          .ok (withLiteral text (.select name bs :: es), ⟨r₃.1, by
            have := opening_length opened; have := r₂.2; have := r₃.2
            simp [read] at bound; omega⟩)
  | (text, _ :: r) => do
      let (es, r₁) ← elements nested inPlural r
      .ok (withLiteral text (.pound :: es), ⟨r₁.1, by
        have := r₁.2; simp [read] at bound; omega⟩)
termination_by s.length
decreasing_by
  · have := opening_length opened; simp [read] at bound; omega
  · have := opening_length opened; simp [read] at bound; omega
  · have := opening_length opened; have := r₂.2; simp [read] at bound; omega
  · have := opening_length opened; simp [read] at bound; omega
  · have := opening_length opened; have := r₂.2; simp [read] at bound; omega
  · simp [read] at bound; omega

/-- The branches up to the closing brace of their element and past it. `restricted` says that only the
selectors of plurals will do; `seen` are the selectors before. -/
def branches (inPlural restricted : Bool) (seen : List String) (s : List Char) :
    Except Failure (List Branch × Rest s) :=
  have bound := afterBlank_length_le s
  match start : afterBlank s with
  | [] => .error ⟨.unclosedArgument, []⟩
  | '}' :: r =>
      if seen.isEmpty then .error ⟨.expectedSelector, r⟩
      else if !seen.contains "other" then .error ⟨.missingOtherBranch, r⟩
      else .ok ([], ⟨r, by simp [start] at bound; omega⟩)
  | c :: r =>
      let selector := String.ofList (word (c :: r))
      if (word (c :: r)).isEmpty then .error ⟨.expectedSelector, c :: r⟩
      else if restricted && !isPluralSelector selector then
        .error ⟨.invalidPluralSelector selector, c :: r⟩
      else if seen.contains selector then .error ⟨.duplicateSelector selector, c :: r⟩
      else
        have bound₁ := afterWord_length_le (c :: r)
        have bound₂ := afterBlank_length_le (afterWord (c :: r))
        match body : expect '{' .expectedBranchBody (afterBlank (afterWord (c :: r))) with
        | .error e => .error e
        | .ok r₁ => do
            let (es, r₂) ← elements true inPlural r₁
            match close : expect '}' .unclosedArgument r₂.1 with
            | .error e => .error e
            | .ok r₃ => do
                let (bs, r₄) ← branches inPlural restricted (selector :: seen) r₃
                .ok ((selector, es) :: bs, ⟨r₄.1, by
                  have := expect_length body; have := r₂.2; have := expect_length close
                  have := r₄.2; simp_all; omega⟩)
termination_by s.length
decreasing_by
  · have := expect_length body; simp_all; omega
  · have := expect_length body; have := r₂.2; have := expect_length close; simp_all; omega
end

/-! ## Whole messages -/

/-- The size of a text in UTF-8 bytes. -/
def byteLength (s : List Char) : Nat := s.foldr (fun c n => c.utf8Size + n) 0

/-- The syntax error of a failure while reading `text`. -/
def Failure.toError (f : Failure) (text : List Char) : SyntaxError :=
  ⟨f.cause, byteLength text - byteLength f.rest, false⟩

/-- Reads a text as a message. -/
def parse (text : String) : Except SyntaxError (List Element) :=
  match elements false false text.toList with
  | .ok (es, _) => .ok es
  | .error f => .error (f.toError text.toList)

end MessageExtraction.Message
