import Mathlib.Data.List.TakeWhile
import MessageExtraction.Json.Printer
import MessageExtraction.Json.Reader

/-!
# JSON texts read back

What is written over several lines is read as it was, blanks behind it included.

* `stringBody_quote`: a quoted text is read as the text.
* `Reads`, `ReadsItems`, `ReadsFields`: what a reader makes of the front of a text, with a rule for each form.
* `reads_prettyChars`: a value is read back in front of anything that does not continue a number.
* `parse?_pretty`: so the text of a value is read as the value.
-/

namespace MessageExtraction.Json

variable {s r rest : List Char}

/-! ## Strings -/

theorem hexValue?_hexDigit : ∀ n < 16, hexValue? (hexDigit n) = some n := by decide

theorem toNat_not_surrogate (c : Char) : ¬ (0xD800 ≤ c.toNat ∧ c.toNat < 0xE000) := by
  have valid := c.valid
  simp only [UInt32.isValidChar, Nat.isValidChar] at valid
  have : c.toNat = c.val.toNat := rfl
  omega

/-- The codes of characters name the characters. -/
theorem ofCodes?_map_toNat (cs : List Char) : ofCodes? (cs.map Char.toNat) = some cs := by
  induction cs with
  | nil => rfl
  | cons c cs ih =>
    cases cs with
    | nil => rw [List.map_cons, List.map_nil, ofCodes?, if_neg (toNat_not_surrogate c), Char.ofNat_toNat]
    | cons d cs =>
      rw [List.map_cons, List.map_cons, ofCodes?, if_neg (toNat_not_surrogate c), ← List.map_cons, ih,
        Option.map_some, Char.ofNat_toNat]

/-- What stands at the front of a string adds a code to those of the rest. -/
def addCode (c : Char) (s : List Char) : Option (List Nat × List Char) :=
  (stringCodes s).map fun (codes, rest) => (c.toNat :: codes, rest)

theorem addCode_eq_bind (c : Char) (s : List Char) :
    addCode c s = (stringCodes s).bind fun read => some (c.toNat :: read.1, read.2) :=
  Option.map_eq_bind

theorem stringCodes_escaped {c d : Char} (h : escaped? d = some c) (s : List Char) :
    stringCodes ('\\' :: d :: s) = addCode c s := by
  have : d ≠ 'u' := by
    rintro rfl
    cases h
  simp [stringCodes, this, h, addCode_eq_bind]

theorem stringCodes_unicode {c : Char} (h : c.toNat < 0x20) (s : List Char) :
    stringCodes ('\\' :: 'u' :: '0' :: '0' :: hexDigit (c.toNat / 16) :: hexDigit (c.toNat % 16) :: s)
      = addCode c s := by
  have high := hexValue?_hexDigit (c.toNat / 16) (by omega)
  have low := hexValue?_hexDigit (c.toNat % 16) (by omega)
  have zero : hexValue? '0' = some 0 := rfl
  have whole : c.toNat / 16 * 16 + c.toNat % 16 = c.toNat := by omega
  simp [stringCodes, hex4?, high, low, zero, whole, addCode_eq_bind]

theorem stringCodes_plain {c : Char} (quote : c ≠ '"') (slash : c ≠ '\\') (h : ¬ c.toNat < 0x20)
    (s : List Char) : stringCodes (c :: s) = addCode c s := by
  simp [stringCodes, slash, h, addCode_eq_bind]

/-- A character is read back from inside a quoted string. -/
theorem stringCodes_escapeChar (c : Char) (s : List Char) :
    stringCodes (escapeChar c ++ s) = addCode c s := by
  have named {n : Nat} (eq : c.toNat = n) : some (Char.ofNat n) = some c := by rw [← eq, Char.ofNat_toNat]
  unfold escapeChar
  split
  · exact stringCodes_escaped (by simp_all [escaped?]) s
  split
  · exact stringCodes_escaped (by simp_all [escaped?]) s
  split
  · exact stringCodes_escaped (d := 'b') (named ‹_›) s
  split
  · exact stringCodes_escaped (d := 'f') (named ‹_›) s
  split
  · exact stringCodes_escaped (by simp_all [escaped?]) s
  split
  · exact stringCodes_escaped (by simp_all [escaped?]) s
  split
  · exact stringCodes_escaped (by simp_all [escaped?]) s
  split
  · exact stringCodes_unicode ‹_› s
  · exact stringCodes_plain ‹_› ‹_› ‹_› s

/-- A quoted text is read as the text, from behind its opening quote on. -/
theorem stringBody_quote (text : String) (rest : List Char) :
    stringBody (text.toList.flatMap escapeChar ++ '"' :: rest) = some (some text.toList, rest) := by
  have codes (cs : List Char) :
      stringCodes (cs.flatMap escapeChar ++ '"' :: rest) = some (cs.map Char.toNat, rest) := by
    induction cs with
    | nil => rfl
    | cons c cs ih =>
      rw [List.flatMap_cons, List.append_assoc, stringCodes_escapeChar, addCode, ih]
      rfl
  rw [stringBody, codes, Option.map_some]
  dsimp only
  rw [ofCodes?_map_toNat]

/-! ## What readers make of a text -/

/-- Whether a value stands at the front of a text, with what follows it. -/
def Reads (s : List Char) (j : Json) (rest : List Char) : Prop :=
  ∃ r, value s = some (j, r) ∧ r.1 = rest

/-- Whether items and a closing bracket stand at the front of a text, with what follows them. -/
def ReadsItems (s : List Char) (js : List Json) (rest : List Char) : Prop :=
  ∃ r, items s = some (js, r) ∧ r.1 = rest

/-- Whether fields and a closing brace stand at the front of a text, with what follows them. -/
def ReadsFields (s : List Char) (fs : List (Option String × Json)) (rest : List Char) : Prop :=
  ∃ r, fields s = some (fs, r) ∧ r.1 = rest

variable {j : Json} {js : List Json} {key : Option (List Char)} {name : Option String}
  {fs : List (Option String × Json)}

theorem Reads.string {text : Option (List Char)} (body : stringBody s = some (text, rest)) :
    Reads ('"' :: s) (text.elim .unreadable fun t => .string (String.ofList t)) rest := by
  rw [Reads, value]
  split
  · rename_i none
    rw [body] at none
    cases none
  · rename_i text' rest' some
    rw [body] at some
    cases some
    exact ⟨_, rfl, rfl⟩

theorem Reads.emptyArray (close : afterBlank s = ']' :: rest) : Reads ('[' :: s) (.array []) rest := by
  rw [Reads, value]
  split
  · rename_i r' eq
    rw [close] at eq
    cases eq
    exact ⟨_, rfl, rfl⟩
  · rename_i other
    exact absurd close (other rest)

theorem Reads.array (read : ReadsItems s js rest) (open' : ∀ r, afterBlank s ≠ ']' :: r) :
    Reads ('[' :: s) (.array js) rest := by
  obtain ⟨shorter, eq, rfl⟩ := read
  rw [Reads, value]
  split
  · rename_i r' close
    exact absurd close (open' r')
  · rw [eq]
    exact ⟨_, rfl, rfl⟩

theorem Reads.emptyObject (close : afterBlank s = '}' :: rest) :
    Reads ('{' :: s) (.object []) rest := by
  rw [Reads, value]
  split
  · rename_i r' eq
    rw [close] at eq
    cases eq
    exact ⟨_, rfl, rfl⟩
  · rename_i other
    exact absurd close (other rest)

theorem Reads.object (read : ReadsFields s fs rest) (open' : ∀ r, afterBlank s ≠ '}' :: r) :
    Reads ('{' :: s) (ofFields fs) rest := by
  obtain ⟨shorter, eq, rfl⟩ := read
  rw [Reads, value]
  split
  · rename_i r' close
    exact absurd close (open' r')
  · rw [eq]
    exact ⟨_, rfl, rfl⟩

theorem ReadsItems.last (read : Reads (afterBlank s) j r) (close : afterBlank r = ']' :: rest) :
    ReadsItems s [j] rest := by
  obtain ⟨shorter, eq, rfl⟩ := read
  rw [ReadsItems, items, eq, Option.bind_eq_bind, Option.bind_some]
  dsimp only
  split
  · rename_i eq'
    rw [close] at eq'
    cases eq'
    exact ⟨_, rfl, rfl⟩
  · rename_i eq'
    rw [close] at eq'
    cases eq'
  · rename_i other _
    exact absurd close (other rest)

theorem ReadsItems.cons {r' : List Char} (read : Reads (afterBlank s) j r)
    (comma : afterBlank r = ',' :: r') (more : ReadsItems r' js rest) :
    ReadsItems s (j :: js) rest := by
  obtain ⟨shorter, eq, rfl⟩ := read
  obtain ⟨shorter', eq', rfl⟩ := more
  rw [ReadsItems, items, eq, Option.bind_eq_bind, Option.bind_some]
  dsimp only
  split
  · rename_i close
    rw [comma] at close
    cases close
  · rename_i found
    rw [comma] at found
    cases found
    rw [eq']
    exact ⟨_, rfl, rfl⟩
  · rename_i _ other
    exact absurd comma (other r')

theorem readsFields_iff :
    ReadsFields s fs rest ↔ (fields s).map (fun found => (found.1, found.2.1)) = some (fs, rest) := by
  rw [ReadsFields, Option.map_eq_some_iff]
  constructor
  · rintro ⟨shorter, eq, rfl⟩
    exact ⟨_, eq, rfl⟩
  · rintro ⟨⟨_, shorter⟩, eq, same⟩
    cases same
    exact ⟨shorter, eq, rfl⟩

/-- Behind the first field, the next character says whether there are more. -/
theorem fields_front {r₁ r₂ r₃ r₄ r₅ : List Char} {c : Char} (start : afterBlank s = '"' :: r₁)
    (body : stringBody r₁ = some (key, r₂)) (named : key.map String.ofList = name)
    (colon : afterBlank r₂ = ':' :: r₃) (read : Reads (afterBlank r₃) j r₄)
    (next : afterBlank r₄ = c :: r₅) :
    (fields s).map (fun found => (found.1, found.2.1))
      = if c = '}' then some ([(name, j)], r₅)
        else if c = ',' then (fields r₅).map fun found => ((name, j) :: found.1, found.2.1)
        else none := by
  subst named
  obtain ⟨shorter, eq, rfl⟩ := read
  rw [fields]
  split
  case h_2 other => exact absurd start (other r₁)
  rename_i r₁' found
  obtain rfl : r₁ = r₁' := by simpa [start] using found
  split
  · rename_i none
    rw [body] at none
    cases none
  rename_i key' r₂' found
  obtain ⟨rfl, rfl⟩ : key = key' ∧ r₂ = r₂' := by simpa [body] using found
  split
  case h_2 other => exact absurd colon (other r₃)
  rename_i r₃' found
  obtain rfl : r₃ = r₃' := by simpa [colon] using found
  rw [eq, Option.bind_eq_bind, Option.bind_some]
  dsimp only
  split
  · rename_i close
    rw [next] at close
    cases close
    rfl
  · rename_i comma
    rw [next] at comma
    cases comma
    rw [if_neg (by decide), if_pos rfl]
    cases fields r₅ <;> rfl
  · rename_i brace comma
    have apart : c ≠ '}' ∧ c ≠ ',' :=
      ⟨fun same => brace r₅ (next.trans (same ▸ rfl)), fun same => comma r₅ (next.trans (same ▸ rfl))⟩
    rw [if_neg apart.1, if_neg apart.2]
    rfl

theorem ReadsFields.last {r₁ r₂ r₃ r₄ : List Char} (start : afterBlank s = '"' :: r₁)
    (body : stringBody r₁ = some (key, r₂)) (named : key.map String.ofList = name)
    (colon : afterBlank r₂ = ':' :: r₃)
    (read : Reads (afterBlank r₃) j r₄) (close : afterBlank r₄ = '}' :: rest) :
    ReadsFields s [(name, j)] rest := by
  rw [readsFields_iff, fields_front start body named colon read close, if_pos rfl]

theorem ReadsFields.cons {r₁ r₂ r₃ r₄ r₅ : List Char} (start : afterBlank s = '"' :: r₁)
    (body : stringBody r₁ = some (key, r₂)) (named : key.map String.ofList = name)
    (colon : afterBlank r₂ = ':' :: r₃)
    (read : Reads (afterBlank r₃) j r₄) (comma : afterBlank r₄ = ',' :: r₅)
    (more : ReadsFields r₅ fs rest) :
    ReadsFields s ((name, j) :: fs) rest := by
  obtain ⟨shorter, eq, rfl⟩ := more
  rw [readsFields_iff, fields_front start body named colon read comma, if_neg (by decide), if_pos rfl, eq]
  rfl

theorem Reads.null : Reads ("null".toList ++ rest) .null rest := by
  rw [Reads]
  show ∃ r, value ('n' :: 'u' :: 'l' :: 'l' :: rest) = _ ∧ _
  rw [value]
  exact ⟨_, rfl, rfl⟩

theorem Reads.bool (b : Bool) : Reads ((if b then "true" else "false").toList ++ rest) (.bool b) rest := by
  rw [Reads]
  cases b
  · show ∃ r, value ('f' :: 'a' :: 'l' :: 's' :: 'e' :: rest) = _ ∧ _
    rw [value]
    exact ⟨_, rfl, rfl⟩
  · show ∃ r, value ('t' :: 'r' :: 'u' :: 'e' :: rest) = _ ∧ _
    rw [value]
    exact ⟨_, rfl, rfl⟩

/-! ## Numbers -/

/-- Whether a text does not go on with a character of numbers. -/
def EndsNumber (rest : List Char) : Prop := ∀ c ∈ rest.head?, isNumberChar c = false

/-- Whether a row of characters of numbers leads from one text to another. -/
def Passes (s rest : List Char) : Prop := ∃ front, s = front ++ rest ∧ ∀ c ∈ front, isNumberChar c = true

theorem Passes.refl (s : List Char) : Passes s s := ⟨[], rfl, by simp⟩

theorem Passes.cons {c : Char} (h : isNumberChar c = true) (more : Passes s rest) :
    Passes (c :: s) rest := by
  obtain ⟨front, rfl, all⟩ := more
  exact ⟨c :: front, rfl, by simpa [h] using all⟩

theorem Passes.trans (first : Passes s r) (more : Passes r rest) : Passes s rest := by
  obtain ⟨front, rfl, all⟩ := first
  obtain ⟨front', rfl, all'⟩ := more
  refine ⟨front ++ front', (List.append_assoc ..).symm, fun c mem => ?_⟩
  exact (List.mem_append.mp mem).elim (all c) (all' c)

theorem passes_digits (h : afterDigits? s = some rest) : Passes s rest := by
  rw [afterDigits?.eq_def] at h
  split at h
  · cases h
  · rename_i c r
    split at h
    · rename_i digit
      cases h
      have number {d : Char} (h : d.isDigit = true) : isNumberChar d = true := by simp [isNumberChar, h]
      refine .cons (number digit) ⟨r.takeWhile Char.isDigit, List.takeWhile_append_dropWhile.symm, ?_⟩
      exact fun d mem => number (List.mem_takeWhile_imp mem)
    · cases h

theorem passes_fraction (h : afterFraction? s = some rest) : Passes s rest := by
  rw [afterFraction?.eq_def] at h
  split at h
  · exact .cons (by decide) (passes_digits h)
  · cases h
    exact .refl _

theorem passes_exponent (h : afterExponent? s = some rest) : Passes s rest := by
  rw [afterExponent?.eq_def] at h
  split at h
  · rename_i c r
    split at h
    · rename_i e
      refine .cons (by rcases e with rfl | rfl <;> decide) ?_
      split at h
      · exact .cons (by decide) (passes_digits h)
      · exact .cons (by decide) (passes_digits h)
      · exact passes_digits h
    · cases h
      exact .refl _
  · cases h
    exact .refl _

theorem passes_sign (s : List Char) : Passes s (match s with
    | '-' :: r => r
    | s => s) := by
  split
  · exact .cons (by decide) (.refl _)
  · exact .refl _

theorem passes_unsigned (h : (match s with
    | '0' :: r => afterFraction? r >>= afterExponent?
    | s => afterDigits? s >>= afterFraction? >>= afterExponent?) = some rest) : Passes s rest := by
  split at h
  · obtain ⟨r, fraction, exponent⟩ := Option.bind_eq_some_iff.mp h
    exact .cons (by decide) ((passes_fraction fraction).trans (passes_exponent exponent))
  · obtain ⟨r, integer, exponent⟩ := Option.bind_eq_some_iff.mp h
    obtain ⟨r', digits, fraction⟩ := Option.bind_eq_some_iff.mp integer
    exact (passes_digits digits).trans ((passes_fraction fraction).trans (passes_exponent exponent))

theorem passes_number (h : afterNumber? s = some rest) : Passes s rest :=
  (passes_sign s).trans (passes_unsigned h)

theorem all_of_isNumber {spelling : List Char} (h : isNumber spelling = true) :
    ∀ c ∈ spelling, isNumberChar c = true := by
  obtain ⟨front, eq, all⟩ := passes_number (beq_iff_eq.mp h)
  rwa [eq, List.append_nil]

/-- A text that starts with a character of numbers is read as a number, if it is anything. -/
theorem Reads.numeral (first : ∀ c ∈ s.head?, isNumberChar c = true)
    (h : isNumber (s.takeWhile isNumberChar) = true) :
    Reads s (.number (String.ofList (s.takeWhile isNumberChar))) (s.dropWhile isNumberChar) := by
  rw [Reads, value.eq_def]
  split
  case h_7 => rw [dif_pos h]; exact ⟨_, rfl, rfl⟩
  all_goals exact absurd (first _ rfl) (by decide)

theorem Reads.number {spelling : List Char} (h : isNumber spelling = true) (ends : EndsNumber rest) :
    Reads (spelling ++ rest) (.number (String.ofList spelling)) rest := by
  have all := all_of_isNumber h
  have taken : rest.takeWhile isNumberChar = [] ∧ rest.dropWhile isNumberChar = rest := by
    cases rest with
    | nil => exact ⟨rfl, rfl⟩
    | cons c r =>
      have other := ends c rfl
      simp [other]
  have front : (spelling ++ rest).takeWhile isNumberChar = spelling := by
    rw [List.takeWhile_append_of_pos all, taken.1, List.append_nil]
  have read := Reads.numeral (s := spelling ++ rest) ?_ (by rwa [front])
  · rwa [front, List.dropWhile_append_of_pos all, taken.2] at read
  · intro c head
    cases spelling with
    | nil => cases h
    | cons d spelling =>
      cases head
      exact all c List.mem_cons_self

/-! ## Blanks -/

theorem isBlank_of_isNumberChar {c : Char} (h : isNumberChar c = true) : isBlank c = false := by
  by_contra blank
  simp only [isBlank, Bool.not_eq_false, Bool.or_eq_true, beq_iff_eq] at blank
  rcases blank with ((rfl | rfl) | rfl) | rfl <;> cases h

theorem afterBlank_append (t : List Char) (h : ∀ c ∈ s, isBlank c = true) :
    afterBlank (s ++ t) = afterBlank t := List.dropWhile_append_of_pos h

theorem afterBlank_newLine (level : Nat) (t : List Char) :
    afterBlank (newLine level ++ t) = afterBlank t := by
  refine afterBlank_append t fun c mem => ?_
  rcases List.mem_cons.mp mem with rfl | mem
  · decide
  · rw [List.eq_of_mem_replicate mem]
    decide

theorem afterBlank_cons {c : Char} (h : isBlank c = false) (t : List Char) :
    afterBlank (c :: t) = c :: t := by
  rw [afterBlank, List.dropWhile_cons_of_neg (by simp [h])]

theorem afterBlank_line {c : Char} (h : isBlank c = false) (level : Nat) (t : List Char) :
    afterBlank (newLine level ++ c :: t) = c :: t := by
  rw [afterBlank_newLine, afterBlank_cons h]

theorem endsNumber_newLine (level : Nat) (t : List Char) : EndsNumber (newLine level ++ t) := by
  rintro c ⟨⟩
  decide

theorem endsNumber_comma (t : List Char) : EndsNumber (',' :: t) := by
  rintro c ⟨⟩
  decide

/-! ## Values -/

mutual
/-- Whether a value has a text: its numbers are spelled as numbers, and no part of it is unreadable. -/
def isSpelled : Json → Bool
  | .null | .bool _ | .string _ => true
  | .number spelling => isNumber spelling.toList
  | .unreadable => false
  | .array items => areSpelled items
  | .object fields => haveSpelled fields

/-- Whether all items have texts. -/
def areSpelled : List Json → Bool
  | [] => true
  | j :: js => j.isSpelled && areSpelled js

/-- Whether the values of all fields have texts. -/
def haveSpelled : List (String × Json) → Bool
  | [] => true
  | (_, j) :: fields => j.isSpelled && haveSpelled fields
end

/-- A value with a text starts neither with a blank nor with a closing bracket. -/
theorem exists_prettyChars_eq_cons (h : j.isSpelled = true) (level : Nat) :
    ∃ c r, prettyChars level j = c :: r ∧ isBlank c = false ∧ c ≠ ']' := by
  cases j with
  | null => exact ⟨_, _, rfl, by decide, by decide⟩
  | bool b => cases b <;> exact ⟨_, _, rfl, by decide, by decide⟩
  | number spelling =>
    rw [isSpelled] at h
    cases eq : spelling.toList with
    | nil => rw [eq] at h; cases h
    | cons c r =>
      have number := all_of_isNumber h c (by simp [eq])
      refine ⟨c, r, eq, ?_, ?_⟩
      · exact isBlank_of_isNumberChar number
      · rintro rfl
        cases number
  | string text => exact ⟨_, _, rfl, by decide, by decide⟩
  | unreadable => cases h
  | array items => cases items <;> exact ⟨_, _, rfl, by decide, by decide⟩
  | object fields => cases fields <;> exact ⟨_, _, rfl, by decide, by decide⟩

/-- A value is what follows the blanks before it. -/
theorem afterBlank_prettyChars (h : j.isSpelled = true) (level : Nat) (t : List Char) :
    afterBlank (prettyChars level j ++ t) = prettyChars level j ++ t := by
  obtain ⟨c, r, eq, blank, -⟩ := exists_prettyChars_eq_cons h level
  rw [eq, List.cons_append, afterBlank_cons blank]

theorem afterLine_prettyChars (h : j.isSpelled = true) (level inner : Nat) (t : List Char) :
    afterBlank (newLine level ++ (prettyChars inner j ++ t)) = prettyChars inner j ++ t := by
  rw [afterBlank_newLine, afterBlank_prettyChars h]

theorem afterSpace_prettyChars (h : j.isSpelled = true) (level : Nat) (t : List Char) :
    afterBlank (' ' :: (prettyChars level j ++ t)) = prettyChars level j ++ t := by
  rw [← List.singleton_append, afterBlank_append _ (List.all_eq_true.mp rfl), afterBlank_prettyChars h]

/-! ## Layout -/

theorem quote_append (text : String) (t : List Char) :
    quote text ++ t = '"' :: (text.toList.flatMap escapeChar ++ '"' :: t) := by
  rw [quote, List.cons_append, List.cons_append, List.append_assoc]
  rfl

theorem array_append (level : Nat) (j : Json) (js : List Json) (t : List Char) :
    prettyChars level (.array (j :: js)) ++ t
      = '[' :: (prettyItems (level + 1) (j :: js) ++ (newLine level ++ ']' :: t)) := by
  simp [prettyChars]

theorem object_append (level : Nat) (field : String × Json) (fields : List (String × Json))
    (t : List Char) :
    prettyChars level (.object (field :: fields)) ++ t
      = '{' :: (prettyFields (level + 1) (field :: fields) ++ (newLine level ++ '}' :: t)) := by
  simp [prettyChars]

/-- What follows the first item: nothing, or a comma and the other items. -/
theorem prettyItems_append (level : Nat) (j : Json) (js : List Json) (t : List Char) :
    prettyItems level (j :: js) ++ t
      = newLine level ++ (prettyChars level j
        ++ if js.isEmpty then t else ',' :: (prettyItems level js ++ t)) := by
  cases js <;> simp [prettyItems]

/-- What follows the first field: nothing, or a comma and the other fields. -/
theorem prettyFields_append (level : Nat) (key : String) (j : Json) (fields : List (String × Json))
    (t : List Char) :
    prettyFields level ((key, j) :: fields) ++ t
      = newLine level ++ '"' :: (key.toList.flatMap escapeChar ++ '"' :: ':' :: ' ' :: (prettyChars level j
        ++ if fields.isEmpty then t else ',' :: (prettyFields level fields ++ t))) := by
  cases fields <;> simp [prettyFields, quote]

/-- What is read back one by one is read back as a list. -/
theorem mapM_map_eq_some {α β : Type} {f : α → β} {g : β → Option α} (h : ∀ a, g (f a) = some a)
    (as : List α) : (as.map f).mapM g = some as := by
  induction as with
  | nil => rfl
  | cons a as ih =>
    rw [List.map_cons, List.mapM_cons, h, ih]
    rfl

theorem ofFields_map_some (fields : List (String × Json)) :
    ofFields (fields.map fun field => (some field.1, field.2)) = .object fields := by
  rw [ofFields, mapM_map_eq_some]
  exact fun _ => rfl

mutual
/-- A value is read back in front of anything that does not continue a number. -/
theorem reads_prettyChars : ∀ (j : Json), j.isSpelled = true → ∀ (level : Nat) (rest : List Char),
    EndsNumber rest → Reads (prettyChars level j ++ rest) j rest
  | .null, _, _, _, _ => .null
  | .bool b, _, _, _, _ => .bool b
  | .number spelling, h, _, rest, ends => by
    have read := Reads.number h ends
    rwa [String.ofList_toList] at read
  | .string text, _, _, rest, _ => by
    have read := Reads.string (stringBody_quote text rest)
    rw [Option.elim_some, String.ofList_toList] at read
    rwa [prettyChars, quote_append]
  | .unreadable, h, _, _, _ => nomatch h
  | .array [], _, _, rest, _ => .emptyArray (afterBlank_cons (by decide) rest)
  | .array (j :: js), h, level, rest, _ => by
    rw [isSpelled] at h
    rw [array_append]
    refine .array (reads_prettyItems (j :: js) (List.cons_ne_nil _ _) h (level + 1) level rest)
      fun r close => ?_
    -- The first item does not start with a closing bracket.
    rw [areSpelled, Bool.and_eq_true] at h
    obtain ⟨c, u, eq, -, other⟩ := exists_prettyChars_eq_cons h.1 (level + 1)
    rw [prettyItems_append, afterLine_prettyChars h.1, eq, List.cons_append] at close
    exact other (List.cons.inj close).1
  | .object [], _, _, rest, _ => .emptyObject (afterBlank_cons (by decide) rest)
  | .object ((key, j) :: fields), h, level, rest, _ => by
    rw [isSpelled] at h
    rw [object_append, ← ofFields_map_some]
    refine .object (reads_prettyFields ((key, j) :: fields) (List.cons_ne_nil _ _) h (level + 1) level rest)
      fun r close => ?_
    rw [prettyFields_append, afterBlank_line (by decide)] at close
    cases close

/-- Items are read back with the bracket that closes them. -/
theorem reads_prettyItems : ∀ (js : List Json), js ≠ [] → areSpelled js = true →
    ∀ (level outer : Nat) (rest : List Char),
      ReadsItems (prettyItems level js ++ (newLine outer ++ ']' :: rest)) js rest
  | [], nonempty, _, _, _, _ => absurd rfl nonempty
  | [j], _, h, level, outer, rest => by
    rw [areSpelled, Bool.and_eq_true] at h
    rw [prettyItems_append]
    refine .last ?_ (afterBlank_line (by decide) outer rest)
    rw [afterLine_prettyChars h.1]
    exact reads_prettyChars j h.1 level _ (endsNumber_newLine outer _)
  | j :: j' :: js, _, h, level, outer, rest => by
    rw [areSpelled, Bool.and_eq_true] at h
    rw [prettyItems_append]
    refine .cons ?_ (afterBlank_cons (by decide) _)
      (reads_prettyItems (j' :: js) (List.cons_ne_nil _ _) h.2 level outer rest)
    rw [afterLine_prettyChars h.1]
    exact reads_prettyChars j h.1 level _ (endsNumber_comma _)

/-- Fields are read back with the brace that closes them. -/
theorem reads_prettyFields : ∀ (fields : List (String × Json)), fields ≠ [] →
    haveSpelled fields = true → ∀ (level outer : Nat) (rest : List Char),
      ReadsFields (prettyFields level fields ++ (newLine outer ++ '}' :: rest))
        (fields.map fun field => (some field.1, field.2)) rest
  | [], nonempty, _, _, _, _ => absurd rfl nonempty
  | [(key, j)], _, h, level, outer, rest => by
    rw [haveSpelled, Bool.and_eq_true] at h
    rw [prettyFields_append, List.map_cons, List.map_nil]
    refine .last (afterBlank_line (by decide) level _) (stringBody_quote key _)
      (congrArg some String.ofList_toList) (afterBlank_cons (by decide) _) ?_
      (afterBlank_line (by decide) outer rest)
    rw [afterSpace_prettyChars h.1]
    exact reads_prettyChars j h.1 level _ (endsNumber_newLine outer _)
  | (key, j) :: (key', j') :: fields, _, h, level, outer, rest => by
    rw [haveSpelled, Bool.and_eq_true] at h
    rw [prettyFields_append, List.map_cons]
    refine .cons (afterBlank_line (by decide) level _) (stringBody_quote key _)
      (congrArg some String.ofList_toList) (afterBlank_cons (by decide) _) ?_ (afterBlank_cons (by decide) _)
      (reads_prettyFields ((key', j') :: fields) (List.cons_ne_nil _ _) h.2 level outer rest)
    rw [afterSpace_prettyChars h.1]
    exact reads_prettyChars j h.1 level _ (endsNumber_comma _)
end

theorem parse?_of_reads {text : String} (read : Reads (afterBlank text.toList) j rest)
    (behind : afterBlank rest = []) : parse? text = some j := by
  obtain ⟨r, eq, rfl⟩ := read
  rw [parse?, eq, Option.bind_eq_bind, Option.bind_some]
  dsimp only
  rw [behind]
  rfl

theorem endsNumber_of_isBlank (blank : ∀ c ∈ rest, isBlank c = true) : EndsNumber rest := by
  intro c head
  by_contra number
  have apart := isBlank_of_isNumberChar (Bool.not_eq_false _ ▸ number)
  rw [blank c (List.mem_of_head? head)] at apart
  cases apart

/-- The text of a value is read as the value, with blanks behind it too. -/
theorem parse?_pretty (h : j.isSpelled = true) {blanks : String}
    (blank : ∀ c ∈ blanks.toList, isBlank c = true) : parse? (j.pretty ++ blanks) = some j := by
  have read := reads_prettyChars j h 0 blanks.toList (endsNumber_of_isBlank blank)
  have behind : afterBlank blanks.toList = [] := by
    rw [← List.append_nil blanks.toList, afterBlank_append [] blank]
    rfl
  refine parse?_of_reads (?_ : Reads _ j blanks.toList) behind
  rwa [pretty, String.toList_append, String.toList_ofList, afterBlank_prettyChars h]

end MessageExtraction.Json
