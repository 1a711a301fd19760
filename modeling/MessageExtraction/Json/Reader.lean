import MessageExtraction.Json.Basic

/-!
# Reading JSON

`Json.parse?` reads the texts of the JSON grammar and nothing else: no byte order mark, no comma
before a closing bracket, no leading zeros, no control characters in strings, nothing after the value.
-/

namespace MessageExtraction.Json

/-- The blanks of the JSON grammar. -/
def isBlank (c : Char) : Bool := c == ' ' || c == '\t' || c == '\n' || c == '\r'

/-- What stands after the blanks at the front. -/
def afterBlank (s : List Char) : List Char := s.dropWhile isBlank

theorem afterBlank_length_le (s : List Char) : (afterBlank s).length ≤ s.length :=
  (List.dropWhile_suffix _).length_le

/-! ## Strings -/

/-- The value of a hexadecimal digit. -/
def hexValue? (c : Char) : Option Nat :=
  if c.isDigit then some (c.toNat - 48)
  else if 'a' ≤ c ∧ c ≤ 'f' then some (c.toNat - 87)
  else if 'A' ≤ c ∧ c ≤ 'F' then some (c.toNat - 55)
  else none

/-- The value of four hexadecimal digits. -/
def hex4? (a b c d : Char) : Option Nat := do
  let a ← hexValue? a
  let b ← hexValue? b
  let c ← hexValue? c
  let d ← hexValue? d
  some (((a * 16 + b) * 16 + c) * 16 + d)

/-- The character of a one-letter escape. -/
def escaped? : Char → Option Char
  | '"' => some '"'
  | '\\' => some '\\'
  | '/' => some '/'
  | 'b' => some (Char.ofNat 0x08)
  | 'f' => some (Char.ofNat 0x0C)
  | 'n' => some '\n'
  | 'r' => some '\r'
  | 't' => some '\t'
  | _ => none

/-- The character codes of a string, from behind its opening quote on, with what stands after the
closing quote. An escape gives the code that it names. -/
def stringCodes : List Char → Option (List Nat × List Char)
  | [] => none
  | '"' :: r => some ([], r)
  | '\\' :: 'u' :: a :: b :: c :: d :: r => do
      let n ← hex4? a b c d
      let (ns, rest) ← stringCodes r
      some (n :: ns, rest)
  | '\\' :: c :: r => do
      let c ← escaped? c
      let (ns, rest) ← stringCodes r
      some (c.toNat :: ns, rest)
  | c :: r =>
      if c.toNat < 0x20 then none else do
        let (ns, rest) ← stringCodes r
        some (c.toNat :: ns, rest)

/-- The text of character codes. Two halves of a surrogate pair are one character; half a pair alone is
none. -/
def ofCodes? : List Nat → Option (List Char)
  | [] => some []
  | [n] => if 0xD800 ≤ n ∧ n < 0xE000 then none else some [Char.ofNat n]
  | n :: m :: ns =>
      if 0xD800 ≤ n ∧ n < 0xE000 then
        if n < 0xDC00 ∧ 0xDC00 ≤ m ∧ m < 0xE000 then
          (ofCodes? ns).map (Char.ofNat (0x10000 + (n - 0xD800) * 0x400 + (m - 0xDC00)) :: ·)
        else none
      else (ofCodes? (m :: ns)).map (Char.ofNat n :: ·)

/-- The rest of a string, from behind its opening quote on: its text, if it is one, with what stands after
the closing quote. -/
def stringBody (s : List Char) : Option (Option (List Char) × List Char) :=
  (stringCodes s).map fun (ns, rest) => (ofCodes? ns, rest)

theorem stringCodes_length {s r : List Char} {ns : List Nat}
    (h : stringCodes s = some (ns, r)) : r.length < s.length := by
  fun_induction stringCodes s generalizing ns r with
  | case1 => contradiction
  | case2 => cases h; simp
  | case3 a b c d t ih =>
      obtain ⟨n, _, h⟩ := Option.bind_eq_some_iff.1 h
      obtain ⟨p, hp, h⟩ := Option.bind_eq_some_iff.1 h
      cases h
      have := ih hp
      simp only [List.length_cons]; omega
  | case4 c t _ ih =>
      obtain ⟨n, _, h⟩ := Option.bind_eq_some_iff.1 h
      obtain ⟨p, hp, h⟩ := Option.bind_eq_some_iff.1 h
      cases h
      have := ih hp
      simp only [List.length_cons]; omega
  | case5 => contradiction
  | case6 c t _ _ _ _ ih =>
      obtain ⟨p, hp, h⟩ := Option.bind_eq_some_iff.1 h
      cases h
      have := ih hp
      simp only [List.length_cons]; omega

theorem stringBody_length {s r : List Char} {text : Option (List Char)}
    (h : stringBody s = some (text, r)) : r.length < s.length := by
  obtain ⟨p, hp, h⟩ := Option.map_eq_some_iff.1 h
  cases h
  exact stringCodes_length hp

/-! ## Numbers -/

/-- What stands after a row of digits, of which there must be one. -/
def afterDigits? : List Char → Option (List Char)
  | [] => none
  | c :: r => if c.isDigit then some (r.dropWhile Char.isDigit) else none

/-- What stands after the fraction, if there is one. -/
def afterFraction? : List Char → Option (List Char)
  | '.' :: r => afterDigits? r
  | s => some s

/-- What stands after the exponent, if there is one. -/
def afterExponent? : List Char → Option (List Char)
  | c :: r =>
      if c = 'e' ∨ c = 'E' then
        match r with
        | '+' :: r => afterDigits? r
        | '-' :: r => afterDigits? r
        | r => afterDigits? r
      else some (c :: r)
  | [] => some []

/-- What stands after a number. -/
def afterNumber? (s : List Char) : Option (List Char) :=
  let s := match s with
    | '-' :: r => r
    | s => s
  match s with
  | '0' :: r => afterFraction? r >>= afterExponent?
  | s => afterDigits? s >>= afterFraction? >>= afterExponent?

/-- A character of numbers. -/
def isNumberChar (c : Char) : Bool :=
  c.isDigit || c == '-' || c == '+' || c == '.' || c == 'e' || c == 'E'

/-- Whether the text is a number: a sign, an integer part without leading zeros, a fraction and an
exponent, of which only the integer part must be there. -/
def isNumber (s : List Char) : Bool := afterNumber? s == some []

theorem dropWhile_length_lt {s : List Char} (h : isNumber (s.takeWhile isNumberChar) = true) :
    (s.dropWhile isNumberChar).length < s.length := by
  have parts := congrArg List.length (List.takeWhile_append_dropWhile (p := isNumberChar) (l := s))
  rw [List.length_append] at parts
  cases first : s.takeWhile isNumberChar with
  | nil => rw [first] at h; contradiction
  | cons c r => rw [first, List.length_cons] at parts; omega

/-! ## Values -/

/-- The characters left after reading from `s`, fewer than before. -/
abbrev Shorter (s : List Char) := { r : List Char // r.length < s.length }

/-- The fields of an object, unreadable if a key is. -/
def ofFields (fields : List (Option String × Json)) : Json :=
  match fields.mapM fun (key, j) => key.map (·, j) with
  | some fields => .object fields
  | none => .unreadable

mutual
/-- The value at the front, which must begin at once. -/
def value (s : List Char) : Option (Json × Shorter s) :=
  match s with
  | 'n' :: 'u' :: 'l' :: 'l' :: r => some (.null, ⟨r, by simp; omega⟩)
  | 't' :: 'r' :: 'u' :: 'e' :: r => some (.bool true, ⟨r, by simp; omega⟩)
  | 'f' :: 'a' :: 'l' :: 's' :: 'e' :: r => some (.bool false, ⟨r, by simp; omega⟩)
  | '"' :: r =>
      match h : stringBody r with
      | none => none
      | some (text, r₁) =>
          some (text.elim .unreadable fun t => .string (String.ofList t),
            ⟨r₁, by have := stringBody_length h; simp; omega⟩)
  | '[' :: r =>
      match h : afterBlank r with
      | ']' :: r₁ =>
          some (.array [], ⟨r₁, by have := afterBlank_length_le r; simp_all; omega⟩)
      | _ => do
          let (items, r₁) ← items r
          some (.array items, ⟨r₁.1, by have := r₁.2; simp; omega⟩)
  | '{' :: r =>
      match h : afterBlank r with
      | '}' :: r₁ =>
          some (.object [], ⟨r₁, by have := afterBlank_length_le r; simp_all; omega⟩)
      | _ => do
          let (fields, r₁) ← fields r
          some (ofFields fields, ⟨r₁.1, by have := r₁.2; simp; omega⟩)
  | s =>
      if h : isNumber (s.takeWhile isNumberChar) = true then
        some (.number (String.ofList (s.takeWhile isNumberChar)),
          ⟨s.dropWhile isNumberChar, dropWhile_length_lt h⟩)
      else none
termination_by 2 * s.length
decreasing_by all_goals (simp; try omega)

/-- The items of an array, at least one, and the closing bracket. -/
def items (s : List Char) : Option (List Json × Shorter s) := do
  have bound := afterBlank_length_le s
  let (j, r) ← value (afterBlank s)
  have bound₁ := afterBlank_length_le r.1
  match h : afterBlank r.1 with
  | ']' :: r₁ => some ([j], ⟨r₁, by have := r.2; simp_all; omega⟩)
  | ',' :: r₁ => do
      let (js, r₂) ← items r₁
      some (j :: js, ⟨r₂.1, by have := r.2; have := r₂.2; simp_all; omega⟩)
  | _ => none
termination_by 2 * s.length + 1
decreasing_by
  · omega
  · have := r.2; simp_all; omega

/-- The fields of an object, at least one, and the closing brace. -/
def fields (s : List Char) : Option (List (Option String × Json) × Shorter s) := do
  have bound := afterBlank_length_le s
  match start : afterBlank s with
  | '"' :: r =>
      match body : stringBody r with
      | none => none
      | some (key, r₁) =>
          have bound₁ := afterBlank_length_le r₁
          match colon : afterBlank r₁ with
          | ':' :: r₂ => do
              have bound₂ := afterBlank_length_le r₂
              let (j, r₃) ← value (afterBlank r₂)
              have bound₃ := afterBlank_length_le r₃.1
              match stop : afterBlank r₃.1 with
              | '}' :: r₄ =>
                  some ([(key.map String.ofList, j)], ⟨r₄, by
                    have := stringBody_length body; have := r₃.2; simp_all; omega⟩)
              | ',' :: r₄ => do
                  let (fs, r₅) ← fields r₄
                  some ((key.map String.ofList, j) :: fs, ⟨r₅.1, by
                    have := stringBody_length body; have := r₃.2; have := r₅.2
                    simp_all; omega⟩)
              | _ => none
          | _ => none
  | _ => none
termination_by 2 * s.length + 1
decreasing_by
  · have := stringBody_length body; simp_all; omega
  · have := stringBody_length body; have := r₃.2; simp_all; omega
end

/-- Reads a JSON text: one value between blanks. -/
def parse? (text : String) : Option Json := do
  let (j, r) ← value (afterBlank text.toList)
  if (afterBlank r.1).isEmpty then some j else none

end MessageExtraction.Json
