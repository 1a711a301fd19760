import MessageExtraction.Json.Basic

/-!
# Writing JSON

One item or field a line, two blanks a level, and `[]` and `{}` for what is empty. Strings escape the quote,
the backslash and the characters below U+0020, and leave all other characters as they are.
-/

namespace MessageExtraction.Json

/-- The lower-case hexadecimal digit of a number below sixteen. -/
def hexDigit (n : Nat) : Char :=
  if n < 10 then Char.ofNat (48 + n) else Char.ofNat (87 + n)

/-- A character inside a quoted string. -/
def escapeChar (c : Char) : List Char :=
  if c = '"' then ['\\', '"']
  else if c = '\\' then ['\\', '\\']
  else if c.toNat = 0x08 then ['\\', 'b']
  else if c.toNat = 0x0C then ['\\', 'f']
  else if c = '\n' then ['\\', 'n']
  else if c = '\r' then ['\\', 'r']
  else if c = '\t' then ['\\', 't']
  else if c.toNat < 0x20 then
    ['\\', 'u', '0', '0', hexDigit (c.toNat / 16), hexDigit (c.toNat % 16)]
  else [c]

/-- A text as a quoted string. -/
def quote (text : String) : List Char := '"' :: text.toList.flatMap escapeChar ++ ['"']

/-- A line break and the blanks of a nesting level. -/
def newLine (level : Nat) : List Char := '\n' :: List.replicate (2 * level) ' '

mutual
/-- A value at a nesting level. -/
def prettyChars (level : Nat) : Json → List Char
  | .null => "null".toList
  | .bool b => (if b then "true" else "false").toList
  | .number spelling => spelling.toList
  | .string text => quote text
  | .unreadable => quote ""
  | .array [] => ['[', ']']
  | .array (j :: js) => '[' :: prettyItems (level + 1) (j :: js) ++ newLine level ++ [']']
  | .object [] => ['{', '}']
  | .object (f :: fs) => '{' :: prettyFields (level + 1) (f :: fs) ++ newLine level ++ ['}']

/-- Items, each on a line of its own. -/
def prettyItems (level : Nat) : List Json → List Char
  | [] => []
  | [j] => newLine level ++ prettyChars level j
  | j :: js => newLine level ++ prettyChars level j ++ ',' :: prettyItems level js

/-- Fields, each on a line of its own. -/
def prettyFields (level : Nat) : List (String × Json) → List Char
  | [] => []
  | [(key, j)] => newLine level ++ quote key ++ ':' :: ' ' :: prettyChars level j
  | (key, j) :: fields =>
      newLine level ++ quote key ++ ':' :: ' ' :: prettyChars level j ++
        ',' :: prettyFields level fields
end

/-- The JSON text of a value. -/
def pretty (j : Json) : String := String.ofList (prettyChars 0 j)

end MessageExtraction.Json
