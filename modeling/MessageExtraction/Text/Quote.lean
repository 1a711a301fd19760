import MessageExtraction.Text.Case
import MessageExtraction.Text.QuoteTable

/-!
# Quoted texts

How a text is shown between double quotes in messages to the user: double quotes and backslashes behind a
backslash, and characters without a mark of their own by their code.
-/

namespace MessageExtraction.Text

/-- A hexadecimal digit below sixteen, a lower-case letter from ten on. -/
def hexMark (n : Nat) : Char := if n < 10 then Char.ofNat (48 + n) else Char.ofNat (87 + n)

/-- A number in hexadecimal digits, at most `fuel` of them. -/
def hexDigits : Nat → Nat → List Char
  | 0, _ => []
  | fuel + 1, n => (if n < 16 then [] else hexDigits fuel (n / 16)) ++ [hexMark (n % 16)]

/-- Whether a character is shown by its code. -/
def isMarkless (c : Char) : Bool :=
  c.toNat < 0x20 || c.toNat == 0x7F || (0x80 ≤ c.toNat && inRanges markless c.toNat)

/-- A character inside quotes. -/
def quoteChar (c : Char) : List Char :=
  if c.toNat = 0 then ['\\', '0']
  else if c = '\t' then ['\\', 't']
  else if c = '\r' then ['\\', 'r']
  else if c = '\n' then ['\\', 'n']
  else if c = '"' ∨ c = '\\' then ['\\', c]
  else if isMarkless c then "\\u\x7b".toList ++ hexDigits 6 c.toNat ++ ['\x7d']
  else [c]

/-- A text between quotes. -/
def quoted (text : String) : String :=
  String.ofList ('"' :: text.toList.flatMap quoteChar ++ ['"'])

end MessageExtraction.Text
