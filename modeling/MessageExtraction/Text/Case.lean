import MessageExtraction.Text.CaseTable

/-!
# Lower case

`lowercase` maps a text to Unicode lower case: character by character, but for a sigma at the end of a
word and for the one letter whose lower case is two characters.
-/

namespace MessageExtraction.Text

/-- Whether a number lies in one of the ranges, ends included. -/
def inRanges (ranges : List (Nat × Nat)) (n : Nat) : Bool :=
  ranges.any fun (lo, hi) => lo ≤ n && n ≤ hi

/-- A character that has case. -/
def isCased (c : Char) : Bool := inRanges casedRanges c.toNat

/-- A character that is skipped when case depends on context. -/
def isCaseIgnorable (c : Char) : Bool := inRanges caseIgnorableRanges c.toNat

/-- An upper-case character. -/
def isUppercase (c : Char) : Bool :=
  let n := c.toNat
  if n < 0x80 then 'A' ≤ c && c ≤ 'Z'
  else uppercaseRuns.any fun (lo, hi, step) => lo ≤ n && n ≤ hi && (n - lo) % step == 0

/-- The lower case of a character on its own. -/
def lowercaseChar (c : Char) : List Char :=
  let n := c.toNat
  if n < 0x80 then [if 'A' ≤ c ∧ c ≤ 'Z' then Char.ofNat (n + 32) else c]
  else if n = 0x130 then ['i', Char.ofNat 0x307]
  else
    match lowercaseRuns.find? fun (lo, hi, step, _) => lo ≤ n && n ≤ hi && (n - lo) % step == 0 with
    | some (_, _, _, distance) => [Char.ofNat ((n : Int) + distance).toNat]
    | none => [c]

/-- Whether the first character that is not skipped has case. -/
def startsCased (s : List Char) : Bool :=
  match s.dropWhile isCaseIgnorable with
  | [] => false
  | c :: _ => isCased c

/-- The lower case of a text, after the characters `before`, last one first. -/
def lowercaseAfter (before : List Char) : List Char → List Char
  | [] => []
  | c :: r =>
      let cs :=
        if c = 'Σ' then [if startsCased before && !startsCased r then 'ς' else 'σ']
        else lowercaseChar c
      cs ++ lowercaseAfter (c :: before) r

/-- The lower case of a text. -/
def lowercase (s : String) : String := String.ofList (lowercaseAfter [] s.toList)

end MessageExtraction.Text
