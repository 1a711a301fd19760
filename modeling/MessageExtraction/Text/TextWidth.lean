import MessageExtraction.Text.JoinTable
import MessageExtraction.Text.Width

/-!
# Columns of a text

How many columns of a fixed-width display a text takes. Mostly these are the columns of its characters, but
some characters join into one sign: emoji with skin tones, flags, keycaps and joined emoji, and letters of
some scripts. A text is measured from its end; what has been measured is summed up by what it begins with.
-/

namespace MessageExtraction.Text

/-- What a text begins with, as far as it matters to a character before it. -/
inductive Lead where
  | plain
  | lineFeed
  /-- A skin tone. -/
  | tone
  /-- One regional indicator, and more than one. -/
  | indicator
  | indicators
  | emoji
  /-- A joiner with an emoji behind it. -/
  | joiner
  /-- Marks behind which a joiner and an emoji stand. -/
  | joinerKeycap
  | joinerIndicator
  | joinerEven
  | joinerOdd
  /-- The end of a tag sequence, behind that many letters or digits. -/
  | joinerTag (letters : Nat)
  | joinerTagDigits (digits : Nat)
  | alef
  /-- An alef that nothing joins any more. -/
  | keptAlef
  | lamed (joined : Bool)
  | ya (joined : Bool)
  | vowelYa
  /-- A Tifinagh consonant. -/
  | consonant (joined : Bool)
  | joinedConsonant
  /-- A Lisu tone that goes with the one before. -/
  | lisuTone
  | orkhonI (joined : Bool)
  /-- A Khmer letter that can go below another. -/
  | subscriptable
  | vowelE
  | vowelAi
deriving DecidableEq, Repr, Inhabited

/-- A variation selector at the beginning of a text. -/
inductive Selector where
  | none
  /-- It chooses wide quotation marks. -/
  | wide
  | text
  | emoji
deriving DecidableEq, Repr, Inhabited

/-- The beginning of a text. -/
structure Beginning where
  lead : Lead := .plain
  selector : Selector := .none
deriving DecidableEq, Repr, Inhabited

namespace Lead

/-- Whether an emoji sequence goes on behind. -/
def isJoiner : Lead → Bool
  | .joiner | .joinerKeycap | .joinerTag _ | .joinerTagDigits _ => true
  | _ => false

/-- Whether invisible marks before it change nothing. -/
def isLetter : Lead → Bool
  | .alef | .keptAlef | .lamed _ | .ya _ | .vowelYa | .consonant _ | .joinedConsonant | .lisuTone
  | .orkhonI _ | .subscriptable => true
  | _ => false

/-- A letter with a joiner before it. -/
def join : Lead → Lead
  | .lamed _ => .lamed true
  | .ya _ => .ya true
  | .consonant _ => .consonant true
  | .orkhonI _ => .orkhonI true
  | .alef => .keptAlef
  | lead => lead

end Lead

/-- A character that is between two numbers. -/
def isBetween (lo hi : Nat) (c : Char) : Bool := lo ≤ c.toNat && c.toNat ≤ hi

/-- A regional indicator; two of them make a flag. -/
def isIndicator (c : Char) : Bool := isBetween 0x1F1E6 0x1F1FF c

/-- A skin tone. -/
def isTone (c : Char) : Bool := isBetween 0x1F3FB 0x1F3FF c

/-- A Tifinagh consonant. -/
def isConsonant (c : Char) : Bool := isBetween 0x2D31 0x2D65 c || c.toNat == 0x2D6F

/-- An invisible mark that letters may have between them. -/
def isInvisible (c : Char) : Bool :=
  [0x034F, 0x180B, 0x180C, 0x180D, 0x180F, 0x200D].contains c.toNat || isBetween 0x17B4 0x17B5 c
    || isBetween 0xFE00 0xFE0F c || isBetween 0xE0100 0xE01EF c

/-- A mark that leaves Arabic letters joined. -/
def isTransparent (c : Char) : Bool :=
  inRanges zeroWidthRanges c.toNat && !inRanges separatingRanges c.toNat

/-- Khmer letters that can go below another. -/
def subscriptableRanges : List (Nat × Nat) :=
  [(0x1780, 0x1782), (0x1784, 0x1787), (0x1789, 0x178C), (0x178E, 0x1793), (0x1795, 0x1798),
    (0x179B, 0x179D), (0x17A0, 0x17A0), (0x17A2, 0x17A2), (0x17A7, 0x17A7), (0x17AB, 0x17AC),
    (0x17AF, 0x17AF)]

/-- The beginning of a text whose first character joins nothing behind it. -/
def leadOf (c : Char) : Beginning :=
  let n := c.toNat
  if c = '\n' then ⟨.lineFeed, .none⟩
  else if n ≤ 0xA0 then {}
  else if n = 0xFE01 then ⟨.plain, .wide⟩
  else if n = 0xFE0E then ⟨.plain, .text⟩
  else if n = 0xFE0F then ⟨.plain, .emoji⟩
  else if n = 0x05DC then ⟨.lamed false, .none⟩
  else if inRanges alefRanges n then ⟨.alef, .none⟩
  else if inRanges subscriptableRanges n then ⟨.subscriptable, .none⟩
  else if n = 0x1A10 then ⟨.ya false, .none⟩
  else if isConsonant c then ⟨.consonant false, .none⟩
  else if isBetween 0xA4FC 0xA4FD c then ⟨.lisuTone, .none⟩
  else if n = 0x10C03 then ⟨.orkhonI false, .none⟩
  else if n = 0x16D67 then ⟨.vowelE, .none⟩
  else if n = 0x16D68 then ⟨.vowelAi, .none⟩
  else if isIndicator c then ⟨.indicator, .none⟩
  else if isTone c then ⟨.tone, .none⟩
  else if inRanges emojiRanges n then ⟨.emoji, .none⟩
  else {}

/-- The columns that a character adds before a text with such a lead, and the new lead, if the two join. -/
def joins? (c : Char) (lead : Lead) : Option (Int × Lead) :=
  let n := c.toNat
  let letter := isBetween 0xE0061 0xE007A c
  let digit := isBetween 0xE0030 0xE0039 c
  match lead with
  | .alef =>
      if inRanges lamRanges n then some (0, .plain)
      else if isTransparent c then some (0, .alef) else none
  | .lamed true => if n = 0x05D0 then some (0, .plain) else none
  | .subscriptable => if n = 0x17D2 then some (-1, .plain) else none
  | .ya true => if n = 0x1A17 then some (0, .vowelYa) else none
  | .vowelYa => if n = 0x1A15 then some (0, .plain) else none
  | .consonant joined =>
      if n = 0x2D7F then some (1, .joinedConsonant)
      else if joined && isConsonant c then some (0, .plain) else none
  | .joinedConsonant => if isConsonant c then some (-1, .plain) else none
  | .lisuTone => if isBetween 0xA4F8 0xA4FB c then some (0, .plain) else none
  | .orkhonI true => if n = 0x10C32 then some (0, .plain) else none
  | .tone =>
      if inRanges tonableRanges n then some (0, .emoji)
      else if n = 0x200D then some (0, .joiner) else none
  | .indicator => if isIndicator c then some (1, .indicators) else none
  | .indicators =>
      if isIndicator c then some (1, .indicators)
      else if n = 0x200D then some (0, .joiner) else none
  | .emoji => if n = 0x200D then some (0, .joiner) else none
  | .joiner =>
      if n = 0x20E3 then some (0, .joinerKeycap)
      else if isIndicator c then some (1, .joinerIndicator)
      else if isTone c then some (0, .tone)
      else if n = 0xE007F then some (0, .joinerTag 0)
      else if inRanges emojiRanges n then some (0, .emoji) else none
  | .joinerIndicator => if isIndicator c then some (-1, .joinerEven) else none
  | .joinerOdd =>
      if isIndicator c then some (-1, .joinerEven)
      else if n = 0x200D then some (0, .joiner) else none
  | .joinerEven =>
      if isIndicator c then some (3, .joinerOdd)
      else if n = 0x200D then some (0, .joiner) else none
  | .joinerTag letters =>
      if letter && letters < 6 then some (0, .joinerTag (letters + 1))
      else if digit && letters < 5 then some (0, .joinerTagDigits 1)
      else if n = 0x1F3F4 ∧ 3 ≤ letters then some (0, .emoji) else none
  | .joinerTagDigits digits =>
      if digit && digits < 3 then some (0, .joinerTagDigits (digits + 1))
      else if n = 0x1F3F4 ∧ digits = 3 then some (0, .emoji) else none
  | .vowelE =>
      if n = 0x16D63 ∨ n = 0x16D69 then some (0, .plain)
      else if n = 0x16D67 then some (0, .vowelAi)
      else if n = 0x16D68 then some (1, .vowelE) else none
  | .vowelAi => if n = 0x16D63 then some (0, .plain) else none
  | _ => none

/-- The lead that is left when a variation selector has met a character that it does not choose for. -/
def Lead.withoutSelector (lead : Lead) : Lead := if lead.isLetter then lead else .plain

/-- What a character adds to the columns of the text behind it, and what the longer text begins with. -/
def measure (c : Char) (behind : Beginning) : Int × Beginning :=
  let n := c.toNat
  if behind.selector = .emoji ∧ inRanges selectableRanges n then
    (if behind.lead.isJoiner then 0 else 2, ⟨.emoji, .none⟩)
  else
    let behind : Beginning :=
      if behind.selector = .emoji then ⟨behind.lead.withoutSelector, .none⟩ else behind
    if n ≤ 0xA0 then
      (if c = '\r' ∧ behind = ⟨.lineFeed, .none⟩ then 0 else 1, leadOf c)
    else if behind = {} then (charWidth c, leadOf c)
    else if n = 0xFE0F then
      (0, ⟨if behind.lead.isLetter || behind.lead.isJoiner then behind.lead else .plain, .emoji⟩)
    else if n = 0xFE0E then (0, ⟨behind.lead.withoutSelector, .text⟩)
    else if n = 0xFE01 then (0, ⟨behind.lead.withoutSelector, .wide⟩)
    else if behind.selector = .text ∧ inRanges narrowableRanges n then (1, {})
    else if behind.selector = .wide ∧ [0x2018, 0x2019, 0x201C, 0x201D].contains n then (2, {})
    else
      let lead := if behind.selector = .none then behind.lead else behind.lead.withoutSelector
      if lead.isLetter && n == 0x200D then (0, ⟨lead.join, .none⟩)
      else if lead.isLetter && isInvisible c then (0, ⟨lead, .none⟩)
      else
        match joins? c lead with
        | some (columns, lead) => (columns, ⟨lead, .none⟩)
        | none => (charWidth c, leadOf c)

/-- The columns of a text and what it begins with. -/
def measureAll : List Char → Int × Beginning
  | [] => (0, {})
  | c :: r =>
      let (columns, behind) := measureAll r
      let (more, beginning) := measure c behind
      (columns + more, beginning)

/-- The columns of a text. -/
def width (s : List Char) : Nat := (measureAll s).1.toNat

end MessageExtraction.Text
