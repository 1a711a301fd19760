import MessageExtraction.Proofs.Report.SourceLine
import MessageExtraction.Report.Text

/-!
# The caret under a node

A location counts columns: what the characters before a node take on a display. The caret is put behind as
many characters of the line that is shown. Both agree only where the characters take one column each, or
where those that take more and those that take none make up for each other.

* `isApart_of_forall`: the width of a text whose characters join nothing is the sum of their widths.
* `column_locate`, `caretIndent_locate`: the column of a node, and the indent of the caret under it.
* `caretIndent_eq_width_iff`: when the caret stands under its node.
-/

namespace MessageExtraction

open Message (byteLength byteLength_append)

namespace Text

/-- Whether each beginning of a text is as wide as its characters are together. -/
def IsApart (s : List Char) : Prop := ∀ n, width (s.take n) = ((s.take n).map charWidth).sum

/-- Whether a character is shown by itself among others that are: it may be wide, an emoji or a mark, but no
joiner, no selector, and no letter that joins another. -/
def IsAlone (c : Char) : Prop :=
  isControl c = false ∧ c.toNat ≠ 0x200D ∧ (leadOf c = {} ∨ leadOf c = ⟨.emoji, .none⟩)

instance (c : Char) : Decidable (IsAlone c) := by unfold IsAlone; infer_instance

theorem eq_ofNat {c : Char} {n : Nat} (h : c.toNat = n) : c = Char.ofNat n := by
  rw [← h, Char.ofNat_toNat]

/-- The characters up to the no-break space that are shown take one column each. -/
theorem charWidth_of_le {c : Char} (shown : isControl c = false) (low : c.toNat ≤ 0xA0) :
    charWidth c = 1 := by
  by_cases ascii : c.toNat < 0x7F
  · simp [charWidth, shown, ascii]
  · have last : c.toNat = 0xA0 := by
      simp only [isControl, Bool.or_eq_false_iff, Bool.and_eq_false_iff, decide_eq_false_iff_not] at shown
      omega
    rw [eq_ofNat last]
    decide +kernel

/-- A character that is shown by itself adds its own columns to a text of such characters. -/
theorem measure_alone {c : Char} {behind : Beginning} (alone : IsAlone c)
    (plain : behind = {} ∨ behind = ⟨.emoji, .none⟩) :
    measure c behind = ((charWidth c : Int), leadOf c) := by
  obtain ⟨shown, joiner, lead⟩ := alone
  have selector : behind.selector = .none := by rcases plain with rfl | rfl <;> rfl
  have notReturn : c ≠ '\r' := by
    rintro rfl
    exact absurd shown (by decide)
  -- A variation selector has a lead of its own.
  have apart {n : Nat} (h : leadOf (Char.ofNat n) ≠ {} ∧ leadOf (Char.ofNat n) ≠ ⟨.emoji, .none⟩) :
      c.toNat ≠ n := by
    intro eq
    rw [eq_ofNat eq] at lead
    exact lead.elim h.1 h.2
  have text : c.toNat ≠ 0xFE0E := apart (by decide)
  have emoji : c.toNat ≠ 0xFE0F := apart (by decide)
  have wide : c.toNat ≠ 0xFE01 := apart (by decide)
  unfold measure
  by_cases low : c.toNat ≤ 0xA0
  · simp [selector, low, notReturn, charWidth_of_le shown low]
  · rcases plain with rfl | rfl
    · simp [low]
    · simp [low, text, emoji, wide, joiner, joins?, Lead.isLetter]

theorem measureAll_alone {s : List Char} (alone : ∀ c ∈ s, IsAlone c) :
    (measureAll s).1 = ((s.map charWidth).sum : Nat)
      ∧ ((measureAll s).2 = {} ∨ (measureAll s).2 = ⟨.emoji, .none⟩) := by
  induction s with
  | nil => exact ⟨rfl, .inl rfl⟩
  | cons c s ih =>
    obtain ⟨sum, plain⟩ := ih fun d mem => alone d (List.mem_cons_of_mem c mem)
    have first := alone c List.mem_cons_self
    have step : measureAll (c :: s) = ((measureAll s).1 + charWidth c, leadOf c) := by
      show ((measureAll s).1 + (measure c (measureAll s).2).1, (measure c (measureAll s).2).2) = _
      rw [measure_alone first plain]
    rw [step]
    refine ⟨?_, first.2.2⟩
    rw [List.map_cons, List.sum_cons, sum, Nat.add_comm, Int.natCast_add]

/-- A text of characters that are shown by themselves is as wide as they are together. -/
theorem isApart_of_forall {s : List Char} (alone : ∀ c ∈ s, IsAlone c) : IsApart s := by
  intro n
  unfold width
  rw [(measureAll_alone fun c mem => alone c (List.mem_of_mem_take mem)).1, Int.toNat_natCast]

theorem width_take_of_le {s : List Char} (apart : IsApart s) {m n : Nat} (le : m ≤ n) :
    width (s.take n) = width (s.take m) ↔ ∀ c ∈ (s.take n).drop m, charWidth c = 0 := by
  have parts : ((s.take n).map charWidth).sum
      = ((s.take m).map charWidth).sum + (((s.take n).drop m).map charWidth).sum := by
    have split := List.take_append_drop m (s.take n)
    rw [List.take_take, Nat.min_eq_left le] at split
    rw [← List.sum_append, ← List.map_append, split]
  rw [apart n, apart m, parts, Nat.add_eq_left, List.sum_eq_zero_iff_forall_eq_nat,
    List.forall_mem_map]

/-- Two beginnings of a text whose characters join nothing are equally wide exactly if the characters between
their ends take no columns. -/
theorem width_take_iff {s : List Char} (apart : IsApart s) (m n : Nat) :
    width (s.take n) = width (s.take m)
      ↔ ∀ c ∈ (s.take (max m n)).drop (min m n), charWidth c = 0 := by
  rcases Nat.le_total m n with le | le
  · rw [Nat.max_eq_right le, Nat.min_eq_left le, width_take_of_le apart le]
  · rw [Nat.max_eq_left le, Nat.min_eq_right le, ← width_take_of_le apart le, eq_comm]

end Text

namespace SourceFile

open Syntax (Span)
open Text (HasLoneReturn leadingBreak charWidth isBreak)

variable {file : SourceFile} {span : Span} {before shown hidden rest : List Char}

theorem advance_zero (n column : Nat) (s : List Char) : advance n column 0 s = (n, column) := by
  rw [advance.eq_def]
  split
  · rfl
  · rfl
  · rename_i c s _
    rw [if_pos c.utf8Size_pos]

/-- The column of a node that stands behind a part of its line. -/
theorem column_locate (real : span.isMade = false)
    (stands : file.StandsOn span before (shown ++ hidden) rest)
    (here : file.position span = byteLength (before ++ shown)) :
    (file.locate (some span)).column = (shown.map columns).sum + 1 := by
  have unbroken (c : Char) (mem : c ∈ shown) := stands.isLine.unbroken c (List.mem_append_left hidden mem)
  have text : file.text.toList = before ++ (shown ++ (hidden ++ rest)) := by
    rw [stands.text]
    simp only [List.append_assoc]
  have whole := stands.isLine.begins
  rw [List.append_assoc] at whole
  rw [locate_eq real, here, text, byteLength_append, advance_before whole, ite_self,
    ← Nat.add_zero (byteLength shown), advance_unbroken unbroken, advance_zero]
  exact Nat.add_comm 1 _

/-- The caret is put behind as many characters of the line as there are columns before the node. -/
theorem caretIndent_locate (real : span.isMade = false)
    (stands : file.StandsOn span before (shown ++ hidden) rest)
    (here : file.position span = byteLength (before ++ shown))
    (regular : ¬ HasLoneReturn before) (ended : leadingBreak rest ≠ ['\r']) :
    Report.caretIndent ((file.locate (some span)).sourceLine file.text) (file.locate (some span)).column
      = Text.width ((shown ++ hidden).take (shown.map columns).sum) := by
  unfold Report.caretIndent
  rw [(sourceLine_eq_iff real stands regular).mpr ended, column_locate real stands here,
    Nat.add_sub_cancel]

/-- Where each character before a node takes one column, the caret stands under it. Where the characters of
the line join nothing, it does so exactly if the characters between the node and the caret take no columns. -/
theorem caretIndent_eq_width_iff (real : span.isMade = false)
    (stands : file.StandsOn span before (shown ++ hidden) rest)
    (here : file.position span = byteLength (before ++ shown))
    (regular : ¬ HasLoneReturn before) (ended : leadingBreak rest ≠ ['\r']) :
    let location := file.locate (some span)
    let indent := Report.caretIndent (location.sourceLine file.text) location.column
    indent = Text.width ((shown ++ hidden).take (location.column - 1))
      ∧ ((∀ c ∈ shown, columns c = 1) → indent = Text.width shown)
      ∧ (Text.IsApart (shown ++ hidden) →
          (indent = Text.width shown
            ↔ ∀ c ∈ ((shown ++ hidden).take (max shown.length (location.column - 1))).drop
                (min shown.length (location.column - 1)), charWidth c = 0)) := by
  intro location indent
  have column : location.column - 1 = (shown.map columns).sum := by
    rw [column_locate real stands here, Nat.add_sub_cancel]
  have measured : indent = Text.width ((shown ++ hidden).take (shown.map columns).sum) :=
    caretIndent_locate real stands here regular ended
  have front : (shown ++ hidden).take shown.length = shown := List.take_left
  rw [column, measured]
  refine ⟨rfl, fun narrow => ?_, fun apart => ?_⟩
  · have count : (shown.map columns).sum = shown.length := by
      rw [List.map_congr_left narrow, List.map_const', List.sum_replicate_nat, Nat.mul_one]
    rw [count, front]
  · have compared := Text.width_take_iff apart shown.length (shown.map columns).sum
    rwa [front] at compared

/-- A file in whose second line wide characters stand before a call. -/
def wideFile : SourceFile :=
  ⟨"src/a.ts", "import { translate } from \"react-intl\";\n\"\u4f60\u597d\"; translate(x);"⟩

/-- The call of `wideFile` stands behind eight columns, and the caret behind ten. -/
theorem caretIndent_wideFile :
    wideFile.StandsOn ⟨51, 63⟩ "import { translate } from \"react-intl\";\n".toList
        ("\"\u4f60\u597d\"; ".toList ++ "translate(x);".toList) []
      ∧ wideFile.position ⟨51, 63⟩ = byteLength ("import { translate } from \"react-intl\";\n".toList
        ++ "\"\u4f60\u597d\"; ".toList)
      ∧ (wideFile.locate (some ⟨51, 63⟩)).column - 1 = 8
      ∧ Text.width "\"\u4f60\u597d\"; ".toList = 8
      ∧ Report.caretIndent ((wideFile.locate (some ⟨51, 63⟩)).sourceLine wideFile.text)
          (wideFile.locate (some ⟨51, 63⟩)).column = 10 := by
  have unbroken : ∀ c ∈ "\"\u4f60\u597d\"; ".toList ++ "translate(x);".toList, isBreak c = false :=
    List.all_iff_forall_prop.mp (by decide)
  refine ⟨⟨by decide, ⟨.inr (.inl (by decide)), unbroken, .inl rfl⟩, by decide, .inl rfl⟩, ?_⟩
  decide +kernel

/-- A file in whose second line two wide characters with accents stand before a call. -/
def accentedFile : SourceFile :=
  ⟨"src/b.ts", "f();\r\n\"\u4f60\u0301\u597d\u0301\"; f(y);"⟩

/-- The accents of `accentedFile` take no columns and so make up for the wide characters: the caret stands
under the call behind them. -/
theorem caretIndent_accentedFile :
    let before := ['f', '(', ')', ';', '\r', '\n']
    let shown := ['"', '\u4f60', '\u0301', '\u597d', '\u0301', '"', ';', ' ']
    let hidden := ['f', '(', 'y', ')', ';']
    accentedFile.StandsOn ⟨21, 25⟩ before (shown ++ hidden) []
      ∧ accentedFile.position ⟨21, 25⟩ = byteLength (before ++ shown)
      ∧ ¬ HasLoneReturn before ∧ leadingBreak [] ≠ ['\r']
      ∧ Text.IsApart (shown ++ hidden)
      ∧ Report.caretIndent ((accentedFile.locate (some ⟨21, 25⟩)).sourceLine accentedFile.text)
          (accentedFile.locate (some ⟨21, 25⟩)).column = Text.width shown := by
  intro before shown hidden
  have unbroken : ∀ c ∈ shown ++ hidden, isBreak c = false := List.all_iff_forall_prop.mp (by decide)
  have stands : accentedFile.StandsOn ⟨21, 25⟩ before (shown ++ hidden) [] :=
    ⟨by decide, ⟨.inr (.inl (by decide)), unbroken, .inl rfl⟩, by decide, .inl rfl⟩
  have here : accentedFile.position ⟨21, 25⟩ = byteLength (before ++ shown) := by decide
  have regular : ¬ HasLoneReturn before := by
    simp [before, Text.hasLoneReturn_cons, Text.not_hasLoneReturn_nil]
  have ended : leadingBreak [] ≠ ['\r'] := by decide
  have apart : Text.IsApart (shown ++ hidden) :=
    Text.isApart_of_forall (List.all_iff_forall_prop.mp (by decide +kernel))
  refine ⟨stands, here, regular, ended, apart, ?_⟩
  refine ((caretIndent_eq_width_iff rfl stands here regular ended).2.2 apart).mpr ?_
  exact List.all_iff_forall_prop.mp (by decide +kernel)

end SourceFile

end MessageExtraction
