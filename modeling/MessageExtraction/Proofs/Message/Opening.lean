import MessageExtraction.Proofs.Message.WellFormed

/-!
# Reading written arguments

What an opening brace gives when the text behind it was written by `Element.print`: the element itself,
or the branching form with its branches still to be read (`Opens`, `opening_print`).
-/

namespace MessageExtraction.Message

open MessageExtraction.Text

variable {inPlural : Bool}

/-! ## Words at the front -/

theorem not_blank_of_isWordChar {c : Char} (h : isWordChar c = true) : isBlank c = false := by
  simp only [isWordChar, Bool.and_eq_true, Bool.not_eq_true'] at h
  exact h.1.1.1.1.1

theorem word_append {a q : List Char} (ha : ∀ c ∈ a, isWordChar c = true)
    (hq : ∀ c ∈ q.head?, isWordChar c = false) : word (a ++ q) = a := by
  rw [word, List.takeWhile_append_of_pos ha]
  cases q with
  | nil => simp
  | cons c q => simp [hq c rfl]

theorem afterWord_append {a q : List Char} (ha : ∀ c ∈ a, isWordChar c = true)
    (hq : ∀ c ∈ q.head?, isWordChar c = false) : afterWord (a ++ q) = q := by
  rw [afterWord, List.dropWhile_append_of_pos ha]
  cases q with
  | nil => rfl
  | cons c q => simp [hq c rfl]

theorem afterBlank_cons {c : Char} (h : isBlank c = false) (s : List Char) :
    afterBlank (c :: s) = c :: s :=
  dropWhile_blank_of_head (by simpa using h)

theorem afterBlank_space (s : List Char) : afterBlank (' ' :: s) = afterBlank s := by
  have : isBlank ' ' = true := by decide
  rw [afterBlank, List.dropWhile_cons, if_pos this, afterBlank]

theorem IsName.head {name : String} (h : IsName name) :
    ∃ c w, name.toList = c :: w ∧ isWordChar c = true := by
  obtain ⟨nonempty, all⟩ := h
  cases e : name.toList with
  | nil => exact absurd e nonempty
  | cons c w => exact ⟨c, w, rfl, all c (by simp [e])⟩

/-- There is no blank before a name. -/
theorem IsName.afterBlank {name : String} (h : IsName name) (q : List Char) :
    afterBlank (name.toList ++ q) = name.toList ++ q := by
  obtain ⟨c, w, e, hc⟩ := h.head
  rw [e]
  exact afterBlank_cons (not_blank_of_isWordChar hc) _

/-! ## Arguments -/

theorem opening_argument {name : String} (h : IsName name) (q : List Char) :
    opening (name.toList ++ '}' :: q) = .ok (.element (.argument name), q) := by
  have stop : ∀ d ∈ ('}' :: q).head?, isWordChar d = false := by simp [isWordChar]
  rw [opening, h.afterBlank, word_append h.2 stop, afterWord_append h.2 stop,
    String.ofList_toList, if_neg (by simpa using h.1), afterBlank_cons (by decide)]
  rfl

theorem opening_typed {name : String} (h : IsName name) (q : List Char) :
    opening (name.toList ++ ',' :: ' ' :: q) = typed name (afterBlank q) := by
  have stop : ∀ d ∈ (',' :: ' ' :: q).head?, isWordChar d = false := by simp [isWordChar]
  rw [opening, h.afterBlank, word_append h.2 stop, afterWord_append h.2 stop,
    String.ofList_toList, if_neg (by simpa using h.1), afterBlank_cons (by decide)]
  exact congrArg (typed name) (afterBlank_space q)

/-- A type at the front, with a closing brace or a comma behind it. -/
theorem typed_word {type : String} (h : IsName type) {c : Char} (hc : isWordChar c = false)
    (hb : isBlank c = false) (name : String) (q : List Char) :
    typed name (type.toList ++ c :: q) = (
      match ValueFormat.ofKeyword? type with
      | some format => do
          let (style, r) ← style (c :: q)
          .ok (.element (.formatted name format style), r)
      | none =>
          if type = "plural" ∨ type = "selectordinal" then do
            let r ← expect ',' .malformedArgument (c :: q)
            let (offset, r) ← pluralOffset (afterBlank r)
            .ok (.plural name (type = "selectordinal") offset, r)
          else if type = "select" then do
            let r ← expect ',' .malformedArgument (c :: q)
            .ok (.select name, r)
          else .error ⟨.invalidArgumentType type, type.toList ++ c :: q⟩) := by
  have stop : ∀ d ∈ (c :: q).head?, isWordChar d = false := by simpa using hc
  rw [typed, word_append h.2 stop, afterWord_append h.2 stop, String.ofList_toList,
    afterBlank_cons hb]
  exact if_neg (by simpa using h.1)

/-! ## Formatted arguments -/

theorem isName_keyword (format : ValueFormat) : IsName format.keyword := by
  cases format <;> exact ⟨by decide, List.all_eq_true.mp (by decide)⟩

theorem ofKeyword?_keyword (format : ValueFormat) :
    ValueFormat.ofKeyword? format.keyword = some format := by
  cases format <;> rfl

theorem style_written {s : String} (h : IsStyle s) (q : List Char) :
    style (',' :: ' ' :: (s.toList ++ '}' :: q)) = .ok (some s, q) := by
  have inside : ∀ c ∈ ' ' :: s.toList, (c != '{' && c != '}') = true := by
    intro c hc
    rcases List.mem_cons.mp hc with rfl | hc
    · decide
    · obtain ⟨h₁, h₂⟩ := h.noBraces c hc
      simp [h₁, h₂]
  have trim : trimBlank (' ' :: s.toList) = s.toList := by
    have blank : isBlank ' ' = true := by decide
    rw [trimBlank, List.dropWhile_cons, if_pos blank, ← trimBlank, h.trimmed]
  have taken : (' ' :: (s.toList ++ '}' :: q)).takeWhile (fun c => c != '{' && c != '}')
      = ' ' :: s.toList := by
    rw [← List.cons_append, List.takeWhile_append_of_pos inside]
    simp
  have dropped : (' ' :: (s.toList ++ '}' :: q)).dropWhile (fun c => c != '{' && c != '}')
      = '}' :: q := by
    rw [← List.cons_append, List.dropWhile_append_of_pos inside]
    simp
  have nonempty : (s.toList.isEmpty = true) = False := by simpa using h.nonempty
  simp only [style, taken, dropped, trim, nonempty, if_false, String.ofList_toList]
  rfl

theorem typed_formatted (name : String) (format : ValueFormat) (q : List Char) :
    typed name (format.keyword.toList ++ '}' :: q)
      = .ok (.element (.formatted name format none), q) := by
  rw [typed_word (isName_keyword format) (by decide) (by decide), ofKeyword?_keyword]
  rfl

theorem typed_styled (name : String) (format : ValueFormat) {s : String} (h : IsStyle s)
    (q : List Char) :
    typed name (format.keyword.toList ++ ',' :: ' ' :: (s.toList ++ '}' :: q))
      = .ok (.element (.formatted name format (some s)), q) := by
  rw [typed_word (isName_keyword format) (by decide) (by decide), ofKeyword?_keyword]
  simp only [style_written h]
  rfl

/-! ## Offsets -/

/-- The offset of a plural as it is written, with the blank behind it. -/
def offsetText (offset : Int) : List Char :=
  if offset = 0 then [] else "offset:".toList ++ (toString offset).toList ++ [' ']

theorem digits?_toDigits (n : Nat) : digits? (Nat.toDigits 10 n) = some n := by
  have nonempty : Nat.toDigits 10 n ≠ [] := Nat.toDigits_ne_nil
  have all : (Nat.toDigits 10 n).all Char.isDigit = true :=
    List.all_eq_true.mpr fun c hc => Nat.isDigit_of_mem_toDigits (by decide) (by decide) hc
  have value : (Nat.toDigits 10 n).foldl (fun n d => 10 * n + (d.toNat - 48)) 0 = n := by
    have := Nat.ofDigitChars_ten_toDigits (n := n)
    rwa [Nat.ofDigitChars_eq_foldl] at this
  rw [digits?.eq_def]
  split
  · contradiction
  · simp [all, value]

theorem toList_toString (i : Int) :
    (toString i).toList = (if i < 0 then ['-'] else []) ++ Nat.toDigits 10 i.natAbs := by
  rw [Int.toString_eq_repr, Int.repr_eq_if]
  split <;> split <;> try omega
  · rw [Nat.toList_repr, List.nil_append, show i.toNat = i.natAbs by omega]
  · rw [String.toList_append, Nat.toList_repr, show (-i).toNat = i.natAbs by omega]
    rfl

theorem isDigit_of_mem_digits {n : Nat} {c : Char} (h : c ∈ Nat.toDigits 10 n) :
    c.isDigit = true :=
  Nat.isDigit_of_mem_toDigits (by decide) (by decide) h

theorem integer?_toString {i : Int} (h : IsOffset i) : integer? (toString i).toList = some i := by
  have range : -9223372036854775808 ≤ i ∧ i ≤ 9223372036854775807 := h
  rw [toList_toString]
  by_cases neg : i < 0
  · rw [if_pos neg]
    simp only [List.cons_append, List.nil_append, integer?, digits?_toDigits, Option.map_some,
      Option.bind_eq_bind, Option.bind_some, Option.pure_def]
    rw [show -(i.natAbs : Int) = i by omega, if_pos range]
  · rw [if_neg neg, List.nil_append, integer?.eq_def]
    have head {c : Char} {ds : List Char} (e : Nat.toDigits 10 i.natAbs = c :: ds) :
        c.isDigit = true :=
      isDigit_of_mem_digits (by rw [e]; exact List.mem_cons_self)
    split
    · exact absurd (head ‹_›) (by decide)
    · exact absurd (head ‹_›) (by decide)
    · simp only [digits?_toDigits, Option.map_some, Option.bind_eq_bind, Option.bind_some,
        Option.pure_def]
      rw [show (i.natAbs : Int) = i by omega, if_pos range]

theorem isWordChar_of_isDigit {c : Char} (h : c.isDigit = true) : isWordChar c = true := by
  have range : 48 ≤ c.toNat ∧ c.toNat ≤ 57 := by
    simpa [Char.isDigit, UInt32.le_iff_toNat_le] using h
  have blank : isBlank c = false := by
    simp only [isBlank, Bool.or_eq_false_iff, Bool.and_eq_false_iff, decide_eq_false_iff_not,
      beq_eq_false_iff_ne]
    omega
  have other {d : Char} (hd : d.isDigit = false) : c ≠ d := by
    rintro rfl
    exact Bool.false_ne_true (hd.symm.trans h)
  have brace := other (d := '{') (by decide)
  have close := other (d := '}') (by decide)
  have comma := other (d := ',') (by decide)
  have pound := other (d := '#') (by decide)
  have apostrophe := other (d := '\'') (by decide)
  simp [isWordChar, *]

theorem isWordChar_of_mem_toString (i : Int) : ∀ c ∈ (toString i).toList, isWordChar c = true := by
  intro c hc
  rw [toList_toString] at hc
  rcases List.mem_append.mp hc with hc | hc
  · split at hc <;> simp at hc
    subst hc
    decide
  · exact isWordChar_of_isDigit (isDigit_of_mem_digits hc)

theorem isName_toString (i : Int) : IsName (toString i) := by
  refine ⟨?_, isWordChar_of_mem_toString i⟩
  rw [toList_toString]
  simp [Nat.toDigits_ne_nil]

/-- The selector of a plural does not look like the start of an offset. -/
theorem pluralOffset_selector {selector : String} (h : isPluralSelector selector = true)
    (q : List Char) :
    pluralOffset (selector.toList ++ q) = .ok (0, selector.toList ++ q) := by
  unfold isPluralSelector at h
  split at h
  · rename_i e
    rw [e]
    rfl
  · simp only [pluralKeywords, List.contains_eq_mem, List.mem_cons, List.not_mem_nil, or_false,
      decide_eq_true_eq] at h
    rcases h with rfl | rfl | rfl | rfl | rfl | rfl <;> rfl

theorem pluralOffset_written {i : Int} (hi : IsOffset i) {selector : String} (hn : IsName selector)
    (hs : isPluralSelector selector = true) (q : List Char) :
    ∃ r, pluralOffset (offsetText i ++ (selector.toList ++ q)) = .ok (i, r)
      ∧ afterBlank r = selector.toList ++ q := by
  by_cases zero : i = 0
  · subst zero
    exact ⟨_, pluralOffset_selector hs q, hn.afterBlank q⟩
  · have stop : ∀ d ∈ (' ' :: (selector.toList ++ q)).head?, isWordChar d = false := by
      rintro _ ⟨⟩
      decide
    have text : offsetText i ++ (selector.toList ++ q)
        = 'o' :: 'f' :: 'f' :: 's' :: 'e' :: 't' :: ':'
            :: ((toString i).toList ++ ' ' :: (selector.toList ++ q)) := by
      rw [offsetText, if_neg zero]
      simp
    refine ⟨' ' :: (selector.toList ++ q), ?_, by rw [afterBlank_space, hn.afterBlank]⟩
    rw [text]
    simp only [pluralOffset, (isName_toString i).afterBlank, word_append (isName_toString i).2 stop,
      afterWord_append (isName_toString i).2 stop, integer?_toString hi]

/-! ## Branching forms -/

/-- The type of a plural. -/
def pluralType (ordinal : Bool) : String := if ordinal then "selectordinal" else "plural"

theorem isName_pluralType (ordinal : Bool) : IsName (pluralType ordinal) := by
  cases ordinal <;> exact ⟨by decide, List.all_eq_true.mp (by decide)⟩

theorem typed_plural (name : String) (ordinal : Bool) (q : List Char) :
    typed name ((pluralType ordinal).toList ++ ',' :: q) = (do
      let (offset, r) ← pluralOffset (afterBlank q)
      .ok (.plural name ordinal offset, r)) := by
  rw [typed_word (isName_pluralType ordinal) (by decide) (by decide)]
  cases ordinal <;> rfl

theorem opening_plural {name selector : String} (hn : IsName name) (ordinal : Bool) {offset : Int}
    (ho : IsOffset offset) (hw : IsName selector) (hs : isPluralSelector selector = true)
    (q : List Char) :
    ∃ r, opening (name.toList ++ (if ordinal then ", selectordinal, " else ", plural, ").toList
          ++ offsetText offset ++ (selector.toList ++ q)) = .ok (.plural name ordinal offset, r)
      ∧ afterBlank r = selector.toList ++ q := by
  obtain ⟨r, read, left⟩ := pluralOffset_written ho hw hs q
  have start : afterBlank (offsetText offset ++ (selector.toList ++ q))
      = offsetText offset ++ (selector.toList ++ q) := by
    rw [offsetText]
    split
    · exact hw.afterBlank q
    · exact afterBlank_cons (by decide) _
  have text : name.toList ++ (if ordinal then ", selectordinal, " else ", plural, ").toList
        ++ offsetText offset ++ (selector.toList ++ q)
      = name.toList ++ ',' :: ' ' :: ((pluralType ordinal).toList
          ++ ',' :: ' ' :: (offsetText offset ++ (selector.toList ++ q))) := by
    cases ordinal <;> simp [pluralType]
  refine ⟨r, ?_, left⟩
  rw [text, opening_typed hn, (isName_pluralType ordinal).afterBlank, typed_plural,
    afterBlank_space, start, read]
  rfl

theorem opening_select {name : String} (hn : IsName name) (q : List Char) :
    opening (name.toList ++ ", select, ".toList ++ q) = .ok (.select name, ' ' :: q) := by
  have select : IsName "select" := ⟨by decide, List.all_eq_true.mp (by decide)⟩
  have text : name.toList ++ ", select, ".toList ++ q
      = name.toList ++ ',' :: ' ' :: ("select".toList ++ ',' :: ' ' :: q) := by
    simp
  rw [text, opening_typed hn, select.afterBlank, typed_word select (by decide) (by decide)]
  rfl

/-! ## Elements -/

/-- What the opening brace of a written element gives when `s` stands behind the element. -/
inductive Opens (inPlural : Bool) (s : List Char) : Element → Opening → List Char → Prop
  | argument (name : String) : Opens inPlural s (.argument name) (.element (.argument name)) s
  | formatted (name : String) (format : ValueFormat) (style : Option String) :
      Opens inPlural s (.formatted name format style) (.element (.formatted name format style)) s
  | plural (name : String) (ordinal : Bool) (offset : Int) (bs : List Branch) {q : List Char} :
      afterBlank q = printBranches true bs ++ '}' :: s →
      Opens inPlural s (.plural name ordinal offset bs) (.plural name ordinal offset) q
  | select (name : String) (bs : List Branch) {q : List Char} :
      afterBlank q = printBranches inPlural bs ++ '}' :: s →
      Opens inPlural s (.select name bs) (.select name) q

/-- What stands between a branch and the closing brace of its element. -/
def branchesBehind (inPlural : Bool) : List Branch → List Char
  | [] => []
  | b :: bs => ' ' :: printBranches inPlural (b :: bs)

theorem printBranches_cons (selector : String) (es : List Element) (bs : List Branch)
    (s : List Char) :
    printBranches inPlural ((selector, es) :: bs) ++ s
      = selector.toList ++ ' ' :: '{' :: (printElements inPlural es
          ++ '}' :: (branchesBehind inPlural bs ++ s)) := by
  cases bs <;> simp [printBranches, branchesBehind]

theorem afterBlank_branchesBehind {restricted : Bool} {seen : List String} {bs : List Branch}
    (h : BranchesRead inPlural restricted seen bs) (s : List Char) :
    afterBlank (branchesBehind inPlural bs ++ '}' :: s)
      = printBranches inPlural bs ++ '}' :: s := by
  cases bs with
  | nil => exact afterBlank_cons (by decide) s
  | cons b bs =>
    obtain ⟨selector, es⟩ := b
    rw [branchesBehind, List.cons_append, afterBlank_space, printBranches_cons]
    exact (h.names selector (by simp)).afterBlank _

theorem opening_print {e : Element} (h : e.WellFormed inPlural) (lit : e.isLiteral = false)
    (pound : e ≠ .pound) (s : List Char) :
    ∃ t o q, e.print inPlural ++ s = '{' :: t ∧ opening t = .ok (o, q) ∧ Opens inPlural s e o q := by
  cases e with
  | literal text => contradiction
  | pound => contradiction
  | argument name =>
    refine ⟨name.toList ++ '}' :: s, _, _, by simp [Element.print], opening_argument h s,
      .argument name⟩
  | formatted name format style =>
    obtain ⟨hn, hs⟩ := h
    cases style with
    | none =>
      refine ⟨name.toList ++ ',' :: ' ' :: (format.keyword.toList ++ '}' :: s), _, _,
        by simp [Element.print], ?_, .formatted name format none⟩
      rw [opening_typed hn, (isName_keyword format).afterBlank, typed_formatted]
    | some style =>
      refine ⟨name.toList ++ ',' :: ' ' :: (format.keyword.toList
          ++ ',' :: ' ' :: (style.toList ++ '}' :: s)), _, _, by simp [Element.print], ?_,
        .formatted name format style⟩
      rw [opening_typed hn, (isName_keyword format).afterBlank, typed_styled _ _ (hs style rfl)]
  | plural name ordinal offset bs =>
    obtain ⟨hn, ho, hb, -⟩ := h
    cases bs with
    | nil => exact absurd hb.other (by simp)
    | cons b bs =>
      obtain ⟨selector, es⟩ := b
      obtain ⟨q, read, left⟩ := opening_plural hn ordinal ho (hb.names selector (by simp))
        (hb.plural selector (by simp) rfl)
        (' ' :: '{' :: (printElements true es ++ '}' :: (branchesBehind true bs ++ '}' :: s)))
      rw [← printBranches_cons] at read left
      exact ⟨_, _, q, by simp [Element.print, offsetText], read, .plural name ordinal offset _ left⟩
  | select name bs =>
    obtain ⟨hn, hb, -⟩ := h
    refine ⟨_, _, ' ' :: (printBranches inPlural bs ++ '}' :: s), ?_, opening_select hn _, ?_⟩
    · simp [Element.print]
    · refine .select name bs ?_
      cases bs with
      | nil => exact absurd hb.other (by simp)
      | cons b bs =>
        obtain ⟨selector, es⟩ := b
        rw [afterBlank_space, printBranches_cons]
        exact (hb.names selector (by simp)).afterBlank _

end MessageExtraction.Message
