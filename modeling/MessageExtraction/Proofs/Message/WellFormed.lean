import MessageExtraction.Proofs.Message.Literal
import MessageExtraction.Proofs.Message.Reading

/-!
# Well-formed messages

What every message has that was read from a text.

* Names and selectors are words, styles are trimmed and hold no braces, offsets are 64-bit integers.
* Two literals never stand side by side, and none is empty.
* The pound sign stands inside plurals only.
* The selectors of one element are distinct, one of them is `other`, and those of a plural are `=` with a
  number or a category.

`wellFormed_of_parse` is the result.
-/

namespace MessageExtraction.Message

open MessageExtraction.Text

/-! ## The conditions -/

/-- A word: a name, or a selector. -/
def IsName (s : String) : Prop := s.toList ≠ [] ∧ ∀ c ∈ s.toList, isWordChar c = true

/-- The style of a formatted argument. -/
structure IsStyle (s : String) : Prop where
  nonempty : s.toList ≠ []
  trimmed : trimBlank s.toList = s.toList
  noBraces : ∀ c ∈ s.toList, c ≠ '{' ∧ c ≠ '}'

/-- The range of the offsets of plurals. -/
def IsOffset (i : Int) : Prop := -9223372036854775808 ≤ i ∧ i ≤ 9223372036854775807

/-- Whether an element is literal text. -/
def Element.isLiteral : Element → Bool
  | .literal _ => true
  | _ => false

/-- The selectors of one element; `restricted` says that it is a plural. -/
structure SelectorsWellFormed (restricted : Bool) (selectors : List String) : Prop where
  names : ∀ s ∈ selectors, IsName s
  plural : ∀ s ∈ selectors, restricted = true → isPluralSelector s = true
  distinct : selectors.Nodup
  other : "other" ∈ selectors

mutual
/-- An element that can be read, where `inPlural` says whether it stands inside a plural. -/
def Element.WellFormed (inPlural : Bool) : Element → Prop
  | .literal text => text.toList ≠ []
  | .argument name => IsName name
  | .formatted name _ style => IsName name ∧ ∀ s ∈ style, IsStyle s
  | .plural name _ offset bs =>
      IsName name ∧ IsOffset offset ∧ SelectorsWellFormed true (bs.map Prod.fst)
        ∧ BranchesWellFormed true bs
  | .select name bs =>
      IsName name ∧ SelectorsWellFormed false (bs.map Prod.fst) ∧ BranchesWellFormed inPlural bs
  | .pound => inPlural = true

/-- Elements that can be read one after another. -/
def ElementsWellFormed (inPlural : Bool) : List Element → Prop
  | [] => True
  | e :: es =>
      e.WellFormed inPlural ∧ (e.isLiteral = true → ∀ f ∈ es.head?, f.isLiteral = false)
        ∧ ElementsWellFormed inPlural es

/-- Branches whose messages can be read. -/
def BranchesWellFormed (inPlural : Bool) : List (String × List Element) → Prop
  | [] => True
  | (_, es) :: bs => ElementsWellFormed inPlural es ∧ BranchesWellFormed inPlural bs
end

variable {inPlural : Bool}

/-! ## What an opening brace gives -/

/-- What an opening brace can begin. -/
def Opening.WellFormed : Opening → Prop
  | .element e => e.isLiteral = false ∧ ∀ inPlural, e.WellFormed inPlural
  | .plural name _ offset => IsName name ∧ IsOffset offset
  | .select name => IsName name

theorem isName_word {s : List Char} (h : (word s).isEmpty = false) :
    IsName (String.ofList (word s)) := by
  refine ⟨by simpa using h, fun c hc => ?_⟩
  rw [String.toList_ofList] at hc
  exact List.all_eq_true.mp List.all_takeWhile c hc

theorem head_dropWhile_blank (s : List Char) :
    ∀ c ∈ (s.dropWhile isBlank).head?, isBlank c = false := by
  intro c hc
  have := List.head?_dropWhile_not isBlank s
  rw [hc] at this
  simpa using this

theorem dropWhile_blank_of_head {s : List Char} (h : ∀ c ∈ s.head?, isBlank c = false) :
    s.dropWhile isBlank = s := by
  cases s with
  | nil => rfl
  | cons c s => simp [h c rfl]

/-- What was trimmed has no blanks at its two ends. -/
theorem trimBlank_trimBlank (s : List Char) : trimBlank (trimBlank s) = trimBlank s := by
  generalize ht : s.dropWhile isBlank = t
  have trim : trimBlank s = (t.reverse.dropWhile isBlank).reverse := by rw [trimBlank, ht]
  have head : ∀ c ∈ (trimBlank s).head?, isBlank c = false := by
    have front : (t.reverse.dropWhile isBlank).reverse <+: t := by
      simpa using List.reverse_prefix.mpr (List.dropWhile_suffix (l := t.reverse) isBlank)
    intro c hc
    rw [trim] at hc
    refine head_dropWhile_blank s c ?_
    rw [ht]
    obtain ⟨u, hu⟩ := front
    rw [← hu, List.head?_append, hc]
    rfl
  rw [trimBlank, dropWhile_blank_of_head head, trim, List.reverse_reverse,
    dropWhile_blank_of_head (head_dropWhile_blank _)]

theorem mem_of_mem_trimBlank {s : List Char} {c : Char} (h : c ∈ trimBlank s) : c ∈ s := by
  rw [trimBlank, List.mem_reverse] at h
  have := (List.dropWhile_suffix _).mem h
  exact (List.dropWhile_suffix _).mem (List.mem_reverse.mp this)

theorem isStyle_of_style {s r : List Char} {x : Option String} (h : style s = .ok (x, r)) :
    ∀ t ∈ x, IsStyle t := by
  unfold style at h
  split at h
  · contradiction
  · cases h; simp
  · rename_i t
    simp only at h
    split at h
    · contradiction
    · contradiction
    · split at h <;> cases h
      have hne := ‹¬ (trimBlank _).isEmpty = true›
      rintro _ ⟨⟩
      refine ⟨by simpa using hne, by rw [String.toList_ofList, trimBlank_trimBlank], ?_⟩
      intro c hc
      rw [String.toList_ofList] at hc
      have := List.all_eq_true.mp List.all_takeWhile c (mem_of_mem_trimBlank hc)
      simpa using this
  · contradiction

theorem isOffset_of_integer {s : List Char} {i : Int} (h : integer? s = some i) : IsOffset i := by
  unfold integer? at h
  split at h <;>
  · obtain ⟨j, -, hj⟩ := Option.bind_eq_some_iff.mp h
    dsimp only at hj
    split at hj <;> cases hj
    assumption

theorem isOffset_of_pluralOffset {s r : List Char} {i : Int} (h : pluralOffset s = .ok (i, r)) :
    IsOffset i := by
  unfold pluralOffset at h
  split at h
  · simp only at h
    split at h <;> cases h
    exact isOffset_of_integer ‹_›
  · cases h
    exact ⟨by decide, by decide⟩

theorem wellFormed_of_typed {name : String} {s r : List Char} {o : Opening} (hn : IsName name)
    (h : typed name s = .ok (o, r)) : o.WellFormed := by
  unfold typed at h
  simp only [bind, Except.bind] at h
  split at h
  · contradiction
  split at h
  · split at h <;> cases h
    exact ⟨rfl, fun _ => ⟨hn, isStyle_of_style ‹_›⟩⟩
  split at h
  · split at h
    · contradiction
    split at h <;> cases h
    exact ⟨hn, isOffset_of_pluralOffset ‹_›⟩
  split at h
  · split at h <;> cases h
    exact hn
  · contradiction

theorem wellFormed_of_opening {s r : List Char} {o : Opening} (h : opening s = .ok (o, r)) :
    o.WellFormed := by
  unfold opening at h
  simp only at h
  split at h
  · split at h <;> contradiction
  · have hn : IsName (String.ofList (word (afterBlank s))) :=
      isName_word (by simpa using ‹¬ (word _).isEmpty = true›)
    split at h
    · contradiction
    · cases h
      exact ⟨rfl, fun _ => hn⟩
    · exact wellFormed_of_typed hn h
    · contradiction

/-! ## What a whole reading gives -/

/-- What stands behind literal text stops it. -/
theorem isBoundary_literal (quoted : Bool) (s : List Char) :
    IsBoundary inPlural (literal inPlural quoted s).2 := by
  fun_induction literal inPlural quoted s <;> simp_all [IsBoundary]

theorem withLiteral_wellFormed {text : List Char} {es : List Element}
    (h : ElementsWellFormed inPlural es) (head : ∀ e ∈ es.head?, e.isLiteral = false) :
    ElementsWellFormed inPlural (withLiteral text es) := by
  rw [withLiteral]
  split
  · exact h
  · rename_i hne
    exact ⟨by simpa [Element.WellFormed] using hne, fun _ => head, h⟩

/-- What a row of branches gives whose selectors come after those `seen`. -/
structure BranchesRead (inPlural restricted : Bool) (seen : List String) (bs : List Branch) :
    Prop where
  names : ∀ s ∈ bs.map Prod.fst, IsName s
  plural : ∀ s ∈ bs.map Prod.fst, restricted = true → isPluralSelector s = true
  distinct : (bs.map Prod.fst).Nodup
  fresh : ∀ s ∈ bs.map Prod.fst, s ∉ seen
  other : "other" ∈ bs.map Prod.fst ∨ "other" ∈ seen
  messages : BranchesWellFormed inPlural bs

theorem BranchesRead.selectors {restricted : Bool} {bs : List Branch}
    (h : BranchesRead inPlural restricted [] bs) :
    SelectorsWellFormed restricted (bs.map Prod.fst) :=
  ⟨h.names, h.plural, h.distinct, by simpa using h.other⟩

theorem BranchesRead.of_selectors {restricted : Bool} {bs : List Branch}
    (h : SelectorsWellFormed restricted (bs.map Prod.fst)) (messages : BranchesWellFormed inPlural bs) :
    BranchesRead inPlural restricted [] bs :=
  ⟨h.names, h.plural, h.distinct, by simp, .inl h.other, messages⟩

/-- One more branch in front, with a selector that was not seen. -/
theorem BranchesRead.cons {restricted : Bool} {seen : List String} {selector : String}
    {es : List Element} {bs : List Branch} (name : IsName selector)
    (plural : restricted = true → isPluralSelector selector = true) (fresh : selector ∉ seen)
    (message : ElementsWellFormed inPlural es)
    (h : BranchesRead inPlural restricted (selector :: seen) bs) :
    BranchesRead inPlural restricted seen ((selector, es) :: bs) where
  names := by simpa using ⟨name, fun s t ht => h.names s (List.mem_map_of_mem ht)⟩
  plural := by simpa using ⟨plural, fun s t ht => h.plural s (List.mem_map_of_mem ht)⟩
  distinct := by
    refine List.nodup_cons.mpr ⟨fun mem => ?_, h.distinct⟩
    exact h.fresh selector mem List.mem_cons_self
  fresh := by
    intro s hs
    rcases List.mem_cons.mp hs with rfl | hs
    · exact fresh
    · exact fun mem => h.fresh s hs (List.mem_cons_of_mem _ mem)
  other := by
    rcases h.other with mem | mem
    · exact .inl (List.mem_cons_of_mem _ mem)
    · rcases List.mem_cons.mp mem with rfl | mem
      · exact .inl List.mem_cons_self
      · exact .inr mem
  messages := ⟨message, h.messages⟩

/-- The branches behind the first. -/
theorem BranchesRead.tail {restricted : Bool} {seen : List String} {selector : String}
    {es : List Element} {bs : List Branch}
    (h : BranchesRead inPlural restricted seen ((selector, es) :: bs)) :
    BranchesRead inPlural restricted (selector :: seen) bs where
  names := fun s hs => h.names s (List.mem_cons_of_mem _ hs)
  plural := fun s hs => h.plural s (List.mem_cons_of_mem _ hs)
  distinct := (List.nodup_cons.mp h.distinct).2
  fresh := by
    intro s hs mem
    rcases List.mem_cons.mp mem with rfl | mem
    · exact (List.nodup_cons.mp h.distinct).1 hs
    · exact h.fresh s (List.mem_cons_of_mem _ hs) mem
  other := by
    rcases h.other with mem | mem
    · rcases List.mem_cons.mp mem with eq | mem
      · exact .inr (by rw [eq]; exact List.mem_cons_self)
      · exact .inl mem
    · exact .inr (List.mem_cons_of_mem _ mem)
  messages := h.messages.2

theorem wellFormed_of_readBody {o : Opening} {s r : List Char} {e : Element} (ho : o.WellFormed)
    (branches : ∀ {p restricted : Bool} {bs : List Branch} {q : List Char},
      readBranches p restricted [] s = .ok (bs, q) → BranchesRead p restricted [] bs)
    (h : readBody inPlural o s = .ok (e, r)) : e.WellFormed inPlural ∧ e.isLiteral = false := by
  cases o with
  | element e => cases h; exact ⟨ho.2 inPlural, ho.1⟩
  | plural name ordinal offset =>
    obtain ⟨⟨bs, q⟩, read, h⟩ := bind_ok h
    cases h
    exact ⟨⟨ho.1, ho.2, (branches read).selectors, (branches read).messages⟩, rfl⟩
  | select name =>
    obtain ⟨⟨bs, q⟩, read, h⟩ := bind_ok h
    cases h
    exact ⟨⟨ho, (branches read).selectors, (branches read).messages⟩, rfl⟩

/-- Whether elements that are read from fewer than `n` characters are well-formed. -/
def ReadsElements (n : Nat) : Prop :=
  ∀ {nested p : Bool} {s r : List Char} {es : List Element}, s.length < n →
    readElements nested p s = .ok (es, r) → ElementsWellFormed p es

/-- Whether branches that are read from fewer than `n` characters are well-formed. -/
def ReadsBranches (n : Nat) : Prop :=
  ∀ {p restricted : Bool} {seen : List String} {s r : List Char} {bs : List Branch}, s.length < n →
    readBranches p restricted seen s = .ok (bs, r) → BranchesRead p restricted seen bs

section Step

variable {n : Nat} (readsElements : ReadsElements n) (readsBranches : ReadsBranches n)

include readsElements readsBranches

theorem ReadsElements.succ : ReadsElements (n + 1) := by
  intro nested p s r es bound h
  have le := literal_length_le p false s
  have boundary : IsBoundary p (literal p false s).2 := isBoundary_literal false s
  rw [readElements_eq] at h
  split at h
  · cases h
    exact withLiteral_wellFormed trivial (by simp)
  · split at h <;> cases h
    exact withLiteral_wellFormed trivial (by simp)
  · rename_i text q read
    obtain ⟨⟨o, q₁⟩, opened, h⟩ := bind_ok h
    obtain ⟨⟨e, q₂⟩, body, h⟩ := bind_ok h
    obtain ⟨⟨fs, q₃⟩, more, h⟩ := bind_ok h
    cases h
    have := opening_length opened
    have := readBody_length body
    simp only [read, List.length_cons] at le
    obtain ⟨wf, lit⟩ := wellFormed_of_readBody (wellFormed_of_opening opened)
      (fun h => readsBranches (by omega) h) body
    refine withLiteral_wellFormed ⟨wf, by simp [lit], readsElements (by omega) more⟩ ?_
    rintro _ ⟨⟩
    exact lit
  · rename_i text c q closing opening read
    obtain ⟨⟨fs, q₃⟩, more, h⟩ := bind_ok h
    cases h
    simp only [read, List.length_cons] at le
    have pound : p = true := by
      rcases special_cases (boundary c (by rw [read]; rfl)) with rfl | rfl | ⟨rfl, h⟩
      · exact absurd rfl opening
      · exact absurd rfl closing
      · exact h
    refine withLiteral_wellFormed ⟨pound, nofun, readsElements (by omega) more⟩ ?_
    rintro _ ⟨⟩
    rfl

theorem ReadsBranches.succ : ReadsBranches (n + 1) := by
  intro p restricted seen s r bs bound h
  have le := afterBlank_length_le s
  rw [readBranches_eq] at h
  split at h
  · contradiction
  · split at h
    · contradiction
    split at h <;> cases h
    have other := ‹¬ (!List.contains seen "other") = true›
    exact ⟨by simp, by simp, .nil, by simp, .inr (by simpa using other), trivial⟩
  · rename_i c q closing start
    dsimp only at h
    split at h
    · contradiction
    split at h
    · contradiction
    split at h
    · contradiction
    obtain ⟨q₁, brace, h⟩ := bind_ok h
    obtain ⟨⟨es, q₂⟩, message, h⟩ := bind_ok h
    obtain ⟨q₃, close, h⟩ := bind_ok h
    obtain ⟨⟨cs, q₄⟩, more, h⟩ := bind_ok h
    cases h
    have := afterWord_length_le (c :: q)
    have := afterBlank_length_le (afterWord (c :: q))
    have := expect_length brace
    have := readElements_length message
    have : q₃.length < q₂.length := expect_length close
    rw [start] at le
    exact BranchesRead.cons (isName_word (by simpa using ‹¬ (word _).isEmpty = true›))
      (by grind) (by grind) (readsElements (by omega) message) (readsBranches (by omega) more)

end Step

/-- What is read is well-formed, by induction on the size of what it is read from. -/
theorem wellFormed_of_read (n : Nat) : ReadsElements n ∧ ReadsBranches n := by
  induction n with
  | zero => exact ⟨fun h => absurd h (Nat.not_lt_zero _), fun h => absurd h (Nat.not_lt_zero _)⟩
  | succ n ih => exact ⟨ReadsElements.succ ih.1 ih.2, ReadsBranches.succ ih.1 ih.2⟩

/-- A message that was read from a text is well-formed. -/
theorem wellFormed_of_parse {text : String} {es : List Element} (h : parse text = .ok es) :
    ElementsWellFormed false es := by
  obtain ⟨r, read⟩ := parse_ok_iff.mp h
  exact (wellFormed_of_read _).1 (Nat.lt_succ_self _) read

end MessageExtraction.Message
