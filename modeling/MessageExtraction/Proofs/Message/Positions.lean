import MessageExtraction.Proofs.Message.RoundTrip
import MessageExtraction.Proofs.Message.Scanner

/-!
# Where reading stands

Reading by byte offsets and reading from the front of what is left come to the same, character by character:
the offset is that of what is left. So no slice is refused, and each syntax error names a place that there is
in the text.

* `Follows`: what a scan and a reader have in common. `Follows.bind` composes it, so each scan is compared
  with its reader alone.
* `follows_opening`: the scan of an argument.
* `FollowsElements.succ`, `FollowsBranches.succ`: one turn more; `follows_elements_branches`: any number.
* `scan_eq_parse`: the whole, with the places of syntax errors.
-/

namespace MessageExtraction.Message

open MessageExtraction.Text

/-- The byte offset in a text of what stands at its end. -/
def place (text s : List Char) : Nat := byteLength text - byteLength s

theorem place_append (front s : List Char) : place (front ++ s) s = byteLength front := by
  rw [place, byteLength_append, Nat.add_sub_cancel]

/-! ## Following a reader -/

variable {α β : Type} {text s r : List Char}

/-- The outcome of a scan that a reading stands for: what is left becomes an offset. -/
def outcomeAt (text : List Char) : Except Failure (α × List Char) → Except SyntaxError (α × Nat)
  | .ok (a, r) => .ok (a, place text r)
  | .error f => .error (f.toError text)

/-- Whether a reading of `s` stays in the text: what is left is the end of `s`, and a failure names an end of
the text, the very end if it is that of an unclosed argument. -/
def Stays (text s : List Char) : Except Failure (α × List Char) → Prop
  | .ok (_, r) => r <:+ s
  | .error f => f.rest <:+ text ∧ (f.cause = .unclosedArgument → f.rest = [])

/-- Whether a scan comes to the same as a reading of `s`, wherever `s` is the end of the text. -/
def Follows (text : List Char) (scan : Scanner α) (s : List Char)
    (reading : Except Failure (α × List Char)) : Prop :=
  s <:+ text → scan text (place text s) = some (outcomeAt text reading) ∧ Stays text s reading

namespace Follows

variable {x : Scanner α} {f : α → Scanner β} {a : α}

/-- One scan after the other. -/
theorem bind {reading : Except Failure (α × List Char)}
    {g : α × List Char → Except Failure (β × List Char)} (first : Follows text x s reading)
    (more : ∀ a r, reading = .ok (a, r) → r <:+ s → Follows text (f a) r (g (a, r))) :
    Follows text (x >>= f) s (reading >>= g) := by
  intro suffix
  obtain ⟨run, stays⟩ := first suffix
  have eq := Scanner.run_bind x f text (place text s)
  rw [run] at eq
  cases reading with
  | error f => exact ⟨eq, stays⟩
  | ok step =>
    obtain ⟨a, r⟩ := step
    -- What is left is an end of the text too, so the second scan stands where its reader does.
    have within : r <:+ s := stays
    obtain ⟨run', stays'⟩ := more a r rfl within (within.trans suffix)
    refine ⟨eq.trans run', ?_⟩
    dsimp only [Bind.bind, Except.bind]
    cases eq : g (a, r) with
    | error f => rwa [eq] at stays'
    | ok step =>
      rw [eq] at stays'
      exact List.IsSuffix.trans stays' within

/-- One scan after another whose value is known. -/
theorem step {reading : Except Failure (β × List Char)} (first : Follows text x s (.ok (a, r)))
    (more : Follows text (f a) r reading) : Follows text (x >>= f) s reading :=
  first.bind (g := fun _ => reading) fun _ _ eq _ => by
    cases eq
    exact more

/-- What follows a syntax error is not scanned. -/
theorem halt {failure : Failure} (first : Follows text x s (.error failure)) :
    Follows text (x >>= f) s (.error failure) :=
  first.bind (g := fun _ => .error failure) nofun

theorem value (a : α) (s : List Char) : Follows text (pure a : Scanner α) s (.ok (a, s)) :=
  fun _ => ⟨rfl, List.suffix_rfl⟩

theorem of_suffix {reading : Except Failure (α × List Char)}
    (h : s <:+ text → Follows text x s reading) : Follows text x s reading :=
  fun suffix => h suffix suffix

theorem branch {p : Prop} [Decidable p] {y : Scanner α} {u v : Except Failure (α × List Char)}
    (yes : p → Follows text x s u) (no : ¬ p → Follows text y s v) :
    Follows text (if p then x else y) s (if p then u else v) := by
  by_cases h : p
  · rw [if_pos h, if_pos h]
    exact yes h
  · rw [if_neg h, if_neg h]
    exact no h

end Follows

/-! ## Moving -/

theorem follows_get (s : List Char) :
    Follows text (get : Scanner Nat) s (.ok (place text s, s)) :=
  fun _ => ⟨rfl, List.suffix_rfl⟩

theorem follows_read (s : List Char) : Follows text (read : Scanner (List Char)) s (.ok (text, s)) :=
  fun _ => ⟨rfl, List.suffix_rfl⟩

theorem follows_turns (s : List Char) :
    Follows text Scanner.turns s (.ok (text.length + 1, s)) :=
  (follows_read s).step (.value _ _)

/-- A text can be split where the byte length of its front says. -/
theorem follows_split (front back s : List Char) :
    Follows text (Scanner.split (byteLength front) (front ++ back)) s (.ok ((front, back), s)) := by
  intro _
  refine ⟨?_, List.suffix_rfl⟩
  rw [Scanner.split, splitBytes?_append]
  rfl

theorem follows_ahead (s : List Char) : Follows text Scanner.ahead s (.ok (s, s)) := by
  refine .of_suffix fun suffix => (follows_get s).step ((follows_read s).step ?_)
  obtain ⟨front, rfl⟩ := suffix
  rw [place_append]
  exact (follows_split front s s).step (.value _ _)

/-- The slice of what was moved over. -/
theorem follows_slice {front : List Char} (suffix : front ++ r <:+ text) :
    Follows text (Scanner.slice (place text (front ++ r))) r (.ok (front, r)) := by
  refine (follows_get r).step ((follows_read r).step ?_)
  obtain ⟨before, rfl⟩ := suffix
  rw [place_append, ← List.append_assoc, place_append]
  exact (follows_split (before ++ front) r r).step ((follows_split before front r).step (.value _ _))

theorem follows_peek (s : List Char) : Follows text Scanner.peek s (.ok (s.head?, s)) :=
  (follows_ahead s).step (.value _ _)

theorem follows_move (front r : List Char) :
    Follows text (modify (· + byteLength front) : Scanner Unit) (front ++ r) (.ok ((), r)) := by
  rintro ⟨before, rfl⟩
  refine ⟨?_, List.suffix_append _ _⟩
  show some (Except.ok ((), place (before ++ (front ++ r)) (front ++ r) + byteLength front))
    = some (Except.ok ((), place (before ++ (front ++ r)) r))
  rw [place_append, ← List.append_assoc, place_append, byteLength_append]

theorem follows_bump (c : Char) (r : List Char) :
    Follows text Scanner.bump (c :: r) (.ok (some c, r)) :=
  (follows_peek _).step ((follows_move [c] r).step (.value _ _))

theorem follows_bump_end : Follows text Scanner.bump [] (.ok (none, [])) :=
  (follows_peek _).step (.value _ _)

theorem follows_stopAt {cause : Cause} (suffix : s <:+ text) (other : cause ≠ .unclosedArgument) :
    Follows text (Scanner.stopAt (place text s) cause : Scanner α) r (.error ⟨cause, s⟩) :=
  fun _ => ⟨rfl, suffix, fun unclosed => absurd unclosed other⟩

theorem follows_stop {cause : Cause} (other : cause ≠ .unclosedArgument) :
    Follows text (Scanner.stop cause : Scanner α) s (.error ⟨cause, s⟩) :=
  .of_suffix fun suffix => (follows_get s).step (follows_stopAt suffix other)

/-- Where nothing is left, what is open is not closed. -/
theorem follows_unclosed :
    Follows text (Scanner.stop .unclosedArgument : Scanner α) [] (.error ⟨.unclosedArgument, []⟩) :=
  (follows_get []).step fun suffix => ⟨rfl, suffix, fun _ => rfl⟩

theorem follows_skipWhileIn (p : Char → Bool) {n : Nat} (enough : s.length < n) :
    Follows text (Scanner.skipWhileIn p n) s (.ok ((), s.dropWhile p)) := by
  induction n generalizing s with
  | zero => exact absurd enough (Nat.not_lt_zero _)
  | succ n ih =>
    rw [Scanner.skipWhileIn]
    refine (follows_peek s).step ?_
    cases s with
    | nil => exact .value _ _
    | cons c s =>
      rw [List.dropWhile_cons]
      dsimp only [List.head?_cons]
      cases p c with
      | true => exact (follows_bump c s).step (ih (Nat.lt_of_succ_lt_succ enough))
      | false => exact .value _ _

/-- There are turns enough for what is left. -/
theorem Follows.turns {f : Nat → Scanner α} {reading : Except Failure (α × List Char)}
    (more : ∀ n, s.length < n → Follows text (f n) s reading) :
    Follows text (Scanner.turns >>= f) s reading :=
  .of_suffix fun suffix =>
    (follows_turns s).step (more _ (Nat.lt_succ_of_le suffix.length_le))

theorem follows_skipWhile (p : Char → Bool) (s : List Char) :
    Follows text (Scanner.skipWhile p) s (.ok ((), s.dropWhile p)) :=
  .turns fun _ enough => follows_skipWhileIn p enough

theorem follows_skipBlank (s : List Char) :
    Follows text (Scanner.skipWhile isBlank) s (.ok ((), afterBlank s)) := follows_skipWhile isBlank s

theorem follows_expect {c : Char} {otherwise : Cause}
    (closed : otherwise = .unclosedArgument → ∀ d ∈ s.head?, d = c) :
    Follows text (Scanner.expect c otherwise) s
      ((expect c otherwise s).map fun r => ((), r)) := by
  rw [Scanner.expect]
  refine (follows_peek s).step ?_
  cases s with
  | nil => exact follows_unclosed
  | cons d s =>
    dsimp only [List.head?_cons]
    rw [expect]
    by_cases eq : d = c
    · rw [if_pos eq, if_pos eq]
      exact (follows_bump d s).step (.value _ _)
    · rw [if_neg eq, if_neg eq]
      exact follows_stop fun unclosed => eq (closed unclosed d rfl)

/-- What comes behind a character that must come next. -/
theorem Follows.expect {c : Char} {otherwise : Cause} {f : Unit → Scanner α}
    {g : List Char → Except Failure (α × List Char)}
    (closed : otherwise = .unclosedArgument → ∀ d ∈ s.head?, d = c)
    (more : ∀ r, Message.expect c otherwise s = .ok r → Follows text (f ()) r (g r)) :
    Follows text (Scanner.expect c otherwise >>= f) s (Message.expect c otherwise s >>= g) := by
  have first := @follows_expect text s c otherwise closed
  cases read : Message.expect c otherwise s with
  | error failure =>
    rw [read] at first
    exact first.halt
  | ok r =>
    rw [read] at first
    exact first.step (more r read)

theorem follows_word (s : List Char) :
    Follows text Scanner.word s (.ok (word s, afterWord s)) := by
  refine .of_suffix fun suffix => (follows_get s).step ((follows_skipWhile _ s).step ?_)
  have split : word s ++ afterWord s = s := List.takeWhile_append_dropWhile
  have sliced := @follows_slice text (afterWord s) (word s) (by rwa [split])
  rwa [split] at sliced

/-! ## Arguments -/

/-- The characters of a style. -/
def isStyleChar (c : Char) : Bool := c != '{' && c != '}'

theorem follows_skipStyle {n : Nat} (enough : s.length < n) :
    Follows text (Scanner.skipStyle n) s (
      match s.dropWhile isStyleChar with
      | '{' :: r => .error ⟨.malformedArgument, '{' :: r⟩
      | r => .ok ((), r)) := by
  induction n generalizing s with
  | zero => exact absurd enough (Nat.not_lt_zero _)
  | succ n ih =>
    rw [Scanner.skipStyle]
    refine (follows_peek s).step ?_
    cases s with
    | nil => exact .value _ _
    | cons c s =>
      dsimp only [List.head?_cons]
      by_cases close : c = '}'
      · subst close
        exact .value _ _
      by_cases brace : c = '{'
      · subst brace
        exact follows_stop (by simp)
      · have inside : isStyleChar c = true := by simp [isStyleChar, close, brace]
        rw [if_neg close, if_neg brace, List.dropWhile_cons, if_pos inside]
        exact (follows_bump c s).step (ih (Nat.lt_of_succ_lt_succ enough))

/-- A style ends at a brace. -/
theorem head_dropWhile_isStyleChar {c : Char} (h : s.dropWhile isStyleChar = c :: r) :
    c = '{' ∨ c = '}' := by
  have last := List.head?_dropWhile_not isStyleChar s
  rw [h] at last
  simpa [isStyleChar, Decidable.or_iff_not_imp_left] using last

theorem style_comma (r : List Char) :
    style (',' :: r) = (
      let text := trimBlank (r.takeWhile isStyleChar)
      match r.dropWhile isStyleChar with
      | '{' :: t => .error ⟨.malformedArgument, '{' :: t⟩
      | [] => .error ⟨if text.isEmpty then .expectedArgumentStyle else .unclosedArgument, []⟩
      | c :: t =>
          if text.isEmpty then .error ⟨.expectedArgumentStyle, c :: t⟩
          else .ok (some (String.ofList text), t)) := rfl

/-- A style behind its comma. -/
theorem follows_style_comma (r : List Char) :
    Follows text (do
      let start ← get
      Scanner.skipStyle (← Scanner.turns)
      let style := trimBlank (← Scanner.slice start)
      if style.isEmpty then Scanner.stop .expectedArgumentStyle
      else do
        Scanner.expect '}' .unclosedArgument
        return some (.ofList style)) r (style (',' :: r)) := by
  refine .of_suffix fun suffix => (follows_get r).step (.turns fun n enough => ?_)
  have split : r.takeWhile isStyleChar ++ r.dropWhile isStyleChar = r :=
    List.takeWhile_append_dropWhile
  have skipped := @follows_skipStyle text r n enough
  have sliced := @follows_slice text (r.dropWhile isStyleChar) (r.takeWhile isStyleChar)
    (by rwa [split])
  rw [split] at sliced
  rw [style_comma]
  cases left : r.dropWhile isStyleChar with
  | nil =>
    rw [left] at skipped sliced
    refine skipped.step (sliced.step ?_)
    dsimp only
    cases (trimBlank (r.takeWhile isStyleChar)).isEmpty with
    | true => exact follows_stop (by simp)
    | false => exact (follows_expect (s := []) (by simp)).halt
  | cons c t =>
    rw [left] at skipped sliced
    rcases head_dropWhile_isStyleChar left with rfl | rfl
    · exact skipped.halt
    · refine skipped.step (sliced.step (.branch (fun _ => follows_stop (by simp)) fun _ => ?_))
      exact (follows_expect (s := '}' :: t) (by simp)).step (.value _ _)

theorem follows_style (s : List Char) : Follows text Scanner.style s (style s) := by
  rw [Scanner.style]
  refine (follows_peek s).step ?_
  cases s with
  | nil => exact follows_unclosed
  | cons c r =>
    dsimp only [List.head?_cons]
    by_cases close : c = '}'
    · subst close
      exact (follows_bump '}' r).step (.value _ _)
    by_cases comma : c = ','
    · subst comma
      exact (follows_bump ',' r).step (follows_style_comma r)
    · have other : style (c :: r) = .error ⟨.malformedArgument, c :: r⟩ := by
        rw [style.eq_def]
        split <;> simp_all
      rw [if_neg close, if_neg comma, other]
      exact follows_stop (by simp)

theorem pluralOffset_offset (r : List Char) :
    pluralOffset (Scanner.offsetKeyword ++ r) = (
      match integer? (word (afterBlank r)) with
      | some offset => .ok (offset, afterWord (afterBlank r))
      | none => .error ⟨.invalidOffset, afterWord (afterBlank r)⟩) := rfl

theorem pluralOffset_of_not_offset (h : ¬ Scanner.offsetKeyword <+: s) :
    pluralOffset s = .ok (0, s) := by
  rw [pluralOffset.eq_def]
  split
  · rename_i r
    exact absurd ⟨r, rfl⟩ h
  · rfl

theorem follows_pluralOffset (s : List Char) :
    Follows text Scanner.pluralOffset s (pluralOffset s) := by
  rw [Scanner.pluralOffset]
  refine (follows_ahead s).step ?_
  by_cases keyword : Scanner.offsetKeyword <+: s
  · obtain ⟨r, rfl⟩ := keyword
    rw [if_pos (by simp), pluralOffset_offset]
    refine (follows_move Scanner.offsetKeyword r).step
      ((follows_skipBlank r).step ((follows_word _).step ?_))
    cases integer? (word (afterBlank r)) with
    | none => exact follows_stop (by simp)
    | some offset => exact .value _ _
  · rw [if_neg (by simpa using keyword), pluralOffset_of_not_offset keyword]
    exact .value _ _

theorem afterWord_of_isEmpty (h : (word s).isEmpty = true) : afterWord s = s := by
  have split : word s ++ afterWord s = s := List.takeWhile_append_dropWhile
  rwa [List.isEmpty_iff.mp h, List.nil_append] at split

theorem follows_typed (name : String) (s : List Char) :
    Follows text (Scanner.typed name) s (typed name s) := by
  rw [Scanner.typed, typed]
  -- An unknown type is named where it starts, and not where the scan has come to.
  refine .of_suffix fun suffix => (follows_get s).step ((follows_word s).step ?_)
  refine .branch (fun empty => ?_) fun _ => (follows_skipBlank _).step ?_
  · rw [afterWord_of_isEmpty empty]
    exact follows_stop (by simp)
  cases ValueFormat.ofKeyword? (.ofList (word s)) with
  | some format => exact (follows_style _).bind fun _ _ _ _ => .value _ _
  | none =>
    refine .branch (fun _ => ?_) fun _ => .branch (fun _ => ?_) fun _ => follows_stopAt suffix (by simp)
    · exact .expect (by simp) fun r _ => (follows_skipBlank r).step
        ((follows_pluralOffset _).bind fun _ _ _ _ => .value _ _)
    · exact .expect (by simp) fun r _ => .value _ _

theorem follows_opening (s : List Char) : Follows text Scanner.opening s (opening s) := by
  rw [Scanner.opening, opening]
  refine (follows_skipBlank s).step ((follows_word _).step (.branch (fun empty => ?_) fun _ => ?_))
  · rw [afterWord_of_isEmpty empty]
    refine (follows_peek _).step ?_
    cases afterBlank s with
    | nil => exact follows_unclosed
    | cons c r =>
      dsimp only [List.head?_cons]
      by_cases close : c = '}'
      · subst close
        exact follows_stop (by simp)
      · rw [if_neg close]
        split
        · contradiction
        · exact absurd (List.cons.inj ‹_›).1 close
        · exact follows_stop (by simp)
  · refine (follows_skipBlank _).step ((follows_peek _).step ?_)
    cases afterBlank (afterWord (afterBlank s)) with
    | nil => exact follows_unclosed
    | cons c r =>
      dsimp only [List.head?_cons]
      by_cases close : c = '}'
      · subst close
        exact (follows_bump '}' r).step (.value _ _)
      by_cases comma : c = ','
      · subst comma
        exact (follows_bump ',' r).step ((follows_skipBlank r).step (follows_typed _ _))
      · rw [if_neg close, if_neg comma]
        split
        · contradiction
        · exact absurd (List.cons.inj ‹_›).1 close
        · exact absurd (List.cons.inj ‹_›).1 comma
        · exact follows_stop (by simp)

/-! ## Literal text -/

variable {nested inPlural : Bool}

/-- A quoted run is the front of the literal text, up to what stands behind its closing apostrophe. -/
theorem follows_quotedRun (text : List Char) (inPlural : Bool) (s : List Char) :
    ∃ t r, r.length ≤ s.length
      ∧ literal inPlural true s = (t ++ (literal inPlural false r).1, (literal inPlural false r).2)
      ∧ ∀ before n, s.length < n →
        Follows text (Scanner.quotedRun n before) s (.ok (before ++ t, r)) := by
  induction size : s.length using Nat.strongRecOn generalizing s with
  | ind m ih =>
    subst size
    -- A scan with turns left takes one, so it is enough to follow it from there.
    have turn {t r : List Char} (more : ∀ before n, s.length < n + 1 →
        Follows text (Scanner.quotedRun (n + 1) before) s (.ok (before ++ t, r))) :
        ∀ before n, s.length < n →
          Follows text (Scanner.quotedRun n before) s (.ok (before ++ t, r)) := by
      intro before n enough
      cases n with
      | zero => exact absurd enough (Nat.not_lt_zero _)
      | succ n => exact more before n enough
    cases s with
    | nil =>
      refine ⟨[], [], Nat.le_refl _, by simp [literal], turn fun before n _ => ?_⟩
      rw [Scanner.quotedRun, List.append_nil]
      exact follows_bump_end.step (.value _ _)
    | cons c s =>
      simp only [List.length_cons] at ih turn ⊢
      by_cases quote : c = '\''
      · subst quote
        by_cases doubled : s.head? = some '\''
        · obtain ⟨s, rfl⟩ := List.head?_eq_some_iff.mp doubled
          simp only [List.length_cons] at ih turn ⊢
          obtain ⟨t, r, short, read, follows⟩ := ih s.length (by omega) s rfl
          refine ⟨'\'' :: t, r, by omega, ?_, turn fun before n enough => ?_⟩
          · rw [literal_doubled, read]
            rfl
          · have rest := follows (before ++ ['\'']) n (by omega)
            rw [List.append_assoc] at rest
            rw [Scanner.quotedRun]
            exact (follows_bump _ _).step ((follows_peek _).step ((follows_bump _ _).step rest))
        · refine ⟨[], s, by omega, literal_close doubled, turn fun before n _ => ?_⟩
          rw [Scanner.quotedRun, List.append_nil]
          refine (follows_bump _ _).step ((follows_peek _).step ?_)
          rw [if_neg doubled]
          exact .value _ _
      · obtain ⟨t, r, short, read, follows⟩ := ih s.length (by omega) s rfl
        refine ⟨c :: t, r, by omega, ?_, turn fun before n enough => ?_⟩
        · rw [literal_inside quote, read]
          rfl
        · have rest := follows (before ++ [c]) n (by omega)
          rw [List.append_assoc] at rest
          rw [Scanner.quotedRun]
          refine (follows_bump c s).step ?_
          dsimp only
          rw [if_neg quote]
          exact rest

theorem follows_apostrophe (text : List Char) (inPlural : Bool) (before r : List Char) :
    ∃ t q, q.length ≤ r.length
      ∧ literal inPlural false ('\'' :: r)
        = (t ++ (literal inPlural false q).1, (literal inPlural false q).2)
      ∧ Follows text (Scanner.apostrophe inPlural before) ('\'' :: r) (.ok (before ++ t, q)) := by
  rw [Scanner.apostrophe]
  cases r with
  | nil =>
    refine ⟨['\''], [], Nat.le_refl _, by simp [literal, isSpecial], ?_⟩
    exact (follows_bump _ _).step ((follows_peek _).step (.value _ _))
  | cons c r =>
    rcases char_cases inPlural c with rfl | special | ordinary
    · exact ⟨['\''], r, by simp, literal_doubled false r,
        (follows_bump _ _).step ((follows_peek _).step ((follows_bump _ _).step (.value _ _)))⟩
    · obtain ⟨t, q, short, read, follows⟩ := follows_quotedRun text inPlural (c :: r)
      have other := isSpecial_ne_apostrophe special
      refine ⟨t, q, short, ?_, (follows_bump _ _).step ((follows_peek _).step ?_)⟩
      · rw [literal_open special, ← literal_inside other, read]
      · dsimp only [List.head?_cons]
        rw [if_neg other, if_pos special]
        exact .turns fun n enough => follows before n enough
    · refine ⟨['\''], c :: r, Nat.le_refl _, literal_single ordinary r,
        (follows_bump _ _).step ((follows_peek _).step ?_)⟩
      dsimp only [List.head?_cons]
      rw [if_neg (ne_apostrophe_of_ordinary ordinary), not_special_of_ordinary ordinary]
      exact .value _ _

/-! ## Elements and branches -/

/-- What is read of elements behind literal text. -/
def readBehind (nested inPlural : Bool) (before s : List Char) :
    Except Failure (List Element × List Char) :=
  (readElements nested inPlural (literal inPlural false s).2).map fun (es, r) =>
    (withLiteral (before ++ (literal inPlural false s).1) es, r)

theorem readBehind_nil (nested inPlural : Bool) (s : List Char) :
    readBehind nested inPlural [] s = readElements nested inPlural s :=
  (readElements_literal nested s).symm

/-- Literal text can be moved over. -/
theorem readBehind_move {before t q : List Char} (h : literal inPlural false s
      = (t ++ (literal inPlural false q).1, (literal inPlural false q).2)) :
    readBehind nested inPlural before s = readBehind nested inPlural (before ++ t) q := by
  rw [readBehind, h, readBehind, List.append_assoc]

theorem readBehind_end (before : List Char) :
    readBehind nested inPlural before [] = .ok (withLiteral before [], []) := by
  have stop : literal inPlural false [] = ([], []) := rfl
  rw [readBehind, stop, readElements_end nested stop, map_ok, List.append_nil]
  rfl

theorem readBehind_close (before r : List Char) :
    readBehind nested inPlural before ('}' :: r) = (
      if nested then .ok (withLiteral before [], '}' :: r)
      else .error ⟨.unmatchedClosingBrace, '}' :: r⟩) := by
  have stop := @literal_special inPlural '}' (by simp [isSpecial]) r
  rw [readBehind, stop, readElements_close nested stop, List.append_nil]
  cases nested <;> rfl

/-- The element of an argument, from behind its opening brace on. -/
def readArgument (inPlural : Bool) (r : List Char) : Except Failure (Element × List Char) := do
  let (o, r) ← opening r
  readBody inPlural o r

theorem readBehind_brace (before r : List Char) :
    readBehind nested inPlural before ('{' :: r) = (do
      let (e, r) ← readArgument inPlural r
      let (es, r) ← readElements nested inPlural r
      .ok (withLiteral before (e :: es), r)) := by
  have stop := @literal_special inPlural '{' (by simp [isSpecial]) r
  rw [readBehind, stop, readElements_brace nested stop, List.append_nil, readArgument]
  rcases opening r with f | ⟨o, r₁⟩
  · rfl
  dsimp only [bind, Except.bind]
  rcases readBody inPlural o r₁ with f | ⟨e, r₂⟩
  · rfl
  dsimp only
  rcases readElements nested inPlural r₂ with f | ⟨es, r₃⟩ <;> rfl

theorem readBehind_pound (before r : List Char) :
    readBehind nested true before ('#' :: r) = (do
      let (es, r) ← readElements nested true r
      .ok (withLiteral before (.pound :: es), r)) := by
  have stop := @literal_special true '#' (by simp [isSpecial]) r
  rw [readBehind, stop, readElements_pound nested stop, List.append_nil]
  rcases readElements nested true r with f | ⟨es, r₃⟩ <;> rfl

/-- The elements of a branch end at its closing brace, or where nothing is left. -/
theorem head_of_readElements_nested {s r : List Char} {es : List Element}
    (h : readElements true inPlural s = .ok (es, r)) : ∀ c ∈ r.head?, c = '}' := by
  induction size : s.length using Nat.strongRecOn generalizing s es with
  | ind n ih =>
    have short := literal_length_le inPlural false s
    rw [readElements_eq] at h
    split at h
    · cases h
      nofun
    · cases h
      rintro _ ⟨⟩
      rfl
    · rename_i read
      obtain ⟨⟨o, q₁⟩, opened, h⟩ := bind_ok h
      obtain ⟨⟨e, q₂⟩, body, h⟩ := bind_ok h
      obtain ⟨⟨fs, q₃⟩, more, h⟩ := bind_ok h
      cases h
      have := opening_length opened
      have := readBody_length body
      rw [read, List.length_cons] at short
      exact ih _ (by omega) more rfl
    · rename_i read
      obtain ⟨⟨fs, q₁⟩, more, h⟩ := bind_ok h
      cases h
      rw [read, List.length_cons] at short
      exact ih _ (by omega) more rfl

theorem readArgument_length {r q : List Char} {e : Element}
    (h : readArgument inPlural r = .ok (e, q)) : q.length ≤ r.length := by
  obtain ⟨⟨o, q₁⟩, opened, body⟩ := bind_ok h
  exact Nat.le_trans (readBody_length body) (opening_length opened)

theorem follows_argument {branches : Bool → Bool → Scanner (List Branch)} {r : List Char}
    (more : ∀ p restricted q, q.length ≤ r.length →
      Follows text (branches p restricted) q (readBranches p restricted [] q)) :
    Follows text (Scanner.argument branches inPlural) ('{' :: r) (readArgument inPlural r) := by
  rw [Scanner.argument, readArgument]
  refine (follows_bump _ _).step ((follows_opening r).bind fun o q opened _ => ?_)
  have short := opening_length opened
  cases o with
  | element e => exact .value _ _
  | plural name ordinal offset => exact (more true true q short).bind fun _ _ _ _ => .value _ _
  | select name => exact (more inPlural false q short).bind fun _ _ _ _ => .value _ _

/-- Whether elements are scanned as they are read, if there are more turns than characters left. -/
def FollowsElements (text : List Char) (n : Nat) : Prop :=
  ∀ {nested p : Bool} {before s : List Char}, s.length < n →
    Follows text (Scanner.elements n nested p before) s (readBehind nested p before s)

/-- Whether branches are scanned as they are read, if there are more turns than characters left. -/
def FollowsBranches (text : List Char) (n : Nat) : Prop :=
  ∀ {p restricted : Bool} {seen : List String} {s : List Char}, s.length < n →
    Follows text (Scanner.branches n p restricted seen) s (readBranches p restricted seen s)

section Turns

variable {n : Nat} (followsElements : FollowsElements text n) (followsBranches : FollowsBranches text n)

include followsElements

theorem FollowsElements.fromHere {p : Bool} (short : s.length < n) :
    Follows text (Scanner.elements n nested p []) s (readElements nested p s) := by
  rw [← readBehind_nil]
  exact followsElements short

include followsBranches

/-- One turn more for elements. -/
theorem FollowsElements.succ : FollowsElements text (n + 1) := by
  intro nested p before s bound
  rw [Scanner.elements]
  refine (follows_peek s).step ?_
  cases s with
  | nil =>
    rw [readBehind_end]
    exact .value _ _
  | cons c r =>
    dsimp only [List.head?_cons]
    rw [List.length_cons] at bound
    by_cases brace : c = '{'
    · subst brace
      rw [readBehind_brace, if_pos rfl]
      have first : Follows text (Scanner.argument _ p) ('{' :: r) (readArgument p r) :=
        follows_argument fun p restricted q short => followsBranches (by omega)
      refine first.bind fun e q read _ => ?_
      have short := readArgument_length read
      exact (followsElements.fromHere (by omega)).bind fun _ _ _ _ => .value _ _
    by_cases close : c = '}'
    · subst close
      rw [readBehind_close, if_neg brace, if_pos rfl]
      exact .branch (fun _ => .value _ _) fun _ => follows_stop (by simp)
    by_cases pound : (p && c == '#') = true
    · obtain ⟨rfl, rfl⟩ : p = true ∧ c = '#' := by simpa using pound
      rw [readBehind_pound]
      exact (follows_bump _ _).step
        ((followsElements.fromHere (by omega)).bind fun _ _ _ _ => .value _ _)
    rw [if_neg brace, if_neg close, if_neg pound]
    by_cases quote : c = '\''
    · subst quote
      -- Whatever the apostrophe means, it adds to the literal text and leaves less.
      obtain ⟨t, q, short, read, follows⟩ := follows_apostrophe text p before r
      rw [readBehind_move read]
      exact follows.step (followsElements (by omega))
    · have ordinary : isOrdinary p c = true := by
        rw [Bool.not_eq_true] at pound
        simp only [isOrdinary, isSpecial, pound]
        simp [brace, close, quote]
      rw [if_neg quote, readBehind_move (t := [c]) (literal_ordinary ordinary r)]
      exact (follows_bump c r).step (followsElements (by omega))

/-- One turn more for branches. -/
theorem FollowsBranches.succ : FollowsBranches text (n + 1) := by
  intro p restricted seen s bound
  rw [Scanner.branches, readBranches_eq]
  refine (follows_skipBlank s).step ((follows_peek _).step ?_)
  have short := afterBlank_length_le s
  cases start : afterBlank s with
  | nil => exact follows_unclosed
  | cons c r =>
    rw [start, List.length_cons] at short
    dsimp only [List.head?_cons]
    by_cases close : c = '}'
    · subst close
      exact (follows_bump _ _).step (.branch (fun _ => follows_stop (by simp)) fun _ =>
        .branch (fun _ => follows_stop (by simp)) fun _ => .value _ _)
    rw [if_neg close]
    split
    · contradiction
    · exact absurd (List.cons.inj ‹_›).1 close
    obtain ⟨rfl, rfl⟩ := List.cons.inj ‹c :: r = _ :: _›
    refine .of_suffix fun suffix => (follows_get _).step ((follows_word _).step ?_)
    refine .branch (fun empty => ?_) fun _ =>
      .branch (fun _ => follows_stopAt suffix (by simp)) fun _ =>
        .branch (fun _ => follows_stopAt suffix (by simp)) fun _ => ?_
    · rw [afterWord_of_isEmpty empty]
      exact follows_stop (by simp)
    have short₁ := afterWord_length_le (c :: r)
    have short₂ := afterBlank_length_le (afterWord (c :: r))
    refine (follows_skipBlank _).step (.expect (by simp) fun r₁ body => ?_)
    have short₃ := expect_length body
    rw [List.length_cons] at short₁
    have inside : Follows text (Scanner.elements n true p []) r₁ (readElements true p r₁) :=
      followsElements.fromHere (by omega)
    refine inside.bind fun es r₂ read _ => ?_
    have short₄ := readElements_length read
    -- The elements stop at a brace or at the end, so only the end leaves the branch unclosed.
    refine .expect (fun _ => head_of_readElements_nested read) fun r₃ ends => ?_
    have short₅ : r₃.length < r₂.length := expect_length ends
    exact (followsBranches (by omega)).bind fun _ _ _ _ => .value _ _

end Turns

/-- Elements and branches are scanned as they are read, in more turns than there are characters left. -/
theorem follows_elements_branches (text : List Char) (n : Nat) :
    FollowsElements text n ∧ FollowsBranches text n := by
  induction n with
  | zero => exact ⟨fun h => absurd h (Nat.not_lt_zero _), fun h => absurd h (Nat.not_lt_zero _)⟩
  | succ n ih => exact ⟨FollowsElements.succ ih.1 ih.2, FollowsBranches.succ ih.1 ih.2⟩

/-! ## Whole messages -/

theorem parse_eq (text : String) :
    parse text = (outcomeAt text.toList (readElements false false text.toList)).map Prod.fst := by
  rw [parse, readElements]
  rcases elements false false text.toList with f | ⟨es, r⟩ <;> rfl

theorem follows_elements (text : List Char) :
    Follows text (Scanner.elements (text.length + 1) false false []) text
      (readElements false false text) := by
  rw [← readBehind_nil]
  exact (follows_elements_branches text _).1 (Nat.lt_succ_self _)

/-- A failure that names an end of a text has the offset of a prefix. -/
theorem offset_toError {text : String} {f : Failure} (suffix : f.rest <:+ text.toList) :
    ∃ front back, text = front ++ back ∧ (f.toError text.toList).offset = front.utf8ByteSize := by
  obtain ⟨front, eq⟩ := suffix
  refine ⟨.ofList front, .ofList f.rest, ?_, ?_⟩
  · rw [← String.ofList_append, eq, String.ofList_toList]
  · rw [Failure.toError, ← eq, ← byteLength_toList, String.toList_ofList]
    exact place_append front f.rest

/-- Reading by byte offsets comes to an end without a slice that is refused, and reads what `parse` reads. A
syntax error stands at the end of a prefix of the text; at the end of the text if an argument is not
closed. -/
theorem scan_eq_parse (text : String) :
    scan text = some (parse text)
      ∧ ∀ e, parse text = .error e →
        (∃ front back, text = front ++ back ∧ e.offset = front.utf8ByteSize)
          ∧ (e.cause = .unclosedArgument → e.offset = text.utf8ByteSize) := by
  obtain ⟨run, stays⟩ := follows_elements text.toList List.suffix_rfl
  have start : place text.toList text.toList = 0 := Nat.sub_self _
  rw [start] at run
  constructor
  · show @Option.bind (Except SyntaxError _) _
      (Scanner.elements (text.length + 1) false false [] text.toList 0) _ = _
    rw [← String.length_toList, run, parse_eq]
    cases readElements false false text.toList <;> rfl
  · intro e failed
    rw [parse_eq] at failed
    cases read : readElements false false text.toList with
    | ok a =>
      rw [read] at failed
      cases failed
    | error f =>
      rw [read] at failed stays
      obtain rfl : f.toError text.toList = e := Except.error.inj failed
      refine ⟨offset_toError stays.1, fun unclosed => ?_⟩
      rw [Failure.toError, stays.2 unclosed, byteLength_nil, Nat.sub_zero, byteLength_toList]

/-- A plural that is not closed behind its offset, and behind a character of two bytes. -/
def unclosedPlural : String := "é\x7bn, plural, offset:2"

theorem scan_unclosedPlural :
    parse unclosedPlural = .error ⟨.unclosedArgument, 22, false⟩
      ∧ scan unclosedPlural = some (.error ⟨.unclosedArgument, 22, false⟩)
      ∧ (∃ front back, unclosedPlural = front ++ back ∧ 22 = front.utf8ByteSize)
      ∧ 22 = unclosedPlural.utf8ByteSize := by
  have failed : parse unclosedPlural = .error ⟨.unclosedArgument, 22, false⟩ := by
    have stop : literal false false unclosedPlural.toList
        = (['é'], '{' :: "n, plural, offset:2".toList) := by
      decide +kernel
    have opened : opening "n, plural, offset:2".toList = .ok (.plural "n" false 2, []) := by
      decide +kernel
    have ended : readBranches true true [] [] = .error ⟨.unclosedArgument, []⟩ := by
      rw [readBranches_eq]
      rfl
    rw [parse_eq, readElements_brace false stop, opened]
    simp only [bind, Except.bind, readBody, ended]
    decide +kernel
  obtain ⟨scanned, places⟩ := scan_eq_parse unclosedPlural
  obtain ⟨place, last⟩ := places _ failed
  exact ⟨failed, scanned.trans (congrArg some failed), place, last rfl⟩

end MessageExtraction.Message
