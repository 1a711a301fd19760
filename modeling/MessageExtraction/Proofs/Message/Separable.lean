import MessageExtraction.Proofs.Message.RoundTrip

/-!
# Messages with separable literals

The quotes around a special character fail to close only where the next character is special too or an
apostrophe. A literal without such a pair is separable, and it is read back wherever it stands.

* `separated_of_isSeparable`: the special characters of a separable literal are set off from what follows.
* `elementsReadBack_of_separable`: so a message with separable literals is one whose literals are read back.
* `parse_print_of_separable`: every well-formed message with separable literals is read from its canonical
  text. All other text with apostrophes, and every name, style, offset, selector and nesting, is left free.
-/

namespace MessageExtraction.Message

/-- Whether no special character is directly followed by another one or by an apostrophe. -/
def isSeparable (inPlural : Bool) : List Char → Bool
  | c :: d :: r =>
      !(isSpecial inPlural c && (isSpecial inPlural d || d == '\'')) && isSeparable inPlural (d :: r)
  | _ => true

mutual
/-- Whether the literals of an element are separable. -/
def Element.separable (inPlural : Bool) : Element → Bool
  | .literal text => isSeparable inPlural text.toList
  | .plural _ _ _ bs => branchesSeparable true bs
  | .select _ bs => branchesSeparable inPlural bs
  | _ => true

/-- Whether the literals of a row of elements are separable. -/
def elementsSeparable (inPlural : Bool) : List Element → Bool
  | [] => true
  | e :: es => e.separable inPlural && elementsSeparable inPlural es

/-- Whether the literals of all branches are separable. -/
def branchesSeparable (inPlural : Bool) : List (String × List Element) → Bool
  | [] => true
  | (_, es) :: bs => elementsSeparable inPlural es && branchesSeparable inPlural bs
end

variable {inPlural : Bool}

/-! ## Separable literals are read back -/

/-- What may follow a special character of a separable literal closes its quotes. -/
theorem setOff_of_head {r : List Char}
    (h : ∀ d ∈ r.head?, (isSpecial inPlural d || d == '\'') = false) : setOff inPlural r = true := by
  cases r with
  | nil => rfl
  | cons d r =>
    have hd := h d rfl
    rw [setOff, List.head?_cons, Option.any_some]
    have ordinary : isOrdinary inPlural d = true := by
      rw [isOrdinary]
      simp_all
    rw [ordinary, Bool.or_true]

theorem separated_of_isSeparable {t : List Char} (h : isSeparable inPlural t = true) :
    separated inPlural t = true := by
  induction t with
  | nil => rfl
  | cons c r ih =>
    rw [separated, Bool.and_eq_true, Bool.or_eq_true]
    cases r with
    | nil => exact ⟨.inr (setOff_of_head (by simp)), rfl⟩
    | cons d r =>
      rw [isSeparable, Bool.and_eq_true] at h
      refine ⟨?_, ih h.2⟩
      cases special : isSpecial inPlural c with
      | false => exact .inl rfl
      | true =>
        refine .inr (setOff_of_head ?_)
        rintro _ ⟨⟩
        simpa [special] using h.1

mutual
theorem Element.readsBack_of_separable : (e : Element) → {p last : Bool} → e.separable p = true →
    e.readsBack p last = true
  | .literal text, p, last, h => by
    rw [Element.readsBack, readsBackLiteral, separated_of_isSeparable h, Bool.true_or]
  | .plural _ _ _ bs, _, _, h => branchesReadBack_of_separable bs h
  | .select _ bs, _, _, h => branchesReadBack_of_separable bs h
  | .argument _, _, _, _ => rfl
  | .formatted .., _, _, _ => rfl
  | .pound, _, _, _ => rfl

theorem elementsReadBack_of_separable : (es : List Element) → {p last : Bool} →
    elementsSeparable p es = true → elementsReadBack p last es = true
  | [], _, _, _ => rfl
  | e :: es, p, last, h => by
    rw [elementsSeparable, Bool.and_eq_true] at h
    rw [elementsReadBack, e.readsBack_of_separable h.1, elementsReadBack_of_separable es h.2]
    rfl

theorem branchesReadBack_of_separable : (bs : List Branch) → {p : Bool} →
    branchesSeparable p bs = true → branchesReadBack p bs = true
  | [], _, _ => rfl
  | (_, es) :: bs, p, h => by
    rw [branchesSeparable, Bool.and_eq_true] at h
    rw [branchesReadBack, elementsReadBack_of_separable es h.1, branchesReadBack_of_separable bs h.2]
    rfl
end

/-! ## Whole messages -/

/-- Every well-formed message with separable literals is read from its canonical text. -/
theorem parse_print_of_separable {es : List Element} (wf : ElementsWellFormed false es)
    (separable : elementsSeparable false es = true) : parse (print es) = .ok es := by
  have back : elementsReadBack false true es = true := elementsReadBack_of_separable es separable
  have read : readElements false false (printElements false es ++ []) = .ok (es, []) :=
    (readElements_print_iff es wf .message).mpr ⟨rfl, back⟩
  rw [List.append_nil] at read
  rw [parse_ok_iff, print, String.toList_ofList]
  exact ⟨[], read⟩

/-- Apostrophes in front of special characters and at both ends, a pound sign that is plain text outside of
plurals, a negative offset, and a branching form inside another. -/
def quotedPlural : List Element :=
  [.literal "'#\x7b ''",
    .plural "n" true (-2)
      [("=0", [.literal "'\x7d ''#"]),
        ("other", [.select "g" [("other", [.pound, .literal "'s # \x7b"])],
          .formatted "d" .date (some "y ''")])]]

/-- The same message as its author may have quoted it. -/
def quotedPluralText : String :=
  "''#'\x7b '''''\x7bn,selectordinal,offset:-2 =0\x7b'''\x7d' '''''#'\x7dother\x7b" ++
  "\x7bg,select,other\x7b#''s '#' '\x7b'\x7d\x7d\x7bd,date, y '' \x7d\x7d\x7d"

theorem parse_print_quotedPlural :
    ElementsWellFormed false quotedPlural ∧ elementsSeparable false quotedPlural = true
      ∧ parse (print quotedPlural) = .ok quotedPlural := by
  have read : parse quotedPluralText = .ok quotedPlural := by decide +kernel
  have wf : ElementsWellFormed false quotedPlural := wellFormed_of_parse read
  have separable : elementsSeparable false quotedPlural = true := by decide
  exact ⟨wf, separable, parse_print_of_separable wf separable⟩

end MessageExtraction.Message
