import MessageExtraction.Proofs.Static.RuntimeValue
import MessageExtraction.Proofs.Static.Values

/-!
# Evaluation and run time

What an expression is evaluated to before the program runs is its value at run time, unless a number is
turned into a text that is not its own, or a key `__proto__` is taken for a property.

* `isText_denote`: the text of a primitive value is its text at run time.
* `Tree.isFaithful`: whether an expression is free of such numbers and keys.
* `hasValue_of_evaluate`: one that is has the value at run time that it is evaluated to.
* `not_hasValue_of_prototype`: an object literal with the key `__proto__` never has.
* `hasValue_denote`: both, with the numbers whose text is right.
-/

namespace MessageExtraction

open Syntax (Tree Span)
open RuntimeValue (ofDouble define)

/-! ## Primitive values -/

namespace StaticValue

/-- Whether the text of a value is right if it has one. -/
def isPlain : StaticValue → Bool
  | .number d => d.isPlain
  | _ => true

/-- Whether two values can be added: two numbers always, others if both have their right texts. -/
def addsPlainly : StaticValue → StaticValue → Bool
  | .number _, .number _ => true
  | v, w => v.isPlain && w.isPlain

end StaticValue

namespace Double

variable {d m n : Double}

theorem canonical_of_isNaN (isNaN : d.isNaN = true) : d.canonical = ⟨0x7FF8000000000000⟩ := by
  rw [canonical, if_pos isNaN]

theorem canonical_of_number (number : d.isNaN = false) : d.canonical = d := by
  rw [canonical, if_neg (by simp [number])]

theorem isNaN_canonical (d : Double) : d.canonical.isNaN = d.isNaN := by
  cases isNaN : d.isNaN with
  | true =>
    rw [canonical_of_isNaN isNaN]
    rfl
  | false => rw [canonical_of_number isNaN, isNaN]

theorem canonical_add (m n : Double) : (m.canonical.add n.canonical).canonical = (m.add n).canonical := by
  by_cases operand : m.isNaN = true ∨ n.isNaN = true
  · rw [canonical_of_isNaN (isNaN_add operand),
      canonical_of_isNaN (isNaN_add (by rwa [isNaN_canonical, isNaN_canonical]))]
  · rw [not_or, Bool.not_eq_true, Bool.not_eq_true] at operand
    rw [canonical_of_number operand.1, canonical_of_number operand.2]

theorem canonical_negate (d : Double) : d.canonical.negate.canonical = d.negate.canonical := by
  cases isNaN : d.isNaN with
  | true =>
    rw [canonical_of_isNaN (by rw [isNaN_negate, isNaN_canonical, isNaN]),
      canonical_of_isNaN (by rw [isNaN_negate, isNaN])]
  | false => rw [canonical_of_number isNaN]

theorem isNumeral_canonical (plain : d.isPlain = true) : d.canonical.IsNumeral d.text := by
  cases isNaN : d.isNaN with
  | true =>
    rw [canonical_of_isNaN isNaN, text, if_pos isNaN]
    exact .noNumber rfl
  | false =>
    rw [canonical_of_number isNaN]
    exact (isNumeral_text_iff d).mpr plain

end Double

namespace StaticValue

variable {v w sum : StaticValue} {text : String}

/-- The text of a primitive value is its text at run time, if that of a number is right. -/
theorem isText_denote (hasText : v.text? = some text) (plain : v.isPlain = true) : v.denote.IsText text := by
  cases v with
  | undefined =>
    obtain rfl := Option.some.inj hasText
    exact .undefined
  | null =>
    obtain rfl := Option.some.inj hasText
    exact .null
  | bool b =>
    obtain rfl := Option.some.inj hasText
    exact .bool b
  | number d =>
    obtain rfl := Option.some.inj hasText
    exact .number (Double.isNumeral_canonical plain)
  | string s =>
    obtain rfl := Option.some.inj hasText
    exact .string s
  | array items => contradiction
  | object properties => contradiction

theorem string_addsPlainly (s : String) (w : StaticValue) : (string s).addsPlainly w = w.isPlain :=
  Bool.true_and _

theorem addsPlainly_string (v : StaticValue) (t : String) : v.addsPlainly (string t) = v.isPlain := by
  cases v <;> first | rfl | exact Bool.and_true _

/-- The sum of two values is their sum at run time, if they can be added. -/
theorem isSum_denote (hasSum : Syntax.Tree.sum? v w = some sum) (plain : addsPlainly v w = true) :
    v.denote.IsSum w.denote sum.denote := by
  unfold Syntax.Tree.sum? at hasSum
  split at hasSum
  · rename_i m n
    obtain rfl := Option.some.inj hasSum
    show RuntimeValue.IsSum _ _ (.number (m.add n).canonical)
    rw [← Double.canonical_add]
    exact .numbers rfl rfl (Double.isSum_add _ _)
  · rename_i s
    obtain ⟨t, hasText, rfl⟩ := Option.map_eq_some_iff.mp hasSum
    rw [string_addsPlainly] at plain
    exact .texts rfl (.string s) (isText_denote hasText plain)
  · rename_i t _
    obtain ⟨s, hasText, rfl⟩ := Option.map_eq_some_iff.mp hasSum
    rw [addsPlainly_string] at plain
    exact .texts (Bool.or_true _) (isText_denote hasText plain) (.string t)
  · contradiction

end StaticValue

/-! ## Expressions -/

namespace Syntax.Tree

/-- Whether the name of a key is right, if that is a number. -/
def isPlainKey : Tree → Bool
  | .numericLiteral _ bits => (Double.mk (UInt64.ofNat bits.toNat)).isPlain
  | _ => true

mutual
/-- Whether an expression is free of numbers that are turned into a text that is not their own, and of keys
that are no properties. A template has one chunk more than expressions. -/
def isFaithful : Tree → Bool
  | .parenthesisExpression _ e => e.isFaithful
  | .tsAsExpression _ e _ => e.isFaithful
  | .tsConstAssertion _ e => e.isFaithful
  | .tsSatisfiesExpression _ e _ => e.isFaithful
  | .templateLiteral _ expressions chunks =>
      chunks.length == expressions.length + 1 && areFaithfulTexts expressions
  | .binaryExpression _ _ left right =>
      left.isFaithful && right.isFaithful &&
        left.evaluate.all fun v => right.evaluate.all fun w => v.addsPlainly w
  | .unaryExpression _ _ argument => argument.isFaithful
  | .arrayExpression _ elements => areFaithfulItems elements
  | .objectExpression _ properties => areFaithfulProperties properties
  | _ => true

/-- Whether expressions between the chunks of a template are faithful, and their values can be joined. -/
def areFaithfulTexts : List Tree → Bool
  | [] => true
  | e :: es => e.isFaithful && e.evaluate.all StaticValue.isPlain && areFaithfulTexts es

/-- Whether the items of an array literal are faithful. -/
def areFaithfulItems : List Tree → Bool
  | .element none e :: es => e.isFaithful && areFaithfulItems es
  | _ => true

/-- Whether the properties of an object literal are faithful. -/
def areFaithfulProperties : List Tree → Bool
  | .keyValueProperty key e :: ps =>
      key.isPlainKey && key.staticKey? != some "__proto__" && e.isFaithful && areFaithfulProperties ps
  | _ => true
end

variable {key : Tree} {name : String}

/-- The name of a property is its name at run time. -/
theorem isKey_of_staticKey? (known : key.staticKey? = some name) (plain : key.isPlainKey = true) :
    IsKey key name := by
  unfold staticKey? at known
  split at known
  · obtain rfl := Option.some.inj known
    exact .name _ _
  · obtain rfl := Option.some.inj known
    exact .text _ _ _
  · obtain rfl := Option.some.inj known
    exact .number _ _ ((Double.isNumeral_text_iff _).mpr plain)
  · contradiction

mutual
/-- A faithful expression has the value that it is evaluated to. -/
theorem hasValue_of_evaluate : (e : Tree) → {v : StaticValue} → e.evaluate = some v →
    e.isFaithful = true → HasValue e v.denote
  | e, v, known, faithful => by
    rw [evaluate.eq_def] at known
    split at known
    · rename_i inner
      rw [isFaithful] at faithful
      exact .parentheses (hasValue_of_evaluate inner known faithful)
    · rename_i inner _
      rw [isFaithful] at faithful
      exact .typed (hasValue_of_evaluate inner known faithful)
    · rename_i inner
      rw [isFaithful] at faithful
      exact .constant (hasValue_of_evaluate inner known faithful)
    · rename_i inner _
      rw [isFaithful] at faithful
      exact .satisfying (hasValue_of_evaluate inner known faithful)
    · obtain rfl := Option.some.inj known
      exact .string
    · obtain rfl := Option.some.inj known
      exact .number
    · obtain rfl := Option.some.inj known
      exact .bool
    · obtain rfl := Option.some.inj known
      exact .null
    · split at known
      · rename_i undefined
        obtain rfl := Option.some.inj known
        rw [undefined]
        exact .undefined
      · contradiction
    · rename_i expressions chunks
      obtain ⟨text, joined, rfl⟩ := Option.map_eq_some_iff.mp known
      rw [isFaithful, Bool.and_eq_true, beq_iff_eq] at faithful
      exact .template (hasText_of_templateText? expressions joined faithful.1 faithful.2)
    · rename_i operator left right
      split at known
      · rename_i plus
        obtain ⟨v, leftKnown, known⟩ := Option.bind_eq_some_iff.mp known
        obtain ⟨w, rightKnown, hasSum⟩ := Option.bind_eq_some_iff.mp known
        rw [isFaithful, leftKnown, rightKnown, Bool.and_eq_true, Bool.and_eq_true] at faithful
        obtain ⟨⟨leftFaithful, rightFaithful⟩, plain⟩ := faithful
        rw [plus]
        exact .sum (hasValue_of_evaluate left leftKnown leftFaithful)
          (hasValue_of_evaluate right rightKnown rightFaithful) (StaticValue.isSum_denote hasSum plain)
      · contradiction
    · rename_i operator argument
      split at known
      · rename_i minus
        split at known
        · rename_i n inner
          obtain rfl := Option.some.inj known
          rw [isFaithful] at faithful
          rw [minus]
          show HasValue _ (.number n.negate.canonical)
          rw [← Double.canonical_negate]
          exact .minus (hasValue_of_evaluate argument inner faithful) rfl
        · contradiction
      · contradiction
    · rename_i elements
      obtain ⟨items, listed, rfl⟩ := Option.map_eq_some_iff.mp known
      rw [isFaithful] at faithful
      exact .array (hasItems_of_evaluateItems elements listed faithful)
    · rename_i properties
      obtain ⟨entries, listed, rfl⟩ := Option.map_eq_some_iff.mp known
      rw [isFaithful] at faithful
      exact .object (builds_of_evaluateProperties properties [] listed faithful)
    · contradiction
termination_by e => sizeOf e

/-- The text of a template is that of its chunks and the values between them. -/
theorem hasText_of_templateText? : (es : List Tree) → {chunks : List Tree} → {joined : String} →
    templateText? chunks (evaluateTexts es) = some joined → chunks.length = es.length + 1 →
    areFaithfulTexts es = true → HasText chunks es joined
  | [], chunks, joined, known, count, faithful => by
    obtain ⟨chunk, rfl⟩ := List.length_eq_one_iff.mp count
    obtain ⟨own, isChunk, known⟩ := Option.bind_eq_some_iff.mp known
    obtain ⟨rest, behind, known⟩ := Option.bind_eq_some_iff.mp known
    obtain rfl := Option.some.inj behind
    obtain rfl := Option.some.inj known
    rw [chunkText?.eq_def] at isChunk
    split at isChunk
    · obtain rfl := Option.some.inj isChunk
      rw [String.append_empty]
      exact .last
    · contradiction
  | e :: es, [], joined, known, count, faithful => by contradiction
  | e :: es, chunk :: chunks, joined, known, count, faithful => by
    rw [evaluateTexts, templateText?] at known
    obtain ⟨own, isChunk, known⟩ := Option.bind_eq_some_iff.mp known
    obtain ⟨between, hasText, known⟩ := Option.bind_eq_some_iff.mp known
    obtain ⟨rest, behind, known⟩ := Option.bind_eq_some_iff.mp known
    obtain rfl := Option.some.inj known
    obtain ⟨v, value, hasText⟩ := Option.bind_eq_some_iff.mp hasText
    rw [areFaithfulTexts, value, Bool.and_eq_true, Bool.and_eq_true] at faithful
    obtain ⟨⟨inner, plain⟩, others⟩ := faithful
    rw [chunkText?.eq_def] at isChunk
    split at isChunk
    · obtain rfl := Option.some.inj isChunk
      exact .next (hasValue_of_evaluate e value inner) (StaticValue.isText_denote hasText plain)
        (hasText_of_templateText? es behind (Nat.succ_inj.mp count) others)
    · contradiction
termination_by es => sizeOf es

/-- The items of an array literal have the values that they are evaluated to. -/
theorem hasItems_of_evaluateItems : (es : List Tree) → {vs : List StaticValue} →
    evaluateItems es = some vs → areFaithfulItems es = true → HasItems es (StaticValue.denoteItems vs)
  | es, vs, known, faithful => by
    rw [evaluateItems.eq_def] at known
    split at known
    · obtain rfl := Option.some.inj known
      exact .nil
    · rename_i e es
      obtain ⟨v, value, known⟩ := Option.bind_eq_some_iff.mp known
      obtain ⟨ws, others, known⟩ := Option.bind_eq_some_iff.mp known
      obtain rfl := Option.some.inj known
      rw [areFaithfulItems, Bool.and_eq_true] at faithful
      exact .cons (hasValue_of_evaluate e value faithful.1) (hasItems_of_evaluateItems es others faithful.2)
    · contradiction
termination_by es => sizeOf es

/-- The properties of an object literal build the object that they are evaluated to. -/
theorem builds_of_evaluateProperties : (ps : List Tree) → (old : List (String × RuntimeValue)) →
    {entries : List (String × StaticValue)} → evaluateProperties ps = some entries →
    areFaithfulProperties ps = true →
    Builds none old ps (.object none (StaticValue.denoteProperties old entries))
  | ps, old, entries, known, faithful => by
    rw [evaluateProperties.eq_def] at known
    split at known
    · obtain rfl := Option.some.inj known
      exact .done
    · rename_i key e ps
      obtain ⟨name, isKey, known⟩ := Option.bind_eq_some_iff.mp known
      obtain ⟨v, value, known⟩ := Option.bind_eq_some_iff.mp known
      obtain ⟨others, behind, known⟩ := Option.bind_eq_some_iff.mp known
      obtain rfl := Option.some.inj known
      rw [areFaithfulProperties, Bool.and_eq_true, Bool.and_eq_true, Bool.and_eq_true, bne_iff_ne] at faithful
      obtain ⟨⟨⟨plain, ordinary⟩, inner⟩, rest⟩ := faithful
      refine .property (isKey_of_staticKey? isKey plain) ?_ (hasValue_of_evaluate e value inner)
        (builds_of_evaluateProperties ps _ behind rest)
      rintro rfl
      exact ordinary isKey
    · contradiction
termination_by ps => sizeOf ps
end

/-- An object that a literal builds gets no property `__proto__`. -/
theorem property?_of_builds : (ps : List Tree) → {prototype : Option RuntimeValue} →
    {old : List (String × RuntimeValue)} → {v : RuntimeValue} → Builds prototype old ps v →
    old.lookup "__proto__" = none → v.property? "__proto__" = none
  | [], _, _, _, built, without => by
    cases built
    exact without
  | _ :: ps, _, _, _, built, without => by
    cases built with
    | property isKey ordinary value behind =>
      refine property?_of_builds ps behind ?_
      rw [RuntimeValue.lookup_define, if_neg ordinary.symm, without]
    | prototype isKey value behind => exact property?_of_builds ps behind without

variable {span : Option Span} {ps : List Tree} {e : Tree} {v : StaticValue}

/-- An object literal with the key `__proto__` does not have the value that it is evaluated to. -/
theorem not_hasValue_of_prototype (known : (objectExpression span ps).evaluate = some v)
    (mem : .keyValueProperty key e ∈ ps) (isKey : key.staticKey? = some "__proto__") :
    ¬ HasValue (.objectExpression span ps) v.denote := by
  intro hasValue
  obtain ⟨entries, listed, rfl⟩ := Option.map_eq_some_iff.mp known
  have without : ((StaticValue.object entries).denote.property? "__proto__") = none := by
    cases hasValue with
    | object built => exact property?_of_builds ps built rfl
  rw [StaticValue.property?_denote, Option.map_eq_none_iff] at without
  obtain ⟨i, bound, here⟩ := List.mem_iff_getElem.mp mem
  have pairs := isProperty_of_evaluateProperties listed
  have bound' : i < entries.length := pairs.length_eq ▸ bound
  obtain ⟨key', e', same, isKey', -⟩ := pairs.get bound' bound
  obtain ⟨rfl, -⟩ : key = key' ∧ e = e' := by
    rw [List.get_eq_getElem, here] at same
    simpa using same
  have name : "__proto__" = entries[i].1 := Option.some.inj (isKey.symm.trans isKey')
  refine absurd (List.lookup_eq_none_iff.mp without entries[i] ?_) (by simp [← name])
  exact List.mem_reverse.mpr (List.getElem_mem bound')

/-- What an expression is evaluated to is its value at run time if it is faithful. The text of a number is
right exactly if it is a plain one, and an object literal with the key `__proto__` never has the value that it
is evaluated to. -/
theorem hasValue_denote {e : Tree} (known : e.evaluate = some v) :
    (e.isFaithful = true → HasValue e v.denote)
      ∧ (∀ d : Double, d.IsNumeral d.text ↔ d.isPlain = true)
      ∧ ∀ (span : Option Span) (ps : List Tree) (key value : Tree), e = .objectExpression span ps →
        .keyValueProperty key value ∈ ps → key.staticKey? = some "__proto__" →
        ¬ HasValue e v.denote := by
  refine ⟨hasValue_of_evaluate e known, Double.isNumeral_text_iff, ?_⟩
  rintro span ps key value rfl mem isKey
  exact not_hasValue_of_prototype known mem isKey

end Syntax.Tree

open Syntax.Tree (HasValue)

/-- The sum of a string and 1. -/
def shortSum : Tree :=
  .binaryExpression (some ⟨1, 8⟩) "+" (.stringLiteral (some ⟨1, 4⟩) (.text "n") .absent)
    (.numericLiteral (some ⟨7, 8⟩) 0x3FF0000000000000)

/-- At run time `shortSum` is the text that it is evaluated to. -/
theorem hasValue_shortSum : shortSum.evaluate = some (.string "n1") ∧ shortSum.isFaithful = true
    ∧ HasValue shortSum (.string "n1") := by
  have known : shortSum.evaluate = some (.string "n1") := by decide +kernel
  have faithful : shortSum.isFaithful = true := by decide +kernel
  exact ⟨known, faithful, (Syntax.Tree.hasValue_denote known).1 faithful⟩

/-- The double 10^21. -/
def longNumber : Double := ⟨0x444B1AE4D6E2EF50⟩

theorem isShortest_longNumber : longNumber.IsShortest 1 21 := by
  have digits : Number.shortest longNumber.magnitude.1 longNumber.magnitude.2 = ⟨1, 21⟩ := by
    decide +kernel
  have short := @Double.isShortest_shortest longNumber (by decide +kernel) (by decide +kernel)
    (by decide +kernel)
  rwa [digits] at short

/-- The sum of a string and 10^21. -/
def longSum : Tree :=
  .binaryExpression (some ⟨1, 11⟩) "+" (.stringLiteral (some ⟨1, 4⟩) (.text "n") .absent)
    (.numericLiteral (some ⟨7, 11⟩) 0x444B1AE4D6E2EF50)

/-- At run time `longSum` is a text with an exponent, not the one that it is evaluated to. -/
theorem hasValue_longSum : longSum.evaluate = some (.string "n1000000000000000000000")
    ∧ HasValue longSum (.string "n1e+21") ∧ ¬ HasValue longSum (.string "n1000000000000000000000") := by
  have canonical : longNumber.canonical = longNumber := Double.canonical_of_number (by decide +kernel)
  refine ⟨by decide +kernel, ?_, ?_⟩
  · have numeral : longNumber.IsNumeral "1e+21" :=
      .finite (by decide +kernel) (by decide +kernel) (by decide +kernel) (by decide +kernel)
        isShortest_longNumber
    show HasValue longSum (.string ("n" ++ "1e+21"))
    refine .sum .string .number (.texts rfl (.string "n") (.number ?_))
    show longNumber.canonical.IsNumeral _
    rwa [canonical]
  · have wrong : ¬ longNumber.IsNumeral "1000000000000000000000" := by
      have text : longNumber.text = "1000000000000000000000" := by decide +kernel
      rw [← text, Double.isNumeral_text_iff]
      decide +kernel
    generalize written : "n1000000000000000000000" = joined
    generalize value : RuntimeValue.string joined = v
    intro hasValue
    cases hasValue with
    | sum left right isSum =>
      cases left
      cases right
      cases isSum with
      | texts _ left right =>
        cases left
        cases right with
        | number numeral =>
          subst written
          have same : "1000000000000000000000" = _ :=
            String.append_right_inj "n" |>.mp (RuntimeValue.string.inj value)
          change longNumber.canonical.IsNumeral _ at numeral
          rw [← same, canonical] at numeral
          exact wrong numeral
      | numbers => exact nomatch value

end MessageExtraction
