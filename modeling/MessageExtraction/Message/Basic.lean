/-!
# Localizable messages

A message is a list of elements: literal text, arguments, formatted arguments, and the two branching
forms `plural` and `select`, whose branches hold messages again. The pound sign stands for the number
of the nearest enclosing plural.
-/

namespace MessageExtraction.Message

/-- The value formats an argument can ask for. -/
inductive ValueFormat where
  | number
  | date
  | time
deriving DecidableEq, Repr, Inhabited

/-- The keyword of a value format. -/
def ValueFormat.keyword : ValueFormat → String
  | .number => "number"
  | .date => "date"
  | .time => "time"

/-- The value format of a keyword. -/
def ValueFormat.ofKeyword? : String → Option ValueFormat
  | "number" => some .number
  | "date" => some .date
  | "time" => some .time
  | _ => none

/-- One element of a message. A branch is a selector with the message it selects. -/
inductive Element where
  | literal (text : String)
  | argument (name : String)
  | formatted (name : String) (format : ValueFormat) (style : Option String)
  | plural (name : String) (ordinal : Bool) (offset : Int) (branches : List (String × List Element))
  | select (name : String) (branches : List (String × List Element))
  | pound
deriving Repr, Inhabited

/-- A selector with the message it selects. -/
abbrev Branch := String × List Element

mutual
/-- Whether two elements are the same. -/
def Element.same : Element → Element → Bool
  | .literal s, .literal t => s == t
  | .argument s, .argument t => s == t
  | .formatted s f x, .formatted t g y => s == t && f == g && x == y
  | .plural s o i bs, .plural t p j cs => s == t && o == p && i == j && sameBranches bs cs
  | .select s bs, .select t cs => s == t && sameBranches bs cs
  | .pound, .pound => true
  | _, _ => false

/-- Whether two messages are the same, element by element. -/
def sameElements : List Element → List Element → Bool
  | [], [] => true
  | e :: es, f :: fs => e.same f && sameElements es fs
  | _, _ => false

/-- Whether two lists of branches are the same, branch by branch. -/
def sameBranches : List (String × List Element) → List (String × List Element) → Bool
  | [], [] => true
  | (s, es) :: bs, (t, fs) :: cs => s == t && sameElements es fs && sameBranches bs cs
  | _, _ => false
end

mutual
theorem Element.same_iff : (e f : Element) → (e.same f = true ↔ e = f)
  | .literal _, f => by cases f <;> simp [Element.same]
  | .argument _, f => by cases f <;> simp [Element.same]
  | .formatted .., f => by cases f <;> simp [Element.same, and_assoc]
  | .plural _ _ _ bs, f => by
      cases f <;> simp [Element.same, and_assoc]
      next cs => simp [sameBranches_iff bs cs]
  | .select _ bs, f => by
      cases f <;> simp [Element.same]
      next cs => simp [sameBranches_iff bs cs]
  | .pound, f => by cases f <;> simp [Element.same]

theorem sameElements_iff : (es fs : List Element) → (sameElements es fs = true ↔ es = fs)
  | [], fs => by cases fs <;> simp [sameElements]
  | e :: es, [] => by simp [sameElements]
  | e :: es, f :: fs => by simp [sameElements, Element.same_iff e f, sameElements_iff es fs]

theorem sameBranches_iff :
    (bs cs : List (String × List Element)) → (sameBranches bs cs = true ↔ bs = cs)
  | [], cs => by cases cs <;> simp [sameBranches]
  | _ :: _, [] => by simp [sameBranches]
  | (s, es) :: bs, (t, fs) :: cs => by
      simp [sameBranches, sameElements_iff es fs, sameBranches_iff bs cs]
end

instance : DecidableEq Element := fun e f => decidable_of_iff _ (Element.same_iff e f)

end MessageExtraction.Message
