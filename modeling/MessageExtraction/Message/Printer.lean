import MessageExtraction.Message.Parser

/-!
# Writing messages

`Message.print` writes a message in its canonical form: one blank after each comma and between
branches, an offset only where it is not zero, and special characters of literal text quoted one by one.
-/

namespace MessageExtraction.Message

/-- Literal text as it is written. A special character stands in quotes. An apostrophe is doubled
where it would otherwise quote what follows, or could: before an apostrophe or a special character and
at the end. -/
def quoteLiteral (inPlural : Bool) : List Char → List Char
  | [] => []
  | '\'' :: r =>
      match r with
      | [] => ['\'', '\'']
      | c :: _ =>
          if c == '\'' || isSpecial inPlural c then '\'' :: '\'' :: quoteLiteral inPlural r
          else '\'' :: quoteLiteral inPlural r
  | c :: r =>
      if isSpecial inPlural c then '\'' :: c :: '\'' :: quoteLiteral inPlural r
      else c :: quoteLiteral inPlural r

mutual
/-- An element as it is written; `inPlural` says whether it stands inside a plural. -/
def Element.print (inPlural : Bool) : Element → List Char
  | .literal text => quoteLiteral inPlural text.toList
  | .argument name => '{' :: name.toList ++ ['}']
  | .formatted name format none =>
      '{' :: name.toList ++ ", ".toList ++ format.keyword.toList ++ ['}']
  | .formatted name format (some style) =>
      '{' :: name.toList ++ ", ".toList ++ format.keyword.toList ++ ", ".toList ++ style.toList
        ++ ['}']
  | .plural name ordinal offset bs =>
      '{' :: name.toList ++ (if ordinal then ", selectordinal, " else ", plural, ").toList
        ++ (if offset = 0 then [] else "offset:".toList ++ (toString offset).toList ++ [' '])
        ++ printBranches true bs ++ ['}']
  | .select name bs =>
      '{' :: name.toList ++ ", select, ".toList ++ printBranches inPlural bs ++ ['}']
  | .pound => ['#']

/-- The elements one after another. -/
def printElements (inPlural : Bool) : List Element → List Char
  | [] => []
  | e :: es => e.print inPlural ++ printElements inPlural es

/-- The branches with a blank between two of them. -/
def printBranches (inPlural : Bool) : List (String × List Element) → List Char
  | [] => []
  | (selector, es) :: bs =>
      selector.toList ++ " \x7b".toList ++ printElements inPlural es ++ ['}'] ++
        match bs with
        | [] => []
        | b :: bs => ' ' :: printBranches inPlural (b :: bs)
end

/-- The canonical text of a message. -/
def print (es : List Element) : String := String.ofList (printElements false es)

/-! ## Validation -/

/-- Where a message was written. -/
inductive Origin where
  /-- A string or template literal of the program. -/
  | script
  /-- A markup attribute, where a backslash escapes nothing. -/
  | markup
deriving DecidableEq, Repr, Inhabited

/-- The canonical form of a text, or why it is not a message. -/
def normalize (origin : Origin) (text : String) : Except SyntaxError String :=
  match parse text with
  | .ok es => .ok (print es)
  | .error e => .error { e with escaped := origin == .markup && text.toList.contains '\\' }

end MessageExtraction.Message
