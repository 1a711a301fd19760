import MessageExtraction.Report.Issue
import MessageExtraction.Text.TextWidth

/-!
# The report

Issues as the user sees them: each with its place, the line of the source and a caret under its column, and
at the end how many there are.
-/

namespace MessageExtraction.Report

/-- The mark of what went well. -/
def successMark : String := "\u2713"

/-- The mark of what went wrong. -/
def failureMark : String := "\u2718"

/-- That many blanks. -/
def blanks (n : Nat) : String := String.ofList (List.replicate n ' ')

/-- A text with blanks before it up to a width. -/
def alignRight (width : Nat) (text : String) : String := blanks (width - text.length) ++ text

/-- The columns before a caret: those of the characters of the line before its column. -/
def caretIndent (line : String) (column : Nat) : Nat := Text.width (line.toList.take (column - 1))

/-- The lines about the place of an issue. -/
def placeLines (margin : Nat) : Place → List String
  | .file path => ["  --> " ++ path]
  | .source location line =>
      ["  --> " ++ location.text,
        blanks margin ++ " |",
        alignRight margin (toString location.line) ++ " | " ++ line,
        blanks margin ++ " | " ++ blanks (caretIndent line location.column) ++ "^"]

/-- The lines of an issue, with an empty one at the end. -/
def issueLines (margin : Nat) (issue : Issue) : List String :=
  [issue.severity.text ++ ": " ++ issue.text ++ "  " ++ issue.rule.text]
    ++ placeLines margin issue.place
    ++ (issue.hint?.map fun hint => blanks margin ++ " = hint: " ++ hint).toList
    ++ [""]

/-- The line number that an issue shows, if it shows one. -/
def lineNumber? (issue : Issue) : Option Nat :=
  match issue.place with
  | .source location _ => some location.line
  | .file _ => none

/-- The width of the widest line number, one if there is none. -/
def margin (issues : List Issue) : Nat :=
  match (issues.filterMap lineNumber?).max? with
  | some n => (toString n).length
  | none => 1

/-- A number with the word for one or for many. -/
def counted (n : Nat) (one many : String) : String :=
  toString n ++ " " ++ if n = 1 then one else many

/-- The line that counts the issues. -/
def summary (issues : List Issue) : String :=
  let errors := issues.countP Issue.isError
  failureMark ++ " " ++ toString issues.length ++ " problems ("
    ++ counted errors "error" "errors" ++ ", "
    ++ counted (issues.length - errors) "warning" "warnings" ++ ")"

/-- The lines of the report on some issues; none if there are none. -/
def lines (issues : List Issue) : List String :=
  if issues.isEmpty then []
  else
    let issues := Issue.sort issues
    issues.flatMap (issueLines (margin issues)) ++ [summary issues]

/-- The line on messages that were extracted from files. -/
def extracted (messages files : Nat) : String :=
  successMark ++ " Extracted " ++ counted messages "message" "messages" ++ " from "
    ++ counted files "file" "files"

/-- The line on files that could not be read as modules. -/
def unparsed (files : Nat) : String :=
  "warning: " ++ toString files ++ " file(s) could not be parsed (use -v for details)"

end MessageExtraction.Report
