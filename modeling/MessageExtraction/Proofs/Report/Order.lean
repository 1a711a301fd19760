import Mathlib.Data.Prod.Lex
import Mathlib.Data.String.Basic
import MessageExtraction.Proofs.Extraction.Keeping
import MessageExtraction.Proofs.Project.Effects
import MessageExtraction.Proofs.Sorting.Stable
import MessageExtraction.Report.Text

/-!
# The order of the report

Issues are sorted by a part of what they say, and issues that are equal in that part stay in the order in
which they come. The issues of one file always come in one order, and those of two files differ in their
paths. So the report does not depend on the order in which the files are done.

* `order_isLE_iff`: issues are sorted by their keys: place, rule and wording.
* `path_of_mem_issues`: all issues of a file are shown at its path.
* `lines_of_perm`: the report is the same for every order of the files, and its issues are in order.
-/

namespace MessageExtraction

/-- Where at most one element of a list gives anything, the order of the list does not show. -/
theorem flatMap_eq_of_perm {α β : Type} {f : α → List β} {xs ys : List α} (perm : xs.Perm ys)
    (apart : xs.Pairwise fun a b => f a = [] ∨ f b = []) : xs.flatMap f = ys.flatMap f := by
  induction perm with
  | nil => rfl
  | cons a perm ih => rw [List.flatMap_cons, List.flatMap_cons, ih (List.pairwise_cons.mp apart).2]
  | swap a b xs =>
    simp only [List.flatMap_cons]
    rcases (List.pairwise_cons.mp apart).1 a List.mem_cons_self with empty | empty <;> simp [empty]
  | trans perm perm' ih ih' =>
    exact (ih apart).trans (ih' ((perm.pairwise_iff Or.symm).mp apart))

/-! ## Keys -/

namespace Issue

/-- What an issue is sorted by: its place, the rank of its rule, and its wording. -/
def sortKey (issue : Issue) : String ×ₗ Nat ×ₗ Nat ×ₗ Nat ×ₗ String :=
  let (file, line, column) := placeKey issue.place
  toLex (file, toLex (line, toLex (column, toLex (issue.rule.rank, issue.text))))

theorem isLE_then_compare {α β : Type} [LinearOrder α] [LE β] {a b : α} {x y : β} {o : Ordering}
    (h : o.isLE ↔ x ≤ y) : ((compare a b).then o).isLE ↔ toLex (a, x) ≤ toLex (b, y) := by
  rw [Ordering.isLE_then_iff_or, compare_lt_iff_lt, compare_eq_iff_eq, h, Prod.Lex.toLex_le_toLex]

/-- Issues are ordered by their keys. -/
theorem order_isLE_iff (a b : Issue) : (order a b).isLE ↔ a.sortKey ≤ b.sortKey := by
  unfold order sortKey
  refine isLE_then_compare (isLE_then_compare (isLE_then_compare (isLE_then_compare ?_)))
  rw [Ordering.isLE_iff_ne_gt]
  exact compare_le_iff_le

theorem sort_perm (issues : List Issue) : (sort issues).Perm issues := List.mergeSort_perm issues _

theorem pairwise_sort (issues : List Issue) :
    (sort issues).Pairwise fun a b => a.sortKey ≤ b.sortKey :=
  pairwise_mergeSort order_isLE_iff issues

theorem path_of_sortKey {a b : Issue} (h : a.sortKey = b.sortKey) :
    (placeKey a.place).1 = (placeKey b.place).1 :=
  congrArg (fun key => (ofLex key).1) h

theorem path_placeAt (location : Location) (line : String) :
    (placeKey (placeAt location line)).1 = location.file := by
  unfold placeAt
  split <;> rfl

end Issue

/-! ## The issues of a file -/

/-- All that is reported about a file is shown at its path. -/
theorem Project.path_of_mem_issues (project : Project) (parse : Parser) {path source : String}
    {issue : Issue} (mem : issue ∈ (project.outcomeOf parse path source).issues) :
    (Issue.placeKey issue.place).1 = path := by
  rw [Outcome.issues, outcomeOf] at mem
  cases parsed : parse path source with
  | error reason =>
    rw [parsed] at mem
    rw [List.mem_singleton.mp mem]
    rfl
  | ok tree =>
    have reported := (Pass.ofModule project.config ⟨path, source⟩ tree).extract_reports tree
    simp only [parsed] at mem
    cases found : ((Pass.ofModule project.config ⟨path, source⟩ tree).extract tree).2.fault with
    | some fault =>
      simp only [found] at mem
      rw [List.mem_singleton.mp mem]
      exact (Issue.path_placeAt ..).trans (reported.fault fault found)
    | none =>
      simp only [found] at mem
      obtain ⟨warning, member, rfl⟩ := List.mem_map.mp mem
      exact (Issue.path_placeAt ..).trans (reported.warnings warning member)

namespace Outcome

variable {outcome : Outcome} {outcomes outcomes' : List Outcome} {issue : Issue}

/-- Whether an outcome is what has ended of a file, in some project. -/
def IsProduced (outcome : Outcome) : Prop :=
  ∃ (project : Project) (parse : Parser) (fs : FileSystem) (path : String),
    (project.runFile parse fs path).2.2 = .ok outcome

theorem IsProduced.path_of_mem_issues (produced : outcome.IsProduced) (mem : issue ∈ outcome.issues) :
    (Issue.placeKey issue.place).1 = outcome.path := by
  obtain ⟨project, parse, fs, path, done⟩ := produced
  generalize ran : project.runFile parse fs path = run at done
  obtain ⟨fs', remarks, ended⟩ := run
  obtain rfl : ended = .ok outcome := done
  rw [Project.eq_outcomeOf_of_runFile ran] at mem
  rw [(Project.runFile_ok ran).1]
  exact project.path_of_mem_issues parse mem

/-- The issues with one key come from one file, so they come in the same order for every order of the
files. -/
theorem filter_issues_of_perm (produced : ∀ outcome ∈ outcomes, outcome.IsProduced)
    (distinct : (outcomes.map path).Nodup) (perm : outcomes'.Perm outcomes)
    (key : String ×ₗ Nat ×ₗ Nat ×ₗ Nat ×ₗ String) :
    (outcomes.flatMap issues).filter (·.sortKey = key)
      = (outcomes'.flatMap issues).filter (·.sortKey = key) := by
  rw [List.filter_flatMap, List.filter_flatMap]
  refine flatMap_eq_of_perm perm.symm ?_
  refine (List.pairwise_map.mp distinct).imp_of_mem fun {a b} ha hb ne => ?_
  by_contra both
  obtain ⟨left, right⟩ := not_or.mp both
  obtain ⟨x, hx⟩ := List.exists_mem_of_ne_nil _ left
  obtain ⟨y, hy⟩ := List.exists_mem_of_ne_nil _ right
  have same : x.sortKey = y.sortKey := by
    have kx : x.sortKey = key := by simpa using List.of_mem_filter hx
    have ky : y.sortKey = key := by simpa using List.of_mem_filter hy
    rw [kx, ky]
  refine ne ?_
  rw [← (produced a ha).path_of_mem_issues (List.mem_of_mem_filter hx),
    ← (produced b hb).path_of_mem_issues (List.mem_of_mem_filter hy), Issue.path_of_sortKey same]

end Outcome

/-! ## The report -/

namespace Report

variable {outcomes outcomes' : List Outcome}

/-- The lines of a report on issues, in the order in which they are given. -/
def printed (issues : List Issue) : List String :=
  if issues.isEmpty then [] else issues.flatMap (issueLines (margin issues)) ++ [summary issues]

theorem lines_eq_printed (issues : List Issue) : lines issues = printed (Issue.sort issues) := by
  have empty : (Issue.sort issues).isEmpty = issues.isEmpty := (Issue.sort_perm issues).isEmpty_eq
  rw [lines, printed, empty]

/-- The report does not depend on the order in which files are done: if the files differ in their paths, it
is the same for every order of them. It prints all issues, in the order of the path, line and column at
which they are shown, then of their rules, and then of their wordings. -/
theorem lines_of_perm (produced : ∀ outcome ∈ outcomes, outcome.IsProduced)
    (distinct : (outcomes.map Outcome.path).Nodup) (perm : outcomes'.Perm outcomes) :
    lines (outcomes'.flatMap Outcome.issues) = lines (outcomes.flatMap Outcome.issues)
      ∧ ∃ sorted : List Issue, sorted.Perm (outcomes.flatMap Outcome.issues)
        ∧ sorted.Pairwise (fun a b => a.sortKey ≤ b.sortKey)
        ∧ lines (outcomes.flatMap Outcome.issues) = printed sorted := by
  have sorts : Issue.sort (outcomes.flatMap Outcome.issues)
      = Issue.sort (outcomes'.flatMap Outcome.issues) :=
    mergeSort_eq_of_filter Issue.order_isLE_iff
      (Outcome.filter_issues_of_perm produced distinct perm)
  refine ⟨?_, Issue.sort (outcomes.flatMap Outcome.issues), Issue.sort_perm _, Issue.pairwise_sort _,
    lines_eq_printed _⟩
  rw [lines_eq_printed, lines_eq_printed, sorts]

/-- Of three files one is no module and one has a fault; done the other way round they are reported alike. -/
theorem lines_threeOutcomes :
    (∀ outcome ∈ Project.threeOutcomes, outcome.IsProduced)
      ∧ (Project.threeOutcomes.map Outcome.path).Nodup
      ∧ (Project.threeOutcomes.flatMap Outcome.issues).length = 2
      ∧ lines (Project.threeOutcomes.reverse.flatMap Outcome.issues)
        = lines (Project.threeOutcomes.flatMap Outcome.issues) := by
  have produced : ∀ outcome ∈ Project.threeOutcomes, outcome.IsProduced := by
    intro outcome mem
    refine ⟨Project.threeFiles, Project.falteringParser, Project.threeSources, outcome.path, ?_⟩
    revert outcome
    decide +kernel
  have distinct : (Project.threeOutcomes.map Outcome.path).Nodup := by decide
  exact ⟨produced, distinct, by decide, (lines_of_perm produced distinct (List.reverse_perm _)).1⟩

end Report

end MessageExtraction
