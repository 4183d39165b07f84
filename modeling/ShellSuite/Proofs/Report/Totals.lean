import Mathlib.Algebra.Ring.Nat
import ShellSuite.Proofs.Report.Reader
import ShellSuite.Proofs.Summary

set_option autoImplicit false
set_option relaxedAutoImplicit false

/-!
The numbers of a report. Results are counted by outcome, by suite and for the whole run, and each
way of counting gives the same numbers, since the suites of a JUnit report share out the results.
-/

namespace ShellSuite

/-! ### Numbers of outcomes -/

private theorem Outcome.isFailure_eq (o : Outcome) : o.isFailure = decide
    (o ∈ [.fail, .timedOut]) := by
  cases o <;> rfl

private theorem Outcome.isIdle_eq (o : Outcome) : o.isIdle = decide
    (o ∈ [.unsupported, .skipped]) := by
  cases o <;> rfl

private theorem countP_mem_cons (results : List TestResult) {o : Outcome} {os : List Outcome}
    (h : o ∉ os) :
    results.countP (·.outcome ∈ o :: os) =
      results.countP (·.outcome = o) + results.countP (·.outcome ∈ os) := by
  induction results with
  | nil => rfl
  | cons r results ih =>
    rw [List.countP_cons, List.countP_cons, List.countP_cons, ih]
    by_cases ho : r.outcome = o
    · simp [ho, h, Nat.add_right_comm]
    · simp [ho, Nat.add_assoc]

private theorem countP_mem_outcomes (results : List TestResult) {os : List Outcome} (h : os.Nodup) :
    results.countP (·.outcome ∈ os) = (os.map fun o => results.countP (·.outcome = o)).sum := by
  induction os with
  | nil => simp
  | cons o os ih =>
    rw [List.nodup_cons] at h
    rw [List.map_cons, List.sum_cons, ← ih h.2, countP_mem_cons results h.1]

namespace Summary

private theorem results_foldl_record (results : List TestResult) (s : Summary) :
    (results.foldl record s).results = s.results ++ results := by
  induction results generalizing s with
  | nil => simp
  | cons r results ih => simp [ih, record]

variable (s : Summary) (elapsed : Duration)

private theorem failures_snapshot :
    (s.snapshot elapsed).failures = s.results.countP (·.outcome.isFailure) := by
  simp only [Outcome.isFailure_eq, Snapshot.failures, count_snapshot]
  rw [countP_mem_outcomes _ (by decide)]
  rfl

private theorem idle_snapshot : (s.snapshot elapsed).idle = s.results.countP
    (·.outcome.isIdle) := by
  simp only [Outcome.isIdle_eq, Snapshot.idle, count_snapshot]
  rw [countP_mem_outcomes _ (by decide)]
  rfl

private theorem hasFailures_snapshot : (s.snapshot elapsed).hasFailures = s.hasFailures := by
  rw [Bool.eq_iff_iff]
  simp [Snapshot.hasFailures, failures_snapshot, hasFailures, List.countP_pos_iff]

private theorem sum_counts_snapshot :
    ((s.snapshot elapsed).counts.map (·.2)).sum = (s.snapshot elapsed).total := by
  have hall : ∀ o : Outcome, o ∈ Outcome.all := by intro o; cases o <;> decide
  rw [counts_snapshot, List.map_map, total_snapshot]
  have hcount := countP_mem_outcomes s.results (by decide : Outcome.all.Nodup)
  simp only [hall, decide_true, List.countP_true] at hcount
  exact hcount.symm

end Summary

namespace Report

open Xml

/-! ### The elements of a report -/

/-- What a test case says about its outcome and shows of its output. -/
def noteElements (r : TestResult) : List Element :=
  (if r.outcome.isFailure then
      [.mk "failure" [("message", (r.failures.headD "Test failed").toList)] []]
    else if r.outcome.isIdle then [.mk "skipped" [("message", (r.failures.headD "").toList)] []]
    else []) ++
  if (shownOutput r).isEmpty then [] else [.mk "system-out" [] []]

def caseElement (suite : String) (r : TestResult) : Element :=
  .mk "testcase" [("classname", suite.toList), ("name", r.name.toList),
    ("time", ((Decimal.secondsOf r.duration).fixedText 3).toList)] (noteElements r)

def suiteElement (name : String) (results : List TestResult) : Element :=
  .mk "testsuite" (("name", name.toList) :: numberAttributes results.length
    (results.countP (·.outcome.isFailure)) (results.countP (·.outcome.isIdle)) (totalTime results))
    (results.map (caseElement name))

def reportElement (s : Snapshot) (suite : String) : Element :=
  .mk "testsuites" (("name", suite.toList) :: numberAttributes s.total s.failures s.idle
    (Decimal.secondsOf s.elapsed))
    ((groups suite s.results).entries.map fun e => suiteElement e.1 e.2)

private theorem spells_notes (r : TestResult) : Spells (outcomeXml r ++ outputXml r)
    (noteElements r) := by
  refine .append ?_ ?_
  · unfold outcomeXml
    split
    · rw [failureXml_eq]
      exact .between (by decide) (by decide)
        (.element (by decide) (lists_property (by decide) _) (spells_escapeXml _))
    · split
      · rw [skippedXml_eq]
        exact .between (by decide) (by decide)
          (.emptyElement (by decide) (lists_property (by decide) _))
      · exact .text (by decide)
  · rw [outputXml_eq]
    split
    · exact .text (by decide)
    · exact .between (by decide) (by decide) (.element (by decide) .empty (spells_escapeXml _))

private theorem spells_testXml (suite : String) (r : TestResult) :
    Spells (testXml suite r) [caseElement suite r] := by
  have hwritten := ((lists_property (by decide : isName "classname") suite).append
    (lists_property (by decide : isName "name") r.name)).append (lists_number
      (by decide : isName "time") (numeric_fixedText (Decimal.secondsOf r.duration) 3))
  rw [testXml_eq]
  exact .between (by decide) (by decide)
    (.element (by decide) hwritten (.between (by decide) (by decide) (spells_notes r)))

private theorem spells_suiteXml (name : String) (results : List TestResult) :
    Spells (suiteXml name results) [suiteElement name results] := by
  have hwritten := (lists_property (by decide : isName "name") name).append
    (lists_numbers results.length (results.countP (·.outcome.isFailure))
      (results.countP (·.outcome.isIdle)) (totalTime results))
  have hcases := Spells.join fun r (_ : r ∈ results) => spells_testXml name r
  rw [← List.map_eq_flatMap] at hcases
  rw [suiteXml_eq]
  exact .between (by decide) (by decide)
    (.element (by decide) hwritten (.between (by decide) (by decide) hcases))

/-- A report is read as its suites with their test cases, whatever texts it shows. -/
theorem readDocument_junit (s : Snapshot) (suite : String) :
    readDocument (junit s suite).toList = some (reportElement s suite) := by
  have hwritten := (lists_property (by decide : isName "name") suite).append
    (lists_numbers s.total s.failures s.idle (Decimal.secondsOf s.elapsed))
  have hsuites := Spells.join fun e (_ : e ∈ (groups suite s.results).entries) =>
    spells_suiteXml e.1 e.2
  rw [← List.map_eq_flatMap] at hsuites
  have hroot := Spells.element (by decide : isName "testsuites") hwritten
    (hsuites.between (by decide : '<' ∉ "\n".toList) (by decide : '<' ∉ "".toList))
  have hdeclaration : Spells "<?xml version=\"1.0\" encoding=\"UTF-8\"?>\n" [] := by
    have htext : "<?xml version=\"1.0\" encoding=\"UTF-8\"?>\n" =
        "<?" ++ "xml version=\"1.0\" encoding=\"UTF-8\"?" ++ ">" ++ "\n" := by decide
    rw [htext]
    exact .append (.instruction (by decide) (by decide)) (.text (by decide))
  have hread := ((hdeclaration.append hroot).append
    (.text (by decide : '<' ∉ "\n".toList))).readDocument
  rw [String.toList_append, String.toList_append] at hread
  rw [toList_junit]
  exact hread

/-! ### Suites -/

private theorem flatMap_groups_perm (suite : String) (results : List TestResult) :
    ((groups suite results).entries.flatMap (·.2)).Perm results := by
  induction results using List.reverseRecOn with
  | nil => exact .refl _
  | append_singleton results r ih =>
    rw [groups_append_singleton]
    exact (Dict.flatMap_insert_perm _ _ _).trans (ih.append_right [r])

private theorem sum_countP_groups (suite : String) (results : List TestResult)
    (p : TestResult → Bool) :
    ((groups suite results).entries.map fun e => e.2.countP p).sum = results.countP p := by
  rw [← (flatMap_groups_perm suite results).countP_eq p, List.countP_flatMap]
  rfl

def totals : List (String × (TestResult → Bool)) :=
  [("tests", fun _ => true), ("failures", (·.outcome.isFailure)), ("skipped", (·.outcome.isIdle))]

private theorem number?_suiteElement {t : String × (TestResult → Bool)} (ht : t ∈ totals)
    (name : String)
    (results : List TestResult) :
    (suiteElement name results).number? t.1 = some (results.countP t.2) := by
  simp only [totals, List.mem_cons, List.not_mem_nil, or_false] at ht
  rcases ht with rfl | rfl | rfl
  · rw [List.countP_true]
    exact numeral?_toString _
  · exact numeral?_toString _
  · exact numeral?_toString _

private theorem number?_reportElement {t : String × (TestResult → Bool)} (ht : t ∈ totals)
    (summary : Summary) (elapsed : Duration) (suite : String) :
    (reportElement (summary.snapshot elapsed) suite).number? t.1 =
      some (summary.results.countP t.2) := by
  simp only [totals, List.mem_cons, List.not_mem_nil, or_false] at ht
  rcases ht with rfl | rfl | rfl
  · rw [List.countP_true, ← summary.total_snapshot elapsed]
    exact numeral?_toString _
  · rw [← summary.failures_snapshot elapsed]
    exact numeral?_toString _
  · rw [← summary.idle_snapshot elapsed]
    exact numeral?_toString _

/-- A report of some results, by its elements. Each result is shown in exactly one suite, and the
numbers of the suites add up to the numbers of the whole report. -/
structure Accounts (suite : String) (results : List TestResult) (root : Element) : Prop where
  name : root.name = "testsuites"
  suites : ∀ e ∈ root.children, e.name = "testsuite"
  distinct : (root.children.map (·.value? "name")).Nodup
  shown : (root.children.flatMap (·.children)).Perm
    (results.map fun r => caseElement (groupName suite r) r)
  once : ∀ r ∈ results, ∃! e, e ∈ root.children ∧ caseElement (groupName suite r) r ∈ e.children
  numbers : ∀ t ∈ totals, ∃ ns : List Nat,
    root.children.map (·.number? t.1) = ns.map some ∧
      root.number? t.1 = some ns.sum ∧ ns.sum = results.countP t.2

private theorem suite_eq_of_mem_children {suite name : String} {results : List TestResult}
    {r : TestResult}
    (h : caseElement suite r ∈ (suiteElement name results).children) : suite = name := by
  obtain ⟨other, -, hcase⟩ := List.mem_map.mp h
  have hclass : some name.toList = some suite.toList :=
    congrArg (Element.value? · "classname") hcase
  exact (String.toList_injective (Option.some.inj hclass)).symm

private theorem accounts_reportElement (summary : Summary) (elapsed : Duration) (suite : String) :
    Accounts suite summary.results (reportElement (summary.snapshot elapsed) suite) where
  name := rfl
  suites := by
    intro e he
    obtain ⟨group, -, rfl⟩ := List.mem_map.mp he
    rfl
  distinct := by
    have hnames : (reportElement (summary.snapshot elapsed) suite).children.map
        (·.value? "name") = (groups suite (summary.snapshot elapsed).results).entries.map
          fun e => some e.1.toList := by
      rw [reportElement, Element.children, List.map_map]
      rfl
    rw [hnames]
    refine List.Pairwise.map _ ?_ (groups suite (summary.snapshot elapsed).results).sorted
    intro e f hlt heq
    rw [String.toList_injective (Option.some.inj heq)] at hlt
    exact String.lt_irrefl _ hlt
  shown := by
    have hcases : (reportElement (summary.snapshot elapsed) suite).children.flatMap (·.children) =
        ((groups suite (summary.snapshot elapsed).results).entries.flatMap (·.2)).map
          fun r => caseElement (groupName suite r) r := by
      rw [reportElement, Element.children, List.flatMap_map, List.map_flatMap]
      refine List.flatMap_congr fun e he => List.map_congr_left fun r hr => ?_
      rw [((mem_groups he).2 r hr).2]
    rw [hcases]
    exact ((flatMap_groups_perm suite _).trans (summary.snapshot_results_perm elapsed)).map _
  once := by
    intro r hr
    obtain ⟨e, he, hre⟩ :=
      exists_mem_groups suite ((summary.snapshot_results_perm elapsed).mem_iff.mpr hr)
    have hname := ((mem_groups he).2 r hre).2
    refine ⟨suiteElement e.1 e.2, ⟨List.mem_map.mpr ⟨e, he, rfl⟩, ?_⟩, ?_⟩
    · rw [hname]
      exact List.mem_map.mpr ⟨r, hre, rfl⟩
    · -- another suite that shows the test has the same name, and names of suites are distinct
      rintro _ ⟨hmem, hcase⟩
      obtain ⟨f, hf, rfl⟩ := List.mem_map.mp hmem
      have hkey : f.1 = e.1 := (suite_eq_of_mem_children hcase).symm.trans hname
      rw [Dict.eq_of_mem_entries hf he hkey]
  numbers := by
    intro t ht
    refine ⟨(groups suite (summary.snapshot elapsed).results).entries.map fun e => e.2.countP t.2,
      ?_, ?_, ?_⟩
    · simp [reportElement, Element.children, number?_suiteElement ht, Function.comp_def]
    · rw [number?_reportElement ht, sum_countP_groups,
        (summary.snapshot_results_perm elapsed).countP_eq]
    · rw [sum_countP_groups, (summary.snapshot_results_perm elapsed).countP_eq]

/-- However results are counted, the numbers are the same: outcome by outcome, for the whole run, and
in a JUnit report over its suites, each of which shows some of the results. -/
theorem totals_agree (results : List TestResult) (elapsed : Duration) (suite : String) :
    let summary := results.foldl Summary.record .empty
    let snapshot := summary.snapshot elapsed
    snapshot.counts = Outcome.all.map (fun o => (o, results.countP (·.outcome = o))) ∧
      (∀ o, snapshot.count o = results.countP (·.outcome = o)) ∧
      (snapshot.counts.map (·.2)).sum = snapshot.total ∧ snapshot.total = results.length ∧
      snapshot.results.Perm results ∧
      (snapshot.results.Pairwise fun a b =>
        a.path.less b.path ∨ (a.path.same b.path ∧ a.name ≤ b.name)) ∧
      summary.hasFailures = snapshot.hasFailures ∧
      ∃ root, readDocument (junit snapshot suite).toList = some root ∧
        Accounts suite results root ∧
        ∃ n, root.number? "failures" = some n ∧ (n ≠ 0 ↔ summary.hasFailures) := by
  intro summary snapshot
  have hresults : summary.results = results := Summary.results_foldl_record results .empty
  have hfailures : ("failures", fun r : TestResult => r.outcome.isFailure) ∈ totals := by
    simp [totals]
  refine ⟨?_, ?_, summary.sum_counts_snapshot elapsed, ?_, ?_, ?_, ?_, ?_⟩
  · rw [← hresults]
    exact summary.counts_snapshot elapsed
  · rw [← hresults]
    exact summary.count_snapshot elapsed
  · rw [← hresults]
    exact summary.total_snapshot elapsed
  · rw [← hresults]
    exact summary.snapshot_results_perm elapsed
  · exact (summary.snapshot_results_sorted elapsed).imp fun h => TestResult.atMost_iff.mp h
  · exact (summary.hasFailures_snapshot elapsed).symm
  · refine ⟨_, readDocument_junit snapshot suite, ?_, _, number?_reportElement hfailures summary
      elapsed suite, ?_⟩
    · rw [← hresults]
      exact accounts_reportElement summary elapsed suite
    · rw [Summary.hasFailures, List.any_eq_true, ← Nat.pos_iff_ne_zero, List.countP_pos_iff]

end Report

end ShellSuite
