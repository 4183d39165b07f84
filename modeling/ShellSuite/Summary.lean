import ShellSuite.Outcome

set_option autoImplicit false
set_option relaxedAutoImplicit false

/-!
The results of a run so far, and what a report shows of them.
-/

namespace ShellSuite

structure Summary where
  results : List TestResult
  deriving DecidableEq, Repr

abbrev Tally := List (Outcome × Nat)

namespace Tally

/-- No tests: every outcome is listed. -/
def zero : Tally :=
  Outcome.all.map fun o => (o, 0)

def add (o : Outcome) : Tally → Tally
  | [] => [(o, 1)]
  | e :: t => if e.1 = o then (o, e.2 + 1) :: t else e :: add o t

def get (o : Outcome) : Tally → Nat
  | [] => 0
  | e :: t => if e.1 = o then e.2 else get o t

end Tally

/-- What a report is made of: results by path and name, and their numbers. -/
structure Snapshot where
  counts : Tally
  total : Nat
  elapsed : Duration
  results : List TestResult
  deriving DecidableEq, Repr

namespace Summary

def empty : Summary := ⟨[]⟩

def record (s : Summary) (r : TestResult) : Summary :=
  ⟨s.results ++ [r]⟩

def snapshot (s : Summary) (elapsed : Duration) : Snapshot :=
  let results := s.results.mergeSort TestResult.atMost
  ⟨results.foldl (fun t r => t.add r.outcome) .zero, results.length, elapsed, results⟩

def hasFailures (s : Summary) : Bool :=
  s.results.any (·.outcome.isFailure)

end Summary

namespace Snapshot

def count (s : Snapshot) (o : Outcome) : Nat :=
  s.counts.get o

def failures (s : Snapshot) : Nat :=
  s.count .fail + s.count .timedOut

def idle (s : Snapshot) : Nat :=
  s.count .unsupported + s.count .skipped

def hasFailures (s : Snapshot) : Bool :=
  0 < s.failures

end Snapshot

end ShellSuite
