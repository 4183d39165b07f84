import ShellSuite.Discovery
import ShellSuite.Summary
import ShellSuite.Test.Run

set_option autoImplicit false
set_option relaxedAutoImplicit false

/-!
Suites: workers take one item of discovery after the other, and record one result for each.
-/

namespace ShellSuite.Suite

def idleResult? (o : RunOptions) (cancelled : Bool) (t : Test) : Option TestResult :=
  if cancelled then some (.skipped t.name t.path "run cancelled")
  else
    match o.filter with
    | some part =>
      if Text.occursIn part t.name then none
      else some (.skipped t.name t.path "filtered out")
    | none => none

/-- What is known of an item before anything runs: its result, or a test that has to be run. -/
inductive Admission where
  | settled (r : TestResult)
  | go (t : Test)

/-- Looks at an item: directories that could not be looked at fail, and some tests are not run. -/
def admission (o : RunOptions) (cancelled : Bool) : Discovery.Item → Admission
  | .broken cause => .settled (.loadFailure cause.path cause.message)
  | .unreadable path cause => .settled (.loadFailure path (Discovery.walkMessage path cause))
  | .test t =>
    match idleResult? o cancelled t with
    | some r => .settled r
    | none => .go t

/-- The result of an item. There is none if the clock cannot show the deadline of a test. -/
def runItem (site : Site) (o : RunOptions) (s : RunState) (item : Discovery.Item) :
    Option (TestResult × RunState) :=
  match admission o s.world.token.cancelled item with
  | .settled r => some (r, s)
  | .go t => t.run site o s

/-- Where items come from: the next item and what is left, given the files there are by then. -/
abbrev Source (ι : Type) := FileSystem → ι → Option (Discovery.Item × ι)

/-- The results of the items of a source, in the order in which they come. There are none if there is
no room for them, so a run that has results has come to the end of its source. -/
def runItems {ι : Type} (next : Source ι) (site : Site) (o : RunOptions) (room : Nat) (source : ι)
    (s : RunState) : Option (List TestResult × RunState) :=
  match next s.world.files source, room with
  | none, _ => some ([], s)
  | some _, 0 => none
  | some (item, source), room + 1 => do
    let (r, s) ← runItem site o s item
    let (rs, s) ← runItems next site o room source s
    return (r :: rs, s)

/-- No list that can be addressed holds more results. -/
def capacity : Nat := Nat.pow 2 63

def found : Source Discovery.Search := fun files search => search.next files

/-- Runs a suite: the results in the order in which they come in. Run directories in which nothing
was kept are removed. -/
def run (site : Site) (o : RunOptions) (search : Discovery.Search) (w : World) :
    Option (Summary × World) := do
  let (rs, s) ← runItems found site o capacity search ⟨w, []⟩
  let files := Scratch.removeRunDirs s.world.files s.runDirs
  return (⟨rs⟩, { s.world with files := files })

end ShellSuite.Suite
