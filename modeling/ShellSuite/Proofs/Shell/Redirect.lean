import Mathlib.Logic.Function.Basic
import ShellSuite.Proofs.Files.Change
import ShellSuite.Proofs.RunLine.RoundTrip
import ShellSuite.Shell.Redirect

set_option autoImplicit false
set_option relaxedAutoImplicit false

/-!
Redirections on a table of descriptors. The table starts with the outputs 1 and 2, and redirections
are taken from left to right: opening a file rebinds one of its numbers, a duplication copies what a
number stands for at that time, and `&>f` is `1>f 2>&1`. The descriptors of a command are what the
table ends with.
-/

namespace ShellSuite

open RunLine (Redirect)

/-- A table of descriptors: what is read as the input, and what each number of an output stands
for. -/
structure FdTable where
  input : Option Bytes
  output : Nat → Option Target

namespace FdTable

/-- The table of a command: 1 is its pipe, and 2 is what is kept of its errors. -/
def initial : FdTable :=
  ⟨none, Function.update (Function.update (fun _ => none) 2 (some .err)) 1 (some .out)⟩

def rebind (t : FdTable) (fd : Nat) (target : Target) : Option FdTable :=
  if (t.output fd).isSome then some { t with output := Function.update t.output fd (some target) }
  else none

def rebindFile (s : Session) (append : Bool) (o : OpenFiles) (t : FdTable) (fd : Nat)
    (target : String) : Option (OpenFiles × FdTable) := do
  let (o, handle) ← (o.create append (s.resolve target)).toOption
  return (o, ← t.rebind fd (.file handle))

def copy (t : FdTable) (fd source : Nat) : Option FdTable := do
  t.rebind fd (← t.output source)

/-- Takes one redirection, which fails for a number that is not in the table and for a target that
cannot be opened. -/
def take (s : Session) : OpenFiles × FdTable → Redirect → Option (OpenFiles × FdTable)
  | (o, t), ⟨fd, .read, target⟩ => do
    guard (fd = 0)
    let bytes ← (o.files.read (s.resolve target)).toOption
    return (o, { t with input := some bytes })
  | (o, t), ⟨fd, .write, target⟩ => t.rebindFile s false o fd target
  | (o, t), ⟨fd, .append, target⟩ => t.rebindFile s true o fd target
  | (o, t), ⟨fd, .duplicate, target⟩ => do
    return (o, ← t.copy fd (RunLine.digitsValue target.toList))
  | (o, t), ⟨_, .writeBoth, target⟩ => do
    let (o, t) ← t.rebindFile s false o 1 target
    return (o, ← t.copy 2 1)

end FdTable

def RunLine.Redirect.Supported : Redirect → Prop
  | ⟨fd, .read, _⟩ => fd = 0
  | ⟨fd, .write, _⟩ | ⟨fd, .append, _⟩ | ⟨fd, .duplicate, _⟩ => fd = 1 ∨ fd = 2
  | ⟨_, .writeBoth, _⟩ => True

namespace Descriptors

/-- Opens the target of a redirection: the files that are left. -/
def openTarget (s : Session) (o : OpenFiles) : Redirect → Except OsError OpenFiles
  | ⟨_, .read, target⟩ => (fun _ => o) <$> o.files.read (s.resolve target)
  | ⟨_, .append, target⟩ => (·.1) <$> o.create true (s.resolve target)
  | ⟨_, .write, target⟩ | ⟨_, .writeBoth, target⟩ => (·.1) <$> o.create false (s.resolve target)
  | ⟨_, .duplicate, _⟩ => .ok o

def table (d : Descriptors) : FdTable :=
  ⟨d.stdin, fun fd => if fd = 1 then some d.stdout else if fd = 2 then some d.stderr else none⟩

private theorem table_initial : initial.table = .initial := by
  have houtput : initial.table.output = FdTable.initial.output := by
    funext fd
    by_cases h1 : fd = 1
    · simp [table, initial, FdTable.initial, h1]
    · by_cases h2 : fd = 2
      · simp [table, initial, FdTable.initial, h2]
      · simp [table, initial, FdTable.initial, h1, h2]
  exact congrArg (FdTable.mk none) houtput

private theorem table_injective {d d' : Descriptors} (h : d.table = d'.table) : d = d' := by
  have hinput : d.stdin = d'.stdin := congrArg FdTable.input h
  have houtput (fd : Nat) : d.table.output fd = d'.table.output fd := by rw [h]
  have hout : d.stdout = d'.stdout := by simpa [table] using houtput 1
  have herr : d.stderr = d'.stderr := by simpa [table] using houtput 2
  cases d
  cases d'
  simp_all

variable {s : Session} {o o' : OpenFiles} {d d' : Descriptors} {r : Redirect}

private theorem rebind_table (d : Descriptors) (fd : Nat) (x : Target) :
    d.table.rebind fd x = if fd = 1 ∨ fd = 2 then some (d.set fd x).table else none := by
  have hset (hfd : fd = 1 ∨ fd = 2) :
      Function.update d.table.output fd (some x) = (d.set fd x).table.output := by
    funext other
    rcases hfd with rfl | rfl
    · by_cases h : other = 1 <;> simp [table, set, Function.update_apply, h]
    · by_cases h : other = 2 <;> simp [table, set, Function.update_apply, h]
  by_cases hfd : fd = 1 ∨ fd = 2
  · have hbound : (d.table.output fd).isSome := by
      rcases hfd with rfl | rfl <;> simp [table]
    have hinput : d.table.input = (d.set fd x).table.input := by
      rcases hfd with rfl | rfl <;> rfl
    rw [FdTable.rebind, if_pos hbound, if_pos hfd, hset hfd, hinput]
  · have hfree : ¬ (d.table.output fd).isSome := by
      rw [not_or] at hfd
      simp [table, hfd]
    rw [FdTable.rebind, if_neg hfree, if_neg hfd]

private theorem toOption_create (s : Session) (o : OpenFiles) (append : Bool) (target : String) :
    (create s o append target).toOption = (o.create append (s.resolve target)).toOption := by
  unfold create
  simp only
  split <;> simp_all [Except.toOption]

private theorem rebindFile_table (s : Session) (append : Bool) (o : OpenFiles) (d : Descriptors)
    (fd : Nat)
    (target : String) :
    d.table.rebindFile s append o fd target =
      if fd = 1 ∨ fd = 2 then
        (create s o append target).toOption.map fun (o, h) => (o, (d.set fd (.file h)).table)
      else none := by
  rw [toOption_create, FdTable.rebindFile]
  cases (o.create append (s.resolve target)).toOption with
  | none => simp
  | some made =>
    simp only [rebind_table]
    split <;> rfl

private theorem copy_table (d : Descriptors) (fd : Nat) (source : String)
    (h : source = "1" ∨ source = "2") :
    d.table.copy fd (RunLine.digitsValue source.toList) =
      if fd = 1 ∨ fd = 2 then
        some (d.set fd (if source = "1" then d.stdout else d.stderr)).table
      else none := by
  have hbound : d.table.output (RunLine.digitsValue source.toList) =
      some (if source = "1" then d.stdout else d.stderr) := by
    rcases h with rfl | rfl <;> rfl
  rw [FdTable.copy, hbound]
  exact rebind_table d fd _

private theorem take_table (htarget : r.op = .duplicate → r.target = "1" ∨ r.target = "2") :
    FdTable.take s (o, d.table) r =
      (redirect s o d r).toOption.map fun x => (x.1, x.2.table) := by
  obtain ⟨fd, op, target⟩ := r
  cases op with
  | read =>
    simp only [FdTable.take, redirect]
    by_cases hfd : fd = 0
    · simp only [hfd, guard_true, if_true]
      cases o.files.read (s.resolve target) <;> rfl
    · simp only [hfd, guard_false, if_false]
      rfl
  | write | append =>
    simp only [FdTable.take, redirect, rebindFile_table, Bool.or_eq_true, decide_eq_true_eq]
    split
    · cases create s o _ target <;> rfl
    · rfl
  | duplicate =>
    simp only [FdTable.take, redirect, copy_table d fd target (htarget rfl), Bool.or_eq_true,
      decide_eq_true_eq]
    split <;> rfl
  | writeBoth =>
    simp only [FdTable.take, redirect, rebindFile_table, true_or, if_true]
    cases create s o false target with
    | error e => rfl
    | ok made =>
      have hcopy := copy_table (d.set 1 (.file made.2)) 2 "1" (.inl rfl)
      have hdigits : RunLine.digitsValue "1".toList = 1 := by decide
      rw [hdigits] at hcopy
      simp only [Except.toOption, Option.map_some, Option.bind_eq_bind, Option.bind_some, hcopy]
      rfl

private theorem redirect_of_not_supported (h : ¬ r.Supported) :
    redirect s o d r = .error (.syntaxError (.unsupportedDescriptor r.fd r.render)) := by
  obtain ⟨fd, op, target⟩ := r
  cases op with
  | read =>
    have hfd : ¬ fd = 0 := h
    simp only [redirect, hfd, if_false]
  | write | append | duplicate =>
    have hfd : ¬ (fd = 1 ∨ fd = 2) := h
    simp only [redirect, Bool.or_eq_true, decide_eq_true_eq, hfd, if_false]
  | writeBoth => exact absurd trivial h

private theorem exists_map_create_iff {append : Bool} {target : String} (f : Nat → Descriptors) :
    (∃ d', (create s o append target).map (fun (o, h) => (o, f h)) = .ok (o', d')) ↔
      (·.1) <$> o.create append (s.resolve target) = .ok o' := by
  unfold create
  simp only
  cases o.create append (s.resolve target) <;> simp [Except.map, Functor.map]

/-- A redirection succeeds if its descriptor is supported and its target can be opened; the
descriptors there are play no part. -/
theorem exists_redirect_iff :
    (∃ d', redirect s o d r = .ok (o', d')) ↔ r.Supported ∧ openTarget s o r = .ok o' := by
  by_cases hfd : r.Supported
  · rw [and_iff_right hfd]
    obtain ⟨fd, op, target⟩ := r
    cases op with
    | read =>
      have hzero : fd = 0 := hfd
      simp only [redirect, openTarget, hzero, if_true]
      cases o.files.read (s.resolve target) <;> simp [Functor.map, Except.map]
    | write | append =>
      have houtput : fd = 1 ∨ fd = 2 := hfd
      simp only [redirect, openTarget, Bool.or_eq_true, decide_eq_true_eq, houtput, if_true]
      exact exists_map_create_iff fun h => d.set fd (.file h)
    | duplicate =>
      have houtput : fd = 1 ∨ fd = 2 := hfd
      simp only [redirect, openTarget, Bool.or_eq_true, decide_eq_true_eq, houtput, if_true,
        Except.ok.injEq, Prod.mk.injEq, exists_and_left, exists_eq', and_true]
    | writeBoth =>
      simp only [redirect, openTarget]
      exact exists_map_create_iff fun h => ⟨d.stdin, .file h, .file h⟩
  · simp [redirect_of_not_supported hfd, hfd]

private theorem redirectAll_cons_of_ok {rs : List Redirect} (h : redirect s o d r = .ok (o', d')) :
    redirectAll s o d (r :: rs) = redirectAll s o' d' rs := by
  simp only [redirectAll, h]

private theorem redirectAll_cons_of_error {rs : List Redirect} {e : ShellError}
    (h : redirect s o d r = .error e) : redirectAll s o d (r :: rs) = (o, .error e) := by
  simp only [redirectAll, h]

private theorem redirectAll_append (before after : List Redirect) :
    redirectAll s o d (before ++ after) =
      match redirectAll s o d before with
      | (o, .ok d) => redirectAll s o d after
      | (o, .error e) => (o, .error e) := by
  induction before generalizing o d with
  | nil => rfl
  | cons r before ih =>
    rw [List.cons_append]
    rcases hr : redirect s o d r with e | ⟨o', d'⟩
    · rw [redirectAll_cons_of_error hr, redirectAll_cons_of_error hr]
    · rw [redirectAll_cons_of_ok hr, redirectAll_cons_of_ok hr, ih]

private theorem foldlM_take_table {rs : List Redirect}
    (htargets : ∀ r ∈ rs, r.op = .duplicate → r.target = "1" ∨ r.target = "2") :
    rs.foldlM (FdTable.take s) (o, d.table) =
      match redirectAll s o d rs with
      | (o', .ok d') => some (o', d'.table)
      | (_, .error _) => none := by
  induction rs generalizing o d with
  | nil => rfl
  | cons r rs ih =>
    rw [List.forall_mem_cons] at htargets
    rw [List.foldlM_cons, take_table htargets.1]
    rcases hr : redirect s o d r with e | ⟨o', d'⟩
    · rw [redirectAll_cons_of_error hr]
      rfl
    · rw [redirectAll_cons_of_ok hr]
      exact ih htargets.2

private theorem exists_redirectAll_iff {rs : List Redirect} :
    (∃ d', redirectAll s o d rs = (o', .ok d')) ↔
      (∀ r ∈ rs, r.Supported) ∧ rs.foldlM (openTarget s) o = .ok o' := by
  induction rs generalizing o d with
  | nil => simp [redirectAll, pure, Except.pure]
  | cons r rs ih =>
    rw [List.forall_mem_cons, List.foldlM_cons]
    rcases hr : redirect s o d r with e | ⟨o₁, d₁⟩
    · rw [redirectAll_cons_of_error hr]
      constructor
      · rintro ⟨d', hd⟩
        cases hd
      · rintro ⟨⟨hfd, -⟩, hopen⟩
        obtain ⟨o₁, hfirst, -⟩ := bind_eq_ok hopen
        obtain ⟨d₁, hd⟩ := exists_redirect_iff.mpr ⟨hfd, hfirst⟩
        rw [hr] at hd
        cases hd
    · obtain ⟨hfd, hfirst⟩ := exists_redirect_iff.mp ⟨d₁, hr⟩
      rw [redirectAll_cons_of_ok hr, ih, hfirst]
      simp only [hfd, true_and]
      rfl

private theorem redirectAll_writeBoth (fd : Nat) (target : String) (rs : List Redirect) :
    redirectAll s o d (⟨fd, .writeBoth, target⟩ :: rs) =
      redirectAll s o d (⟨1, .write, target⟩ :: ⟨2, .duplicate, "1"⟩ :: rs) := by
  rcases hmade : create s o false target with e | ⟨o', h⟩
  · have hboth : redirect s o d ⟨fd, .writeBoth, target⟩ = .error e := by
      simp only [redirect, hmade]
      rfl
    have hwrite : redirect s o d ⟨1, .write, target⟩ = .error e := by
      simp only [redirect, hmade]
      rfl
    rw [redirectAll_cons_of_error hboth, redirectAll_cons_of_error hwrite]
  · have hboth : redirect s o d ⟨fd, .writeBoth, target⟩ =
        .ok (o', ⟨d.stdin, .file h, .file h⟩) := by
      simp only [redirect, hmade]
      rfl
    have hwrite : redirect s o d ⟨1, .write, target⟩ = .ok (o', d.set 1 (.file h)) := by
      simp only [redirect, hmade]
      rfl
    have hcopy : redirect s o' (d.set 1 (.file h)) ⟨2, .duplicate, "1"⟩ =
        .ok (o', ⟨d.stdin, .file h, .file h⟩) := rfl
    rw [redirectAll_cons_of_ok hboth, redirectAll_cons_of_ok hwrite, redirectAll_cons_of_ok hcopy]

private theorem create_eq_ok_iff {append : Bool} {target : String} {handle : Nat} :
    create s o append target = .ok (o', handle) ↔
      o.create append (s.resolve target) = .ok (o', handle) := by
  unfold create
  simp only
  cases o.create append (s.resolve target) <;> simp

private theorem redirectAll_writeBoth_last {before : List Redirect} {fd : Nat} {target : String}
    (h : redirectAll s o d (before ++ [⟨fd, .writeBoth, target⟩]) = (o', .ok d')) :
    ∃ handle, d'.stdout = .file handle ∧ d'.stderr = .file handle ∧
      o'.handles.length = handle + 1 := by
  rw [redirectAll_append] at h
  rcases hbefore : redirectAll s o d before with ⟨o₁, e | d₁⟩
  · rw [hbefore] at h
    cases h
  · rw [hbefore] at h
    rcases hmade : create s o₁ false target with e | ⟨o₂, handle⟩
    · simp only [redirectAll, redirect, hmade] at h
      cases h
    · simp only [redirectAll, redirect, hmade] at h
      cases h
      refine ⟨handle, rfl, rfl, ?_⟩
      obtain ⟨⟨files, sink⟩, -, hopened⟩ := bind_eq_ok (create_eq_ok_iff.mp hmade)
      cases hopened
      simp

/-- What the redirections of a command that has been read do. They end with the descriptors of the
table that is reached by taking them from left to right. They succeed, and leave the files that
opening their targets leaves, if all descriptors are supported and all targets can be opened; the
first descriptor that is not supported is reported. And `&>f` can be written as `1>f 2>&1`: it makes
the output and the errors one open file. -/
theorem redirectAll_follows_table {line : String} {t : Substitutions} {env : Dict String}
    {script : RunLine.Script} (hparse : RunLine.parseLine line t env = .ok script)
    {p : RunLine.Pipeline} (hp : p ∈ script.pipelines) {c : RunLine.Command}
    (hc : c ∈ p.commands) (s : Session) (o : OpenFiles) :
    (∀ o' d, redirectAll s o .initial c.redirects = (o', .ok d) ↔
      c.redirects.foldlM (FdTable.take s) (o, .initial) = some (o', d.table)) ∧
    (∀ o', (∃ d, redirectAll s o .initial c.redirects = (o', .ok d)) ↔
      (∀ r ∈ c.redirects, r.Supported) ∧ c.redirects.foldlM (openTarget s) o = .ok o') ∧
    (∀ before r after o', c.redirects = before ++ r :: after → (∀ q ∈ before, q.Supported) →
      ¬ r.Supported → before.foldlM (openTarget s) o = .ok o' →
      redirectAll s o .initial c.redirects =
        (o', .error (.syntaxError (.unsupportedDescriptor r.fd r.render)))) ∧
    ∀ before fd target after,
      redirectAll s o .initial (before ++ ⟨fd, .writeBoth, target⟩ :: after) =
        redirectAll s o .initial (before ++ ⟨1, .write, target⟩ :: ⟨2, .duplicate, "1"⟩ :: after) ∧
      ∀ o' d, redirectAll s o .initial (before ++ [⟨fd, .writeBoth, target⟩]) = (o', .ok d) →
        ∃ handle, d.stdout = .file handle ∧ d.stderr = .file handle ∧
          o'.handles.length = handle + 1 := by
  have htargets : ∀ r ∈ c.redirects, r.op = .duplicate → r.target = "1" ∨ r.target = "2" :=
    fun r hr => ((RunLine.parseLine_printable hparse p hp c hc).redirects r hr).targets
  refine ⟨?_, fun o' => exists_redirectAll_iff, ?_, ?_⟩
  · intro o' d
    rw [← table_initial, foldlM_take_table htargets]
    rcases redirectAll s o initial c.redirects with ⟨o₁, e | d₁⟩
    · simp
    · simp only [Prod.mk.injEq, Except.ok.injEq, Option.some.injEq]
      exact ⟨fun h => ⟨h.1, by rw [h.2]⟩, fun h => ⟨h.1, table_injective h.2⟩⟩
  · intro before r after o' hsplit hbefore hr hopen
    obtain ⟨d, hd⟩ := exists_redirectAll_iff.mpr ⟨hbefore, hopen⟩
    rw [hsplit, redirectAll_append, hd]
    exact redirectAll_cons_of_error (redirect_of_not_supported hr)
  · intro before fd target after
    refine ⟨?_, fun o' d => redirectAll_writeBoth_last⟩
    rw [redirectAll_append, redirectAll_append]
    simp only [redirectAll_writeBoth]

def reopened : List Redirect :=
  [⟨0, .read, "in"⟩, ⟨2, .duplicate, "1"⟩, ⟨1, .write, "a"⟩, ⟨1, .append, "a"⟩]

def atRoot : Session :=
  ⟨⟨"/"⟩, .empty, false⟩

def beforeOpening : OpenFiles :=
  ⟨⟨.directory [("in", .file 0 false)], #[Text.encode "x"], ⟨"/"⟩⟩, []⟩

/-- The directory with a new file `a` that has been opened some times. -/
def afterOpening (handles : List OpenFile) : OpenFiles :=
  ⟨⟨.directory [("a", .file 1 false), ("in", .file 0 false)], #[Text.encode "x", []], ⟨"/"⟩⟩,
    handles⟩

private theorem redirectAll_reopened :
    redirectAll atRoot beforeOpening .initial reopened =
      (afterOpening [⟨.file 1, 0, false⟩, ⟨.file 1, 0, true⟩],
        .ok ⟨some (Text.encode "x"), .file 1, .out⟩) := by
  have hin : beforeOpening.files.IsPlain (atRoot.resolve "in") ["in"] := by decide
  have hread : redirect atRoot beforeOpening .initial ⟨0, .read, "in"⟩ =
      .ok (beforeOpening, ⟨some (Text.encode "x"), .out, .err⟩) := by
    simp only [redirect, FileSystem.read, hin.node]
    rfl
  have hcopy : redirect atRoot beforeOpening ⟨some (Text.encode "x"), .out, .err⟩
      ⟨2, .duplicate, "1"⟩ = .ok (beforeOpening, ⟨some (Text.encode "x"), .out, .out⟩) := rfl
  have hfree : beforeOpening.files.IsPlain (atRoot.resolve "a") ["a"] := by decide
  have hmade : create atRoot beforeOpening false "a" =
      .ok (afterOpening [⟨.file 1, 0, false⟩], 0) := by
    refine create_eq_ok_iff.mpr ?_
    simp only [OpenFiles.create, hfree.openWrite_new rfl]
    rfl
  have hwrite : redirect atRoot beforeOpening ⟨some (Text.encode "x"), .out, .out⟩
      ⟨1, .write, "a"⟩ =
        .ok (afterOpening [⟨.file 1, 0, false⟩], ⟨some (Text.encode "x"), .file 0, .out⟩) := by
    simp only [redirect, hmade]
    rfl
  have hthere : (afterOpening [⟨.file 1, 0, false⟩]).files.IsPlain (atRoot.resolve "a") ["a"] := by
    decide
  have hagain : create atRoot (afterOpening [⟨.file 1, 0, false⟩]) true "a" =
      .ok (afterOpening [⟨.file 1, 0, false⟩, ⟨.file 1, 0, true⟩], 1) := by
    refine create_eq_ok_iff.mpr ?_
    simp only [OpenFiles.create, hthere.openWrite_file rfl]
    rfl
  have happend : redirect atRoot (afterOpening [⟨.file 1, 0, false⟩])
      ⟨some (Text.encode "x"), .file 0, .out⟩ ⟨1, .append, "a"⟩ =
        .ok (afterOpening [⟨.file 1, 0, false⟩, ⟨.file 1, 0, true⟩],
          ⟨some (Text.encode "x"), .file 1, .out⟩) := by
    simp only [redirect, hagain]
    rfl
  rw [reopened, redirectAll_cons_of_ok hread, redirectAll_cons_of_ok hcopy,
    redirectAll_cons_of_ok hwrite, redirectAll_cons_of_ok happend]
  rfl

/-- The errors stay on the pipe that was the output when it was copied, while the output goes to the
file that was opened last; it is the same file as before, opened once more. -/
theorem redirectAll_follows_table_reopened :
    RunLine.parseLine "run 0<in 2>&1 >a >>a" .empty .empty =
      .ok ⟨⟨⟨[], "run", [], reopened⟩, []⟩, []⟩ ∧
    reopened.foldlM (FdTable.take atRoot) (beforeOpening, .initial) =
      some (afterOpening [⟨.file 1, 0, false⟩, ⟨.file 1, 0, true⟩],
        (Descriptors.mk (some (Text.encode "x")) (.file 1) .out).table) := by
  have hparse : RunLine.parseLine "run 0<in 2>&1 >a >>a" .empty .empty =
      .ok ⟨⟨⟨[], "run", [], reopened⟩, []⟩, []⟩ := by decide +kernel
  obtain ⟨htable, -⟩ := redirectAll_follows_table hparse List.mem_cons_self List.mem_cons_self atRoot
    beforeOpening
  exact ⟨hparse, (htable _ _).mp redirectAll_reopened⟩

end Descriptors

end ShellSuite
