import ShellSuite.Proofs.Shell.World

set_option autoImplicit false
set_option relaxedAutoImplicit false

/-!
And-or lists. A script is read as a sequence of lists whose pipelines are joined by `&&` and `||`,
and each list is evaluated from the left, one operator after the other. Going through the pipelines
of a script in a row does the same.
-/

namespace ShellSuite.Line

open RunLine (Connector)

variable {σ : Type}

/-- Pipelines joined by `&&` and `||`, both of which group from the left. -/
inductive AndOr where
  | single (p : RunLine.Pipeline)
  | and (left : AndOr) (right : RunLine.Pipeline)
  | or (left : AndOr) (right : RunLine.Pipeline)
  deriving DecidableEq, Repr

/-- The pipelines of a list in order, each with the connector in front of it. -/
def AndOr.links (front : Connector) : AndOr → List (Connector × RunLine.Pipeline)
  | .single p => [(front, p)]
  | .and left right => left.links front ++ [(.and, right)]
  | .or left right => left.links front ++ [(.or, right)]

/-- The lists of a script of which one has been read so far. -/
def listsFrom (sofar : AndOr) : List (Connector × RunLine.Pipeline) → List AndOr
  | [] => [sofar]
  | (.and, p) :: rest => listsFrom (.and sofar p) rest
  | (.or, p) :: rest => listsFrom (.or sofar p) rest
  | (.seq, p) :: rest => sofar :: listsFrom (.single p) rest

/-- A script cut at each `;`. -/
def andOrLists (script : RunLine.Script) : List AndOr :=
  listsFrom (.single script.first) script.rest

/-- A pipeline that was executed: the state it found, what came of it, and the state it left. -/
structure Executed (σ : Type) where
  pipeline : RunLine.Pipeline
  before : σ
  result : Except ShellError PipelineOutput
  after : σ

/-- What an evaluation comes to: the pipelines that were executed, the state, and the status or an
error. -/
structure Evaluation (σ : Type) where
  trace : List (Executed σ)
  state : σ
  status : Except ShellError Int

def Evaluation.idle (s : σ) : Evaluation σ :=
  ⟨[], s, .ok 0⟩

def evalPipeline (execute : RunLine.Pipeline → σ → Except ShellError PipelineOutput × σ)
    (p : RunLine.Pipeline) (s : σ) : Evaluation σ :=
  let (result, after) := execute p s
  ⟨[⟨p, s, result, after⟩], after, result.map (·.exitCode)⟩

/-- An evaluation that goes on if there is no error and its status asks for it. -/
def Evaluation.andThen (e : Evaluation σ) (goesOn : Int → Bool) (next : σ → Evaluation σ) :
    Evaluation σ :=
  match e.status with
  | .error _ => e
  | .ok status =>
    if goesOn status then
      let e' := next e.state
      ⟨e.trace ++ e'.trace, e'.state, e'.status⟩
    else e

/-- Evaluates a list: what stands to the right of `&&` runs after the status zero, and what stands
to the right of `||` after any other one. -/
def AndOr.eval (execute : RunLine.Pipeline → σ → Except ShellError PipelineOutput × σ) :
    AndOr → σ → Evaluation σ
  | .single p, s => evalPipeline execute p s
  | .and left right, s => (left.eval execute s).andThen (· = 0) (evalPipeline execute right)
  | .or left right, s => (left.eval execute s).andThen (· ≠ 0) (evalPipeline execute right)

/-- Evaluates lists one after the other, whatever their status. -/
def evalLists (execute : RunLine.Pipeline → σ → Except ShellError PipelineOutput × σ) :
    List AndOr → σ → Evaluation σ
  | [], s => .idle s
  | [l], s => l.eval execute s
  | l :: ls, s => (l.eval execute s).andThen (fun _ => true) (evalLists execute ls)

def outputs (trace : List (Executed σ)) : List PipelineOutput :=
  trace.filterMap fun x => x.result.toOption

/-- The result of a line by the pipelines it executed: the error of the last one, or its exit code
with the outputs of all of them in order. -/
def resultOf (trace : List (Executed σ)) : Except ShellError PipelineOutput :=
  match trace.getLast? with
  | some ⟨_, _, .error e, _⟩ => .error e
  | some ⟨_, _, .ok last, _⟩ =>
    .ok ⟨last.exitCode, String.join ((outputs trace).map (·.stdout)),
      String.join ((outputs trace).map (·.stderr)), (outputs trace).flatMap (·.stages), false⟩
  | none => .ok ⟨0, "", "", [], false⟩

def Executor.logged (x : Executor σ) : Executor (σ × List (Executed σ)) where
  stop s := x.stop s.1
  execute p s :=
    let (result, after) := x.execute p s.1
    (result, after, s.2 ++ [⟨p, s.1, result, after⟩])

/-- From a calm state on, nothing is stopped and nothing times out. -/
structure Executor.Undisturbed (x : Executor σ) (Calm : σ → Prop) : Prop where
  stop : ∀ s, Calm s → x.stop s = none
  next : ∀ p s, Calm s → Calm (x.execute p s).2
  inTime : ∀ p s out, Calm s → (x.execute p s).1 = .ok out → out.timedOut = false

/-! Cutting a script -/

private theorem links_listsFrom (sofar : AndOr) (rest : List (Connector × RunLine.Pipeline)) :
    (listsFrom sofar rest).flatMap (AndOr.links .seq) = sofar.links .seq ++ rest := by
  fun_induction listsFrom sofar rest with
  | case1 sofar => simp
  | case2 sofar p rest ih => simp [ih, AndOr.links]
  | case3 sofar p rest ih => simp [ih, AndOr.links]
  | case4 sofar p rest ih => simp [ih, AndOr.links]

private theorem links_andOrLists (script : RunLine.Script) :
    (andOrLists script).flatMap (AndOr.links .seq) = (.seq, script.first) :: script.rest :=
  links_listsFrom (.single script.first) script.rest

private theorem andOrLists_ne_nil (script : RunLine.Script) : andOrLists script ≠ [] := by
  intro h
  have hlinks := links_andOrLists script
  rw [h] at hlinks
  cases hlinks

/-! Evaluations -/

/-- What holds of an evaluation that executed something: only its last pipeline may have ended in an
error, its status is that of the last pipeline, and nothing timed out. -/
structure Evaluation.Sound (e : Evaluation σ) (Calm : σ → Prop) : Prop where
  calm : Calm e.state
  inTime : ∀ out ∈ outputs e.trace, out.timedOut = false
  last : ∃ front x, e.trace = front ++ [x] ∧ e.status = x.result.map (·.exitCode) ∧
    ∀ y ∈ front, ∃ out, y.result = .ok out

private theorem outputs_append (t u : List (Executed σ)) : outputs
    (t ++ u) = outputs t ++ outputs u :=
  List.filterMap_append

private theorem evalPipeline_sound {x : Executor σ} {Calm : σ → Prop} (hx : x.Undisturbed Calm)
    (p : RunLine.Pipeline) {s : σ} (hs : Calm s) : (evalPipeline x.execute p s).Sound Calm := by
  have hnext := hx.next p s hs
  have htime := hx.inTime p s
  unfold evalPipeline
  cases hrun : x.execute p s with
  | mk result after =>
    rw [hrun] at hnext htime
    refine ⟨hnext, ?_, [], ⟨p, s, result, after⟩, rfl, rfl, by simp⟩
    intro out hout
    cases result with
    | error e => simp [outputs, Except.toOption] at hout
    | ok output =>
      obtain rfl : out = output := by simpa [outputs, Except.toOption] using hout
      exact htime out hs rfl

private theorem Evaluation.Sound.ok_of_status {e : Evaluation σ} {Calm : σ → Prop}
    (h : e.Sound Calm)
    {status : Int} (hstatus : e.status = .ok status) :
    ∀ y ∈ e.trace, ∃ out, y.result = .ok out := by
  obtain ⟨front, x, htrace, hlast, hfront⟩ := h.last
  intro y hy
  rw [htrace, List.mem_append, List.mem_singleton] at hy
  rcases hy with hy | rfl
  · exact hfront y hy
  · cases hresult : y.result with
    | error e =>
      rw [hlast, hresult] at hstatus
      cases hstatus
    | ok out => exact ⟨out, rfl⟩

private theorem Evaluation.Sound.andThen {e : Evaluation σ} {Calm : σ → Prop} (h : e.Sound Calm)
    (goesOn : Int → Bool) {next : σ → Evaluation σ} (hnext : ∀ s, Calm s → (next s).Sound Calm) :
    (e.andThen goesOn next).Sound Calm := by
  unfold Evaluation.andThen
  split
  · exact h
  · rename_i status hstatus
    split
    · obtain ⟨hcalm, htime, front, x, htrace, hlast, hfront⟩ := hnext e.state h.calm
      refine ⟨hcalm, ?_, e.trace ++ front, x, ?_, hlast, ?_⟩
      · rw [outputs_append]
        exact List.forall_mem_append.mpr ⟨h.inTime, htime⟩
      · simp [htrace]
      · exact List.forall_mem_append.mpr ⟨h.ok_of_status hstatus, hfront⟩
    · exact h

private theorem AndOr.eval_sound {x : Executor σ} {Calm : σ → Prop} (hx : x.Undisturbed Calm)
    (l : AndOr)
    {s : σ} (hs : Calm s) : (l.eval x.execute s).Sound Calm := by
  induction l with
  | single p => exact evalPipeline_sound hx p hs
  | and left right ih => exact ih.andThen _ fun s hs => evalPipeline_sound hx right hs
  | or left right ih => exact ih.andThen _ fun s hs => evalPipeline_sound hx right hs

private theorem evalLists_sound {x : Executor σ} {Calm : σ → Prop} (hx : x.Undisturbed Calm)
    {ls : List AndOr} (hls : ls ≠ []) {s : σ} (hs : Calm s) :
    (evalLists x.execute ls s).Sound Calm := by
  induction ls generalizing s with
  | nil => exact absurd rfl hls
  | cons l ls ih =>
    cases ls with
    | nil => exact l.eval_sound hx hs
    | cons next ls => exact (l.eval_sound hx hs).andThen _ fun s hs => ih (by simp) hs

/-! Runs -/

/-- The output so far with that of the pipelines of a trace. -/
def combine (sofar : PipelineOutput) (trace : List (Executed σ)) : PipelineOutput :=
  (outputs trace).foldl extend sofar

private theorem combine_append (sofar : PipelineOutput) (t u : List (Executed σ)) :
    combine sofar (t ++ u) = combine (combine sofar t) u := by
  rw [combine, outputs_append, List.foldl_append]
  rfl

private theorem foldl_extend (sofar : PipelineOutput) (outs : List PipelineOutput)
    (last : PipelineOutput) :
    (outs ++ [last]).foldl extend sofar =
      ⟨last.exitCode, sofar.stdout ++ String.join ((outs ++ [last]).map (·.stdout)),
        sofar.stderr ++ String.join ((outs ++ [last]).map (·.stderr)),
        sofar.stages ++ (outs ++ [last]).flatMap (·.stages), last.timedOut⟩ := by
  induction outs generalizing sofar with
  | nil => simp [extend]
  | cons out outs ih =>
    rw [List.cons_append, List.foldl_cons, ih]
    simp [extend, String.append_assoc]

private theorem Evaluation.Sound.combine_exitCode {e : Evaluation σ} {Calm : σ → Prop}
    (h : e.Sound Calm)
    {status : Int} (hstatus : e.status = .ok status) (sofar : PipelineOutput) :
    (combine sofar e.trace).exitCode = status := by
  obtain ⟨front, x, htrace, hlast, -⟩ := h.last
  obtain ⟨out, hout⟩ := h.ok_of_status hstatus x (by simp [htrace])
  have hcode : out.exitCode = status := by
    rw [hlast, hout] at hstatus
    exact Except.ok.inj hstatus
  rw [htrace, combine_append]
  simpa [combine, outputs, hout, Except.toOption, extend] using hcode

/-- What is done with the links behind an evaluation: nothing after an error. -/
def resume (x : Executor σ) (sofar : PipelineOutput) (log : List (Executed σ)) (e : Evaluation σ)
    (rest : List (Connector × RunLine.Pipeline)) :
    Except ShellError PipelineOutput × σ × List (Executed σ) :=
  match e.status with
  | .error cause => (.error cause, e.state, log ++ e.trace)
  | .ok _ => runFrom x.logged (combine sofar e.trace) (e.state, log ++ e.trace) rest

section Runs

variable {x : Executor σ} {Calm : σ → Prop} {rest : List (Connector × RunLine.Pipeline)}

private theorem runFrom_skip {y : Executor σ} {c : Connector} {sofar : PipelineOutput}
    (hc : runs sofar.exitCode c = false) (p : RunLine.Pipeline) (s : σ) :
    runFrom y sofar s ((c, p) :: rest) = runFrom y sofar s rest := by
  simp [runFrom, hc]

private theorem runFrom_error {y : Executor σ} {c : Connector} {sofar : PipelineOutput}
    (hc : runs sofar.exitCode c = true) {p : RunLine.Pipeline} {s s' : σ} (hstop : y.stop s = none)
    {e : ShellError} (hrun : y.execute p s = (.error e, s')) :
    runFrom y sofar s ((c, p) :: rest) = (.error e, s') := by
  simp [runFrom, hc, hstop, hrun]

private theorem runFrom_ok {y : Executor σ} {c : Connector} {sofar : PipelineOutput}
    (hc : runs sofar.exitCode c = true) {p : RunLine.Pipeline} {s s' : σ} (hstop : y.stop s = none)
    {out : PipelineOutput} (hrun : y.execute p s = (.ok out, s')) (htime : out.timedOut = false) :
    runFrom y sofar s ((c, p) :: rest) = runFrom y (extend sofar out) s' rest := by
  have hextend : (extend sofar out).timedOut = false := htime
  simp [runFrom, hc, hstop, hrun, hextend]

private theorem logged_execute {p : RunLine.Pipeline} {s after : σ}
    {result : Except ShellError PipelineOutput} (hrun : x.execute p s = (result, after))
    (log : List (Executed σ)) :
    x.logged.execute p (s, log) = (result, after, log ++ [⟨p, s, result, after⟩]) := by
  simp [Executor.logged, hrun]

private theorem runFrom_pipeline (hx : x.Undisturbed Calm) {c : Connector} {sofar : PipelineOutput}
    (hc : runs sofar.exitCode c = true) (p : RunLine.Pipeline) {s : σ} (hs : Calm s)
    (log : List (Executed σ)) :
    runFrom x.logged sofar (s, log) ((c, p) :: rest) =
      resume x sofar log (evalPipeline x.execute p s) rest := by
  have hstop : x.logged.stop (s, log) = none := hx.stop s hs
  obtain ⟨result, after, hrun⟩ : ∃ result after, x.execute p s = (result, after) := ⟨_, _, rfl⟩
  have hlogged := logged_execute hrun log
  cases result with
  | error e =>
    rw [runFrom_error hc hstop hlogged]
    simp [resume, evalPipeline, hrun, Except.map]
  | ok out =>
    have htime : out.timedOut = false := hx.inTime p s out hs (by rw [hrun])
    rw [runFrom_ok hc hstop hlogged htime]
    simp [resume, evalPipeline, hrun, Except.map, combine, outputs, Except.toOption]

private theorem resume_andThen {e : Evaluation σ} (he : e.Sound Calm) {goesOn : Int → Bool}
    {next : σ → Evaluation σ} {links : List (Connector × RunLine.Pipeline)}
    (hgo : ∀ sofar s log, Calm s → goesOn sofar.exitCode = true →
      runFrom x.logged sofar (s, log) links = resume x sofar log (next s) rest)
    (hstay : ∀ sofar s, goesOn sofar.exitCode = false →
      runFrom x.logged sofar s links = runFrom x.logged sofar s rest)
    (sofar : PipelineOutput) (log : List (Executed σ)) :
    resume x sofar log e links = resume x sofar log (e.andThen goesOn next) rest := by
  unfold Evaluation.andThen
  cases hstatus : e.status with
  | error cause => simp [resume, hstatus]
  | ok status =>
    have hcode := he.combine_exitCode hstatus sofar
    cases hgoes : goesOn status with
    | false =>
      have hrun := hstay (combine sofar e.trace) (e.state, log ++ e.trace) (by rw [hcode, hgoes])
      simp [resume, hstatus, hrun, hgoes]
    | true =>
      have hrun := hgo (combine sofar e.trace) e.state (log ++ e.trace) he.calm
        (by rw [hcode, hgoes])
      simp [resume, hstatus, hrun, hgoes, combine_append]

private theorem resume_link (hx : x.Undisturbed Calm) {e : Evaluation σ} (he : e.Sound Calm)
    {goesOn : Int → Bool} {c : Connector} (hc : ∀ status, goesOn status = runs status c)
    (p : RunLine.Pipeline) (sofar : PipelineOutput) (log : List (Executed σ)) :
    resume x sofar log e ((c, p) :: rest) =
      resume x sofar log (e.andThen goesOn (evalPipeline x.execute p)) rest := by
  refine resume_andThen he ?_ ?_ sofar log
  · intro sofar s log hs hgo
    rw [hc] at hgo
    exact runFrom_pipeline hx hgo p hs log
  · intro sofar s hstay
    rw [hc] at hstay
    exact runFrom_skip hstay p s

private theorem runFrom_links (hx : x.Undisturbed Calm) (l : AndOr)
    (rest : List (Connector × RunLine.Pipeline)) (sofar : PipelineOutput) {s : σ} (hs : Calm s)
    (log : List (Executed σ)) :
    runFrom x.logged sofar (s, log) (l.links .seq ++ rest) =
      resume x sofar log (l.eval x.execute s) rest := by
  -- for every `rest`, since the operators of a list stand to the right of its shorter lists
  induction l generalizing rest with
  | single p => exact runFrom_pipeline hx rfl p hs log
  | and left right ih =>
    rw [AndOr.links, List.append_assoc, ih]
    exact resume_link hx (left.eval_sound hx hs) (fun _ => rfl) right sofar log
  | or left right ih =>
    rw [AndOr.links, List.append_assoc, ih]
    exact resume_link hx (left.eval_sound hx hs) (fun _ => rfl) right sofar log

private theorem runFrom_lists (hx : x.Undisturbed Calm) {ls : List AndOr} (hls : ls ≠ [])
    (sofar : PipelineOutput) {s : σ} (hs : Calm s) (log : List (Executed σ)) :
    runFrom x.logged sofar (s, log) (ls.flatMap (AndOr.links .seq)) =
      resume x sofar log (evalLists x.execute ls s) [] := by
  induction ls generalizing sofar s log with
  | nil => exact absurd rfl hls
  | cons l ls ih =>
    rw [List.flatMap_cons, runFrom_links hx l _ sofar hs]
    cases ls with
    | nil => rfl
    | cons next ls =>
      refine resume_andThen (l.eval_sound hx hs) ?_ ?_ sofar log
      · intro sofar s log hs _
        exact ih (by simp) sofar hs log
      · intro sofar s hstay
        cases hstay

private theorem runFrom_logged (x : Executor σ) (sofar : PipelineOutput) (s : σ)
    (log : List (Executed σ))
    (links : List (Connector × RunLine.Pipeline)) :
    runFrom x sofar s links =
      ((runFrom x.logged sofar (s, log) links).1, (runFrom x.logged sofar (s, log) links).2.1) := by
  induction links generalizing sofar s log with
  | nil => rfl
  | cons link links ih =>
    obtain ⟨c, p⟩ := link
    cases hc : runs sofar.exitCode c with
    | false => rw [runFrom_skip hc, runFrom_skip hc, ih]
    | true =>
      have hstop : x.logged.stop (s, log) = x.stop s := rfl
      obtain ⟨result, after, hrun⟩ : ∃ result after, x.execute p s = (result, after) := ⟨_, _, rfl⟩
      have hlogged := logged_execute hrun log
      simp only [runFrom, hc, hstop, hrun, hlogged]
      cases x.stop s with
      | some stop => cases stop <;> rfl
      | none =>
        cases result with
        | error e => rfl
        | ok out =>
          by_cases htime : (extend sofar out).timedOut
          · simp [htime]
          · simp [htime, ← ih]

private theorem Evaluation.Sound.resultOf {e : Evaluation σ} (h : e.Sound Calm) (x : Executor σ)
    (log : List (Executed σ)) :
    resume x ⟨0, "", "", [], false⟩ log e [] = (resultOf e.trace, e.state, log ++ e.trace) := by
  obtain ⟨front, ⟨p, s, result, after⟩, htrace, hlast, -⟩ := h.last
  have htime := h.inTime
  cases result with
  | error cause =>
    simp only [Except.map] at hlast
    simp [resume, hlast, Line.resultOf, htrace]
  | ok out =>
    have houts : outputs e.trace = outputs front ++ [out] := by
      rw [htrace, outputs_append]
      rfl
    have hout : out.timedOut = false := htime out (by simp [houts])
    have hcombine := foldl_extend ⟨0, "", "", [], false⟩ (outputs front) out
    rw [← houts, hout] at hcombine
    have hend : e.trace.getLast? = some ⟨p, s, .ok out, after⟩ := by simp [htrace]
    simp only [Except.map] at hlast
    simp [resume, hlast, runFrom, combine, hcombine, Line.resultOf, hend]

end Runs

end ShellSuite.Line

namespace ShellSuite

namespace Pipeline

variable {m : Machine}

private theorem waited_ne_timedOut (ss : List Settled) : waited none ss ≠ .timedOut := by
  unfold waited
  split
  · simp
  · simp

private theorem timedOut_run {p : RunLine.Pipeline} {sh : Shell} {out : PipelineOutput}
    (h : (run m none p sh).1 = .ok out) : out.timedOut = false := by
  rw [run] at h
  split at h
  · cases h
  · split at h
    · cases h
      rfl
    · split at h
      · cases h
      · rw [runStages] at h
        split at h
        · cases h
        · simp only at h
          split at h
          · cases h
          · rw [← Except.ok.inj h]
            simp [waited_ne_timedOut]

end Pipeline

private theorem Shell.executor_undisturbed {m : Machine} (hm : m.MovesToken Eq)
    (timeout : Option Duration) :
    (Shell.executor m ⟨none, timeout⟩).Undisturbed
      fun sh => sh.world.token.cancelled = false ∧ sh.world.token.forced = false where
  stop sh hs := by
    simp [Shell.executor, Shell.stop, CancelToken.shouldKill, Watchdog.expired, hs.1, hs.2]
  next p sh hs := by
    have htoken : sh.world.token = ((Shell.executor m ⟨none, timeout⟩).execute p sh).2.world.token :=
      Pipeline.run_moves hm.moves none p sh
    rw [← htoken]
    exact hs
  inTime p sh out _ h := Pipeline.timedOut_run h

namespace Line

/-- Without a deadline and interrupts, a script runs as its and-or lists are evaluated one after
the other: the same pipelines are executed in the same order on the same states, only the last one
of them can have ended in an error, and the result is the one that these pipelines give. -/
theorem runScript_eq_evalLists {σ : Type} {x : Executor σ} {Calm : σ → Prop}
    (hx : x.Undisturbed Calm) (script : RunLine.Script) {s : σ} (hs : Calm s) :
    (andOrLists script).flatMap (AndOr.links .seq) = (.seq, script.first) :: script.rest ∧
    runScript x script s =
      (resultOf (evalLists x.execute (andOrLists script) s).trace,
        (evalLists x.execute (andOrLists script) s).state) ∧
    (runScript x.logged script (s, [])).2.2 =
      (evalLists x.execute (andOrLists script) s).trace ∧
    ∀ y ∈ (evalLists x.execute (andOrLists script) s).trace.dropLast,
      ∃ out, y.result = .ok out := by
  have hsound := evalLists_sound hx (andOrLists_ne_nil script) hs
  have hrun := runFrom_lists hx (andOrLists_ne_nil script) ⟨0, "", "", [], false⟩ hs []
  rw [links_andOrLists, hsound.resultOf, List.nil_append] at hrun
  refine ⟨links_andOrLists script, ?_, ?_, ?_⟩
  · rw [runScript, runFrom_logged x _ s [], hrun]
  · rw [runScript, hrun]
  · obtain ⟨front, y, htrace, -, hfront⟩ := hsound.last
    rw [htrace, List.dropLast_concat]
    exact hfront

/-- The line `false && echo x || echo a ; true || echo y && echo b`. -/
def mixedScript : RunLine.Script :=
  let call (name : String) (args : List String) : RunLine.Pipeline := ⟨⟨[], name, args, []⟩, []⟩
  ⟨call "false" [], [(.and, call "echo" ["x"]), (.or, call "echo" ["a"]), (.seq, call "true" []),
    (.or, call "echo" ["y"]), (.and, call "echo" ["b"])]⟩

def bareShell : Shell :=
  ⟨⟨⟨"/"⟩, .empty, false⟩, ⟨⟨.directory [], #[], ⟨"/"⟩⟩, 0, .fresh CancelToken.defaultGrace⟩⟩

theorem runScript_eq_evalLists_mixed :
    (bareShell.world.token.cancelled = false ∧ bareShell.world.token.forced = false) ∧
    (runScript (Shell.executor Pipeline.stopped ⟨none, none⟩) mixedScript bareShell).1 =
      .ok ⟨0, "a\nb\n", "", [⟨"false", 1, "", ""⟩, ⟨"echo a", 0, "a\n", ""⟩, ⟨"true", 0, "", ""⟩,
        ⟨"echo b", 0, "b\n", ""⟩], false⟩ := by
  have hcalm : bareShell.world.token.cancelled = false ∧ bareShell.world.token.forced = false :=
    ⟨rfl, rfl⟩
  have hstill : Pipeline.stopped.MovesToken Eq := ⟨fun _ => rfl, Eq.trans, fun _ _ _ => rfl⟩
  have hrun := runScript_eq_evalLists (Shell.executor_undisturbed hstill none) mixedScript hcalm
  refine ⟨hcalm, ?_⟩
  rw [hrun.2.1]
  rfl

end Line

end ShellSuite
