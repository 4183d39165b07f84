import ShellSuite.Proofs.RunLine.Grammar
import ShellSuite.Proofs.RunLine.Injection
import ShellSuite.Proofs.Shell.Session

set_option autoImplicit false
set_option relaxedAutoImplicit false

/-!
Where the faults of a line are found: its tokens are read, then they are put together to a script,
and then the commands of the script are prepared, while it runs. A line that was read can only fail
with faults of the last kind.
-/

namespace ShellSuite

namespace RunLine

/-- What is being done to a line when a fault is found. -/
inductive Phase where
  | tokens
  | script
  | command
  deriving DecidableEq, Repr

def SyntaxError.phase : SyntaxError → Phase
  | .openSingleQuote | .openDoubleQuote | .trailingBackslash | .backgroundJob | .openVariable
  | .badVariable _ | .badDescriptor _ | .inputDuplicate => .tokens
  | .missingTarget | .badDuplicate _ | .emptyCommand | .trailingOperator => .script
  | .unsupportedDescriptor _ _ | .missingVariable | .missingNegated => .command

private theorem Command.phase_of_ofParts {words : List String} {redirects : List Redirect}
    {e : SyntaxError}
    (h : Command.ofParts words redirects = .error e) : e.phase = .script := by
  unfold Command.ofParts at h
  split at h
  · obtain rfl := Except.error.inj h
    rfl
  · cases h

private theorem phase_of_parseFrom {last : Option Connector} {done : List Command}
    {words : List String}
    {redirects : List Redirect} {ts : List Token} {e : SyntaxError}
    (h : parseFrom last done words redirects ts = .error e) : e.phase = .script := by
  fun_induction parseFrom last done words redirects ts with
  | case1 => cases h
  | case2 => cases h; rfl
  | case3 => cases h; rfl
  | case4 last done words redirects _ =>
    rcases bind_eq_error h with hparts | ⟨c, -, hscript⟩
    · exact Command.phase_of_ofParts hparts
    · cases hscript
  | case5 last done words redirects v ts ih => exact ih h
  | case6 last done words redirects fd op target ts hallow ih => exact ih h
  | case7 => cases h; rfl
  | case8 => cases h; rfl
  | case9 last done words redirects ts ih =>
    rcases bind_eq_error h with hparts | ⟨c, -, hrest⟩
    · exact Command.phase_of_ofParts hparts
    · exact ih c hrest
  | case10 last done words redirects ts ih | case11 last done words redirects ts ih
  | case12 last done words redirects ts ih =>
    rcases bind_eq_error h with hparts | ⟨c, -, hscript⟩
    · exact Command.phase_of_ofParts hparts
    rcases bind_eq_error hscript with hrest | ⟨s, -, hscript⟩
    · exact ih hrest
    · cases hscript

private theorem phase_of_parse {ts : List Token} {e : SyntaxError} (h : parse ts = .error e) :
    e.phase = .script := by
  rcases bind_eq_error h with hfrom | ⟨r, -, hscript⟩
  · exact phase_of_parseFrom hfrom
  · cases r with
    | none => cases hscript; rfl
    | some s => cases hscript

/-- A line that is read with some values of its keys and its variables has the same tokens with
others, up to its words: only the script can fail. -/
theorem phase_of_parseLine {line : String} {t₁ t₂ : Substitutions} {env₁ env₂ : Dict String}
    (hkeys : t₁.keys = t₂.keys) {s : Script} (hread : parseLine line t₁ env₁ = .ok s)
    {e : SyntaxError} (hfault : parseLine line t₂ env₂ = .error e) : e.phase = .script := by
  have hrun := tokensFrom_alike hkeys env₁ env₂ .bare .fresh .fresh line.toList (.refl _)
  obtain ⟨ts, hts, -⟩ := bind_eq_ok hread
  unfold tokenize at hts
  rw [hts] at hrun
  rcases bind_eq_error hfault with htokens | ⟨us, -, hparse⟩
  · unfold tokenize at htokens
    rw [htokens] at hrun
    cases hrun
  · exact phase_of_parse hparse

end RunLine

/-- A result that is no fault of a line, unless one of a command being prepared. -/
def Prepared {α : Type} (x : Except ShellError α) : Prop :=
  ∀ e, x = .error (.syntaxError e) → e.phase = .command

theorem Prepared.map {α β : Type} {x : Except ShellError α} (h : Prepared x) (f : α → β) :
    Prepared (x.map f) := by
  intro e he
  cases x with
  | error cause =>
    obtain rfl := Except.error.inj he
    exact h e rfl
  | ok a => cases he

private theorem Prefixed.phase_of_resolve {p : Prefixed} {inEnv : Bool} {words : List String}
    {e : RunLine.SyntaxError} (h : p.resolve inEnv words = .error e) : e.phase = .command := by
  fun_induction Prefixed.resolve p inEnv words with
  | case1 => cases h
  | case2 p ws ih => exact ih h
  | case3 => cases h; rfl
  | case4 p name ws ih => exact ih h
  | case5 p inEnv w ws _ _ _ name value hassign ih => exact ih h
  | case6 p inEnv ws _ _ _ hassign ih => exact ih h
  | case7 p inEnv ws _ _ _ hassign hnot ih => exact ih h
  | case8 => cases h

namespace Descriptors

private theorem prepared_create (s : Session) (o : OpenFiles) (append : Bool) (target : String) :
    Prepared (create s o append target) := by
  intro e h
  unfold create at h
  simp only at h
  split at h
  · cases h
  · cases h

private theorem prepared_redirect (s : Session) (o : OpenFiles) (d : Descriptors)
    (r : RunLine.Redirect) :
    Prepared (redirect s o d r) := by
  have hcreated (append : Bool) (f : OpenFiles × Nat → OpenFiles × Descriptors) :
      Prepared ((create s o append r.target).map f) :=
    (prepared_create s o append r.target).map f
  intro e h
  unfold redirect at h
  simp only at h
  split at h
  · split at h
    · split at h
      · cases h
      · cases h
    · cases h
      rfl
  · split at h
    · exact hcreated _ _ e h
    · cases h
      rfl
  · split at h
    · exact hcreated _ _ e h
    · cases h
      rfl
  · exact hcreated _ _ e h
  · split at h
    · cases h
    · cases h
      rfl

private theorem prepared_redirectAll (s : Session) (o : OpenFiles) (d : Descriptors)
    (rs : List RunLine.Redirect) : Prepared (redirectAll s o d rs).2 := by
  induction rs generalizing o d with
  | nil => intro e h; cases h
  | cons r rs ih =>
    unfold redirectAll
    split
    · exact ih _ _
    next cause hredirect =>
      intro e h
      refine prepared_redirect s o d r e ?_
      rw [hredirect]
      exact congrArg Except.error (Except.error.inj h)

end Descriptors

namespace Stage

private theorem phase_of_actionOf {inPipeline : Bool} {p : Prefixed} {e : RunLine.SyntaxError}
    (h : actionOf inPipeline p = .error e) : e.phase = .command := by
  unfold actionOf at h
  split at h
  · split at h
    · cases h
    · cases h
      rfl
  · split at h
    · cases h
    · split at h <;> cases h

private theorem prepared_prepare (s : Session) (inPipeline : Bool) (o : OpenFiles)
    (c : RunLine.Command) :
    Prepared (prepare s inPipeline o c).2 := by
  intro e h
  have hredirects := Descriptors.prepared_redirectAll s o .initial c.redirects
  unfold prepare at h
  split at h
  next hprefix =>
    cases h
    exact Prefixed.phase_of_resolve hprefix
  next =>
    split at h
    next hall =>
      rw [hall] at hredirects
      cases h
      exact hredirects e rfl
    next =>
      split at h
      next haction =>
        cases h
        exact phase_of_actionOf haction
      next => cases h

private theorem prepared_prepareAll (s : Session) (inPipeline : Bool) (o : OpenFiles)
    (cs : List RunLine.Command) : Prepared (prepareAll s inPipeline o cs).2 := by
  induction cs generalizing o with
  | nil => intro e h; cases h
  | cons c cs ih =>
    intro e h
    have hfirst := prepared_prepare s inPipeline o c
    unfold prepareAll at h
    split at h
    next hprepare =>
      rw [hprepare] at hfirst
      cases h
      exact hfirst e rfl
    next opened stage hprepare =>
      have hrest := ih opened
      split at h
      next hall =>
        rw [hall] at hrest
        cases h
        exact hrest e rfl
      next => cases h

end Stage

private theorem Pipeline.prepared_run (m : Machine) (deadline : Option Duration)
    (p : RunLine.Pipeline)
    (sh : Shell) : Prepared (run m deadline p sh).1 := by
  intro e h
  have hstages := Stage.prepared_prepareAll sh.session (!p.rest.isEmpty) ⟨sh.world.files, []⟩
    p.commands
  unfold run at h
  simp only at h
  split at h
  next hall =>
    rw [hall] at hstages
    exact hstages e (by simpa using h)
  next =>
    split at h
    · cases h
    · split at h
      · cases h
      · unfold runStages at h
        split at h
        · cases h
        · simp only at h
          split at h
          · cases h
          · cases h

namespace Line

variable {σ : Type}

private theorem prepared_runFrom {x : Executor σ} (hx : ∀ p s, Prepared (x.execute p s).1)
    (sofar : PipelineOutput) (s : σ) (links : List (RunLine.Connector × RunLine.Pipeline)) :
    Prepared (runFrom x sofar s links).1 := by
  induction links generalizing sofar s with
  | nil => intro e h; cases h
  | cons link links ih =>
    obtain ⟨c, p⟩ := link
    unfold runFrom
    split
    · exact ih sofar s
    · split
      · intro e h; cases h
      · intro e h; cases h
      · split
        next hexecute =>
          have hpipeline := hx p s
          rw [hexecute] at hpipeline
          exact hpipeline
        next =>
          simp only
          split
          · intro e h; cases h
          · exact ih _ _

end Line

theorem Shell.runLine_syntaxError {m : Machine} {w : Watchdog} {t : Substitutions} {line : String}
    {sh : Shell} {e : RunLine.SyntaxError}
    (h : (runLine m w t line sh).1 = .error (.syntaxError e)) :
    RunLine.parseLine line t sh.session.env = .error e ∨ e.phase = .command := by
  unfold runLine at h
  split at h
  next hparse =>
    cases h
    exact .inl hparse
  next script hparse =>
    right
    have hlinks := Line.prepared_runFrom (x := executor m w)
      (fun p s => Pipeline.prepared_run m w.deadline p s) ⟨0, "", "", [], false⟩ sh
      ((.seq, script.first) :: script.rest)
    exact hlinks.map _ e h

theorem Shell.parseLine_of_runLine {m : Machine} {w : Watchdog} {t : Substitutions} {line : String}
    {sh : Shell} {r : LineResult} (h : (runLine m w t line sh).1 = .ok r) :
    ∃ script, RunLine.parseLine line t sh.session.env = .ok script := by
  unfold runLine at h
  split at h
  next => cases h
  next script hparse => exact ⟨script, hparse⟩

end ShellSuite
