import ShellSuite.Proofs.Shell.Builtin
import ShellSuite.Shell.Line

set_option autoImplicit false
set_option relaxedAutoImplicit false

/-!
What running a line of commands does to the world. Redirections and built-in commands change files,
programs change files and the token of the run, and the clock goes on; nothing else happens. So a
relation that holds across each of these holds between the worlds before and after a line.
-/

namespace ShellSuite

/-- Programs and shells move the world along a relation. Shells change files, but they leave trees
well-formed. -/
structure Machine.Moves (m : Machine) (R : World → World → Prop) : Prop where
  refl : ∀ w, R w w
  trans : ∀ {a b c}, R a b → R b c → R a c
  files : ∀ (w : World) (files : FileSystem), (w.files.root.WellFormed → files.root.WellFormed) →
    R w { w with files := files }
  clock : ∀ (w : World) (clock : Duration), R w { w with clock := clock }
  run : ∀ w deadline i,
    R w { w with files := (m.run w deadline i).files, token := (m.run w deadline i).token }

/-- Programs change tokens only along a relation, which allows for no program and for many. -/
structure Machine.MovesToken (m : Machine) (R : CancelToken → CancelToken → Prop) : Prop where
  refl : ∀ t, R t t
  trans : ∀ {a b c}, R a b → R b c → R a c
  run : ∀ w deadline i, R w.token (m.run w deadline i).token

/-- Programs leave well-formed trees well-formed. -/
def Machine.KeepsTrees (m : Machine) : Prop :=
  ∀ w deadline i, w.files.root.WellFormed → (m.run w deadline i).files.root.WellFormed

theorem Machine.MovesToken.moves {m : Machine} {R : CancelToken → CancelToken → Prop}
    (hm : m.MovesToken R) : m.Moves fun w w' => R w.token w'.token :=
  ⟨fun w => hm.refl w.token, hm.trans, fun w _ _ => hm.refl w.token, fun w _ => hm.refl w.token,
    hm.run⟩

theorem Machine.KeepsTrees.moves {m : Machine} (hm : m.KeepsTrees) :
    m.Moves fun w w' => w.files.root.WellFormed → w'.files.root.WellFormed :=
  ⟨fun _ => id, fun hab hbc h => hbc (hab h), fun _ _ => id, fun _ _ => id, hm⟩

/-- Two file systems that differ at most in what files hold. -/
structure FileSystem.SameTree (a b : FileSystem) : Prop where
  root : b.root = a.root
  home : b.home = a.home

theorem FileSystem.SameTree.trans {a b c : FileSystem} (hab : a.SameTree b) (hbc : b.SameTree c) :
    a.SameTree c :=
  ⟨hbc.root.trans hab.root, hbc.home.trans hab.home⟩

theorem FileSystem.SameTree.isDirectory {a b : FileSystem} (h : a.SameTree b) (p : Path) :
    b.isDirectory p = a.isDirectory p := by
  obtain ⟨root, contents, home⟩ := a
  obtain ⟨root', contents', home'⟩ := b
  obtain ⟨rfl, rfl⟩ := h
  rfl

private theorem OpenFiles.sameTree_write (o : OpenFiles) (handle : Nat) (bytes : Bytes) :
    o.files.SameTree (o.write handle bytes).files := by
  unfold OpenFiles.write
  split
  · exact ⟨rfl, rfl⟩
  · exact ⟨rfl, rfl⟩

/-! Redirections and prefixes -/

namespace Descriptors

variable {session : Session} {o o' : OpenFiles} {d d' : Descriptors}

theorem wellFormed_create {append : Bool} {target : String} {handle : Nat}
    (htree : o.files.root.WellFormed) (h : create session o append target = .ok (o', handle)) :
    o'.files.root.WellFormed := by
  unfold create at h
  simp only at h
  split at h
  next hcreate =>
    cases h
    obtain ⟨⟨files, sink⟩, hopen, hmade⟩ := bind_eq_ok hcreate
    cases hmade
    exact FileSystem.wellFormed_openWrite htree hopen
  next => cases h

private theorem wellFormed_redirect {r : RunLine.Redirect} (htree : o.files.root.WellFormed)
    (h : redirect session o d r = .ok (o', d')) : o'.files.root.WellFormed := by
  unfold redirect at h
  simp only at h
  cases hop : r.op with
  | read =>
    simp only [hop] at h
    split at h
    · split at h
      · cases h
        exact htree
      · cases h
    · cases h
  | write | append =>
    simp only [hop] at h
    split at h
    · obtain ⟨⟨made, handle⟩, hcreate, heq⟩ := map_eq_ok h
      cases heq
      exact wellFormed_create htree hcreate
    · cases h
  | writeBoth =>
    simp only [hop] at h
    obtain ⟨⟨made, handle⟩, hcreate, heq⟩ := map_eq_ok h
    cases heq
    exact wellFormed_create htree hcreate
  | duplicate =>
    simp only [hop] at h
    split at h
    · cases h
      exact htree
    · cases h

private theorem wellFormed_redirectAll (session : Session) (htree : o.files.root.WellFormed)
    (d : Descriptors) (rs : List RunLine.Redirect) :
    (redirectAll session o d rs).1.files.root.WellFormed := by
  induction rs generalizing o d with
  | nil => exact htree
  | cons r rs ih =>
    unfold redirectAll
    split
    next o' d' heq => exact ih (wellFormed_redirect htree heq) d'
    next => exact htree

end Descriptors

namespace Stage

def Known (stage : Stage) : Prop :=
  ∀ name run args, stage.action = .here (.builtin name run args) → Builtin.find? name = some run

private theorem argv_of_actionOf {inPipeline : Bool} {p : Prefixed} {name : String} {run : Builtin}
    {args : List String} (h : actionOf inPipeline p = .ok (.here (.builtin name run args))) :
    p.argv = name :: args ∧ Builtin.find? name = some run := by
  unfold actionOf at h
  split at h
  · split at h
    · cases h
    · cases h
  next first rest hargv =>
    split at h
    · cases h
    · split at h
      next hfind =>
        cases h
        exact ⟨hargv, hfind⟩
      next => cases h

private theorem prepare_spec (session : Session) (inPipeline : Bool) (o : OpenFiles)
    (c : RunLine.Command) :
    (o.files.root.WellFormed → (prepare session inPipeline o c).1.files.root.WellFormed) ∧
      ∀ stage, (prepare session inPipeline o c).2 = .ok stage → stage.Known := by
  have hopened := fun htree : o.files.root.WellFormed =>
    Descriptors.wellFormed_redirectAll session htree .initial c.redirects
  unfold prepare
  split
  · exact ⟨id, by simp⟩
  next p _ =>
    split
    next heq =>
      rw [heq] at hopened
      exact ⟨hopened, by simp⟩
    next heq =>
      rw [heq] at hopened
      split
      · exact ⟨hopened, by simp⟩
      next action haction =>
        refine ⟨hopened, ?_⟩
        rintro stage ⟨⟩ name run args ⟨⟩
        exact (argv_of_actionOf haction).2

private theorem prepareAll_spec (session : Session) (inPipeline : Bool) (o : OpenFiles)
    (cs : List RunLine.Command) :
    (o.files.root.WellFormed → (prepareAll session inPipeline o cs).1.files.root.WellFormed) ∧
      ∀ stages, (prepareAll session inPipeline o cs).2 = .ok stages →
        ∀ stage ∈ stages, stage.Known := by
  induction cs generalizing o with
  | nil =>
    refine ⟨id, ?_⟩
    rintro stages ⟨⟩
    simp
  | cons c cs ih =>
    obtain ⟨hopened, hknown⟩ := prepare_spec session inPipeline o c
    unfold prepareAll
    split
    next heq =>
      rw [heq] at hopened
      exact ⟨hopened, by simp⟩
    next o' stage heq =>
      rw [heq] at hopened hknown
      obtain ⟨hrest, hknownRest⟩ := ih o'
      split
      next heq' =>
        rw [heq'] at hrest
        exact ⟨fun htree => hrest (hopened htree), by simp⟩
      next stages heq' =>
        rw [heq'] at hrest hknownRest
        refine ⟨fun htree => hrest (hopened htree), ?_⟩
        rintro all ⟨⟩
        rw [List.forall_mem_cons]
        exact ⟨hknown stage rfl, hknownRest stages rfl⟩

end Stage

namespace Pipeline

private theorem Delivery.sameTree_put (d : Delivery) (t : Target) (time : Duration)
    (bytes : Bytes) :
    d.opened.files.SameTree (d.put t time bytes).opened.files := by
  unfold Delivery.put
  split
  · exact ⟨rfl, rfl⟩
  · split
    · exact ⟨rfl, rfl⟩
    · exact ⟨rfl, rfl⟩
    · exact d.opened.sameTree_write _ _

private theorem Delivery.sameTree_foldl {α : Type} (target : α → Target) (time : α → Duration)
    (bytes : α → Bytes) (d : Delivery) (xs : List α) :
    d.opened.files.SameTree
      (xs.foldl (fun d x => d.put (target x) (time x) (bytes x)) d).opened.files := by
  induction xs generalizing d with
  | nil => exact ⟨rfl, rfl⟩
  | cons x xs ih => exact (d.sameTree_put _ _ _).trans (ih _)

theorem runHere_sameTree (sh : Shell) (o : OpenFiles) (stage : Stage) (name : String) (run : Builtin)
    (args : List String) :
    (run args (.start o.files sh.session stage.descriptors.stdin)).2.files.SameTree
      (runHere sh o stage (.builtin name run args)).2.world.files :=
  (Delivery.sameTree_put ⟨⟨_, o.handles⟩, [], []⟩ _ _ _).trans (Delivery.sameTree_put _ _ _ _)

private theorem wellFormed_runHere {o : OpenFiles} (htree : o.files.root.WellFormed) (sh : Shell)
    {stage : Stage} (hknown : stage.Known) {work : Work} (hwork : stage.action = .here work) :
    (runHere sh o stage work).2.world.files.root.WellFormed := by
  cases work with
  | output out err code =>
    have hsame : o.files.SameTree (runHere sh o stage (.output out err code)).2.world.files :=
      (Delivery.sameTree_put ⟨⟨_, o.handles⟩, [], []⟩ _ _ _).trans (Delivery.sameTree_put _ _ _ _)
    rw [hsame.root]
    exact htree
  | builtin name run args =>
    rw [(runHere_sameTree sh o stage name run args).root]
    exact Builtin.wellFormed_of_find? (hknown name run args hwork) args htree

private theorem wellFormed_runWork {o : OpenFiles} (htree : o.files.root.WellFormed)
    (session : Session)
    (w : World) (kill : Option Duration) {stage : Stage} (hknown : stage.Known) (input : Stream)
    (piped : Bool) {work : Work} (hwork : stage.action = .here work) :
    (runWork session w kill o stage input piped work).1.files.root.WellFormed := by
  cases work with
  | output out err code =>
    unfold runWork
    simp only
    rw [((Delivery.sameTree_put _ _ _ _).trans (Delivery.sameTree_put _ _ _ _)).root]
    exact htree
  | builtin name run args =>
    unfold runWork
    simp only
    split
    · unfold runCopy
      simp only
      rw [(Delivery.sameTree_foldl (fun _ => _) (fun x : Duration × Bytes => x.1) (fun x => x.2)
        _ _).root]
      exact htree
    · rw [((Delivery.sameTree_put _ _ _ _).trans (Delivery.sameTree_put _ _ _ _)).root]
      exact Builtin.wellFormed_of_find? (hknown name run args hwork) args htree

variable {m : Machine} {R : World → World → Prop}

private theorem stopped_moves (hm : m.Moves R) : stopped.Moves R :=
  ⟨hm.refl, hm.trans, hm.files, hm.clock, fun w _ _ => hm.refl w⟩

private theorem runProgram_moves (hm : m.Moves R) (session : Session) (deadline : Option Duration)
    (w : World) (o : OpenFiles) (stage : Stage) (input : Stream) (argv : List String)
    (env : Dict String) :
    R { w with files := o.files }
      { w with
        files := (runProgram m session w deadline o stage input argv env).1.files,
        token := (runProgram m session w deadline o stage input argv env).2.1 } := by
  refine hm.trans (hm.run _ deadline (invocation session argv env input)) ?_
  refine hm.files _ _ ?_
  intro htree
  unfold runProgram
  simp only
  rw [(Delivery.sameTree_foldl (fun x : Write => _) (fun x => x.time) (fun x => x.bytes) _ _).root]
  exact htree

private theorem runEach_moves (hm : m.Moves R) (session : Session) (deadline : Option Duration)
    (w : World)
    (o : OpenFiles) (previous : Option Stream) {stages : List Stage}
    (hknown : ∀ stage ∈ stages, stage.Known) :
    R { w with files := o.files }
      { (runEach m session deadline w o previous stages).1 with
        files := (runEach m session deadline w o previous stages).2.1.files } := by
  induction stages generalizing w o previous with
  | nil => exact hm.refl _
  | cons stage stages ih =>
    rw [List.forall_mem_cons] at hknown
    rw [runEach]
    cases haction : stage.action with
    | here work =>
      have htree := fun h : o.files.root.WellFormed =>
        wellFormed_runWork h session w (w.killTime deadline) hknown.1
          (inputOf w.clock stage previous) previous.isSome haction
      rcases hrun : runWork session w (w.killTime deadline) o stage (inputOf w.clock stage previous)
        previous.isSome work with ⟨o', done⟩
      rw [hrun] at htree
      simp only [hrun]
      exact hm.trans (hm.files _ o'.files htree) (ih w o' (some done.out) hknown.2)
    | program argv env =>
      have hfirst := runProgram_moves hm session deadline w o stage (inputOf w.clock stage previous)
        argv env
      rcases hrun : runProgram m session w deadline o stage (inputOf w.clock stage previous) argv env
        with ⟨o', token, done⟩
      rw [hrun] at hfirst
      simp only [hrun]
      exact hm.trans hfirst (ih { w with token := token } o' (some done.out) hknown.2)

private theorem runStages_moves (hm : m.Moves R) (deadline : Option Duration) (sh : Shell)
    (o : OpenFiles)
    {stages : List Stage} (hknown : ∀ stage ∈ stages, stage.Known) :
    R { sh.world with files := o.files } (runStages m deadline sh o stages).2.world := by
  rw [runStages]
  split
  next n _ _ _ =>
    refine runEach_moves (stopped_moves hm) sh.session deadline sh.world o none ?_
    exact fun stage hstage => hknown stage (List.mem_of_mem_take hstage)
  next =>
    have heach := runEach_moves hm sh.session deadline sh.world o none hknown
    simp only
    split
    · exact hm.trans heach (hm.clock _ _)
    · exact hm.trans heach (hm.clock _ _)

theorem run_moves (hm : m.Moves R) (deadline : Option Duration) (p : RunLine.Pipeline) (sh : Shell) :
    R sh.world (run m deadline p sh).2.world := by
  obtain ⟨hopened, hknown⟩ :=
    Stage.prepareAll_spec sh.session (!p.rest.isEmpty) ⟨sh.world.files, []⟩ p.commands
  rw [run]
  split
  next heq =>
    rw [heq] at hopened
    exact hm.files _ _ hopened
  next o stages heq =>
    rw [heq] at hopened hknown
    have hstages := hknown stages rfl
    split
    next text negate d work =>
      refine hm.files _ _ ?_
      intro htree
      exact wellFormed_runHere (hopened htree) sh (hstages _ (List.mem_singleton_self _)) rfl
    next =>
      split
      · exact hm.files _ _ hopened
      · exact hm.trans (hm.files _ _ hopened) (runStages_moves hm deadline sh o hstages)

end Pipeline

namespace Line

variable {σ : Type}

/-- A state comes out of another one by executing some of these pipelines, in this order. -/
inductive Reaches (x : Executor σ) : List RunLine.Pipeline → σ → σ → Prop
  | done (ps : List RunLine.Pipeline) (s : σ) : Reaches x ps s s
  | skip (p : RunLine.Pipeline) {ps : List RunLine.Pipeline} {s s' : σ} (rest : Reaches x ps s s') :
      Reaches x (p :: ps) s s'
  | execute (p : RunLine.Pipeline) {ps : List RunLine.Pipeline} {s s' : σ}
      (rest : Reaches x ps (x.execute p s).2 s') : Reaches x (p :: ps) s s'

private theorem runFrom_reaches (x : Executor σ) (sofar : PipelineOutput) (s : σ)
    (links : List (RunLine.Connector × RunLine.Pipeline)) :
    Reaches x (links.map (·.2)) s (runFrom x sofar s links).2 := by
  induction links generalizing sofar s with
  | nil => exact .done [] s
  | cons link links ih =>
    obtain ⟨c, p⟩ := link
    rw [runFrom]
    split
    · exact .skip p (ih sofar s)
    · split
      · exact .done _ s
      · exact .done _ s
      · split
        next hexecute =>
          refine .execute p ?_
          rw [hexecute]
          exact .done _ _
        next hexecute =>
          refine .execute p ?_
          rw [hexecute]
          simp only
          split
          · exact .done _ _
          · exact ih _ _

theorem runScript_reaches (x : Executor σ) (script : RunLine.Script) (s : σ) :
    Reaches x script.pipelines s (runScript x script s).2 :=
  runFrom_reaches x ⟨0, "", "", [], false⟩ s ((.seq, script.first) :: script.rest)

theorem Reaches.rel {x : Executor σ} {ps : List RunLine.Pipeline} {s s' : σ}
    (h : Reaches x ps s s') {S : σ → σ → Prop} (hrefl : ∀ s, S s s)
    (htrans : ∀ {a b c}, S a b → S b c → S a c) (hx : ∀ p s, S s (x.execute p s).2) : S s s' := by
  induction h with
  | done ps s => exact hrefl s
  | skip p rest ih => exact ih
  | execute p rest ih => exact htrans (hx p _) ih

end Line

namespace Shell

variable {m : Machine} {R : World → World → Prop}

theorem runLine_moves (hm : m.Moves R) (w : Watchdog) (t : Substitutions) (line : String)
    (sh : Shell) : R sh.world (runLine m w t line sh).2.world := by
  rw [runLine]
  split
  · exact hm.refl sh.world
  next script _ =>
    have hreaches := Line.runScript_reaches (executor m w) script sh
    have hmoves : ∀ p sh, R sh.world ((executor m w).execute p sh).2.world :=
      Pipeline.run_moves hm w.deadline
    exact hreaches.rel (S := fun a b => R a.world b.world) (fun sh => hm.refl sh.world) hm.trans
      hmoves

theorem runExternal_moves (hm : m.Moves R) (w : Watchdog) (t : Substitutions) (line : String)
    (sh : Shell) : R sh.world (runExternal m w t line sh).2.world := by
  rw [runExternal]
  split
  · exact hm.refl sh.world
  · refine Pipeline.runStages_moves hm w.deadline sh ⟨sh.world.files, []⟩ ?_
    simp [Stage.Known]

end Shell

end ShellSuite
