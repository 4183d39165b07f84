import ShellSuite.Proofs.Suite.Order
import ShellSuite.Proofs.Suite.Workers
import ShellSuite.Proofs.Summary
import ShellSuite.Proofs.Test.World

set_option autoImplicit false
set_option relaxedAutoImplicit false

/-!
Whatever the schedule of its workers, a suite gives the report of a single worker; and running one
item after the other is what a single worker does.
-/

namespace ShellSuite

def CancelToken.StaysCancelled (before after : CancelToken) : Prop :=
  before.cancelled = true → after.cancelled = true

def RunOptions.alone (o : RunOptions) : RunOptions :=
  { o with workers := 1 }

namespace Suite

def listed : Source (List Discovery.Item)
  | _, [] => none
  | _, item :: items => some (item, items)

section Alone

variable {site : Site} {o : RunOptions} {s : Shared} {st after : RunState} {r : TestResult}

private theorem follow_turn_alone (w : Worker) (es : List Event) :
    System.follow o (.turn 0 r :: es) ⟨s, [w]⟩ =
      (w.advance o s r).bind fun x => System.follow o es ⟨x.2, [x.1]⟩ := by
  simp only [System.follow, System.step, List.getElem?_cons_zero]
  cases w.advance o s r with
  | none => rfl
  | some x => rfl

/-- A single worker that is ready can pull a job, bring it to the result it has in a sequential run,
and be ready again. -/
theorem exists_follow_runItem (hm : site.machine.MovesToken CancelToken.StaysCancelled) {job : Job}
    {source : List Job} (hsource : s.source = job :: source)
    (htoken : s.token.cancelled = st.world.token.cancelled)
    (h : runItem site o st job.item = some (r, after)) :
    ∃ es s', System.follow o es ⟨s, [.ready]⟩ = some ⟨s', [.ready]⟩ ∧ s'.source = source ∧
      s'.token.cancelled = after.world.token.cancelled ∧
      s'.summary.results = s.summary.results ++ [r] := by
  rw [runItem, ← htoken] at h
  split at h
  next known hknown =>
    -- pull, settle, report, record
    obtain ⟨rfl, rfl⟩ := h
    refine ⟨List.replicate 4 (.turn 0 r), ?_⟩
    simp [List.replicate, follow_turn_alone, Worker.advance, hsource, hknown, System.follow_nil,
      Summary.record, ← htoken]
  next t hgo =>
    have hstays := Test.run_moves hm.moves h
    by_cases hcancel : s.token.cancelled = after.world.token.cancelled
    · -- pull, start, finish, report, record
      refine ⟨List.replicate 5 (.turn 0 r), ?_⟩
      simp [List.replicate, follow_turn_alone, Worker.advance, hsource, hgo, System.follow_nil,
        Summary.record, ← hcancel]
    · -- the test cancels the run, so the cancellation comes before its end
      have hafter : after.world.token.cancelled = true := by
        rw [CancelToken.StaysCancelled, ← htoken] at hstays
        grind
      refine ⟨.turn 0 r :: .turn 0 r :: .cancel 0 :: List.replicate 3 (.turn 0 r), ?_⟩
      simp [List.replicate, follow_turn_alone, System.follow_cancel, Worker.advance, hsource, hgo,
        System.follow_nil, Summary.record, hafter, CancelToken.cancel, CancelToken.markCancelled]

private theorem exists_follow_runItems (hm : site.machine.MovesToken CancelToken.StaysCancelled)
    {room : Nat} {source : List Job} {rs : List TestResult}
    (h : runItems listed site o room (source.map Job.item) st = some (rs, after))
    (hsource : s.source = source) (htoken : s.token.cancelled = st.world.token.cancelled) :
    ∃ es s', System.follow o es ⟨s, [.ready]⟩ = some ⟨s', [.stopped]⟩ ∧
      s'.summary.results = s.summary.results ++ rs := by
  induction source generalizing room s st rs with
  | nil =>
    rw [List.map_nil, runItems_of_end rfl] at h
    cases h
    refine ⟨[.turn 0 (.skipped "" ⟨""⟩ "")], s, ?_, by simp⟩
    simp [System.follow, System.step, Worker.advance, hsource]
  | cons job source ih =>
    have hnext : listed st.world.files ((job :: source).map Job.item) =
        some (job.item, source.map Job.item) := rfl
    obtain ⟨k, r, st₁, rs, hitem, hitems, rfl⟩ := exists_of_runItems hnext h
    obtain ⟨es, s₁, hfirst, hsource₁, htoken₁, hresults₁⟩ :=
      exists_follow_runItem hm hsource htoken hitem
    obtain ⟨es', s', hrest, hresults⟩ := ih hitems hsource₁ htoken₁
    refine ⟨es ++ es', s', ?_, ?_⟩
    · rw [System.follow_append, hfirst]
      exact hrest
    · rw [hresults, hresults₁, List.append_assoc, List.singleton_append]

end Alone

variable {o : RunOptions} {items : List Discovery.Item} {sys : System}

private theorem System.EachOnce.results_perm (h : sys.EachOnce items)
    {f : Discovery.Item → TestResult}
    (hf : ∀ e ∈ sys.shared.journal.recorded, e.2 = f e.1.item) :
    sys.shared.summary.results.Perm (items.map f) := by
  have hresults : sys.shared.journal.recorded.map Prod.snd =
      (sys.shared.journal.recorded.map Prod.fst).map fun job => f job.item := by
    rw [List.map_map]
    exact List.map_congr_left hf
  have hitems : items.map f = (jobs items).map fun job => f job.item := by
    conv_lhs => rw [← map_item_jobs items, List.map_map]
    rfl
  rw [h.summary, hresults, hitems]
  exact ((h.recorded.map Prod.fst).trans h.ran).map _

private theorem follow_accounted {token : CancelToken} {schedule : List Event}
    (h : System.follow o schedule (.start o items token) = some sys) :
    Accounted (jobs items) sys :=
  (Accounted.start o items token).follow h

private theorem skipped_of_cancel {token : CancelToken} {first rest : List Event} {now : Duration}
    {mid : System}
    (hmid : System.follow o first (.start o items token) = some mid)
    (h : System.follow o (first ++ .cancel now :: rest) (.start o items token) = some sys)
    {e : Entry} (he : e ∈ sys.shared.journal.recorded) {t : Test} (ht : e.1.item = .test t)
    (hlate : e.1 ∉ mid.shared.journal.checked) :
    e.2 = .skipped t.name t.path "run cancelled" := by
  have hsys := follow_accounted h
  have hran : e ∈ sys.shared.journal.ran :=
    hsys.reported.mem_of_later (hsys.recorded.mem_of_later he)
  rw [System.follow_append, hmid, Option.bind_some, System.follow_cancel] at h
  have hbarred : Barred mid.shared.journal.checked sys :=
    (Barred.cancel (follow_accounted hmid) now).follow h
  exact hbarred.ran e hran t ht hlate

/-- Whatever the schedule, when all workers have stopped every item has been dealt with exactly
once. Tests that are looked at after a cancellation are skipped. If results depend on items only,
the report is that of any run by a single worker, and running the items one after the other is such
a run. -/
theorem follow_eachOnce {token : CancelToken} {schedule : List Event}
    (hrun : System.follow o schedule (.start o items token) = some sys) (hstopped : sys.Stopped) :
    sys.EachOnce items ∧
    (∀ first now rest mid, schedule = first ++ .cancel now :: rest →
      System.follow o first (.start o items token) = some mid →
      ∀ e ∈ sys.shared.journal.recorded, ∀ t, e.1.item = .test t →
        e.1 ∉ mid.shared.journal.checked → e.2.outcome = .skipped ∧ e.2.commands = []) ∧
    (∀ token₁ schedule₁ one,
      System.follow o.alone schedule₁ (.start o.alone items token₁) = some one → one.Stopped →
      ∀ f : Discovery.Item → TestResult,
        (∀ e ∈ sys.shared.journal.recorded ++ one.shared.journal.recorded, e.2 = f e.1.item) →
        ∀ elapsed elapsed₁,
          let report := sys.shared.summary.snapshot elapsed
          let report₁ := one.shared.summary.snapshot elapsed₁
          (∀ outcome, report.count outcome = report₁.count outcome) ∧
          report.total = report₁.total ∧
          ((sys.shared.summary.results.Pairwise fun a b => ¬ a.SameKey b) →
            report.results = report₁.results)) ∧
    (∀ site room st rs after, site.machine.MovesToken CancelToken.StaysCancelled →
      runItems listed site o.alone room items st = some (rs, after) →
      ∃ schedule₁ one,
        System.follow o.alone schedule₁ (.start o.alone items st.world.token) = some one ∧
        one.Stopped ∧ one.shared.summary = ⟨rs⟩) := by
  have honce := (follow_accounted hrun).eachOnce hstopped
  refine ⟨honce, ?_, ?_, ?_⟩
  · rintro first now rest mid rfl hmid e he t ht hlate
    rw [skipped_of_cancel hmid hrun he ht hlate]
    exact ⟨rfl, rfl⟩
  · intro token₁ schedule₁ one hrun₁ hstopped₁ f hf elapsed elapsed₁
    have honce₁ := (follow_accounted hrun₁).eachOnce hstopped₁
    have hperm : sys.shared.summary.results.Perm one.shared.summary.results :=
      (honce.results_perm fun e he => hf e (List.mem_append_left _ he)).trans
        (honce₁.results_perm fun e he => hf e (List.mem_append_right _ he)).symm
    exact ⟨Summary.count_snapshot_eq hperm elapsed elapsed₁,
      Summary.total_snapshot_eq hperm elapsed elapsed₁,
      fun hkeys => Summary.snapshot_results_eq hperm hkeys elapsed elapsed₁⟩
  · intro site room st rs after hm h
    rw [← map_item_jobs items] at h
    obtain ⟨es, s, hfollow, hresults⟩ := exists_follow_runItems hm h
      (s := ⟨jobs items, st.world.token, .empty, ⟨[], [], [], [], []⟩⟩) rfl rfl
    refine ⟨es, ⟨s, [.stopped]⟩, hfollow, ?_, ?_⟩
    · intro w hw
      exact List.mem_singleton.mp hw
    · exact congrArg Summary.mk hresults

/-! ### Two workers -/

def namedTest (name : String) : Test :=
  .ofFile ⟨name⟩ (.initial ⟨""⟩) ⟨""⟩

/-- The result of a test that takes no time and passes. -/
def passing (name : String) : TestResult :=
  (namedTest name).result .pass 0 [] []

/-- Results that depend on items only: everything passes. -/
def passingItem : Discovery.Item → TestResult
  | .test t => t.result .pass 0 [] []
  | .broken cause => passing cause.path.text
  | .unreadable path _ => passing path.text

def twoTests : List Discovery.Item :=
  [.test (namedTest "a"), .test (namedTest "b")]

def twoWorkers : RunOptions :=
  { RunOptions.usual with workers := 2 }

/-- Both workers start a test, and the one that started later is done before the other. -/
def overtaking : List Event :=
  List.replicate 2 (.turn 0 (passing "a")) ++ List.replicate 6 (.turn 1 (passing "b")) ++
    List.replicate 4 (.turn 0 (passing "a"))

/-- One worker has started its test, and the other one has pulled its own. -/
def beforeCancel : List Event :=
  List.replicate 2 (.turn 0 (passing "a")) ++ [.turn 1 (passing "b")]

def afterCancel : List Event :=
  List.replicate 4 (.turn 1 (passing "b")) ++ List.replicate 4 (.turn 0 (passing "a"))

def oneByOne : List Event :=
  List.replicate 5 (.turn 0 (passing "a")) ++ List.replicate 6 (.turn 0 (passing "b"))

/-- A place where programs are killed when they start. -/
def idleSite : Site :=
  ⟨Pipeline.stopped, .empty, ⟨"/"⟩, ""⟩

/-- A run without files that is cancelled from the start. -/
def idleState : RunState :=
  ⟨⟨⟨.directory [], #[], ⟨"/"⟩⟩, 0, (CancelToken.fresh 0).cancel 0⟩, []⟩

/-- The worker that is done first records first, and the report does not show it. A cancellation
skips the test that was only pulled, and not the one that was running. In a run that is cancelled
from the start, a single worker skips both. -/
theorem follow_eachOnce_twoWorkers :
    (∃ sys one,
      System.follow twoWorkers overtaking (.start twoWorkers twoTests (.fresh 0)) = some sys ∧
      sys.Stopped ∧ sys.shared.summary.results = [passing "b", passing "a"] ∧
      System.follow twoWorkers.alone oneByOne (.start twoWorkers.alone twoTests (.fresh 0)) =
        some one ∧
      one.Stopped ∧ one.shared.summary.results = [passing "a", passing "b"] ∧
      sys.EachOnce twoTests ∧
      (sys.shared.summary.snapshot 0).results = (one.shared.summary.snapshot 0).results) ∧
    (∃ sys,
      System.follow twoWorkers (beforeCancel ++ .cancel 0 :: afterCancel)
        (.start twoWorkers twoTests (.fresh 0)) = some sys ∧
      sys.Stopped ∧
      sys.shared.journal.recorded.map Prod.fst =
        [⟨1, .test (namedTest "b")⟩, ⟨0, .test (namedTest "a")⟩] ∧
      ∀ e ∈ sys.shared.journal.recorded, e.1.number = 1 →
        e.2.outcome = .skipped ∧ e.2.commands = []) ∧
    ∃ schedule one,
      System.follow twoWorkers.alone schedule
        (.start twoWorkers.alone twoTests idleState.world.token) = some one ∧
      one.Stopped ∧ one.shared.summary.results.map (·.outcome) = [.skipped, .skipped] := by
  let a : Job := ⟨0, .test (namedTest "a")⟩
  let b : Job := ⟨1, .test (namedTest "b")⟩
  refine ⟨?_, ?_, ?_⟩
  · obtain ⟨sys, hrun, hworkers, hrecorded⟩ : ∃ sys,
        System.follow twoWorkers overtaking (.start twoWorkers twoTests (.fresh 0)) = some sys ∧
        sys.workers = [.stopped, .stopped] ∧
        sys.shared.journal.recorded = [(b, passing "b"), (a, passing "a")] :=
      ⟨_, rfl, rfl, rfl⟩
    obtain ⟨one, hrun₁, hworkers₁, hrecorded₁⟩ : ∃ one,
        System.follow twoWorkers.alone oneByOne (.start twoWorkers.alone twoTests (.fresh 0)) =
          some one ∧
        one.workers = [.stopped] ∧
        one.shared.journal.recorded = [(a, passing "a"), (b, passing "b")] :=
      ⟨_, rfl, rfl, rfl⟩
    have hstopped : sys.Stopped := by simp [System.Stopped, hworkers]
    have hstopped₁ : one.Stopped := by simp [System.Stopped, hworkers₁]
    obtain ⟨honce, -, hreport, -⟩ := follow_eachOnce hrun hstopped
    have honce₁ := (follow_eachOnce hrun₁ hstopped₁).1
    have hresults : sys.shared.summary.results = [passing "b", passing "a"] := by
      simp [honce.summary, hrecorded]
    have hresults₁ : one.shared.summary.results = [passing "a", passing "b"] := by
      simp [honce₁.summary, hrecorded₁]
    have hf : ∀ e ∈ sys.shared.journal.recorded ++ one.shared.journal.recorded,
        e.2 = passingItem e.1.item := by
      simp [hrecorded, hrecorded₁, a, b, passing, passingItem]
    have hkeys : sys.shared.summary.results.Pairwise fun a b => ¬ a.SameKey b := by
      rw [hresults]
      decide
    exact ⟨sys, one, hrun, hstopped, hresults, hrun₁, hstopped₁, hresults₁, honce,
      (hreport _ _ one hrun₁ hstopped₁ passingItem hf 0 0).2.2 hkeys⟩
  · obtain ⟨mid, hmid, hchecked⟩ : ∃ mid,
        System.follow twoWorkers beforeCancel (.start twoWorkers twoTests (.fresh 0)) = some mid ∧
        mid.shared.journal.checked = [a] :=
      ⟨_, rfl, rfl⟩
    obtain ⟨sys, hrun, hworkers, hrecorded⟩ : ∃ sys,
        System.follow twoWorkers (beforeCancel ++ .cancel 0 :: afterCancel)
          (.start twoWorkers twoTests (.fresh 0)) = some sys ∧
        sys.workers = [.stopped, .stopped] ∧
        sys.shared.journal.recorded.map Prod.fst = [b, a] :=
      ⟨_, rfl, rfl, rfl⟩
    have hstopped : sys.Stopped := by simp [System.Stopped, hworkers]
    obtain ⟨-, hcancel, -, -⟩ := follow_eachOnce hrun hstopped
    refine ⟨sys, hrun, hstopped, hrecorded, ?_⟩
    intro e he hnumber
    have hjob : e.1 ∈ [b, a] := hrecorded ▸ List.mem_map_of_mem he
    rcases List.mem_pair.mp hjob with hb | ha
    · have hlate : e.1 ∉ mid.shared.journal.checked := by
        simp [hchecked, hb, a, b]
      exact hcancel _ _ _ mid rfl hmid e he (namedTest "b") (by rw [hb]) hlate
    · rw [ha] at hnumber
      cases hnumber
  · obtain ⟨sys, hrun, hworkers⟩ : ∃ sys,
        System.follow twoWorkers overtaking (.start twoWorkers twoTests (.fresh 0)) = some sys ∧
        sys.workers = [.stopped, .stopped] :=
      ⟨_, rfl, rfl⟩
    obtain ⟨rs, after, hitems, houtcomes⟩ : ∃ rs after,
        runItems listed idleSite twoWorkers.alone 2 twoTests idleState = some (rs, after) ∧
        rs.map (·.outcome) = [.skipped, .skipped] := by
      exact ⟨_, _, runItems_of_item rfl rfl (runItems_of_item rfl rfl (runItems_of_end rfl 0)), rfl⟩
    have hmachine : idleSite.machine.MovesToken CancelToken.StaysCancelled :=
      ⟨fun _ => id, fun hab hbc => hbc ∘ hab, fun _ _ _ => id⟩
    obtain ⟨-, -, -, halone⟩ := follow_eachOnce hrun (by simp [System.Stopped, hworkers])
    obtain ⟨schedule, one, hrun₁, hstopped₁, hsummary⟩ :=
      halone idleSite 2 idleState rs after hmachine hitems
    exact ⟨schedule, one, hrun₁, hstopped₁, by rw [hsummary, houtcomes]⟩

end Suite

end ShellSuite
