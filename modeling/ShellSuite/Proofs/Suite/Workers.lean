import Mathlib.Data.List.Nodup
import ShellSuite.Suite

set_option autoImplicit false
set_option relaxedAutoImplicit false

/-!
A suite run by several workers at once. Each worker pulls the next item, looks at it, runs it if it
has to, reports the result and records it, until no item is left. Their steps are interleaved in any
way, and the run may be cancelled in between.
-/

namespace ShellSuite.Suite

/-- An item and its place among all items of the run. -/
structure Job where
  number : Nat
  item : Discovery.Item

def jobs (items : List Discovery.Item) : List Job :=
  items.zipIdx.map fun (item, number) => ⟨number, item⟩

private theorem jobs_nodup (items : List Discovery.Item) : (jobs items).Nodup := by
  refine List.Nodup.of_map Job.number ?_
  have hnumbers : (jobs items).map Job.number = List.range' 0 items.length := by
    rw [← List.zipIdx_map_snd 0 items, jobs, List.map_map]
    rfl
  rw [hnumbers]
  exact List.nodup_range'

theorem map_item_jobs (items : List Discovery.Item) : (jobs items).map Job.item = items := by
  rw [jobs, List.map_map]
  exact List.zipIdx_map_fst 0 items

abbrev Entry := Job × TestResult

/-- What a worker has done last: nothing yet for the next job, pulled a job, found that its test
has to be run, come to a result, reported it; or found no further job. -/
inductive Worker where
  | ready
  | pulled (job : Job)
  | running (job : Job)
  | finished (e : Entry)
  | reported (e : Entry)
  | stopped

/-- What has happened so far, in order. It is kept for the sake of statements: no worker reads
it. -/
structure Journal where
  pulled : List Job
  checked : List Job
  ran : List Entry
  reported : List Entry
  recorded : List Entry

structure Shared where
  source : List Job
  token : CancelToken
  summary : Summary
  journal : Journal

structure System where
  shared : Shared
  workers : List Worker

/-- The next step of a worker, if it has one. A test that is running comes to the result `r`; in all
other steps `r` plays no part. -/
def Worker.advance (o : RunOptions) (s : Shared) (r : TestResult) :
    Worker → Option (Worker × Shared)
  | .ready =>
    match s.source with
    | [] => some (.stopped, s)
    | job :: source =>
      some (.pulled job,
        { s with source, journal := { s.journal with pulled := s.journal.pulled ++ [job] } })
  | .pulled job =>
    let j := { s.journal with checked := s.journal.checked ++ [job] }
    match admission o s.token.cancelled job.item with
    | .settled known =>
      some (.finished (job, known), { s with journal := { j with ran := j.ran ++ [(job, known)] } })
    | .go _ => some (.running job, { s with journal := j })
  | .running job =>
    some (.finished (job, r),
      { s with journal := { s.journal with ran := s.journal.ran ++ [(job, r)] } })
  | .finished e =>
    some (.reported e,
      { s with journal := { s.journal with reported := s.journal.reported ++ [e] } })
  | .reported e =>
    some (.ready,
      { s with
        summary := s.summary.record e.2
        journal := { s.journal with recorded := s.journal.recorded ++ [e] } })
  | .stopped => none

/-- What can happen next: a worker does a step, or the run is cancelled. -/
inductive Event where
  | turn (worker : Nat) (r : TestResult)
  | cancel (now : Duration)

namespace System

def step (o : RunOptions) (sys : System) : Event → Option System
  | .turn i r =>
    match sys.workers[i]? with
    | some w => (w.advance o sys.shared r).map fun (w, s) => ⟨s, sys.workers.set i w⟩
    | none => none
  | .cancel now => some { sys with shared.token := sys.shared.token.cancel now }

/-- A schedule: one event after the other, if all of them can happen. -/
def follow (o : RunOptions) : List Event → System → Option System
  | [], sys => some sys
  | e :: es, sys => (sys.step o e).bind (follow o es)

/-- All workers wait for their first job; there is one worker at least. -/
def start (o : RunOptions) (items : List Discovery.Item) (token : CancelToken) : System :=
  ⟨⟨jobs items, token, .empty, ⟨[], [], [], [], []⟩⟩, List.replicate (max o.workers 1) .ready⟩

def Stopped (sys : System) : Prop :=
  ∀ w ∈ sys.workers, w = .stopped

/-- Every item has been pulled, run, reported and recorded exactly once, and what was reported and
recorded of it is what it came to. -/
structure EachOnce (items : List Discovery.Item) (sys : System) : Prop where
  distinct : (jobs items).Nodup
  pulled : sys.shared.journal.pulled = jobs items
  ran : (sys.shared.journal.ran.map Prod.fst).Perm (jobs items)
  reported : sys.shared.journal.reported.Perm sys.shared.journal.ran
  recorded : sys.shared.journal.recorded.Perm sys.shared.journal.ran
  summary : sys.shared.summary.results = sys.shared.journal.recorded.map Prod.snd

variable {o : RunOptions}

theorem follow_nil (sys : System) : follow o [] sys = some sys :=
  rfl

theorem follow_cancel (now : Duration) (es : List Event) (sys : System) :
    follow o (.cancel now :: es) sys =
      follow o es { sys with shared.token := sys.shared.token.cancel now } :=
  rfl

theorem follow_append (es₁ es₂ : List Event) (sys : System) :
    follow o (es₁ ++ es₂) sys = (follow o es₁ sys).bind (follow o es₂) := by
  induction es₁ generalizing sys with
  | nil => rfl
  | cons e es₁ ih =>
    simp only [List.cons_append, follow]
    cases sys.step o e with
    | none => rfl
    | some next => exact ih next

theorem step_turn {sys next : System} {i : Nat} {r : TestResult}
    (h : sys.step o (.turn i r) = some next) :
    ∃ before w after w' s, sys.workers = before ++ w :: after ∧
      w.advance o sys.shared r = some (w', s) ∧ next = ⟨s, before ++ w' :: after⟩ := by
  rw [step] at h
  split at h
  next w hw =>
    rw [Option.map_eq_some_iff] at h
    obtain ⟨⟨w', s⟩, hadvance, rfl⟩ := h
    obtain ⟨hi, hget⟩ := List.getElem?_eq_some_iff.mp hw
    obtain ⟨before, after, hworkers, -, hset⟩ := @List.exists_of_set _ i w' sys.workers hi
    rw [hget] at hworkers
    exact ⟨before, w, after, w', s, hworkers, hadvance, by simp only [hset]⟩
  next => cases h

section Invariant

variable {P : System → Prop}
  (hturn : ∀ {before after w w' s s' r}, P ⟨s, before ++ w :: after⟩ →
    w.advance o s r = some (w', s') → P ⟨s', before ++ w' :: after⟩)
  (hcancel : ∀ {sys} now, P sys → P { sys with shared.token := sys.shared.token.cancel now })

include hturn hcancel

private theorem step_invariant {sys next : System} {e : Event} (hsys : P sys)
    (h : sys.step o e = some next) : P next := by
  cases e with
  | turn i r =>
    obtain ⟨before, w, after, w', s, hworkers, hadvance, rfl⟩ := step_turn h
    obtain ⟨shared, workers⟩ := sys
    subst hworkers
    exact hturn hsys hadvance
  | cancel now =>
    cases h
    exact hcancel now hsys

/-- What the turns of workers and cancellations keep holds after every schedule, if it holds
before. -/
theorem follow_invariant {es : List Event} {sys last : System} (hsys : P sys)
    (h : follow o es sys = some last) : P last := by
  induction es generalizing sys with
  | nil =>
    rw [follow] at h
    exact Option.some.inj h ▸ hsys
  | cons e es ih =>
    rw [follow, Option.bind_eq_some_iff] at h
    obtain ⟨next, hnext, h⟩ := h
    exact ih (step_invariant hturn hcancel hsys hnext) h

end Invariant

end System

/-! ### Where jobs are

What has been entered in one list of the journal has been entered in the next one as well, or is in
the hands of a worker. -/

namespace Worker

/-- The job that a worker has pulled and not looked at. -/
def unchecked : Worker → List Job
  | .pulled job => [job]
  | _ => []

def unfinished : Worker → List Job
  | .running job => [job]
  | _ => []

/-- The result that a worker has come to and not reported. -/
def unreported : Worker → List Entry
  | .finished e => [e]
  | _ => []

/-- The result that a worker has reported and not recorded. -/
def unrecorded : Worker → List Entry
  | .reported e => [e]
  | _ => []

end Worker

/-- What was entered in `earlier` is what was entered in `later` and what is in hand. -/
def Flows {α : Type} (earlier later : List α) (hand : Worker → List α) (workers : List Worker) :
    Prop :=
  (later ++ workers.flatMap hand).Perm earlier

namespace Flows

variable {α : Type} {earlier later : List α} {hand : Worker → List α} {w w' : Worker}
  {before after : List Worker} {x : α}

private theorem iff_middle :
    Flows earlier later hand (before ++ w :: after) ↔
      (hand w ++ (later ++ (before ++ after).flatMap hand)).Perm earlier := by
  have hperm : (later ++ (before ++ w :: after).flatMap hand).Perm
      (hand w ++ (later ++ (before ++ after).flatMap hand)) := by
    simp only [List.flatMap_append, List.flatMap_cons]
    exact ((List.perm_append_comm_assoc _ _ _).append_left later).trans
      (List.perm_append_comm_assoc _ _ _)
  exact ⟨hperm.symm.trans, hperm.trans⟩

theorem keep (h : Flows earlier later hand (before ++ w :: after)) (hw : hand w' = hand w) :
    Flows earlier later hand (before ++ w' :: after) := by
  rw [iff_middle] at h ⊢
  rwa [hw]

theorem enter (h : Flows earlier later hand (before ++ w :: after)) (hw : hand w = [])
    (hw' : hand w' = [x]) : Flows (earlier ++ [x]) later hand (before ++ w' :: after) := by
  rw [iff_middle, hw, List.nil_append] at h
  rw [iff_middle, hw']
  exact List.perm_append_comm.trans (h.append_right [x])

theorem leave (h : Flows earlier later hand (before ++ w :: after)) (hw : hand w = [x])
    (hw' : hand w' = []) : Flows earlier (later ++ [x]) hand (before ++ w' :: after) := by
  rw [iff_middle, hw] at h
  rw [iff_middle, hw', List.nil_append, List.append_assoc]
  exact (List.perm_append_comm_assoc _ _ _).trans h

theorem pass (h : Flows earlier later hand (before ++ w :: after)) (hw : hand w = [])
    (hw' : hand w' = []) :
    Flows (earlier ++ [x]) (later ++ [x]) hand (before ++ w' :: after) := by
  rw [iff_middle, hw, List.nil_append] at h
  rw [iff_middle, hw', List.nil_append, List.append_assoc]
  exact ((List.perm_append_comm_assoc _ _ _).trans List.perm_append_comm).trans
    (h.append_right [x])

private theorem mem_of_hand {workers : List Worker} (h : Flows earlier later hand workers)
    (hw : w ∈ workers) (hx : x ∈ hand w) : x ∈ earlier :=
  h.mem_iff.mp (List.mem_append_right _ (List.mem_flatMap.mpr ⟨w, hw, hx⟩))

theorem mem_of_later {workers : List Worker} (h : Flows earlier later hand workers)
    (hx : x ∈ later) : x ∈ earlier :=
  h.mem_iff.mp (List.mem_append_left _ hx)

private theorem perm_of_stopped {workers : List Worker} (h : Flows earlier later hand workers)
    (hworkers : ∀ w ∈ workers, w = .stopped) (hhand : hand .stopped = []) :
    later.Perm earlier := by
  have hnone : workers.flatMap hand = [] := by
    rw [List.flatMap_eq_nil_iff]
    intro w hw
    rw [hworkers w hw, hhand]
  rwa [Flows, hnone, List.append_nil] at h

end Flows

/-- The books are right: every job is in one place. -/
structure Accounted (js : List Job) (sys : System) : Prop where
  pulled : sys.shared.journal.pulled ++ sys.shared.source = js
  checked : Flows sys.shared.journal.pulled sys.shared.journal.checked Worker.unchecked sys.workers
  ran : Flows sys.shared.journal.checked (sys.shared.journal.ran.map Prod.fst) Worker.unfinished
    sys.workers
  reported : Flows sys.shared.journal.ran sys.shared.journal.reported Worker.unreported sys.workers
  recorded : Flows sys.shared.journal.reported sys.shared.journal.recorded Worker.unrecorded
    sys.workers
  summary : sys.shared.summary.results = sys.shared.journal.recorded.map Prod.snd
  staffed : sys.workers ≠ []
  stopped : .stopped ∈ sys.workers → sys.shared.source = []

namespace Accounted

variable {o : RunOptions} {js : List Job} {sys : System}

theorem start (o : RunOptions) (items : List Discovery.Item) (token : CancelToken) :
    Accounted (jobs items) (.start o items token) where
  pulled := rfl
  checked := by simp [System.start, Flows, Worker.unchecked]
  ran := by simp [System.start, Flows, Worker.unfinished]
  reported := by simp [System.start, Flows, Worker.unreported]
  recorded := by simp [System.start, Flows, Worker.unrecorded]
  summary := rfl
  staffed := by simp [System.start]
  stopped := by simp [System.start]

theorem cancel (h : Accounted js sys) (token : CancelToken) :
    Accounted js { sys with shared.token := token } :=
  ⟨h.pulled, h.checked, h.ran, h.reported, h.recorded, h.summary, h.staffed, h.stopped⟩

/-- A turn moves at most one job, from one place to the next. -/
theorem turn {before after : List Worker} {w w' : Worker} {s s' : Shared} {r : TestResult}
    (h : Accounted js ⟨s, before ++ w :: after⟩) (hw : w.advance o s r = some (w', s')) :
    Accounted js ⟨s', before ++ w' :: after⟩ := by
  obtain ⟨hpulled, hchecked, hran, hreported, hrecorded, hsummary, -, hstopped⟩ := h
  have hstaffed : before ++ w' :: after ≠ [] := by simp
  have hsource (hw' : w' ≠ .stopped) (hmem : .stopped ∈ before ++ w' :: after) : s.source = [] := by
    refine hstopped ?_
    simp only [List.mem_append, List.mem_cons, hw'.symm, false_or] at hmem ⊢
    exact hmem.imp_right .inr
  cases w with
  | ready =>
    rw [Worker.advance] at hw
    split at hw
    next hnil =>
      obtain ⟨rfl, rfl⟩ := hw
      exact ⟨hpulled, hchecked.keep rfl, hran.keep rfl, hreported.keep rfl, hrecorded.keep rfl,
        hsummary, hstaffed, fun _ => hnil⟩
    next job source hcons =>
      obtain ⟨rfl, rfl⟩ := hw
      refine ⟨?_, hchecked.enter rfl rfl, hran.keep rfl, hreported.keep rfl, hrecorded.keep rfl,
        hsummary, hstaffed, ?_⟩
      · simpa [hcons] using hpulled
      · intro hmem
        have hnil := hsource nofun hmem
        rw [hcons] at hnil
        cases hnil
  | pulled job =>
    rw [Worker.advance] at hw
    simp only at hw
    split at hw
    next known hknown =>
      obtain ⟨rfl, rfl⟩ := hw
      refine ⟨hpulled, hchecked.leave rfl rfl, ?_, hreported.enter rfl rfl, hrecorded.keep rfl,
        hsummary, hstaffed, hsource nofun⟩
      simpa using hran.pass rfl rfl
    next t hgo =>
      obtain ⟨rfl, rfl⟩ := hw
      exact ⟨hpulled, hchecked.leave rfl rfl, hran.enter rfl rfl, hreported.keep rfl,
        hrecorded.keep rfl, hsummary, hstaffed, hsource nofun⟩
  | running job =>
    obtain ⟨rfl, rfl⟩ := hw
    refine ⟨hpulled, hchecked.keep rfl, ?_, hreported.enter rfl rfl, hrecorded.keep rfl, hsummary,
      hstaffed, hsource nofun⟩
    simpa using hran.leave rfl rfl
  | finished e =>
    obtain ⟨rfl, rfl⟩ := hw
    exact ⟨hpulled, hchecked.keep rfl, hran.keep rfl, hreported.leave rfl rfl,
      hrecorded.enter rfl rfl, hsummary, hstaffed, hsource nofun⟩
  | reported e =>
    obtain ⟨rfl, rfl⟩ := hw
    refine ⟨hpulled, hchecked.keep rfl, hran.keep rfl, hreported.keep rfl, hrecorded.leave rfl rfl,
      ?_, hstaffed, hsource nofun⟩
    simpa [Summary.record] using hsummary
  | stopped => cases hw

theorem follow {es : List Event} {last : System} (h : Accounted js sys)
    (hfollow : System.follow o es sys = some last) : Accounted js last :=
  System.follow_invariant turn (fun _ h => h.cancel _) h hfollow

theorem eachOnce {items : List Discovery.Item} (h : Accounted (jobs items) sys)
    (hstopped : sys.Stopped) : sys.EachOnce items := by
  have hsource : sys.shared.source = [] := by
    obtain ⟨w, hw⟩ := List.exists_mem_of_ne_nil _ h.staffed
    exact h.stopped (hstopped w hw ▸ hw)
  have hpulled : sys.shared.journal.pulled = jobs items := by
    simpa [hsource] using h.pulled
  have hreported := h.reported.perm_of_stopped hstopped rfl
  refine ⟨jobs_nodup items, hpulled, ?_, hreported, ?_, h.summary⟩
  · rw [← hpulled]
    exact (h.ran.perm_of_stopped hstopped rfl).trans (h.checked.perm_of_stopped hstopped rfl)
  · exact (h.recorded.perm_of_stopped hstopped rfl).trans hreported

end Accounted

/-! ### After a cancellation -/

private theorem admission_cancelled (o : RunOptions) (t : Test) :
    admission o true (.test t) = .settled (.skipped t.name t.path "run cancelled") :=
  rfl

/-- The run is cancelled, and only tests of `early` jobs are running or have been run. -/
structure Barred (early : List Job) (sys : System) : Prop where
  cancelled : sys.shared.token.cancelled = true
  running : ∀ job t, job.item = .test t → .running job ∈ sys.workers → job ∈ early
  ran : ∀ e ∈ sys.shared.journal.ran, ∀ t, e.1.item = .test t → e.1 ∉ early →
    e.2 = .skipped t.name t.path "run cancelled"

namespace Barred

variable {o : RunOptions} {early : List Job} {sys : System}

theorem cancel {js : List Job} (h : Accounted js sys) (now : Duration) :
    Barred sys.shared.journal.checked { sys with shared.token := sys.shared.token.cancel now } where
  cancelled := rfl
  running _ _ _ hmem := h.ran.mem_of_hand hmem (List.mem_singleton.mpr rfl)
  ran _ he _ _ hlate := absurd (h.ran.mem_of_later (List.mem_map_of_mem he)) hlate

theorem turn {before after : List Worker} {w w' : Worker} {s s' : Shared} {r : TestResult}
    (h : Barred early ⟨s, before ++ w :: after⟩) (hw : w.advance o s r = some (w', s')) :
    Barred early ⟨s', before ++ w' :: after⟩ := by
  obtain ⟨hcancelled, hrunning, hran⟩ := h
  simp only at hcancelled hran
  have hothers (hw' : ∀ job, w' = .running job → ∀ t, job.item = .test t → job ∈ early) :
      ∀ job t, job.item = .test t → .running job ∈ before ++ w' :: after → job ∈ early := by
    intro job t ht hmem
    simp only [List.mem_append, List.mem_cons] at hmem hrunning
    rcases hmem with hmem | heq | hmem
    · exact hrunning job t ht (.inl hmem)
    · exact hw' job heq.symm t ht
    · exact hrunning job t ht (.inr (.inr hmem))
  cases w with
  | ready =>
    rw [Worker.advance] at hw
    split at hw
    · obtain ⟨rfl, rfl⟩ := hw
      exact ⟨hcancelled, hothers (by simp), hran⟩
    · obtain ⟨rfl, rfl⟩ := hw
      exact ⟨hcancelled, hothers (by simp), hran⟩
  | pulled job =>
    rw [Worker.advance, hcancelled] at hw
    simp only at hw
    -- a test that is looked at now is settled at once
    split at hw
    next known hknown =>
      obtain ⟨rfl, rfl⟩ := hw
      refine ⟨hcancelled, hothers (by simp), ?_⟩
      intro e he t ht hlate
      rcases List.mem_append.mp he with he | he
      · exact hran e he t ht hlate
      · obtain rfl := List.mem_singleton.mp he
        rw [ht, admission_cancelled] at hknown
        exact (Admission.settled.inj hknown).symm
    next t hgo =>
      obtain ⟨rfl, rfl⟩ := hw
      refine ⟨hcancelled, hothers ?_, hran⟩
      rintro _ ⟨⟩ t ht
      rw [ht, admission_cancelled] at hgo
      cases hgo
  | running job =>
    obtain ⟨rfl, rfl⟩ := hw
    refine ⟨hcancelled, hothers (by simp), ?_⟩
    intro e he t ht hlate
    rcases List.mem_append.mp he with he | he
    · exact hran e he t ht hlate
    · obtain rfl := List.mem_singleton.mp he
      exact absurd (hrunning job t ht (by simp)) hlate
  | finished e =>
    obtain ⟨rfl, rfl⟩ := hw
    exact ⟨hcancelled, hothers (by simp), hran⟩
  | reported e =>
    obtain ⟨rfl, rfl⟩ := hw
    exact ⟨hcancelled, hothers (by simp), hran⟩
  | stopped => cases hw

theorem follow {es : List Event} {last : System} (h : Barred early sys)
    (hfollow : System.follow o es sys = some last) : Barred early last :=
  System.follow_invariant turn (fun _ h => ⟨rfl, h.running, h.ran⟩) h hfollow

end Barred

end ShellSuite.Suite
