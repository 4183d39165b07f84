import ShellSuite.Shell.Line

set_option autoImplicit false
set_option relaxedAutoImplicit false

/-!
Any number of callers on one token. A call loads or stores one thing at a time, the steps of all
calls are interleaved in any way, and the clock goes on in between. Whatever the interleaving, a
cancellation is never taken back, and the first request decides when its grace period ends.
-/

namespace ShellSuite

private theorem Watchdog.expired_mono (w : Watchdog) {now later : Duration} (h : now ≤ later)
    (hnow : w.expired now = true) : w.expired later = true := by
  cases hlimit : w.deadline with
  | none => simp [expired, hlimit] at hnow
  | some limit =>
    simp only [expired, hlimit, Option.any_some, decide_eq_true_eq] at hnow ⊢
    exact Nat.le_trans hnow h

private theorem Shell.stop_eq_interrupted_iff (w : Watchdog) (sh : Shell) :
    stop w sh = some .interrupted ↔ sh.world.token.shouldKill sh.world.clock = true := by
  unfold stop
  split
  next hkill => simp [hkill]
  next hkill => split <;> simp [hkill]

namespace CancelToken

inductive Request where
  | cancel
  | force
  | shouldKill

/-- What a call has done last. A request has been made, has read the clock, has noted its reading,
and has marked the token as cancelled; then it returns, after it has dropped the grace period if it
has to. A question whether to kill has been asked, has found that the grace period is not dropped,
that the token is cancelled, and when that was first requested; then it is answered. A question
remembers whether the answer was yes when it was asked, for the sake of statements only. -/
inductive Call where
  | requested (force : Bool)
  | timed (force : Bool) (reading : Duration)
  | noted (force : Bool)
  | marked
  | returned (force : Bool)
  | asked (due : Bool)
  | unforced (due : Bool)
  | cancelled (due : Bool)
  | dated (due : Bool) (first : Duration)
  | answered (due kill : Bool)

structure Moment where
  clock : Duration
  token : CancelToken

/-- The answer to the question whether to kill, given at once. -/
def Moment.kills (m : Moment) : Bool :=
  m.token.shouldKill m.clock

namespace Call

def start (m : Moment) : Request → Call
  | .cancel => .requested false
  | .force => .requested true
  | .shouldKill => .asked m.kills

def advance (m : Moment) : Call → Call × CancelToken
  | .requested force => (.timed force m.clock, m.token)
  | .timed force reading => (.noted force, m.token.noteRequest reading)
  | .noted force => (if force then .marked else .returned false, m.token.markCancelled)
  | .marked => (.returned true, m.token.markForced)
  | .returned force => (.returned force, m.token)
  | .asked due => (if m.token.forced then .answered due true else .unforced due, m.token)
  | .unforced due => (if m.token.cancelled then .cancelled due else .answered due false, m.token)
  | .cancelled due =>
    match m.token.requestedAt with
    | some first => (.dated due first, m.token)
    | none => (.answered due false, m.token)
  | .dated due first => (.answered due (m.token.grace ≤ m.clock - first), m.token)
  | .answered due kill => (.answered due kill, m.token)

def noting? : Call → Option Duration
  | .timed _ reading => some reading
  | _ => none

end Call

/-- The calls so far, and the readings that were to be noted, with their callers, in order. -/
structure Race extends Moment where
  calls : List Call
  notes : List (Nat × Duration)

/-- What can happen next: time passes, someone calls, or a call does a step. -/
inductive Event where
  | wait (span : Duration)
  | call (r : Request)
  | turn (caller : Nat)

namespace Race

def start (grace clock : Duration) : Race :=
  ⟨⟨clock, fresh grace⟩, [], []⟩

/-- One event. A turn of nobody changes nothing. -/
def step (s : Race) : Event → Race
  | .wait span => { s with clock := s.clock + span }
  | .call r => { s with calls := s.calls ++ [.start s.toMoment r] }
  | .turn i =>
    match s.calls[i]? with
    | some c =>
      { clock := s.clock
        token := (c.advance s.toMoment).2
        calls := s.calls.set i (c.advance s.toMoment).1
        notes := s.notes ++ (c.noting?.map (i, ·)).toList }
    | none => s

def run (s : Race) (es : List Event) : Race :=
  es.foldl step s

private theorem run_append (s : Race) (es₁ es₂ : List Event) : s.run (es₁ ++ es₂) =
    (s.run es₁).run es₂ :=
  List.foldl_append

theorem step_turn (s : Race) (i : Nat) :
    s.step (.turn i) = s ∨ ∃ before c after, s.calls = before ++ c :: after ∧
      s.step (.turn i) = ⟨⟨s.clock, (c.advance s.toMoment).2⟩,
        before ++ (c.advance s.toMoment).1 :: after,
        s.notes ++ (c.noting?.map (i, ·)).toList⟩ := by
  rw [step]
  split
  next c hc =>
    obtain ⟨hi, hget⟩ := List.getElem?_eq_some_iff.mp hc
    obtain ⟨before, after, hcalls, -, hset⟩ :=
      @List.exists_of_set _ i (c.advance s.toMoment).1 s.calls hi
    rw [hget] at hcalls
    exact .inr ⟨before, c, after, hcalls, by rw [hset]⟩
  next => exact .inl rfl

end Race

/-! ### What is kept as time passes -/

/-- The second moment may follow the first one: nothing is taken back. -/
structure Moment.Precedes (a b : Moment) : Prop where
  clock : a.clock ≤ b.clock
  grace : b.token.grace = a.token.grace
  cancelled : a.token.cancelled = true → b.token.cancelled = true
  forced : a.token.forced = true → b.token.forced = true
  requestedAt : ∀ first, a.token.requestedAt = some first → b.token.requestedAt = some first

def Moment.GraceOver (m : Moment) : Prop :=
  m.token.cancelled = true ∧
    ∃ first, m.token.requestedAt = some first ∧ m.token.grace ≤ m.clock - first

private theorem Moment.kills_iff (m : Moment) :
    m.kills = true ↔ m.token.forced = true ∨ m.GraceOver := by
  cases h : m.token.requestedAt <;> simp [kills, shouldKill, GraceOver, h]

namespace Moment.Precedes

variable {a b c : Moment}

theorem refl (a : Moment) : a.Precedes a :=
  ⟨Nat.le_refl _, rfl, id, id, fun _ => id⟩

theorem trans (h₁ : a.Precedes b) (h₂ : b.Precedes c) : a.Precedes c :=
  ⟨Nat.le_trans h₁.clock h₂.clock, h₂.grace.trans h₁.grace, h₂.cancelled ∘ h₁.cancelled,
    h₂.forced ∘ h₁.forced, fun first hfirst => h₂.requestedAt first (h₁.requestedAt first hfirst)⟩

theorem wait (m : Moment) (span : Duration) : m.Precedes ⟨m.clock + span, m.token⟩ :=
  ⟨Nat.le_add_right _ _, rfl, id, id, fun _ => id⟩

theorem advance (m : Moment) (c : Call) : m.Precedes ⟨m.clock, (c.advance m).2⟩ := by
  cases c with
  | timed force reading =>
    refine ⟨Nat.le_refl _, rfl, id, id, ?_⟩
    intro first hfirst
    simp [Call.advance, noteRequest, hfirst]
  | noted force => exact ⟨Nat.le_refl _, rfl, fun _ => rfl, id, fun _ => id⟩
  | marked => exact ⟨Nat.le_refl _, rfl, id, fun _ => rfl, fun _ => id⟩
  | cancelled due =>
    rw [Call.advance]
    split <;> exact refl m
  | _ => exact refl m

private theorem graceOver (h : a.Precedes b) (ha : a.GraceOver) : b.GraceOver := by
  obtain ⟨hcancelled, first, hfirst, hgrace⟩ := ha
  refine ⟨h.cancelled hcancelled, first, h.requestedAt first hfirst, ?_⟩
  rw [h.grace]
  exact Nat.le_trans hgrace (Nat.sub_le_sub_right h.clock first)

private theorem kills (h : a.Precedes b) (ha : a.kills = true) : b.kills = true := by
  rw [kills_iff] at ha ⊢
  exact ha.imp h.forced h.graceOver

end Moment.Precedes

private theorem Race.precedes_step (s : Race) (e : Event) : s.toMoment.Precedes
    (s.step e).toMoment := by
  cases e with
  | wait span => exact .wait s.toMoment span
  | call r => exact .refl s.toMoment
  | turn i =>
    rcases s.step_turn i with hstep | ⟨_, c, _, -, hstep⟩
    · rw [hstep]
      exact .refl s.toMoment
    · rw [hstep]
      exact .advance s.toMoment c

private theorem Race.precedes_run (s : Race) (es : List Event) :
    s.toMoment.Precedes (s.run es).toMoment := by
  induction es generalizing s with
  | nil => exact .refl s.toMoment
  | cons e es ih => exact (s.precedes_step e).trans (ih (s.step e))

/-! ### What holds of calls and of the token -/

/-- What a call knows. The token may have changed since it was read, but what was found is still
so. -/
def Call.Sound (m : Moment) : Call → Prop
  | .requested _ => True
  | .timed _ reading => reading ≤ m.clock
  | .noted _ => m.token.requestedAt.isSome = true
  | .marked => m.token.cancelled = true
  | .returned force => m.token.cancelled = true ∧ (force = true → m.token.forced = true)
  | .asked due => due = true → m.kills = true
  | .unforced due => due = true → m.GraceOver
  | .cancelled due => m.token.cancelled = true ∧ (due = true → m.GraceOver)
  | .dated due first =>
    m.token.cancelled = true ∧ m.token.requestedAt = some first ∧ (due = true → m.GraceOver)
  | .answered due kill => (due = true → kill = true) ∧ (kill = true → m.kills = true)

namespace Call.Sound

variable {a b m : Moment}

theorem later {c : Call} (h : a.Precedes b) (hc : c.Sound a) : c.Sound b := by
  cases c with
  | requested force => trivial
  | timed force reading => exact Nat.le_trans hc h.clock
  | noted force =>
    obtain ⟨first, hfirst⟩ := Option.isSome_iff_exists.mp hc
    exact Option.isSome_iff_exists.mpr ⟨first, h.requestedAt first hfirst⟩
  | marked => exact h.cancelled hc
  | returned force => exact ⟨h.cancelled hc.1, h.forced ∘ hc.2⟩
  | asked due => exact h.kills ∘ hc
  | unforced due => exact h.graceOver ∘ hc
  | cancelled due => exact ⟨h.cancelled hc.1, h.graceOver ∘ hc.2⟩
  | dated due first =>
    exact ⟨h.cancelled hc.1, h.requestedAt first hc.2.1, h.graceOver ∘ hc.2.2⟩
  | answered due kill => exact ⟨hc.1, h.kills ∘ hc.2⟩

theorem start (m : Moment) (r : Request) : (Call.start m r).Sound m := by
  cases r with
  | cancel => trivial
  | force => trivial
  | shouldKill => exact id

theorem advance {c : Call} (hc : c.Sound m) :
    (c.advance m).1.Sound ⟨m.clock, (c.advance m).2⟩ := by
  cases c with
  | requested force => exact Nat.le_refl m.clock
  | timed force reading => rfl
  | noted force =>
    cases force with
    | false => exact ⟨rfl, nofun⟩
    | true => rfl
  | marked => exact ⟨hc, fun _ => rfl⟩
  | returned force => exact hc
  | asked due =>
    by_cases hforced : m.token.forced = true
    · simp only [Call.advance, hforced, if_true]
      exact ⟨fun _ => rfl, fun _ => m.kills_iff.mpr (.inl hforced)⟩
    · simp only [Call.advance, hforced]
      exact fun hdue => (m.kills_iff.mp (hc hdue)).resolve_left hforced
  | unforced due =>
    by_cases hcancelled : m.token.cancelled = true
    · simp only [Call.advance, hcancelled, if_true]
      exact ⟨hcancelled, hc⟩
    · simp only [Call.advance, hcancelled]
      exact ⟨fun hdue => absurd (hc hdue).1 hcancelled, nofun⟩
  | cancelled due =>
    rw [Call.advance]
    split
    next first hfirst => exact ⟨hc.1, hfirst, hc.2⟩
    next hnone =>
      refine ⟨fun hdue => ?_, nofun⟩
      obtain ⟨-, first, hfirst, -⟩ := hc.2 hdue
      rw [hnone] at hfirst
      cases hfirst
  | dated due first =>
    obtain ⟨hcancelled, hfirst, hdue⟩ := hc
    refine ⟨fun h => ?_, fun h => m.kills_iff.mpr (.inr ⟨hcancelled, first, hfirst, ?_⟩)⟩
    · obtain ⟨-, first', hfirst', hgrace⟩ := hdue h
      rw [hfirst, Option.some.injEq] at hfirst'
      subst hfirst'
      exact decide_eq_true hgrace
    · exact of_decide_eq_true h
  | answered due kill => exact hc

end Call.Sound

/-! What the next step of a call adds to each field of the token. -/

private theorem Call.advance_requestedAt (m : Moment) (c : Call) :
    (c.advance m).2.requestedAt = m.token.requestedAt.or c.noting? := by
  cases c with
  | timed force reading => cases h : m.token.requestedAt <;> simp [advance, noteRequest, noting?, h]
  | noted force => simp [advance, markCancelled, noting?]
  | marked => simp [advance, markForced, noting?]
  | cancelled due =>
    rw [advance]
    split <;> simp [noting?]
  | _ => simp [advance, noting?]

private theorem Call.advance_cancelled {m : Moment} {c : Call}
    (h : (c.advance m).2.cancelled = true) :
    m.token.cancelled = true ∨ ∃ force, c = .noted force := by
  cases c with
  | noted force => exact .inr ⟨force, rfl⟩
  | cancelled due =>
    rw [advance] at h
    split at h <;> exact .inl h
  | _ => exact .inl h

private theorem Call.advance_forced {m : Moment} {c : Call} (h : (c.advance m).2.forced = true) :
    m.token.forced = true ∨ c = .marked := by
  cases c with
  | marked => exact .inr rfl
  | cancelled due =>
    rw [advance] at h
    split at h <;> exact .inl h
  | _ => exact .inl h

namespace Race

structure Sound (s : Race) : Prop where
  cancelled_of_forced : s.token.forced = true → s.token.cancelled = true
  requested_of_cancelled : s.token.cancelled = true → s.token.requestedAt.isSome = true
  requestedAt : s.token.requestedAt = s.notes.head?.map Prod.snd
  past : ∀ first, s.token.requestedAt = some first → first ≤ s.clock
  returned_of_forced : s.token.forced = true → .returned true ∈ s.calls
  calls : ∀ c ∈ s.calls, c.Sound s.toMoment

private theorem sound_start (grace clock : Duration) : (start grace clock).Sound :=
  ⟨nofun, nofun, rfl, nofun, nofun, nofun⟩

theorem Sound.wait {s : Race} (h : s.Sound) (span : Duration) : (s.step (.wait span)).Sound where
  cancelled_of_forced := h.cancelled_of_forced
  requested_of_cancelled := h.requested_of_cancelled
  requestedAt := h.requestedAt
  past first hfirst := Nat.le_trans (h.past first hfirst) (Nat.le_add_right _ _)
  returned_of_forced := h.returned_of_forced
  calls c hc := (h.calls c hc).later (.wait s.toMoment span)

theorem Sound.call {s : Race} (h : s.Sound) (r : Request) : (s.step (.call r)).Sound where
  cancelled_of_forced := h.cancelled_of_forced
  requested_of_cancelled := h.requested_of_cancelled
  requestedAt := h.requestedAt
  past := h.past
  returned_of_forced hforced := List.mem_append_left _ (h.returned_of_forced hforced)
  calls c hc := by
    rcases List.mem_append.mp hc with hc | hc
    · exact h.calls c hc
    · obtain rfl := List.mem_singleton.mp hc
      exact .start s.toMoment r

theorem Sound.turn {s : Race} (h : s.Sound) {before after : List Call} {c : Call}
    (hcalls : s.calls = before ++ c :: after) (i : Nat) :
    Sound ⟨⟨s.clock, (c.advance s.toMoment).2⟩, before ++ (c.advance s.toMoment).1 :: after,
      s.notes ++ (c.noting?.map (i, ·)).toList⟩ := by
  have hsound : c.Sound s.toMoment := h.calls c (by simp [hcalls])
  have hlater := Moment.Precedes.advance s.toMoment c
  have hrequested := Call.advance_requestedAt s.toMoment c
  constructor
  case cancelled_of_forced =>
    intro hforced
    rcases Call.advance_forced hforced with hforced | rfl
    · exact hlater.cancelled (h.cancelled_of_forced hforced)
    · exact hsound
  case requested_of_cancelled =>
    intro hcancelled
    have hsome : s.token.requestedAt.isSome = true := by
      rcases Call.advance_cancelled hcancelled with hcancelled | ⟨force, rfl⟩
      · exact h.requested_of_cancelled hcancelled
      · exact hsound
    simp [hrequested, hsome]
  case requestedAt =>
    rw [hrequested, h.requestedAt, List.head?_append, Option.map_or]
    cases c.noting? <;> rfl
  case past =>
    intro first hfirst
    rw [hrequested, Option.or_eq_some_iff] at hfirst
    rcases hfirst with hfirst | ⟨-, hfirst⟩
    · exact h.past first hfirst
    · cases c with
      | timed force reading => exact Option.some.inj hfirst ▸ hsound
      | _ => cases hfirst
  case returned_of_forced =>
    intro hforced
    rcases Call.advance_forced hforced with hforced | rfl
    · have hmem := h.returned_of_forced hforced
      rw [hcalls] at hmem
      simp only [List.mem_append, List.mem_cons] at hmem ⊢
      exact hmem.imp_right (Or.imp_left (by rintro rfl; rfl))
    · simp [Call.advance]
  case calls =>
    intro x hx
    rw [List.mem_append, List.mem_cons] at hx
    rcases hx with hx | rfl | hx
    · exact (h.calls x (by simp [hcalls, hx])).later hlater
    · exact hsound.advance
    · exact (h.calls x (by simp [hcalls, hx])).later hlater

theorem Sound.step {s : Race} (h : s.Sound) (e : Event) : (s.step e).Sound := by
  cases e with
  | wait span => exact h.wait span
  | call r => exact h.call r
  | turn i =>
    rcases s.step_turn i with hstep | ⟨before, c, after, hcalls, hstep⟩
    · rwa [hstep]
    · rw [hstep]
      exact h.turn hcalls i

theorem Sound.run {s : Race} (h : s.Sound) (es : List Event) : (s.run es).Sound := by
  induction es generalizing s with
  | nil => exact h
  | cons e es ih => exact ih (h.step e)

end Race

/-! ### Calls that drop the grace period -/

/-- Whether a call drops the grace period before it returns. -/
def Call.isForce : Call → Bool
  | .requested force => force
  | .timed force _ => force
  | .noted force => force
  | .marked => true
  | .returned force => force
  | _ => false

private theorem Call.isForce_advance (m : Moment) (c : Call) :
    (c.advance m).1.isForce = c.isForce := by
  cases c with
  | noted force => cases force <;> rfl
  | asked due => rw [advance]; split <;> rfl
  | unforced due => rw [advance]; split <;> rfl
  | cancelled due => rw [advance]; split <;> rfl
  | _ => rfl

private theorem Call.isForce_start {m : Moment} {r : Request} (h : (start m r).isForce = true) :
    r = .force := by
  cases r with
  | force => rfl
  | _ => cases h

namespace Race

private theorem isForce_of_step {s : Race} {e : Event} {c : Call} (hc : c ∈ (s.step e).calls)
    (hforce : c.isForce = true) : e = .call .force ∨ ∃ c ∈ s.calls, c.isForce = true := by
  cases e with
  | wait span => exact .inr ⟨c, hc, hforce⟩
  | call r =>
    rcases List.mem_append.mp hc with hc | hc
    · exact .inr ⟨c, hc, hforce⟩
    · obtain rfl := List.mem_singleton.mp hc
      exact .inl (by rw [Call.isForce_start hforce])
  | turn i =>
    rcases s.step_turn i with hstep | ⟨before, c', after, hcalls, hstep⟩
    · exact .inr ⟨c, hstep ▸ hc, hforce⟩
    · rw [hstep, List.mem_append, List.mem_cons] at hc
      rw [hcalls]
      rcases hc with hc | rfl | hc
      · exact .inr ⟨c, by simp [hc], hforce⟩
      · exact .inr ⟨c', by simp, Call.isForce_advance _ c' ▸ hforce⟩
      · exact .inr ⟨c, by simp [hc], hforce⟩

private theorem isForce_of_run {s : Race} {es : List Event} {c : Call} (hc : c ∈ (s.run es).calls)
    (hforce : c.isForce = true) : .call .force ∈ es ∨ ∃ c ∈ s.calls, c.isForce = true := by
  induction es generalizing s with
  | nil => exact .inr ⟨c, hc, hforce⟩
  | cons e es ih =>
    rcases ih hc with hmem | ⟨c, hc, hforce⟩
    · exact .inl (List.mem_cons_of_mem e hmem)
    · exact (isForce_of_step hc hforce).imp_left (by rintro rfl; exact List.mem_cons_self)

/-! ### Calls that nobody interrupts -/

/-- A call that does so many steps without a pause. -/
def atOnce (s : Race) (r : Request) (steps : Nat) : Race :=
  s.run (.call r :: List.replicate steps (.turn s.calls.length))

private theorem atOnce_cancel (s : Race) : (s.atOnce .cancel 3).token = s.token.cancel s.clock := by
  simp [atOnce, run, List.replicate, step, Call.start, Call.advance, CancelToken.cancel]

private theorem atOnce_force (s : Race) : (s.atOnce .force 4).token = s.token.force s.clock := by
  simp [atOnce, run, List.replicate, step, Call.start, Call.advance, CancelToken.force,
    CancelToken.cancel]

private theorem atOnce_shouldKill (s : Race) :
    (s.atOnce .shouldKill 4).calls = s.calls ++ [.answered s.kills s.kills] := by
  by_cases hforced : s.token.forced = true
  · simp [atOnce, run, List.replicate, step, Call.start, Call.advance, Moment.kills, shouldKill,
      hforced]
  · by_cases hcancelled : s.token.cancelled = true
    · cases hfirst : s.token.requestedAt <;>
        simp [atOnce, run, List.replicate, step, Call.start, Call.advance, Moment.kills, shouldKill,
          hforced, hcancelled, hfirst]
    · simp [atOnce, run, List.replicate, step, Call.start, Call.advance, Moment.kills, shouldKill,
        hforced, hcancelled]

/-! ### The whole -/

/-- What callers can rely on at one time of a race, and at any later time. -/
structure Steady (grace : Duration) (s later : Race) : Prop where
  cancelled_of_forced : s.token.forced = true → s.token.cancelled = true
  requested_of_cancelled : s.token.cancelled = true → s.token.requestedAt.isSome = true
  cancelled_of_kills : s.kills = true → s.token.cancelled = true
  cancelled_stays : s.token.cancelled = true → later.token.cancelled = true
  kills_stays : s.kills = true → later.kills = true
  /-- The first reading that was noted counts, and no later one. -/
  requestedAt : s.token.requestedAt = s.notes.head?.map Prod.snd
  requestedAt_stays :
    ∀ first, s.token.requestedAt = some first → later.token.requestedAt = some first
  /-- The grace period is dropped as soon as a call for that returns. -/
  forced_iff : s.token.forced = true ↔ .returned true ∈ s.calls
  kills_of_forced : s.token.forced = true → s.kills = true
  kills_unforced : s.token.forced = false → (s.kills = true ↔ s.token.cancelled = true ∧
    ∃ first, s.token.requestedAt = some first ∧ first ≤ s.clock ∧ grace ≤ s.clock - first)
  /-- A question that takes some time has an answer that was right when it was asked, or has become
  right since. -/
  answered : ∀ due kill, .answered due kill ∈ s.calls →
    (due = true → kill = true) ∧ (kill = true → s.kills = true)
  /-- Calls that nobody interrupts are what they are called for. -/
  cancel_atOnce : (s.atOnce .cancel 3).token = s.token.cancel s.clock
  force_atOnce : (s.atOnce .force 4).token = s.token.force s.clock
  shouldKill_atOnce : (s.atOnce .shouldKill 4).calls = s.calls ++ [.answered s.kills s.kills]
  expired_stays : ∀ w : Watchdog, w.expired s.clock = true → w.expired later.clock = true
  interrupted_stays : ∀ (w : Watchdog) (sh sh' : Shell),
    sh.world.clock = s.clock → sh.world.token = s.token →
    sh'.world.clock = later.clock → sh'.world.token = later.token →
    Shell.stop w sh = some .interrupted → Shell.stop w sh' = some .interrupted

private theorem Sound.cancelled_of_kills {s : Race} (h : s.Sound) (hkills : s.kills = true) :
    s.token.cancelled = true := by
  rcases s.kills_iff.mp hkills with hforced | hover
  · exact h.cancelled_of_forced hforced
  · exact hover.1

private theorem Sound.kills_unforced {s : Race} (h : s.Sound) (hforced : s.token.forced = false) :
    s.kills = true ↔ s.token.cancelled = true ∧ ∃ first, s.token.requestedAt = some first ∧
      first ≤ s.clock ∧ s.token.grace ≤ s.clock - first := by
  rw [s.kills_iff, or_iff_right (by simp [hforced])]
  constructor
  · rintro ⟨hcancelled, first, hfirst, hgrace⟩
    exact ⟨hcancelled, first, hfirst, h.past first hfirst, hgrace⟩
  · rintro ⟨hcancelled, first, hfirst, -, hgrace⟩
    exact ⟨hcancelled, first, hfirst, hgrace⟩

/-- Whatever the calls and however their steps are interleaved, callers can rely on the token; and
the grace period is not dropped if nobody asks for that. -/
theorem run_steady (grace clock : Duration) (es more : List Event) :
    Steady grace ((start grace clock).run es) ((start grace clock).run (es ++ more)) ∧
      (.call .force ∉ es → ((start grace clock).run es).token.forced = false) := by
  have hsound : ((start grace clock).run es).Sound := (sound_start grace clock).run es
  have hgrace : ((start grace clock).run es).token.grace = grace :=
    ((start grace clock).precedes_run es).grace
  have hlater := ((start grace clock).run es).precedes_run more
  rw [run_append]
  generalize hs : (start grace clock).run es = s at *
  refine ⟨?_, ?_⟩
  · constructor
    case cancelled_of_forced => exact hsound.cancelled_of_forced
    case requested_of_cancelled => exact hsound.requested_of_cancelled
    case cancelled_of_kills => exact hsound.cancelled_of_kills
    case cancelled_stays => exact hlater.cancelled
    case kills_stays => exact hlater.kills
    case requestedAt => exact hsound.requestedAt
    case requestedAt_stays => exact hlater.requestedAt
    case forced_iff =>
      exact ⟨hsound.returned_of_forced, fun hmem => (hsound.calls _ hmem).2 rfl⟩
    case kills_of_forced => exact fun hforced => s.kills_iff.mpr (.inl hforced)
    case kills_unforced => exact hgrace ▸ hsound.kills_unforced
    case answered => exact fun due kill hmem => hsound.calls _ hmem
    case cancel_atOnce => exact s.atOnce_cancel
    case force_atOnce => exact s.atOnce_force
    case shouldKill_atOnce => exact s.atOnce_shouldKill
    case expired_stays => exact fun w => w.expired_mono hlater.clock
    case interrupted_stays =>
      intro w sh sh' hclock htoken hclock' htoken'
      rw [Shell.stop_eq_interrupted_iff, Shell.stop_eq_interrupted_iff, hclock, htoken, hclock',
        htoken']
      exact hlater.kills
  · intro hnone
    rw [← Bool.not_eq_true]
    intro hforced
    rcases isForce_of_run (hs ▸ hsound.returned_of_forced hforced) rfl with hmem | ⟨c, hc, -⟩
    · exact hnone hmem
    · cases hc

-- The reading that is noted first counts, also if another one was taken before it.
example : ((start 10 0).run [.call .cancel, .turn 0, .wait 5, .call .cancel, .turn 1, .turn 1,
    .turn 0, .turn 0]).token.requestedAt = some 5 := rfl

end Race

end CancelToken

end ShellSuite
