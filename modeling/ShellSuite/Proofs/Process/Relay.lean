import Mathlib.Data.List.Basic
import ShellSuite.Process.Relay

set_option autoImplicit false
set_option relaxedAutoImplicit false

/-!
What a relay hands on and what it logs. The log is the beginning of all bytes that were read,
however they were cut into chunks; a write that fails ends the relay after its chunk was logged.
-/

namespace ShellSuite.Relay

/-- The chunks that reads bring, up to the end of the input or an error. -/
def received : List Read → List Bytes
  | [] => []
  | .chunk c :: reads => c.bytes :: received reads
  | .interrupted :: reads => received reads
  | .finished :: _ => []
  | .failed :: _ => []

private theorem keep_take (before chunk : Bytes) :
    keep (before.take logLimit) chunk = (before ++ chunk).take logLimit := by
  have hroom : logLimit - (before.take logLimit).length = logLimit - before.length := by
    rw [List.length_take]
    omega
  rw [keep, hroom, List.take_append]

/-- All that is read gets into the log as far as there is room, and nothing else. -/
theorem runFrom_log (writes : Nat → Written) (count : Nat) (before forwarded : Bytes)
    (reads : List Read) :
    ∃ front, reads = front ++ (runFrom writes count (before.take logLimit) forwarded reads).unread ∧
      (runFrom writes count (before.take logLimit) forwarded reads).log =
        (before ++ (received front).flatten).take logLimit := by
  induction reads generalizing count before forwarded with
  | nil => exact ⟨[], rfl, by simp [runFrom, received]⟩
  | cons read reads ih =>
    cases read with
    | interrupted =>
      obtain ⟨front, hreads, hlog⟩ := ih count before forwarded
      exact ⟨.interrupted :: front, congrArg _ hreads, hlog⟩
    | finished => exact ⟨[.finished], rfl, by simp [runFrom, received]⟩
    | failed => exact ⟨[.failed], rfl, by simp [runFrom, received]⟩
    | chunk c =>
      rw [runFrom, keep_take]
      cases writes count with
      | whole =>
        obtain ⟨front, hreads, hlog⟩ := ih (count + 1) (before ++ c.bytes) (forwarded ++ c.bytes)
        refine ⟨.chunk c :: front, congrArg _ hreads, ?_⟩
        rw [received, List.flatten_cons, ← List.append_assoc]
        exact hlog
      | broken n => exact ⟨[.chunk c], rfl, by simp [received]⟩

section

variable {writes : Nat → Written} {reads : List Read}

private theorem run_log {front : List Read} (h : reads = front ++ (run writes reads).unread) :
    (run writes reads).log = (received front).flatten.take logLimit := by
  obtain ⟨made, hmade, hlog⟩ := runFrom_log writes 0 [] [] reads
  have hsame : front ++ (run writes reads).unread = made ++ (run writes reads).unread :=
    h.symm.trans hmade
  rw [List.append_cancel_right hsame]
  exact hlog

private theorem runFrom_whole {count : Nat}
    (h : ∀ i < (received reads).length, writes (count + i) = .whole) (log forwarded : Bytes) :
    (∃ front, reads = front ++ (runFrom writes count log forwarded reads).unread ∧
        received front = received reads) ∧
      (runFrom writes count log forwarded reads).forwarded =
        forwarded ++ (received reads).flatten := by
  induction reads generalizing count log forwarded with
  | nil => exact ⟨⟨[], rfl, rfl⟩, by simp [runFrom, received]⟩
  | cons read reads ih =>
    cases read with
    | interrupted =>
      obtain ⟨⟨front, hreads, hreceived⟩, hforwarded⟩ := ih h log forwarded
      exact ⟨⟨.interrupted :: front, congrArg _ hreads, hreceived⟩, hforwarded⟩
    | finished => exact ⟨⟨[.finished], rfl, rfl⟩, by simp [runFrom, received]⟩
    | failed => exact ⟨⟨[.failed], rfl, rfl⟩, by simp [runFrom, received]⟩
    | chunk c =>
      rw [received, List.length_cons] at h
      have hfirst : writes count = .whole := h 0 (Nat.succ_pos _)
      have hrest : ∀ i < (received reads).length, writes (count + 1 + i) = .whole := by
        intro i hi
        have hnext := h (i + 1) (Nat.succ_lt_succ hi)
        rwa [Nat.add_right_comm]
      obtain ⟨⟨front, hreads, hreceived⟩, hforwarded⟩ :=
        ih hrest (keep log c.bytes) (forwarded ++ c.bytes)
      rw [runFrom, hfirst]
      refine ⟨⟨.chunk c :: front, congrArg _ hreads, congrArg (c.bytes :: ·) hreceived⟩, ?_⟩
      rw [received, List.flatten_cons, ← List.append_assoc]
      exact hforwarded

private theorem runFrom_broken {count k n : Nat} (hk : k < (received reads).length)
    (hwhole : ∀ i < k, writes (count + i) = .whole) (hbroken : writes (count + k) = .broken n)
    (log forwarded : Bytes) :
    ∃ front c, reads = front ++ [.chunk c] ++ (runFrom writes count log forwarded reads).unread ∧
      received (front ++ [.chunk c]) = (received reads).take (k + 1) := by
  induction reads generalizing count k log forwarded with
  | nil => exact absurd hk (Nat.not_lt_zero k)
  | cons read reads ih =>
    cases read with
    | interrupted =>
      obtain ⟨front, c, hreads, hreceived⟩ := ih hk hwhole hbroken log forwarded
      exact ⟨.interrupted :: front, c, congrArg _ hreads, hreceived⟩
    | finished => exact absurd hk (Nat.not_lt_zero k)
    | failed => exact absurd hk (Nat.not_lt_zero k)
    | chunk c =>
      cases k with
      | zero =>
        rw [Nat.add_zero] at hbroken
        rw [runFrom, hbroken]
        exact ⟨[], c, rfl, by simp [received]⟩
      | succ k =>
        have hfirst : writes count = .whole := hwhole 0 (Nat.succ_pos k)
        have hrest : ∀ i < k, writes (count + 1 + i) = .whole := by
          intro i hi
          have hnext := hwhole (i + 1) (Nat.succ_lt_succ hi)
          rwa [Nat.add_right_comm]
        have hlast : writes (count + 1 + k) = .broken n := by rwa [Nat.add_right_comm]
        rw [received, List.length_cons] at hk
        obtain ⟨front, d, hreads, hreceived⟩ :=
          ih (Nat.lt_of_succ_lt_succ hk) hrest hlast (keep log c.bytes) (forwarded ++ c.bytes)
        rw [runFrom, hfirst]
        exact ⟨.chunk c :: front, d, congrArg _ hreads, congrArg (c.bytes :: ·) hreceived⟩

private theorem run_whole (h : ∀ i < (received reads).length, writes i = .whole) :
    (run writes reads).forwarded = (received reads).flatten ∧
      (run writes reads).log = (received reads).flatten.take logLimit := by
  have hcount : ∀ i < (received reads).length, writes (0 + i) = .whole := by simpa using h
  obtain ⟨⟨front, hreads, hreceived⟩, hforwarded⟩ := runFrom_whole hcount [] []
  exact ⟨hforwarded, by rw [run_log hreads, hreceived]⟩

private theorem run_broken {k n : Nat} (hk : k < (received reads).length)
    (hwhole : ∀ i < k, writes i = .whole) (hbroken : writes k = .broken n) :
    ∃ front c, reads = front ++ [.chunk c] ++ (run writes reads).unread ∧
      received (front ++ [.chunk c]) = (received reads).take (k + 1) ∧
      (run writes reads).log = ((received reads).take (k + 1)).flatten.take logLimit := by
  have hcount : ∀ i < k, writes (0 + i) = .whole := by simpa using hwhole
  have hlast : writes (0 + k) = .broken n := by rwa [Nat.zero_add]
  obtain ⟨front, c, hreads, hreceived⟩ := runFrom_broken hk hcount hlast [] []
  exact ⟨front, c, hreads, hreceived, by rw [run_log hreads, hreceived]⟩

end

/-! ### Bytes that are all read -/

private theorem flatten_blocks (bytes : Bytes) :
    ((blocks bytes).map (·.bytes)).flatten = bytes := by
  fun_induction blocks bytes with
  | case1 => rfl
  | case2 bytes _ ih => rw [List.map_cons, List.flatten_cons, ih, List.take_append_drop]

private theorem received_chunks (chunks : List Chunk) :
    received (chunks.map .chunk ++ [.finished]) = chunks.map (·.bytes) := by
  induction chunks with
  | nil => rfl
  | cons c chunks ih => exact congrArg _ ih

private theorem logOf_eq_take (bytes : Bytes) : logOf bytes = bytes.take logLimit := by
  have hlog : logOf bytes =
      (received ((blocks bytes).map .chunk ++ [.finished])).flatten.take logLimit :=
    (run_whole fun _ _ => rfl).2
  rw [hlog, received_chunks, flatten_blocks]

/-- The log of a relay is the first 64 KiB of what flowed. If all writes succeed, all chunks are
handed on, and the log is the beginning of all their bytes. If a write fails, the log is the
beginning of the bytes up to that chunk, and no read is made behind it. In both cases it depends on
the bytes that were read, and not on the chunks they came in. So the log of a stage is the beginning
of its output. -/
theorem run_logs_beginning (writes : Nat → Written) (reads : List Read) :
    ((∀ i < (received reads).length, writes i = .whole) →
      (run writes reads).forwarded = (received reads).flatten ∧
        (run writes reads).log = (received reads).flatten.take logLimit) ∧
    (∀ k n, k < (received reads).length → (∀ i < k, writes i = .whole) → writes k = .broken n →
      ∃ front c, reads = front ++ [.chunk c] ++ (run writes reads).unread ∧
        received (front ++ [.chunk c]) = (received reads).take (k + 1) ∧
        (run writes reads).log = ((received reads).take (k + 1)).flatten.take logLimit) ∧
    (∀ (others : Nat → Written) (rechunked front front' : List Read),
      reads = front ++ (run writes reads).unread →
      rechunked = front' ++ (run others rechunked).unread →
      (received front).flatten = (received front').flatten →
      (run writes reads).log = (run others rechunked).log) ∧
    ∀ bytes, logOf bytes = bytes.take logLimit := by
  refine ⟨run_whole, fun k n => run_broken, ?_, logOf_eq_take⟩
  intro others rechunked front front' hreads hrechunked hsame
  rw [run_log hreads, run_log hrechunked, hsame]

def sampleBlock : Chunk :=
  ⟨List.replicate blockSize 121, List.ne_nil_of_length_pos (by rw [List.length_replicate]; decide),
    Nat.le_of_eq List.length_replicate⟩

/-- Nine blocks are read, the first time after an interruption. The ninth does not fit into the log
any more, and its write fails, so that the tenth is left. -/
theorem run_logs_beginning_broken :
    let reads := .interrupted :: List.replicate 10 (.chunk sampleBlock) ++ [.finished]
    let writes := fun i => if i = 8 then .broken 100 else .whole
    (∀ i < 8, writes i = .whole) ∧ writes 8 = .broken 100 ∧
      (run writes reads).unread = [.chunk sampleBlock, .finished] ∧
      (run writes reads).log = List.replicate 65536 121 := by
  intro reads writes
  have hwhole : ∀ i < 8, writes i = .whole := by
    intro i hi
    exact if_neg (Nat.ne_of_lt hi)
  have hreceived : received reads = List.replicate 10 sampleBlock.bytes := rfl
  obtain ⟨front, c, -, -, hlog⟩ :=
    (run_logs_beginning writes reads).2.1 8 100 (by rw [hreceived]; decide) hwhole rfl
  refine ⟨hwhole, rfl, rfl, ?_⟩
  rw [hlog, hreceived, List.take_replicate, sampleBlock, List.flatten_replicate_replicate,
    List.take_replicate]
  rfl

end ShellSuite.Relay
