import ShellSuite.Text.Utf8

set_option autoImplicit false
set_option relaxedAutoImplicit false

/-!
The relay between two stages: it hands on what one writes to the other, and keeps the beginning for
the log.
-/

namespace ShellSuite.Relay

def logLimit : Nat := 64 * 1024

def blockSize : Nat := 8192

/-- The bytes of one read: at least one, and at most a block. -/
structure Chunk where
  bytes : Bytes
  ne_nil : bytes ≠ []
  length_le : bytes.length ≤ blockSize
  deriving DecidableEq, Repr

/-- What a read comes to: bytes, an interruption before there were any, the end of the input, or an
error. -/
inductive Read where
  | chunk (c : Chunk)
  | interrupted
  | finished
  | failed
  deriving DecidableEq, Repr

/-- What a write comes to: all bytes are handed on, or an error behind some of them. -/
inductive Written where
  | whole
  | broken (count : Nat)
  deriving DecidableEq, Repr

/-- What a relay leaves: the log, the bytes that were handed on, and the reads that were not
made. -/
structure Outcome where
  log : Bytes
  forwarded : Bytes
  unread : List Read
  deriving DecidableEq, Repr

def keep (log chunk : Bytes) : Bytes :=
  log ++ chunk.take (logLimit - log.length)

/-- Goes on relaying after `count` writes. An interrupted read is made again; after the end, an
error or a failed write nothing more is read. -/
def runFrom (writes : Nat → Written) (count : Nat) (log forwarded : Bytes) : List Read → Outcome
  | [] => ⟨log, forwarded, []⟩
  | .interrupted :: reads => runFrom writes count log forwarded reads
  | .finished :: reads => ⟨log, forwarded, reads⟩
  | .failed :: reads => ⟨log, forwarded, reads⟩
  | .chunk c :: reads =>
    match writes count with
    | .whole => runFrom writes (count + 1) (keep log c.bytes) (forwarded ++ c.bytes) reads
    | .broken n => ⟨keep log c.bytes, forwarded ++ c.bytes.take n, reads⟩

/-- Relays what the reads bring; `writes` tells what each write comes to. -/
def run (writes : Nat → Written) (reads : List Read) : Outcome :=
  runFrom writes 0 [] [] reads

def blocks (bytes : Bytes) : List Chunk :=
  if h : bytes = [] then []
  else
    ⟨bytes.take blockSize, by simp [h, blockSize], List.length_take_le _ _⟩ ::
      blocks (bytes.drop blockSize)
termination_by bytes.length
decreasing_by
  have hpos := List.length_pos_iff.mpr h
  simp only [blockSize, List.length_drop]
  omega

def logOf (bytes : Bytes) : Bytes :=
  (run (fun _ => .whole) ((blocks bytes).map .chunk ++ [.finished])).log

end ShellSuite.Relay
