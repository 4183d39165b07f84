import ShellSuite.Files.Change

set_option autoImplicit false
set_option relaxedAutoImplicit false

/-!
Open files. Two of them may lead to the same file and have places of their own in it.
-/

namespace ShellSuite

/-- An open file: where its bytes go, the place of the next byte, and whether that is always the
end. -/
structure OpenFile where
  sink : Sink
  offset : Nat
  append : Bool
  deriving DecidableEq, Repr

structure OpenFiles where
  files : FileSystem
  handles : List OpenFile

namespace OpenFiles

/-- The bytes of a file after writing at a place; a gap is filled with zeros. -/
def splice (old : Bytes) (offset : Nat) (new : Bytes) : Bytes :=
  old.take offset ++ List.replicate (offset - old.length) 0 ++ new ++ old.drop (offset + new.length)

def create (o : OpenFiles) (append : Bool) (p : Path) : Except OsError (OpenFiles × Nat) := do
  let (files, sink) ← o.files.openWrite (!append) p
  return (⟨files, o.handles ++ [⟨sink, 0, append⟩]⟩, o.handles.length)

def write (o : OpenFiles) (handle : Nat) (bytes : Bytes) : OpenFiles :=
  match o.handles[handle]? with
  | some ⟨.file id, offset, append⟩ =>
    let old := o.files.bytesOf id
    let offset := if append then old.length else offset
    ⟨o.files.setBytes id (splice old offset bytes),
      o.handles.set handle ⟨.file id, offset + bytes.length, append⟩⟩
  | _ => o

end OpenFiles

end ShellSuite
