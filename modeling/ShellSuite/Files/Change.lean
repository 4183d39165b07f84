import ShellSuite.Files.Lookup

set_option autoImplicit false
set_option relaxedAutoImplicit false

/-!
Changes of a file tree, with the failures the operating system reports, in its order.
-/

namespace ShellSuite

inductive Sink where
  | file (id : Nat)
  | null
  deriving DecidableEq, Repr

namespace FileSystem

/-- The outcome of a change: a failed one leaves everything as it was. -/
def attempt (fs : FileSystem) (change : FileSystem → Except OsError FileSystem) :
    FileSystem × Option OsError :=
  match change fs with
  | .ok fs => (fs, none)
  | .error e => (fs, some e)

def createDir (fs : FileSystem) (p : Path) : Except OsError FileSystem := do
  let place ← fs.resolve false (bare p)
  match place.node, place.ending with
  | none, .name =>
    let (dir, name) := place.split
    return fs.put dir name (.directory [])
  | _, _ => throw .fileExists

/-- Makes a directory and those around it, for paths of at most so many components. A change that
was made before a failure stays. -/
def createDirsWithin : Nat → FileSystem → Path → FileSystem × Option OsError
  | 0, fs, _ => (fs, none)
  | n + 1, fs, p =>
    if p.components.isEmpty then (fs, none)
    else
      match fs.createDir p with
      | .ok fs => (fs, none)
      | .error .noEntry =>
        match p.parent with
        | none => (fs, some .noEntry)
        | some parent =>
          match createDirsWithin n fs parent with
          | (fs, some e) => (fs, some e)
          | (fs, none) =>
            match fs.createDir p with
            | .ok fs => (fs, none)
            | .error e => (fs, if fs.isDirectory p then none else some e)
      | .error e => (fs, if fs.isDirectory p then none else some e)

def createDirs (fs : FileSystem) (p : Path) : FileSystem × Option OsError :=
  createDirsWithin (p.components.length + 1) fs p

/-- Opens a path for writing; a file that is not there is made. -/
def openWrite (fs : FileSystem) (truncate : Bool) (p : Path) :
    Except OsError (FileSystem × Sink) := do
  let place ← fs.lookUp .create p
  match place.node with
  | none =>
    let (dir, name) := place.split
    let (fs, id) := fs.putFile dir name [] false
    return (fs, .file id)
  | some (.file id _) => return (if truncate then fs.setBytes id [] else fs, .file id)
  | some .null => return (fs, .null)
  | some (.directory _) => throw .isDirectory
  | some _ => throw .permission

def write (fs : FileSystem) (p : Path) (bytes : Bytes) : Except OsError FileSystem := do
  match ← fs.openWrite true p with
  | (fs, .file id) => return fs.setBytes id bytes
  | (fs, .null) => return fs

def setExecutable (fs : FileSystem) (p : Path) (executable : Bool) : Except OsError FileSystem := do
  let (place, n) ← fs.locate true p
  match n with
  | .file id _ =>
    let (dir, name) := place.split
    return fs.put dir name (.file id executable)
  | _ => return fs

def createLink (fs : FileSystem) (target : String) (p : Path) : Except OsError FileSystem := do
  let place ← fs.resolve false p
  match place.node with
  | none =>
    let (dir, name) := place.split
    return fs.put dir name (.link target)
  | some _ => throw .fileExists

def removeFile (fs : FileSystem) (p : Path) : Except OsError FileSystem := do
  let (place, n) ← fs.locate false p
  if n.isDirectory then throw .isDirectory
  else
    let (dir, name) := place.split
    return fs.drop dir name

def removeDir (fs : FileSystem) (p : Path) : Except OsError FileSystem := do
  let (place, n) ← fs.locate false (bare p)
  match place.ending with
  | .root => throw .busy
  | .here => throw .invalid
  | .up => throw .notEmpty
  | .name =>
    if !n.isDirectory then throw .notDirectory
    else if !n.entries.isEmpty then throw .notEmpty
    else
      let (dir, name) := place.split
      return fs.drop dir name

/-- Removes a directory with all it holds; what it held goes first. A link is removed itself. -/
def removeAll (fs : FileSystem) (p : Path) : FileSystem × Option OsError :=
  match fs.locate false p with
  | .error e => (fs, some e)
  | .ok (place, n) =>
    if n.isDirectory then
      let emptied := { fs with root := fs.root.alter (fun _ => []) place.names }
      match emptied.removeDir p with
      | .ok fs => (fs, none)
      | .error e => (emptied, some e)
    else if n.isLink then fs.attempt (·.removeFile p)
    else (fs, some .notDirectory)

def sameFile : Node → Node → Bool
  | .file a _, .file b _ => a = b
  | _, _ => false

def rename (fs : FileSystem) (source target : Path) : Except OsError FileSystem := do
  let endsInSlash (p : Path) : Bool := p.text.toList.getLast? = some '/'
  let old ← fs.resolve false (bare source)
  let new ← fs.resolve false (bare target)
  if old.ending ≠ .name || new.ending ≠ .name then throw .busy
  match old.node with
  | none => throw .noEntry
  | some n =>
    if !n.isDirectory && (endsInSlash source || endsInSlash target) then throw .notDirectory
    if n.isDirectory && old.names.isPrefixOf new.names && old.names ≠ new.names then throw .invalid
    if new.names.isPrefixOf old.names && old.names ≠ new.names then throw .notEmpty
    if old.names = new.names then return fs
    match new.node with
    | some m =>
      if sameFile n m then return fs
      if n.isDirectory && !m.isDirectory then throw .notDirectory
      if !n.isDirectory && m.isDirectory then throw .isDirectory
      if !m.entries.isEmpty then throw .notEmpty
    | none => pure ()
    let (oldDir, oldName) := old.split
    let (newDir, newName) := new.split
    return (fs.drop oldDir oldName).put newDir newName n

/-- Copies a file. The target is emptied before the source is read. -/
def copy (fs : FileSystem) (source target : Path) : Except OsError FileSystem := do
  match ← fs.node true source with
  | .file id executable =>
    let (fs, sink) ← fs.openWrite true target
    match sink with
    | .file new => (fs.setBytes new (fs.bytesOf id)).setExecutable target executable
    | .null => return fs
  | _ => throw .notRegular

end FileSystem

end ShellSuite
