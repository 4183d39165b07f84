import ShellSuite.Files.Node

set_option autoImplicit false
set_option relaxedAutoImplicit false

/-!
Finding the node a path leads to. Links are followed on the way, up to forty of them.
-/

namespace ShellSuite

/-- How a path ends: at the root, in `.`, in `..` or in a name. -/
inductive PathEnd where
  | root
  | here
  | up
  | name
  deriving DecidableEq, Repr

/-- Where a path leads: names from the root, the node there if there is one, how the path ends, and
whether a slash follows its end. -/
structure Place where
  names : List String
  node : Option Node
  ending : PathEnd
  slash : Bool

/-- What is done with a link at the end of a path: it is kept, followed, or followed to a file that
is to be made if it is missing. -/
inductive LastLink where
  | keep
  | follow
  | create
  deriving DecidableEq, Repr

def Place.split (p : Place) : List String × String :=
  (p.names.dropLast, p.names.getLast?.getD "")

namespace FileSystem

def maxName : Nat := 255

def maxPath : Nat := 4096

def maxLinks : Nat := 40

def steps (path : String) : List String :=
  (Text.split path '/').filter (· ≠ "")

/-- The entry with a name in the directory `here`, whose names are in reverse. -/
def entryAt? (root : Node) (here : List String) (name : String) : Option Node :=
  (root.descend? here.reverse).bind (·.child? name)

/-- Follows names from the directory `here`, whose names are in reverse. A last name with a slash
behind it is followed too, but no file can be made there. -/
def walk (root : Node) (last : LastLink) (slash : Bool) (links : Nat) (here : List String)
    (ending : PathEnd) (names : List String) : Except OsError Place :=
  match names with
  | [] => .ok ⟨here.reverse, root.descend? here.reverse, ending, slash⟩
  | name :: rest =>
    if name = "." then walk root last slash links here .here rest
    else if name = ".." then walk root last slash links here.tail .up rest
    else if rest.isEmpty && slash && last = .create then .error .isDirectory
    else if maxName < name.utf8ByteSize then .error .nameTooLong
    else
      match entryAt? root here name with
      | none =>
        if rest.isEmpty then .ok ⟨(name :: here).reverse, none, .name, slash⟩ else .error .noEntry
      | some (.directory _) => walk root last slash links (name :: here) .name rest
      | some (.link target) =>
        if rest.isEmpty && last = .keep && !slash then
          .ok ⟨(name :: here).reverse, some (.link target), .name, slash⟩
        else if target = "" then .error .noEntry
        else
          match links with
          | 0 => .error .linkLoop
          | links + 1 =>
            let start := if target.toList.head? = some '/' then [] else here
            let slash := slash || (rest.isEmpty && target.toList.getLast? = some '/')
            walk root last slash links start .root (steps target ++ rest)
      | some node =>
        if !rest.isEmpty || slash then .error .notDirectory
        else .ok ⟨(name :: here).reverse, some node, .name, slash⟩
termination_by (links, names.length)

def absolute (fs : FileSystem) (p : Path) : Path :=
  if p.isAbsolute then p else fs.home.join p

/-- A path without the slashes at its end, unless it has nothing else. -/
def bare (p : Path) : Path :=
  let text := (p.text.toList.reverse.dropWhile (· == '/')).reverse
  if text.isEmpty then p else ⟨String.ofList text⟩

def lookUp (fs : FileSystem) (last : LastLink) (p : Path) : Except OsError Place :=
  if p.text.toList.contains (Char.ofNat 0) then .error .nulInPath
  else if p.text = "" then .error .noEntry
  else if maxPath ≤ p.text.utf8ByteSize then .error .nameTooLong
  else
    let text := (fs.absolute p).text
    walk fs.root last (text.toList.getLast? = some '/') maxLinks [] .root (steps text)

/-- Where a path leads; a link at its end is followed or not. -/
def resolve (fs : FileSystem) (follow : Bool) (p : Path) : Except OsError Place :=
  fs.lookUp (if follow then .follow else .keep) p

def locate (fs : FileSystem) (follow : Bool) (p : Path) : Except OsError (Place × Node) := do
  let place ← fs.resolve follow p
  match place.node with
  | some n => return (place, n)
  | none => throw .noEntry

/-- The node a path leads to; a link at its end is followed or not. -/
def node (fs : FileSystem) (follow : Bool) (p : Path) : Except OsError Node :=
  (·.2) <$> fs.locate follow p

def pathExists (fs : FileSystem) (p : Path) : Bool :=
  (fs.node true p).isOk

def isDirectory (fs : FileSystem) (p : Path) : Bool :=
  match fs.node true p with
  | .ok n => n.isDirectory
  | .error _ => false

def isFile (fs : FileSystem) (p : Path) : Bool :=
  match fs.node true p with
  | .ok n => n.isFile
  | .error _ => false

def read (fs : FileSystem) (p : Path) : Except OsError Bytes := do
  match ← fs.node true p with
  | .file id _ => return fs.bytesOf id
  | .directory _ => throw .isDirectory
  | _ => return []

def readText (fs : FileSystem) (p : Path) : Except OsError String := do
  match Text.decode? (← fs.read p) with
  | some s => return s
  | none => throw .notUtf8

def list (fs : FileSystem) (p : Path) : Except OsError (List (String × Node)) := do
  match ← fs.node true p with
  | .directory es => return es
  | _ => throw .notDirectory

end FileSystem

end ShellSuite
