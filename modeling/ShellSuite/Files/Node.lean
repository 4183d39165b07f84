import ShellSuite.Dict
import ShellSuite.Files.OsError
import ShellSuite.Path
import ShellSuite.Text.Utf8

set_option autoImplicit false
set_option relaxedAutoImplicit false

/-!
Trees of files. What a file holds is kept beside the tree under a number, so that an open file
outlives its name.
-/

namespace ShellSuite

/-- A node of a file tree. The entries of a directory are sorted by name. The null device swallows
what is written to it; a tool is a program of the machine. -/
inductive Node where
  | file (id : Nat) (executable : Bool)
  | directory (entries : List (String × Node))
  | link (target : String)
  | null
  | tool (name : String)
  deriving Inhabited

/-- A file tree, the contents of its files by number, and the directory where relative paths
start. -/
structure FileSystem where
  root : Node
  contents : Array Bytes
  home : Path

namespace Node

def isDirectory : Node → Bool
  | .directory _ => true
  | _ => false

def isLink : Node → Bool
  | .link _ => true
  | _ => false

def isFile : Node → Bool
  | .file _ _ => true
  | .tool _ => true
  | _ => false

def entries : Node → List (String × Node)
  | .directory es => es
  | _ => []

def child? (n : Node) (name : String) : Option Node :=
  (n.entries.find? fun e => e.1 = name).map (·.2)

def descend? : List String → Node → Option Node
  | [], n => some n
  | name :: names, n =>
    match n.child? name with
    | some c => descend? names c
    | none => none

def alter (change : List (String × Node) → List (String × Node)) : List String → Node → Node
  | [], .directory es => .directory (change es)
  | name :: names, .directory es =>
    .directory (es.map fun e => if e.1 = name then (e.1, alter change names e.2) else e)
  | _, n => n

end Node

namespace FileSystem

def put (fs : FileSystem) (dir : List String) (name : String) (n : Node) : FileSystem :=
  { fs with root := fs.root.alter (Dict.insertEntry name n) dir }

def drop (fs : FileSystem) (dir : List String) (name : String) : FileSystem :=
  { fs with root := fs.root.alter (fun es => es.filter fun e => e.1 ≠ name) dir }

def putFile (fs : FileSystem) (dir : List String) (name : String) (bytes : Bytes)
    (executable : Bool) : FileSystem × Nat :=
  let id := fs.contents.size
  ({ fs with contents := fs.contents.push bytes }.put dir name (.file id executable), id)

def bytesOf (fs : FileSystem) (id : Nat) : Bytes :=
  fs.contents.getD id []

def setBytes (fs : FileSystem) (id : Nat) (bytes : Bytes) : FileSystem :=
  { fs with contents := fs.contents.setIfInBounds id bytes }

end FileSystem

end ShellSuite
