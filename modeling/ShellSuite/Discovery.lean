import ShellSuite.Config.File
import ShellSuite.Test

set_option autoImplicit false
set_option relaxedAutoImplicit false

/-!
Discovery: the tests below a directory, found one after the other in the order of names. A walk goes
over the tree and comes to one entry at a time. A directory is listed when its turn comes, so that
what happens in between can be seen. The search keeps a map from the directories it has entered to
what holds there, and judges an entry by what the map has for the directory around it. It knows
nothing of entries whose directory is not in the map.
-/

namespace ShellSuite

inductive Discovery.Item where
  | test (t : Test)
  | broken (cause : ConfigError)
  | unreadable (path : Path) (cause : OsError)

namespace Discovery

def Item.path : Item → Path
  | .test t => t.path
  | .broken cause => cause.path
  | .unreadable path _ => path

def walkMessage (path : Path) (cause : OsError) : String :=
  "IO error for operation on " ++ path.text ++ ": " ++ cause.message

/-- A configuration and the directory whose settings made it. -/
structure Scope where
  config : Config
  directory : Path

/-! ### Walking a tree -/

/-- What a directory has to offer: an entry, with whether it is a directory itself; or, in place of
all entries, the reason why they cannot be read. -/
inductive Entry where
  | named (name : String) (isDir : Bool)
  | fault (cause : OsError)

structure Level where
  path : Path
  entries : List Entry

def Level.ofDirectory (fs : FileSystem) (dir : Path) : Level :=
  match fs.list dir with
  | .error cause => ⟨dir, [.fault cause]⟩
  | .ok es => ⟨dir, es.map fun e => .named e.1 e.2.isDirectory⟩

/-- A walk over a tree. The start is kept as long as it has not been looked at; then there are the
open directories, the innermost one first. -/
structure Walker where
  start : Option Path
  levels : List Level

inductive Sight where
  | start (path : Path) (isDir : Bool)
  | entry (path : Path) (name : String) (isDir : Bool)
  | fault (path : Path) (cause : OsError)

namespace Walker

/-- Looks at the start and opens it. A link is no directory, but the directory it leads to is opened
all the same. -/
def visitStart (fs : FileSystem) (path : Path) : Sight × List Level :=
  match fs.node false path with
  | .error cause => (.fault path cause, [])
  | .ok n =>
    if n.isDirectory then (.start path true, [.ofDirectory fs path])
    else if n.isLink then
      match fs.node true path with
      | .error cause => (.fault path cause, [])
      | .ok target =>
        (.start path false, if target.isDirectory then [.ofDirectory fs path] else [])
    else (.start path false, [])

/-- One step: what the walk comes to, unless it only leaves a directory, and the walk that is left. A
directory is open from the moment it is come to. -/
def step (fs : FileSystem) : Walker → Option (Option Sight × Walker)
  | ⟨some path, _⟩ =>
    let (sight, levels) := visitStart fs path
    some (some sight, ⟨none, levels⟩)
  | ⟨none, []⟩ => none
  | ⟨none, ⟨_, []⟩ :: outer⟩ => some (none, ⟨none, outer⟩)
  | ⟨none, ⟨dir, .fault cause :: entries⟩ :: outer⟩ =>
    some (some (.fault dir cause), ⟨none, ⟨dir, entries⟩ :: outer⟩)
  | ⟨none, ⟨dir, .named name isDir :: entries⟩ :: outer⟩ =>
    let path := dir.child name
    let rest := ⟨dir, entries⟩ :: outer
    some (some (.entry path name isDir),
      ⟨none, if isDir then .ofDirectory fs path :: rest else rest⟩)

/-- Leaves the innermost directory, whatever is still to come there. -/
def skip (w : Walker) : Walker :=
  { w with levels := w.levels.tail }

end Walker

/-! ### Searching for tests -/

abbrev Scopes := List (List Path.Component × Scope)

/-- The state of a search. The scope at its root is that of the start. -/
structure Search where
  root : Scope
  walker : Walker
  scopes : Scopes

def isHidden (c : Config) (name : String) : Bool :=
  name.toList.head? = some '.' || c.isExcluded name

/-- What holds in a directory: settings that change nothing make no new scope. -/
def enter (fs : FileSystem) (dir : Path) (parent : Scope) : Except ConfigError Scope := do
  let config ← Config.resolve fs dir parent.config
  return if config = parent.config then parent else ⟨config, dir⟩

def testOf? (scope : Scope) (file : Path) : Option Test :=
  if !Override.isFileName file && scope.config.isTestFile file then
    some (.ofFile file scope.config scope.directory)
  else none

namespace Search

def scopeOf? (s : Search) (dir : Path) : Option Scope :=
  s.scopes.lookup dir.components

def record (s : Search) (dir : Path) (scope : Scope) : Search :=
  { s with scopes := (dir.components, scope) :: s.scopes }

def skip (s : Search) : Search :=
  { s with walker := s.walker.skip }

/-- What a search makes of an entry. Nothing is known of an entry if its directory has not been
entered; an entry that is passed over, or whose settings are broken, is left at once. -/
def lookAtEntry (fs : FileSystem) (s : Search) (path : Path) (name : String) (isDir : Bool) :
    Option Item × Search :=
  match path.parent.bind s.scopeOf? with
  | none => (none, s)
  | some scope =>
    if isHidden scope.config name then (none, if isDir then s.skip else s)
    else if isDir then
      match enter fs path scope with
      | .error cause => (some (.broken cause), s.skip)
      | .ok inner => (none, s.record path inner)
    else ((testOf? scope path).map .test, s)

/-- What a search makes of what its walk comes to. The start is entered if it is a directory; a file
may be a test whatever its name. -/
def lookAt (fs : FileSystem) (s : Search) : Sight → Option Item × Search
  | .fault path cause => (some (.unreadable path cause), s)
  | .start path true => (none, s.record path s.root)
  | .start path false =>
    if s.root.config.isTestFile path then
      (some (.test (.ofFile path s.root.config s.root.directory)), s)
    else (none, s)
  | .entry path name isDir => s.lookAtEntry fs path name isDir

/-- The next step of a search: what it finds, and the search that is left; nothing is left at the
end. -/
def step (fs : FileSystem) (s : Search) : Option (Option Item × Search) :=
  match s.walker.step fs with
  | none => none
  | some (none, w) => some (none, { s with walker := w })
  | some (some sight, w) => some (lookAt fs { s with walker := w } sight)

/-- The first item that is found in at most so many steps. -/
def nextWithin (fs : FileSystem) (s : Search) : Nat → Option (Item × Search)
  | 0 => none
  | n + 1 =>
    match s.step fs with
    | none => none
    | some (some item, s) => some (item, s)
    | some (none, s) => nextWithin fs s n

end Search

/-- The directory whose settings hold at the start: the start itself, or the directory of a file. -/
def rootOf (fs : FileSystem) (path : Path) : Path :=
  if fs.isFile path then
    match path.parent with
    | some parent => if parent.text = "" then ⟨"."⟩ else parent
    | none => ⟨"."⟩
  else path

def start (fs : FileSystem) (path : Path) : Except ConfigError Search := do
  let root := rootOf fs path
  let config ← Config.ofRoot fs root
  return ⟨⟨config, root⟩, ⟨some path, []⟩, []⟩

mutual

def nodeCount : Node → Nat
  | .directory es => entryCount es + 1
  | _ => 1

def entryCount : List (String × Node) → Nat
  | [] => 0
  | (_, n) :: es => nodeCount n + entryCount es

end

/-- Steps that suffice to look at a whole tree: three for each node, and three for the start. -/
def enough (fs : FileSystem) : Nat :=
  3 * nodeCount fs.root + 3

/-- Steps that suffice to come to the end of a search, also if the open directories have been listed
in another tree: each of their entries may be a directory with all of the tree below it. -/
def Search.stepsLeft (fs : FileSystem) (s : Search) : Nat :=
  enough fs * s.walker.levels.foldr (fun l n => l.entries.length + 1 + n) 1

def Search.next (fs : FileSystem) (s : Search) : Option (Item × Search) :=
  s.nextWithin fs (s.stepsLeft fs)

def Search.all (fs : FileSystem) (s : Search) : List Item :=
  collect (enough fs) s
where
  /-- The items found in at most so many steps. -/
  collect : Nat → Search → List Item
    | 0, _ => []
    | n + 1, s =>
      match s.step fs with
      | none => []
      | some (item, s) => item.toList ++ collect n s

end Discovery

end ShellSuite
