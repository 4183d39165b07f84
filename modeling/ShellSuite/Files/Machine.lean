import ShellSuite.Files.Change

set_option autoImplicit false
set_option relaxedAutoImplicit false

/-!
The machine that suites run on: its tools, the null device, and two empty directories.
-/

namespace ShellSuite.FileSystem

/-- A machine with tools of these names, on which relative paths start in `home` and temporary files
go to `temp`. -/
def machine (tools : List String) (home temp : Path) : FileSystem :=
  let toolEntries := tools.foldl (fun es t => Dict.insertEntry t (.tool t) es) []
  let root : Node := .directory [
    ("bin", .link "usr/bin"),
    ("dev", .directory [("null", .null)]),
    ("usr", .directory [("bin", .directory toolEntries)])]
  let fs : FileSystem := ⟨root, #[], home⟩
  ((fs.createDirs home).1.createDirs temp).1

/-- Puts something at a path below the home directory; directories around it are made. -/
def place (fs : FileSystem) (p : Path) (put : FileSystem → Path → Except OsError FileSystem) :
    FileSystem :=
  let p := fs.absolute p
  let fs := (fs.createDirs (p.parent.getD ⟨"/"⟩)).1
  match put fs p with
  | .ok fs => fs
  | .error _ => fs

end ShellSuite.FileSystem
