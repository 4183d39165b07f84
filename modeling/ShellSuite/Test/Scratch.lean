import ShellSuite.Config.Override
import ShellSuite.Files.Change

set_option autoImplicit false
set_option relaxedAutoImplicit false

/-!
Scratch directories, in which tests run.
-/

namespace ShellSuite.Scratch

def runDir (suite : Path) (stamp : String) : Path :=
  (suite.child ".shlit").child stamp

def base (temp suite : Path) (stamp : String) : ExecRoot → Path
  | .temp => temp
  | .underSuite => runDir suite stamp
  | .path p => p

def digits : List Char := "abcdefghijklmnopqrstuvwxyz".toList

def suffix : Nat → Nat → List Char
  | 0, _ => []
  | n + 1, k => suffix n (k / digits.length) ++ [digits.getD (k % digits.length) 'a']

def name (k : Nat) : String :=
  "shlit-" ++ String.ofList (suffix 6 k)

def freshName (fs : FileSystem) (dir : Path) : String :=
  let taken := ((fs.list dir).toOption.getD []).map (·.1)
  match (List.range (taken.length + 1)).find? fun k => !taken.contains (name k) with
  | some k => name k
  | none => name 0

def create (fs : FileSystem) (dir : Path) : FileSystem × Except OsError Path :=
  match fs.createDirs dir with
  | (fs, some e) => (fs, .error e)
  | (fs, none) =>
    let path := (fs.absolute dir).child (freshName fs dir)
    match fs.createDir path with
    | .ok fs => (fs, .ok path)
    | .error e => (fs, .error e)

def removeRunDirs (fs : FileSystem) (dirs : List Path) : FileSystem :=
  dirs.foldl (fun fs dir =>
    match fs.removeDir dir with
    | .error _ => fs
    | .ok fs =>
      match dir.parent with
      | some parent => (fs.removeDir parent).toOption.getD fs
      | none => fs) fs

end ShellSuite.Scratch
