import ShellSuite.CommandLine.Perform
import ShellSuite.Files.Machine
import ShellSuite.Tool.Machine

set_option autoImplicit false
set_option relaxedAutoImplicit false

/-!
The program. It works on a copy of the files below the working directory; files that are new or have
changed at the end are written back.
-/

namespace ShellSuite

/-- Copies the files below a directory. -/
partial def copyTree (dir : String) (fs : FileSystem) : IO FileSystem := do
  let mut fs := fs
  for entry in ← (← IO.FS.realPath dir).readDir do
    let path := dir ++ "/" ++ entry.fileName
    if ← entry.path.isDir then
      fs ← copyTree path (fs.createDirs ⟨path⟩).1
    else
      let bytes ← IO.FS.readBinFile path
      fs := (fs.write ⟨path⟩ bytes.toList).toOption.getD fs
  return fs

/-- Writes back the files below a directory that are new or have changed. -/
partial def storeTree (before after : FileSystem) (dir : String) : IO Unit := do
  for (name, n) in (after.list ⟨dir⟩).toOption.getD [] do
    let path := dir ++ "/" ++ name
    if n.isDirectory then
      IO.FS.createDirAll path
      storeTree before after path
    else if n.isFile then
      let bytes := (after.read ⟨path⟩).toOption
      if bytes ≠ (before.read ⟨path⟩).toOption then
        IO.FS.writeBinFile path ⟨(bytes.getD []).toArray⟩

/-- Runs the command line on the files below the working directory. -/
def runOnDisk (args : List String) : IO UInt32 := do
  let home := toString (← IO.currentDir)
  let temp := (← IO.getEnv "TMPDIR").getD "/tmp"
  let start ← IO.monoMsNow
  let env := Dict.ofList [("PATH", "/usr/bin:/bin"), ("TMPDIR", temp)]
  let site : Site := ⟨Tool.machine, env, ⟨temp⟩, toString start⟩
  let files ← copyTree home (FileSystem.machine Tool.names ⟨home⟩ ⟨temp⟩)
  let world : World := ⟨files, 0, .fresh CancelToken.defaultGrace⟩
  let (answer, after) := CommandLine.answer site world args
  storeTree files after.files home
  IO.print answer.stdout
  IO.eprint answer.stderr
  return answer.exit.toUInt32

end ShellSuite

def main (args : List String) : IO UInt32 :=
  ShellSuite.runOnDisk args
