set_option autoImplicit false
set_option relaxedAutoImplicit false

/-!
What the operating system answers when it cannot do something.
-/

namespace ShellSuite

inductive OsError where
  | noEntry
  | execFormat
  | permission
  | busy
  | fileExists
  | notDirectory
  | isDirectory
  | invalid
  | brokenPipe
  | nameTooLong
  | notEmpty
  | linkLoop
  | nulInPath
  | nulInData
  | notUtf8
  | notRegular
  deriving DecidableEq, Repr

def OsError.reason : OsError → String
  | .noEntry => "No such file or directory"
  | .execFormat => "Exec format error"
  | .permission => "Permission denied"
  | .busy => "Device or resource busy"
  | .fileExists => "File exists"
  | .notDirectory => "Not a directory"
  | .isDirectory => "Is a directory"
  | .invalid => "Invalid argument"
  | .brokenPipe => "Broken pipe"
  | .nameTooLong => "File name too long"
  | .notEmpty => "Directory not empty"
  | .linkLoop => "Too many levels of symbolic links"
  | .nulInPath => "file name contained an unexpected NUL byte"
  | .nulInData => "nul byte found in provided data"
  | .notUtf8 => "stream did not contain valid UTF-8"
  | .notRegular => "the source path is neither a regular file nor a symlink to a regular file"

def OsError.number? : OsError → Option Nat
  | .noEntry => some 2
  | .execFormat => some 8
  | .permission => some 13
  | .busy => some 16
  | .fileExists => some 17
  | .notDirectory => some 20
  | .isDirectory => some 21
  | .invalid => some 22
  | .brokenPipe => some 32
  | .nameTooLong => some 36
  | .notEmpty => some 39
  | .linkLoop => some 40
  | _ => none

def OsError.message (e : OsError) : String :=
  match e.number? with
  | some n => e.reason ++ " (os error " ++ toString n ++ ")"
  | none => e.reason

end ShellSuite
