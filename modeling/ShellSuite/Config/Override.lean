import ShellSuite.Dict
import ShellSuite.Path
import ShellSuite.Text.Blank
import ShellSuite.Text.Debug

set_option autoImplicit false
set_option relaxedAutoImplicit false

/-!
Overrides: what the settings file of one directory says. Every setting is optional; collections add
to what is inherited, unless the matching flag clears it first.
-/

namespace ShellSuite

/-- Who runs the lines of tests: the commands of this library, or a shell. -/
inductive Format where
  | internal
  | external
  deriving DecidableEq, Repr

def Format.name : Format → String
  | .internal => "shtest"
  | .external => "shtest-external"

def Format.all : List Format := [.internal, .external]

inductive ExecRoot where
  | temp
  | underSuite
  | path (p : Path)
  deriving DecidableEq, Repr

def ExecRoot.ofText (s : String) : ExecRoot :=
  if s = "temp" then .temp else if s = "local" then .underSuite else .path ⟨s⟩

def ExecRoot.text : ExecRoot → String
  | .temp => "temp"
  | .underSuite => "local"
  | .path p => p.text

structure Override where
  name : Option String
  suffixes : List String
  clearSuffixes : Bool
  substitutions : Dict String
  clearSubstitutions : Bool
  env : Dict String
  clearEnv : Bool
  inheritEnv : Option Bool
  excludes : List String
  clearExcludes : Bool
  timeout : Option Nat
  format : Option Format
  features : List String
  clearFeatures : Bool
  commentMarker : Option String
  pipefail : Option Bool
  execRoot : Option ExecRoot
  deriving DecidableEq, Repr

namespace Override

def empty : Override :=
  ⟨none, [], false, .empty, false, .empty, false, none, [], false, none, none, [], false, none,
    none, none⟩

inductive Fault where
  | emptyName
  | emptySuffix
  | emptySubstitution
  | badVariable (name : String)
  | badExclude
  | zeroTimeout
  | blankMarker
  deriving DecidableEq, Repr

def Fault.message : Fault → String
  | .emptyName => "name must not be empty"
  | .emptySuffix => "suffixes must not be empty"
  | .emptySubstitution => "substitution keys must not be empty"
  | .badVariable name => "invalid environment variable name " ++ Text.debug name
  | .badExclude => "excludes must be single path segments"
  | .zeroTimeout => "timeout must be at least 1 second"
  | .blankMarker => "comment_marker must not be empty"

def bareSuffix (s : String) : String :=
  String.ofList (s.toList.dropWhile (· == '.'))

def isBlankText (s : String) : Bool :=
  s.toList.all Text.isBlank

/-- Whether a name cannot be given to a variable of a process. -/
def isBadVariable (name : String) : Bool :=
  name = "" || name.toList.contains '='

/-- Whether a name is no single segment of a path. -/
def isBadExclude (name : String) : Bool :=
  name = "" || name.toList.contains '/'

/-- The first value that cannot be honoured, in the order of the settings. -/
def fault? (o : Override) : Option Fault :=
  if o.name.any isBlankText then some .emptyName
  else if o.suffixes.any fun s => bareSuffix s = "" then some .emptySuffix
  else if o.substitutions.contains "" then some .emptySubstitution
  else
    match o.env.keys.find? isBadVariable with
    | some name => some (.badVariable name)
    | none =>
      if o.excludes.any isBadExclude then some .badExclude
      else if o.timeout = some 0 then some .zeroTimeout
      else if o.commentMarker.any isBlankText then some .blankMarker
      else none

end Override

end ShellSuite
