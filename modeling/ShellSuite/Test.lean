import ShellSuite.Config

set_option autoImplicit false
set_option relaxedAutoImplicit false

/-!
Tests: files with the configuration of their directory.
-/

namespace ShellSuite

/-- A test. Tests with the same `scope` share one configuration: it is the directory whose settings
made it. -/
structure Test where
  path : Path
  name : String
  config : Config
  scope : Path
  deriving DecidableEq, Repr

namespace Test

/-- The name of a test: its path below the root of the suite, with single slashes. -/
def displayName (path root : Path) : String :=
  match path.below? root with
  | some (c :: cs) => Text.join "/" ((c :: cs).map Path.Component.text)
  | _ => path.fileName.getD (Text.join "/" (path.components.map Path.Component.text))

def ofFile (path : Path) (config : Config) (scope : Path) : Test :=
  ⟨path, displayName path config.sourceRoot, config, scope⟩

end Test

end ShellSuite
