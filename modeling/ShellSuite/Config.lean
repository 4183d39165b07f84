import ShellSuite.Config.Override
import ShellSuite.Directive
import ShellSuite.Duration

set_option autoImplicit false
set_option relaxedAutoImplicit false

/-!
Configurations: what holds in a directory, made by laying overrides over the defaults of a suite.
-/

namespace ShellSuite

structure Config where
  name : String
  suffixes : NameSet
  substitutions : Dict String
  env : Dict String
  inheritEnv : Bool
  excludes : NameSet
  timeout : Option Duration
  format : Format
  features : NameSet
  commentMarker : Option String
  pipefail : Bool
  sourceRoot : Path
  execRoot : ExecRoot
  deriving DecidableEq, Repr

namespace Config

def hostFeatures : NameSet :=
  .ofNames ["linux", "unix", "x86_64"]

def initial (root : Path) : Config :=
  ⟨root.fileName.getD "tests", .empty, .empty, .empty, true, .empty, none, .internal, hostFeatures,
    none, false, root, .temp⟩

def extendNames (clear : Bool) (inherited : NameSet) (names : List String) : NameSet :=
  (if clear then .empty else inherited).insertNames names

def extendMap (clear : Bool) (inherited added : Dict String) : Dict String :=
  (if clear then .empty else inherited).overlay added

def resolveRoot (dir : Path) : ExecRoot → ExecRoot
  | .path p => .path (if p.isAbsolute then p else dir.join p)
  | r => r

def merge (c : Config) (dir : Path) (o : Override) : Config where
  name := o.name.getD c.name
  suffixes := extendNames o.clearSuffixes c.suffixes (o.suffixes.map Override.bareSuffix)
  substitutions := extendMap o.clearSubstitutions c.substitutions o.substitutions
  env := extendMap o.clearEnv c.env o.env
  inheritEnv := o.inheritEnv.getD c.inheritEnv
  excludes := extendNames o.clearExcludes c.excludes o.excludes
  timeout := (o.timeout.map Duration.ofSeconds).or c.timeout
  format := o.format.getD c.format
  features := extendNames o.clearFeatures c.features o.features
  commentMarker := o.commentMarker.or c.commentMarker
  pipefail := o.pipefail.getD c.pipefail
  sourceRoot := c.sourceRoot
  execRoot := (o.execRoot.map (resolveRoot dir)).getD c.execRoot

def hasFeature (c : Config) (feature : String) : Bool :=
  c.features.contains feature

def isTestFile (c : Config) (file : Path) : Bool :=
  file.extension.any c.suffixes.contains

/-- Whether a file or directory is left out by its name. -/
def isExcluded (c : Config) (name : String) : Bool :=
  c.excludes.contains name

def markerFor (c : Config) (file : Path) : String :=
  c.commentMarker.getD (Directive.defaultMarker file)

end Config

end ShellSuite
