import ShellSuite.Config.File
import ShellSuite.Test

set_option autoImplicit false
set_option relaxedAutoImplicit false

/-!
Plans: the directives of a test by their kinds, and what they mean for a configuration.
-/

namespace ShellSuite

/-- The lines to run and the patterns to look for, and the features that decide whether a test is
run and whether it has to fail. -/
structure TestPlan where
  runs : List Directive
  checks : List Directive
  requires : List String
  unsupported : List String
  xfail : List String
  deriving DecidableEq, Repr

namespace TestPlan

def ofKind (kind : Directive.Kind) (ds : List Directive) : List Directive :=
  ds.filter (·.kind = kind)

def featuresOf (kind : Directive.Kind) (ds : List Directive) : List String :=
  (ofKind kind ds).flatMap fun d => Directive.features d.text

def ofDirectives (ds : List Directive) : TestPlan :=
  ⟨ofKind .run ds, ofKind .check ds, featuresOf .requires ds, featuresOf .unsupported ds,
    featuresOf .xfail ds⟩

def applies (c : Config) (feature : String) : Bool :=
  feature = "*" || c.hasFeature feature

/-- Why a test is not run under a configuration, if it is not. -/
def refusal? (p : TestPlan) (c : Config) : Option String :=
  match p.unsupported.find? (applies c) with
  | some feature => some ("UNSUPPORTED: " ++ feature)
  | none =>
    (p.requires.find? fun f => !applies c f).map fun feature =>
      "missing required feature '" ++ feature ++ "'"

def expectsFailure (p : TestPlan) (c : Config) : Bool :=
  p.xfail.any (applies c)

inductive Error where
  | unreadable (cause : OsError)
  | directive (cause : Directive.Error)
  deriving DecidableEq, Repr

def Error.message : Error → String
  | .unreadable cause => (LoadError.io cause).message
  | .directive cause => cause.message

end TestPlan

/-- The plan of a test. Bytes that are no text are replaced. -/
def Test.plan (t : Test) (fs : FileSystem) : Except TestPlan.Error TestPlan :=
  match fs.read t.path with
  | .error cause => .error (.unreadable cause)
  | .ok bytes =>
    match Directive.parse (Text.decodeLossy bytes) (t.config.markerFor t.path) with
    | .error cause => .error (.directive cause)
    | .ok ds => .ok (.ofDirectives ds)

end ShellSuite
