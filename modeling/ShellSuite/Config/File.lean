import ShellSuite.Config
import ShellSuite.Config.FromToml
import ShellSuite.Config.FromYaml
import ShellSuite.Files.Lookup

set_option autoImplicit false
set_option relaxedAutoImplicit false

/-!
Settings files, and the configuration of a directory.
-/

namespace ShellSuite

inductive LoadError where
  | io (cause : OsError)
  | yaml
  | toml
  | ambiguous
  | unsupported (extension : String)
  deriving DecidableEq, Repr

def LoadError.message : LoadError → String
  | .io cause => "failed to read file: " ++ cause.message
  | .yaml => "invalid YAML: not a document with settings"
  | .toml => "invalid TOML: not a table of settings"
  | .ambiguous => "both lit.yaml and lit.toml present (keep one)"
  | .unsupported extension =>
    "unsupported file format: " ++ extension ++ " (expected .yaml, .yml, or .toml)"

/-- Why a directory has no configuration. -/
inductive ConfigError where
  | load (path : Path) (cause : LoadError)
  | invalid (path : Path) (fault : Override.Fault)
  deriving DecidableEq, Repr

namespace ConfigError

def path : ConfigError → Path
  | .load path _ => path
  | .invalid path _ => path

def message : ConfigError → String
  | .load path cause => path.text ++ ": " ++ cause.message
  | .invalid path fault => path.text ++ ": " ++ fault.message

end ConfigError

namespace Override

def fileNames : List String := ["lit.yaml", "lit.toml"]

def isFileName (p : Path) : Bool :=
  p.fileName.any fileNames.contains

def find (fs : FileSystem) (dir : Path) : Except LoadError (Option Path) :=
  match (fileNames.map dir.child).filter fs.isFile with
  | [] => .ok none
  | [file] => .ok (some file)
  | _ => .error .ambiguous

/-- The settings in a text, by the extension of its file. A blank text has none. -/
def ofText (extension text : String) : Except LoadError Override :=
  if (Text.trim text).isEmpty then .ok .empty
  else if extension = "yaml" || extension = "yml" then
    match Yaml.override? text with
    | some o => .ok o
    | none => .error .yaml
  else if extension = "toml" then
    match Toml.override? text with
    | some o => .ok o
    | none => .error .toml
  else .error (.unsupported extension)

def load (fs : FileSystem) (file : Path) : Except LoadError Override :=
  match fs.readText file with
  | .error e => .error (.io e)
  | .ok text => ofText (file.extension.getD "") text

/-- The settings of a directory, if it has a settings file: they are loaded and have no fault. -/
def ofDirectory (fs : FileSystem) (dir : Path) : Except ConfigError (Option Override) :=
  match find fs dir with
  | .error cause => .error (.load dir cause)
  | .ok none => .ok none
  | .ok (some file) =>
    match load fs file with
    | .error cause => .error (.load file cause)
    | .ok o =>
      match o.fault? with
      | some fault => .error (.invalid file fault)
      | none => .ok (some o)

end Override

namespace Config

/-- A configuration with the settings of a directory laid over it, if there are any. -/
def under (c : Config) (dir : Path) : Option Override → Config
  | none => c
  | some o => c.merge dir o

def resolve (fs : FileSystem) (dir : Path) (parent : Config) : Except ConfigError Config :=
  parent.under dir <$> Override.ofDirectory fs dir

def ofRoot (fs : FileSystem) (root : Path) : Except ConfigError Config :=
  resolve fs root (initial root)

end Config

end ShellSuite
