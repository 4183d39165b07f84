import ShellSuite.Config.Field
import ShellSuite.Json

set_option autoImplicit false
set_option relaxedAutoImplicit false

/-!
The JSON schema of settings files.
-/

namespace ShellSuite.Override

def Field.description : Field → String
  | .name => "Suite name."
  | .suffixes => "File suffixes (without the dot) that mark a file as a test."
  | .clearSuffixes => "Drop inherited suffixes before adding `suffixes`."
  | .substitutions => "Literal substitutions applied to RUN lines, e.g. `\"%cc\": \"clang\"`."
  | .clearSubstitutions => "Drop inherited substitutions before adding `substitutions`."
  | .env => "Environment variables for every command."
  | .clearEnv => "Drop inherited environment variables before adding `env`."
  | .inheritEnv => "Pass the host environment through to commands (default: true)."
  | .excludes => "Directory or file names that are never descended into or run."
  | .clearExcludes => "Drop inherited exclusions before adding `excludes`."
  | .timeout => "Per-test timeout in seconds."
  | .format => "Interpreter strategy: `shtest` or `shtest-external`."
  | .features => "Features available to REQUIRES / UNSUPPORTED / XFAIL."
  | .clearFeatures => "Drop inherited features (including host features) before adding `features`."
  | .commentMarker => "Comment marker that introduces directives (default depends on the suffix)."
  | .pipefail => "Use the first failing stage's exit code as the pipeline's exit code."
  | .execRoot => "Where scratch directories go: \"temp\", \"local\", or a path."

inductive Kind where
  | text
  | flag
  | optionalFlag
  | texts
  | table
  | number
  | named (definition : String)

def Field.kind : Field → Kind
  | .name | .commentMarker => .text
  | .suffixes | .excludes | .features => .texts
  | .clearSuffixes | .clearSubstitutions | .clearEnv | .clearExcludes | .clearFeatures => .flag
  | .substitutions | .env => .table
  | .inheritEnv | .pipefail => .optionalFlag
  | .timeout => .number
  | .format => .named "FormatKind"
  | .execRoot => .named "ExecRoot"

def orNull (type : String) : Json :=
  .arr [.str type, .str "null"]

def ofType (type : String) : Json :=
  .obj [("type", .str type)]

def Kind.schema : Kind → Json × List (String × Json)
  | .text => (.null, [("type", orNull "string")])
  | .flag => (.bool false, [("type", .str "boolean")])
  | .optionalFlag => (.null, [("type", orNull "boolean")])
  | .texts => (.arr [], [("type", .str "array"), ("items", ofType "string")])
  | .table => (.obj [], [("type", .str "object"), ("additionalProperties", ofType "string")])
  | .number =>
    (.null, [("type", orNull "integer"), ("format", .str "uint64"), ("minimum", .real ⟨0, 0⟩)])
  | .named definition =>
    let reference := .obj [("$ref", .str ("#/definitions/" ++ definition))]
    (.null, [("anyOf", .arr [reference, ofType "null"])])

def Field.schema (f : Field) : Json :=
  .obj ([("description", .str f.description), ("default", f.kind.schema.1)] ++ f.kind.schema.2)

def constant (description value : String) : Json :=
  .obj [
    ("description", .str description),
    ("type", .str "string"),
    ("enum", .arr [.str value])]

def choice (description : String) (cases : List Json) : Json :=
  .obj [("description", .str description), ("oneOf", .arr cases)]

def definitions : List (String × Json) := [
  ("ExecRoot", choice "Where per-test scratch directories are created." [
    constant "The system temp directory." "Temp",
    constant "`.shlit/<timestamp>/` under the suite source root." "Local",
    .obj [
      ("description", .str "A specific directory."),
      ("type", .str "object"),
      ("required", .arr [.str "Path"]),
      ("properties", .obj [("Path", ofType "string")]),
      ("additionalProperties", .bool false)]]),
  ("FormatKind", choice "Interpreter strategy used to run a directory's tests." [
    constant "RUN lines are executed by the built-in shell interpreter." "shtest",
    constant "RUN lines are handed to `/bin/sh -c` after substitution." "shtest-external"])]

/-- The schema of a settings file; its fields are sorted by key. -/
def schema : Json :=
  .obj [
    ("$schema", .str "http://json-schema.org/draft-07/schema#"),
    ("title", .str "LocalConfig"),
    ("description", .str ("Contents of a `lit.yaml` / `lit.toml` override file.\n\n" ++
      "Every field is optional. Collection fields extend the inherited value unless the " ++
      "matching `clear_*` flag is set, in which case they replace it.")),
    ("type", .str "object"),
    ("properties",
      .obj (Dict.ofList (Field.all.map fun f => (f.key, f.schema))).entries),
    ("additionalProperties", .bool false),
    ("definitions", .obj definitions)]

end ShellSuite.Override
