import DocSchema.Artifact
import DocSchema.Compile
import DocSchema.FileTree
import DocSchema.Toml.Table

/-!
# Errors of a run and their reports
-/
namespace DocSchema.CommandLine

inductive RunError where
  | file (fault : FileFault)
  | missingConfig (path : String)
  | config (fault : Option Toml.Fault)
  | compile (source : String) (error : CompileError)
  | artifact (failure : Artifact.Failure)

namespace RunError

def message : RunError → String
  | .file fault => s!"I/O error: {fault.message}"
  | .missingConfig path => s!"I/O error: Missing configuration file: {path}"
  | .config fault =>
    let reason := match fault with
      | some fault => fault.message
      | none => "a value has the wrong type"
    s!"I/O error: Failed to parse TOML configuration: {reason}"
  | .compile _ e => Diagnostics.summary e.diagnostics
  | .artifact failure => s!"Export error: {failure.message}"

end RunError

/-- What is shown of one problem. Only problems of the source have a severity and labels. -/
structure Report where
  message : String
  code : Option String
  help : Option String
  severity : Option Severity
  labels : List Label

namespace Report

def ofDiagnostic (d : Diagnostic) : Report :=
  ⟨d.message, d.code.map (·.name), d.help, some d.severity, d.labels⟩

/-- The last part of the code of a failure, and a hint. -/
def failureHint : Artifact.Failure → String × Option String
  | .unsupported .. =>
    ("unsupported_content",
      some "the other backends are unaffected; restructure the content to export it here")
  | .invalidName .. =>
    ("invalid_name", some "XML names start with a letter or `_` and hold no spaces or colons")
  | .nameCollision .. =>
    ("name_collision", some "give one of the structures a distinct `tagName`")
  | .noSampleValue .. =>
    ("no_sample_value",
      some "add an `Example Value:` line to the comment at the start of the declaration")
  | .noRootElement => ("no_root", some "mark the document element with `root element`")
  | .unknownRoot _ => ("unknown_root", none)

/-- The reports of an error: one per diagnostic of the source, otherwise one. -/
def ofError (e : RunError) : List Report :=
  match e with
  | .compile _ error => error.diagnostics.map ofDiagnostic
  | .artifact failure =>
    let (code, help) := failureHint failure
    [⟨e.message, some s!"schemata::export::{code}", help, none, []⟩]
  | .file _ | .missingConfig _ | .config _ => [⟨e.message, some "schemata::io", none, none, []⟩]

end Report

end DocSchema.CommandLine
