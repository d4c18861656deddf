import DocSchema.CommandLine.Arguments
import DocSchema.CommandLine.Report
import DocSchema.Render
import DocSchema.Toml.Reader

/-!
# Running a command line

A run loads the settings, compiles the input and writes the chosen artifacts. What fails before the
artifacts stops the run; an artifact that fails does not stop the others. The run is written over an
interface of three file operations, so that it can be run on the files of a machine and on a value.
-/
namespace DocSchema.CommandLine

structure FileAccess (m : Type → Type) where
  isPresent : String → m Bool
  read : String → m (Except FileFault String)
  write : String → String → m (Except FileFault Unit)

def settingsOf (text : String) : Except RunError Settings :=
  match Toml.read text with
  | .error fault => .error (.config (some fault))
  | .ok value =>
    match Settings.ofJson? value with
    | some settings => .ok settings
    | none => .error (.config none)

/-- Where settings are looked for in the working directory. -/
def localConfig : String := "schemata/config.toml"

section Run

variable {m : Type → Type} [Monad m]

def loadSettings (files : FileAccess m) (path : String) : m (Except RunError Settings) := do
  if ← files.isPresent path then
    match ← files.read path with
    | .ok text => return settingsOf text
    | .error fault => return .error (.file fault)
  else return .error (.missingConfig path)

/-- Loads the settings of a named file, or of the first known place where there is one. -/
def findSettings (files : FileAccess m) (platformConfig : Option String) (a : Arguments) :
    m (Except RunError Settings) := do
  match a.value? .config with
  | some path => loadSettings files path
  | none =>
    if ← files.isPresent localConfig then loadSettings files localConfig
    else
      match platformConfig with
      | none => return .ok .default
      | some path =>
        if ← files.isPresent path then loadSettings files path else return .ok .default

def prepare (files : FileAccess m) (platformConfig : Option String) (a : Arguments) :
    m (Except RunError (Settings × Compiled)) := do
  match ← findSettings files platformConfig a with
  | .error e => return .error e
  | .ok settings =>
    match ← files.read a.input with
    | .error fault => return .error (.file fault)
    | .ok source =>
      match compile source with
      | .error e => return .error (.compile source e)
      | .ok compiled => return .ok (settings, compiled)

/-- Writes one artifact; nothing is written where it fails. -/
def writeOutput (files : FileAccess m) (settings : Settings) (g : Graph)
    (output : Artifact × String) : m (List RunError) := do
  match output.1.render settings g with
  | .error failure => return [.artifact failure]
  | .ok text =>
    match ← files.write output.2 text with
    | .ok () => return []
    | .error fault => return [.file fault]

def writeOutputs (files : FileAccess m) (settings : Settings) (g : Graph) :
    List (Artifact × String) → m (List RunError)
  | [] => return []
  | output :: outputs => do
    let errors ← writeOutput files settings g output
    return errors ++ (← writeOutputs files settings g outputs)

def run (files : FileAccess m) (platformConfig : Option String) (a : Arguments) :
    m (List RunError) := do
  match ← prepare files platformConfig a with
  | .error e => return [e]
  | .ok (settings, compiled) => writeOutputs files settings compiled.graph a.outputs

end Run

def treeAccess : FileAccess (StateM FileTree) where
  isPresent path := return (← get).isPresent path
  read path := return (← get).read path
  write path text := do
    match (← get).write path text with
    | .ok tree =>
      set tree
      return .ok ()
    | .error fault => return .error fault

def runOnTree (platformConfig : Option String) (a : Arguments) (tree : FileTree) :
    List RunError × FileTree :=
  (run treeAccess platformConfig a).run tree

end DocSchema.CommandLine
