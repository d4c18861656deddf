import DocSchema.CommandLine.Run

/-!
# The command line

Runs on the files of the machine and prints reports to the error stream.
-/
namespace DocSchema

open CommandLine

def faultOf : IO.Error → FileFault
  | .noFileOrDirectory .. => .notFound
  | .inappropriateType .. => .isDirectory
  | e => .other (toString e)

def attempt {α : Type} (action : IO α) : IO (Except FileFault α) := do
  match ← action.toBaseIO with
  | .ok a => return .ok a
  | .error e => return .error (faultOf e)

def machineAccess : FileAccess IO where
  isPresent path := return (← (IO.FS.realPath path).toBaseIO).toOption.isSome
  read path := attempt (IO.FS.readFile path)
  write path text := attempt (IO.FS.writeFile path text)

def platformConfig : IO (Option String) := do
  match ← IO.getEnv "XDG_CONFIG_HOME", ← IO.getEnv "HOME" with
  | some directory, _ => return some s!"{directory}/schemata/config.toml"
  | none, some home => return some s!"{home}/.config/schemata/config.toml"
  | none, none => return none

def usage : String :=
  "Usage: docschema [OPTIONS] <INPUT>\n\n"
    ++ String.join (Parameter.all.map fun p => s!"      --{p.name} <VALUE>\n")

def printReport (r : Report) : IO Unit := do
  let code := match r.code with
    | some code => s!"[{code}]"
    | none => ""
  IO.eprintln s!"error{code}: {r.message}"
  match r.help with
  | some help => IO.eprintln s!"  help: {help}"
  | none => return ()

def refuse : Refusal → IO UInt32
  | .help => do
    IO.println usage
    return 0
  | .version => do
    IO.println "docschema 0.1.0"
    return 0
  | _ => do
    IO.eprintln usage
    return 2

end DocSchema

open DocSchema CommandLine in
def main (arguments : List String) : IO UInt32 := do
  match Arguments.read arguments with
  | .error refusal => refuse refusal
  | .ok a =>
    let errors ← run machineAccess (← platformConfig) a
    for e in errors do
      for r in Report.ofError e do
        printReport r
    return if errors.isEmpty then 0 else 1
