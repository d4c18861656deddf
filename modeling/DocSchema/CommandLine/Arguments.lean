import DocSchema.Artifact

/-!
# Command-line arguments

Parameters take one value, after an equals sign or as the next argument. One other argument names
the input. A parameter is complete when the next argument begins, and only then a missing value or a
second use is noticed; an unknown argument is noticed at once.
-/
namespace DocSchema.CommandLine

inductive Parameter where
  /-- Where an artifact is written. -/
  | output (artifact : Artifact)
  | config
  | logLevel
  deriving DecidableEq, Repr

namespace Parameter

def name : Parameter → String
  | .output artifact => artifact.name
  | .config => "config"
  | .logLevel => "log-level"

def all : List Parameter := Artifact.all.map .output ++ [.config, .logLevel]

def ofName? (s : String) : Option Parameter := all.find? (·.name == s)

end Parameter

/-- Why arguments are refused, or what is shown instead of a run. -/
inductive Refusal where
  | missingRequired
  | unknown
  | invalidValue
  | conflict
  | tooManyValues
  | help
  | version
  deriving DecidableEq, Repr

structure Arguments where
  input : String
  values : List (Parameter × String)
  deriving DecidableEq, Repr

namespace Arguments

def value? (a : Arguments) (p : Parameter) : Option String := a.values.lookup p

def logLevel (a : Arguments) : String := (a.value? .logLevel).getD "info"

/-- The chosen artifacts with their paths, in the order they are written. An XML Schema is written
when none is chosen. -/
def outputs (a : Arguments) : List (Artifact × String) :=
  match Artifact.all.filterMap fun artifact =>
      (a.value? (.output artifact)).map fun path => (artifact, path) with
  | [] => [(.xmlSchema, "out.xsd")]
  | chosen => chosen

end Arguments

structure Progress where
  input : Option String
  values : List (Parameter × String)
  /-- The last parameter, until the next argument begins. -/
  pending : Option (Parameter × Option String)
  /-- After `--` every argument is an input. -/
  inputsOnly : Bool

namespace Progress

def start : Progress := ⟨none, [], none, false⟩

def resolve (p : Progress) : Except Refusal Progress :=
  match p.pending with
  | none => .ok p
  | some (_, none) => .error .invalidValue
  | some (parameter, some value) =>
    if p.values.any (·.1 == parameter) then .error .conflict
    else .ok { p with values := p.values ++ [(parameter, value)], pending := none }

/-- Begins a parameter whose value may follow. -/
def begin (p : Progress) (parameter : Parameter) : Except Refusal Progress := do
  return { ← p.resolve with pending := some (parameter, none) }

def assign (p : Progress) (parameter : Parameter) (value : String) : Except Refusal Progress := do
  let p ← p.resolve
  { p with pending := some (parameter, some value) }.resolve

def addInput (p : Progress) (argument : String) : Except Refusal Progress :=
  match p.input with
  | some _ => .error .unknown
  | none => do return { ← p.resolve with input := some argument }

def ask {α : Type} (p : Progress) (refusal : Refusal) : Except Refusal α := do
  let _ ← p.resolve
  throw refusal

end Progress

def splitEquals (cs : List Char) : List Char × Option (List Char) :=
  match cs.dropWhile (· != '=') with
  | [] => (cs, none)
  | _ :: value => (cs.takeWhile (· != '='), some value)

def readLong (p : Progress) (cs : List Char) : Except Refusal Progress :=
  let (name, value) := splitEquals cs
  let name := String.ofList name
  match Parameter.ofName? name, value with
  | some parameter, some value => p.assign parameter (String.ofList value)
  | some parameter, none => p.begin parameter
  | none, value =>
    if name == "help" || name == "version" then
      if value.isSome then .error .tooManyValues
      else p.ask (if name == "help" then .help else .version)
    else .error .unknown

/-- Takes an argument after its one hyphen. A value may follow its letter directly. -/
def readShort (p : Progress) : List Char → Except Refusal Progress
  | ['c'] => p.begin .config
  | 'c' :: '=' :: value => p.assign .config (String.ofList value)
  | 'c' :: value => p.assign .config (String.ofList value)
  | 'h' :: _ => p.ask .help
  | 'V' :: _ => p.ask .version
  | _ => .error .unknown

/-- Takes an argument that starts with no hyphen, or is one: a value that is waited for, or an
input. -/
def readPlain (p : Progress) (argument : String) : Except Refusal Progress :=
  match p.pending with
  | some (parameter, none) => .ok { p with pending := some (parameter, some argument) }
  | _ => p.addInput argument

def readArgument (p : Progress) (argument : String) : Except Refusal Progress :=
  if p.inputsOnly then p.addInput argument
  else
    match argument.toList with
    | ['-', '-'] => .ok { p with inputsOnly := true }
    | '-' :: '-' :: cs => readLong p cs
    | ['-'] => readPlain p argument
    | '-' :: cs => readShort p cs
    | _ => readPlain p argument

def readArguments : Progress → List String → Except Refusal Progress
  | p, [] => p.resolve
  | p, argument :: rest => do readArguments (← readArgument p argument) rest

def Arguments.read (arguments : List String) : Except Refusal Arguments := do
  let p ← readArguments .start arguments
  match p.input with
  | some input => return ⟨input, p.values⟩
  | none => throw .missingRequired

end DocSchema.CommandLine
