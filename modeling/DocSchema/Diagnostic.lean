import DocSchema.Span

/-!
# Diagnostics

What the compiler tells about a source text: a severity, an optional stable code, a message,
labelled spans and an optional piece of advice.
-/
namespace DocSchema

inductive Severity where
  | error
  | warning
  deriving DecidableEq, Repr

def Severity.name : Severity → String
  | .error => "error"
  | .warning => "warning"

/-- The kinds of problem, in the order of the phases that find them. -/
inductive Code where
  | unterminatedComment
  | unexpectedCharacter
  | unterminatedString
  | unterminatedPattern
  | integerRange
  | unexpectedToken
  | incompleteInput
  | unknownProperty
  | invalidValue
  | duplicateProperty
  | missingProperty
  | invalidQuantifier
  | ambiguousContent
  | undefinedReference
  | duplicateReference
  | kindMismatch
  | cyclicBase
  | invalidPattern
  | invalidConstraint
  deriving DecidableEq, Repr

namespace Code

def all : List Code :=
  [.unterminatedComment, .unexpectedCharacter, .unterminatedString, .unterminatedPattern,
   .integerRange, .unexpectedToken, .incompleteInput, .unknownProperty, .invalidValue,
   .duplicateProperty, .missingProperty, .invalidQuantifier, .ambiguousContent,
   .undefinedReference, .duplicateReference, .kindMismatch, .cyclicBase, .invalidPattern,
   .invalidConstraint]

/-- The name shown to users. The hundreds digit is the phase: reading characters, reading
declarations, counting occurrences, linking. -/
def name : Code → String
  | unterminatedComment => "E001"
  | unexpectedCharacter => "E002"
  | unterminatedString => "E003"
  | unterminatedPattern => "E004"
  | integerRange => "E005"
  | unexpectedToken => "E100"
  | incompleteInput => "E101"
  | unknownProperty => "E102"
  | invalidValue => "E103"
  | duplicateProperty => "E104"
  | missingProperty => "E105"
  | invalidQuantifier => "E200"
  | ambiguousContent => "E201"
  | undefinedReference => "E300"
  | duplicateReference => "E301"
  | kindMismatch => "E302"
  | cyclicBase => "E303"
  | invalidPattern => "E304"
  | invalidConstraint => "E305"

def description : Code → String
  | unterminatedComment => "unterminated block comment"
  | unexpectedCharacter => "unexpected character"
  | unterminatedString => "unterminated string literal"
  | unterminatedPattern => "unterminated pattern literal"
  | integerRange => "integer literal out of range"
  | unexpectedToken => "unexpected token"
  | incompleteInput => "incomplete input"
  | unknownProperty => "unknown property"
  | invalidValue => "invalid property value"
  | duplicateProperty => "duplicate property"
  | missingProperty => "missing property"
  | invalidQuantifier => "invalid quantifier"
  | ambiguousContent => "ambiguous unordered content"
  | undefinedReference => "undefined reference"
  | duplicateReference => "duplicate reference"
  | kindMismatch => "kind mismatch"
  | cyclicBase => "cyclic base type"
  | invalidPattern => "invalid pattern"
  | invalidConstraint => "invalid constraint"

def ofName? (s : String) : Option Code := all.find? (·.name == s)

end Code

/-- A note on a span. The primary label marks the problem, the others point at related places. -/
structure Label where
  span : Span
  message : String
  primary : Bool
  deriving DecidableEq, Repr

def Label.main (span : Span) (message : String) : Label := ⟨span, message, true⟩

def Label.related (span : Span) (message : String) : Label := ⟨span, message, false⟩

structure Diagnostic where
  severity : Severity
  code : Option Code
  message : String
  labels : List Label
  help : Option String
  deriving DecidableEq, Repr

namespace Diagnostic

def error (code : Code) (message : String) (labels : List Label) (help : Option String) :
    Diagnostic :=
  ⟨.error, some code, message, labels, help⟩

/-- Warnings carry no code. -/
def warning (message : String) (labels : List Label) (help : Option String) : Diagnostic :=
  ⟨.warning, none, message, labels, help⟩

def isError (d : Diagnostic) : Bool := d.severity == .error

def primarySpan (d : Diagnostic) : Option Span := (d.labels.find? (·.primary)).map (·.span)

def text (d : Diagnostic) : String :=
  match d.code with
  | some code => s!"{d.severity.name}[{code.name}]: {d.message}"
  | none => s!"{d.severity.name}: {d.message}"

def line (source : String) (d : Diagnostic) : String :=
  match d.primarySpan with
  | some span =>
    let p := span.position source
    s!"{d.text} (line {p.line}, column {p.column})"
  | none => d.text

end Diagnostic

def anyError (ds : List Diagnostic) : Bool := ds.any (·.isError)

namespace Diagnostics

/-- The first diagnostic and how many follow it; nothing for an empty list. -/
def summary : List Diagnostic → String
  | [] => ""
  | [d] => d.text
  | d :: ds => s!"{d.text} (+{ds.length} more)"

def render (source : String) (ds : List Diagnostic) : String :=
  String.join (ds.map fun d => d.line source ++ "\n")

def hasCode (ds : List Diagnostic) (code : Code) : Bool := ds.any (·.code == some code)

end Diagnostics

end DocSchema
