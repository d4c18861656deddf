import DocSchema.Declaration.Parser
import DocSchema.Definition.Check
import DocSchema.Link.DataTypes
import DocSchema.Token.Lexer

/-!
# Compiling a source text

A text is cut into tokens, the tokens are read as declarations, each declaration is checked, and all
of them are linked. A stage that finds an error is the last one.
-/
namespace DocSchema

/-- Why a source text gives no graph: the stage that failed, with what it found. -/
inductive CompileError where
  | lexical (faults : List (Located Token.Fault))
  | syntactic (tokens : List (Located Token)) (error : SyntaxError)
  | definition (problems : List Definition.Problem)
  /-- Linking failed; warnings of the stage before come first. -/
  | linking (warnings : List Definition.Problem) (problems : List Link.Problem)

namespace CompileError

def diagnostics : CompileError → List Diagnostic
  | .lexical faults => faults.map Token.Fault.diagnostic
  | .syntactic tokens e => [e.diagnostic tokens]
  | .definition problems => problems.map (·.diagnostic)
  | .linking warnings problems => warnings.map (·.diagnostic) ++ problems.map (·.diagnostic)

end CompileError

/-- A graph with the warnings met on the way to it. -/
structure Compiled where
  graph : Graph
  warnings : List Diagnostic

def compileDeclarations (comments : List (Located String)) (declarations : List Declaration) :
    Except CompileError Compiled :=
  let defined := Definition.ofDeclarations comments declarations
  if defined.problems.any (·.diagnostic.isError) then .error (.definition defined.problems)
  else
    let linked := Link.graph defined.value
    if linked.problems.any (·.isError) then .error (.linking defined.problems linked.problems)
    else
      let warnings := defined.problems.map (·.diagnostic) ++ linked.problems.map (·.diagnostic)
      .ok ⟨{ linked.value with formatName := Comment.formatName? comments declarations }, warnings⟩

def compile (source : String) : Except CompileError Compiled :=
  match tokenize source with
  | .error faults => .error (.lexical faults)
  | .ok lexed =>
    match parseDeclarations lexed.tokens with
    | .error e => .error (.syntactic lexed.tokens e)
    | .ok declarations => compileDeclarations lexed.comments declarations

end DocSchema
