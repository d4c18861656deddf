import DocSchema.Quantifier
import DocSchema.Structure
import DocSchema.Span

/-!
# Tokens of the schema language
-/
namespace DocSchema

inductive Token where
  /-- The word `root`. -/
  | root
  /-- A word that declares a kind of structure. -/
  | kind (kind : Kind)
  | identifier (name : String)
  /-- A quoted text, without its quotes. -/
  | string (text : String)
  /-- A pattern, without its slashes. -/
  | pattern (text : String)
  | integer (value : Int)
  /-- The marker `*any text*`. -/
  | anyText
  | comparison (comparison : Comparison)
  | leftBrace
  | rightBrace
  | leftBracket
  | rightBracket
  | leftParen
  | rightParen
  | colon
  | semicolon
  | comma
  | slash
  deriving DecidableEq, Repr

namespace Token

/-- A token as it is shown, and as it can be written. -/
def text : Token → String
  | .root => "root"
  | .kind k => k.keyword
  | .identifier name => name
  | .string s => s!"'{s}'"
  | .pattern p => s!"/{p}/"
  | .integer n => toString n
  | .anyText => "*any text*"
  | .comparison c => c.text
  | .leftBrace => "\x7b"
  | .rightBrace => "\x7d"
  | .leftBracket => "["
  | .rightBracket => "]"
  | .leftParen => "("
  | .rightParen => ")"
  | .colon => ":"
  | .semicolon => ";"
  | .comma => ","
  | .slash => "/"

end Token

end DocSchema
