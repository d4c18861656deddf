import DocSchema.Token
import DocSchema.Diagnostic

/-!
# From text to tokens

The text is cut into tokens, comments and blanks. Where none of them starts, a fault is recorded and
one more character is skipped, so that one mistake does not hide the next. A `/` opens a pattern
only right after a colon; elsewhere it separates alternatives.
-/
namespace DocSchema.Token

def isBlank (c : Char) : Bool := c == ' ' || c == '\t' || c == '\r' || c == '\n'

def isLetter (c : Char) : Bool := ('a' ≤ c && c ≤ 'z') || ('A' ≤ c && c ≤ 'Z')

def isWordChar (c : Char) : Bool := isLetter c || c.isDigit || c == '_' || c == '-'

inductive Lexeme where
  | token (token : Token)
  /-- A comment, without its delimiters. -/
  | comment (body : List Char)
  | blank
  deriving DecidableEq, Repr

inductive Fault where
  | unterminatedComment
  | unexpectedCharacter
  | unterminatedString
  | unterminatedPattern
  | integerRange
  deriving DecidableEq, Repr

namespace Fault

def code : Fault → Code
  | .unterminatedComment => .unterminatedComment
  | .unexpectedCharacter => .unexpectedCharacter
  | .unterminatedString => .unterminatedString
  | .unterminatedPattern => .unterminatedPattern
  | .integerRange => .integerRange

def help : Fault → String
  | .unterminatedComment => "add a closing `*/`"
  | .unexpectedCharacter => "identifiers may contain letters, digits, `_` and `-`"
  | .unterminatedString => "close the string with the quote it was opened with"
  | .unterminatedPattern => "add a closing `/`, or write the pattern as a quoted string"
  | .integerRange => "integers must fit in a signed 64-bit value"

def diagnostic (f : Located Fault) : Diagnostic :=
  let what := f.value.code.description
  .error f.value.code what [.main f.span what] (some f.value.help)

end Fault

/-- What stands at the start of a text: a lexeme or a fault, the text it takes, and the rest. -/
structure Step where
  found : Except Fault Lexeme
  taken : List Char
  rest : List Char

/-- Splits at the first `*/`; the mark belongs to neither part. -/
def splitComment : List Char → Option (List Char × List Char)
  | [] => none
  | '*' :: '/' :: cs => some ([], cs)
  | c :: cs => (splitComment cs).map fun (body, rest) => (c :: body, rest)

/-- A literal that ends with `close` on the same line. The opening character is `first`. -/
def literal (first close : Char) (make : String → Token) (fault : Fault) (cs : List Char) : Step :=
  let inside (c : Char) : Bool := c != close && c != '\n'
  let body := cs.takeWhile inside
  match cs.dropWhile inside with
  | c :: rest =>
    if c = close then ⟨.ok (.token (make (String.ofList body))), first :: body ++ [c], rest⟩
    else ⟨.error fault, first :: body, c :: rest⟩
  | [] => ⟨.error fault, first :: body, []⟩

def wordToken (word : List Char) : Except Fault Token :=
  match word with
  | [] => .error .unexpectedCharacter
  | c :: cs =>
    if isLetter c || c == '_' then
      let name := String.ofList word
      if name = "root" then .ok .root
      else match Kind.ofKeyword? name with
        | some k => .ok (.kind k)
        | none => .ok (.identifier name)
    else if Number.isDigits (if c = '-' then cs else word) then
      match Number.readInteger? word with
      | some n => .ok (.integer n)
      | none => .error .integerRange
    else .error .unexpectedCharacter

def word (cs : List Char) : Step :=
  let taken := cs.takeWhile isWordChar
  match wordToken taken with
  | .ok t => ⟨.ok (.token t), taken, cs.dropWhile isWordChar⟩
  | .error .unexpectedCharacter => ⟨.error .unexpectedCharacter, [], cs⟩
  | .error fault => ⟨.error fault, taken, cs.dropWhile isWordChar⟩

def punctuation? : Char → Option Token
  | '\x7b' => some .leftBrace
  | '\x7d' => some .rightBrace
  | '[' => some .leftBracket
  | ']' => some .rightBracket
  | '(' => some .leftParen
  | ')' => some .rightParen
  | ':' => some .colon
  | ';' => some .semicolon
  | ',' => some .comma
  | '>' => some (.comparison .greater)
  | '<' => some (.comparison .less)
  | '=' => some (.comparison .equal)
  | _ => none

def fixed (token : Token) (taken rest : List Char) : Step := ⟨.ok (.token token), taken, rest⟩

/-- Reads one lexeme. `afterColon` says that the last token was a colon. -/
def step (afterColon : Bool) (text : List Char) : Step :=
  match text with
  | '/' :: '*' :: cs =>
    match splitComment cs with
    | some (body, rest) => ⟨.ok (.comment body), '/' :: '*' :: body ++ ['*', '/'], rest⟩
    | none => ⟨.error .unterminatedComment, ['/', '*'], cs⟩
  | '/' :: cs =>
    if afterColon then literal '/' '/' .pattern .unterminatedPattern cs
    else fixed .slash ['/'] cs
  | '\'' :: cs => literal '\'' '\'' .string .unterminatedString cs
  | '"' :: cs => literal '"' '"' .string .unterminatedString cs
  | '*' :: 'a' :: 'n' :: 'y' :: ' ' :: 't' :: 'e' :: 'x' :: 't' :: '*' :: cs =>
    fixed .anyText "*any text*".toList cs
  | '>' :: '=' :: cs => fixed (.comparison .greaterEqual) ['>', '='] cs
  | '<' :: '=' :: cs => fixed (.comparison .lessEqual) ['<', '='] cs
  | c :: cs =>
    if isBlank c then ⟨.ok .blank, text.takeWhile isBlank, text.dropWhile isBlank⟩
    else match punctuation? c with
      | some t => fixed t [c] cs
      | none => if isWordChar c then word text else ⟨.error .unexpectedCharacter, [], text⟩
  | [] => ⟨.error .unexpectedCharacter, [], []⟩

structure Scan where
  tokens : List (Located Token)
  comments : List (Located String)
  faults : List (Located Fault)
  deriving DecidableEq, Repr

namespace Scan

def empty : Scan := ⟨[], [], []⟩

def addToken (s : Scan) (t : Located Token) : Scan := { s with tokens := t :: s.tokens }

def addComment (s : Scan) (c : Located String) : Scan := { s with comments := c :: s.comments }

def addFault (s : Scan) (f : Located Fault) : Scan := { s with faults := f :: s.faults }

end Scan

/-- The span of a fault that took `size` bytes. An unexpected character is marked by one byte. -/
def faultSpan (fault : Fault) (offset size : Nat) : Span :=
  match fault with
  | .unexpectedCharacter => ⟨offset, offset + 1⟩
  | _ => ⟨offset, offset + size⟩

/-- The scan of a text that starts at a byte offset. Every step takes at least one character, so the
length of the text is enough fuel. -/
def scanAux : Nat → Nat → Bool → List Char → Scan
  | 0, _, _, _ => .empty
  | _ + 1, _, _, [] => .empty
  | fuel + 1, offset, afterColon, c :: cs =>
    let s := step afterColon (c :: cs)
    let size := byteSize s.taken
    match s.found with
    | .ok (.token t) =>
      (scanAux fuel (offset + size) (t == .colon) s.rest).addToken ⟨t, ⟨offset, offset + size⟩⟩
    | .ok (.comment body) =>
      (scanAux fuel (offset + size) afterColon s.rest).addComment
        ⟨String.ofList body, ⟨offset + 2, offset + 2 + byteSize body⟩⟩
    | .ok .blank => scanAux fuel (offset + size) afterColon s.rest
    | .error fault =>
      let skipped := s.rest.take 1
      (scanAux fuel (offset + size + byteSize skipped) afterColon (s.rest.drop 1)).addFault
        ⟨fault, faultSpan fault offset size⟩

def scan (text : List Char) : Scan := scanAux text.length 0 false text

end DocSchema.Token

namespace DocSchema

structure Lexed where
  tokens : List (Located Token)
  comments : List (Located String)
  deriving DecidableEq, Repr

/-- Cuts a source text into tokens and comments, or tells every fault. -/
def tokenize (source : String) : Except (List (Located Token.Fault)) Lexed :=
  let s := Token.scan source.toList
  if s.faults.isEmpty then .ok ⟨s.tokens, s.comments⟩ else .error s.faults

end DocSchema
