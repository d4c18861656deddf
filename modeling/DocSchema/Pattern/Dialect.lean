import DocSchema.Span

/-!
# Patterns for XML Schema

A pattern is written to XML Schema as it stands, so it may only use what both pattern languages read
the same way. The scan finds the first construct that XML Schema lacks or reads differently; it
expects a pattern that can be compiled.
-/
namespace DocSchema.Pattern

inductive DialectIssue where
  | escape (letter : Char)
  | nestedClass
  | closingBracket
  | setOperation
  | startAnchor
  | endAnchor
  | groupFlags
  | lazyRepetition
  deriving DecidableEq, Repr

namespace DialectIssue

def size : DialectIssue → Nat
  | .escape letter => 1 + letter.utf8Size
  | .nestedClass | .closingBracket | .startAnchor | .endAnchor => 1
  | .setOperation | .groupFlags | .lazyRepetition => 2

def label : DialectIssue → String
  | .escape _ => "escape not supported by XML Schema"
  | .nestedClass => "nested character class"
  | .closingBracket => "unescaped `]`"
  | .setOperation => "character class set operation"
  | .startAnchor | .endAnchor => "anchor"
  | .groupFlags => "group flags and non-capturing groups"
  | .lazyRepetition => "lazy quantifier"

def help : DialectIssue → String
  | .escape _ => "use a character class or a `\\p\x7b...\x7d` category instead"
  | .nestedClass => "escape a literal bracket as `\\[`"
  | .closingBracket => "escape a literal bracket as `\\]`"
  | .setOperation => "list the allowed characters explicitly"
  | .startAnchor =>
    "patterns always match the whole value; drop the anchor or write a literal `^` as `\\^`"
  | .endAnchor =>
    "patterns always match the whole value; drop the anchor or write a literal `$` as `[$]`"
  | .groupFlags => "use a plain `(...)` group"
  | .lazyRepetition => "patterns match the whole value, so drop the trailing `?`"

end DialectIssue

/-- The letters after a backslash that both languages read the same way. -/
def portableEscapes : List Char := "nrt\\|.?*+()\x7b\x7d-[]^sSdDwWpP".toList

/-- An escape is portable by its letter; a category has to be in braces. -/
def isPortable (letter : Char) (next : Option Char) : Bool :=
  letter ∈ portableEscapes && !((letter == 'p' || letter == 'P') && next != some '\x7b')

/-- The issue of an unescaped character, given what follows it and whether a class is open. -/
def characterIssue? (inClass : Bool) (c : Char) (next : Option Char) : Option DialectIssue :=
  if inClass then
    if c == '[' then some .nestedClass
    else if (c == '&' || c == '~' || c == '-') && next == some c then some .setOperation
    else none
  else if c == ']' then some .closingBracket
  else if c == '^' then some .startAnchor
  else if c == '$' then some .endAnchor
  else if c == '(' && next == some '?' then some .groupFlags
  else if (c == '*' || c == '+' || c == '?' || c == '\x7d') && next == some '?' then
    some .lazyRepetition
  else none

def classAfter (inClass : Bool) (c : Char) : Bool :=
  if inClass then c != ']' else c == '['

/-- Scans from a byte offset. The negation sign of a class is skipped with its bracket. -/
def dialectIssueAux (offset : Nat) (inClass : Bool) : List Char → Option (Nat × DialectIssue)
  | [] => none
  | ['\\'] => none
  | '\\' :: letter :: cs =>
    if isPortable letter cs.head? then dialectIssueAux (offset + 1 + letter.utf8Size) inClass cs
    else some (offset, .escape letter)
  | '[' :: '^' :: cs =>
    if inClass then some (offset, .nestedClass) else dialectIssueAux (offset + 2) true cs
  | c :: cs =>
    match characterIssue? inClass c cs.head? with
    | some issue => some (offset, issue)
    | none => dialectIssueAux (offset + c.utf8Size) (classAfter inClass c) cs

def dialectIssue? (pattern : String) : Option (Nat × DialectIssue) :=
  dialectIssueAux 0 false pattern.toList

end DocSchema.Pattern
