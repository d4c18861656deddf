import DocSchema.Declaration
import DocSchema.Structure
import DocSchema.Unicode.Blank

/-!
# What comments say

A comment that stands before every declaration is the header and may name the format. The first
comment right after the opening brace of a declaration may describe the structure and give an
example value. Other comments say nothing.
-/
namespace DocSchema.Comment

/-- The lines of a text. A line ends at a newline, and a carriage return before it belongs to the
ending. An empty last line does not count. -/
def lines : List Char → List (List Char)
  | [] => []
  | '\n' :: cs => [] :: lines cs
  | '\r' :: '\n' :: cs => [] :: lines cs
  | c :: cs =>
    match lines cs with
    | [] => [[c]]
    | l :: ls => (c :: l) :: ls

/-- What follows `key:` at the start of a line. Blanks and stars before it are decoration. -/
def value? (key line : List Char) : Option (List Char) :=
  let line := Unicode.trimStart ((Unicode.trimStart line).dropWhile (· == '*'))
  if key ++ [':'] <+: line then
    match Unicode.trim (line.drop (key.length + 1)) with
    | [] => none
    | value => some value
  else none

def field? (key : String) (body : String) : Option String :=
  ((lines body.toList).findSome? (value? key.toList)).map String.ofList

/-- The name of the format: that of the first comment, if it ends before the first declaration. -/
def formatName? (comments : List (Located String)) (declarations : List Declaration) :
    Option String :=
  match comments.head?, declarations.head? with
  | some header, some first =>
    if header.span.stop ≤ first.span.start then field? "Format Name" header.value else none
  | some header, none => field? "Format Name" header.value
  | none, _ => none

/-- Where the first token after the opening brace of a declaration starts, or its closing brace
ends. -/
def bodyStop (d : Declaration) : Nat :=
  match d.properties with
  | p :: _ => p.name.span.start
  | [] => d.span.stop

/-- Whether a comment lies between the opening brace of a declaration and what follows the brace. -/
def opens (d : Declaration) (comment : Located String) : Bool :=
  d.opening.stop < comment.span.start && comment.span.stop < bodyStop d

def remarks (comments : List (Located String)) (d : Declaration) : Remarks :=
  match comments.find? (opens d) with
  | some comment => ⟨field? "Description" comment.value, field? "Example Value" comment.value⟩
  | none => .none

end DocSchema.Comment
