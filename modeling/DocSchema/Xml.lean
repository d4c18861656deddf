import DocSchema.Unicode.Alphabetic
import DocSchema.Unicode.Numeric

/-!
# XML documents

A document is a tree of elements after an optional comment. Writing it is the only place where tags,
escapes and indentation appear: every start tag, end tag and empty element is on a line of its own,
except that text stands between its tags on one line.
-/
namespace DocSchema.Xml

/-- Whether a name can be the name of an element or an attribute without a namespace. -/
def isName (name : String) : Bool :=
  match name.toList with
  | [] => false
  | c :: cs =>
    (c == '_' || Unicode.isAlphabetic c)
      && cs.all fun c =>
        c == '_' || c == '-' || c == '.' || Unicode.isAlphabetic c || Unicode.isNumeric c

abbrev Attribute := String × String

inductive Node where
  /-- An element without content. -/
  | leaf (tag : String) (attributes : List Attribute)
  /-- An element that holds text. -/
  | text (tag : String) (attributes : List Attribute) (text : String)
  /-- An element that holds elements. -/
  | branch (tag : String) (attributes : List Attribute) (children : List Node)
  deriving Repr

structure Document where
  comment : Option String
  root : Node
  deriving Repr

def escapeChar : Char → List Char
  | '<' => "&lt;".toList
  | '>' => "&gt;".toList
  | '&' => "&amp;".toList
  | '\'' => "&apos;".toList
  | '"' => "&quot;".toList
  | c => [c]

def escape (s : String) : String := String.ofList (s.toList.flatMap escapeChar)

def attributeText (a : Attribute) : String := s!" {a.1}=\"{escape a.2}\""

def tagText (tag : String) (attributes : List Attribute) : String :=
  tag ++ String.join (attributes.map attributeText)

def margin (width depth : Nat) : String :=
  String.ofList (List.replicate (width * depth) ' ')

mutual

/-- The lines of a node at a depth, each level `width` blanks wide. -/
def Node.lines (width depth : Nat) : Node → List String
  | .leaf tag attributes => [s!"{margin width depth}<{tagText tag attributes}/>"]
  | .text tag attributes inner =>
    [s!"{margin width depth}<{tagText tag attributes}>{escape inner}</{tag}>"]
  | .branch tag attributes children =>
    s!"{margin width depth}<{tagText tag attributes}>"
      :: Node.linesOf width (depth + 1) children ++ [s!"{margin width depth}</{tag}>"]

def Node.linesOf (width depth : Nat) : List Node → List String
  | [] => []
  | n :: ns => n.lines width depth ++ Node.linesOf width depth ns

end

def Document.render (width : Nat) (d : Document) : String :=
  let comment := match d.comment with
    | some text => [s!"<!-- {text} -->"]
    | none => []
  let lines := "<?xml version=\"1.0\" encoding=\"UTF-8\"?>" :: comment ++ d.root.lines width 0
  String.join (lines.map (· ++ "\n"))

end DocSchema.Xml
