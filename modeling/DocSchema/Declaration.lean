import DocSchema.Token

/-!
# Declarations

What an author writes, with the place of every part. Names are not yet linked to structures and
values are not yet checked against the kind of the declaration.
-/
namespace DocSchema

/-- A name with an optional quantifier in parentheses. -/
structure Item where
  name : Located String
  quantifier : Option (Located Quantifier)
  deriving DecidableEq, Repr

def Item.span (i : Item) : Span :=
  match i.quantifier with
  | some q => i.name.span.union q.span
  | none => i.name.span

inductive Entry where
  | item (item : Item)
  | string (text : Located String)
  | integer (value : Located Int)
  | anyText (span : Span)
  | list (compositor : Compositor) (entries : List Entry) (span : Span)
  deriving Repr

def Entry.span : Entry → Span
  | .item i => i.span
  | .string s => s.span
  | .integer n => n.span
  | .anyText span => span
  | .list _ _ span => span

inductive Value where
  | anyText (span : Span)
  | list (compositor : Compositor) (entries : List Entry) (span : Span)
  | item (item : Item)
  | string (text : Located String)
  | pattern (text : Located String)
  | integer (value : Located Int)
  deriving Repr

namespace Value

def span : Value → Span
  | .anyText span => span
  | .list _ _ span => span
  | .item i => i.span
  | .string s => s.span
  | .pattern s => s.span
  | .integer n => n.span

def shape : Value → String
  | .anyText _ => "the `*any text*` marker"
  | .list .sequence _ _ => "an ordered list"
  | .list .unordered _ _ => "an unordered list"
  | .list .choice _ _ => "a choice"
  | .item _ => "a reference"
  | .string _ => "a string"
  | .pattern _ => "a pattern"
  | .integer _ => "an integer"

end Value

/-- A line `name: value;`. -/
structure Property where
  name : Located String
  value : Value
  deriving Repr

def Property.span (p : Property) : Span := p.name.span.union p.value.span

/-- A declaration: an optional `root`, a kind, a name and properties in braces. -/
structure Declaration where
  /-- The place of the word `root`. -/
  root : Option Span
  kind : Located Kind
  name : Located String
  /-- The place of the opening brace. -/
  opening : Span
  properties : List Property
  span : Span
  deriving Repr

namespace Declaration

def isRoot (d : Declaration) : Bool := d.root.isSome

def value? (d : Declaration) (property : String) : Option Value :=
  (d.properties.find? (·.name.value == property)).map (·.value)

end Declaration

end DocSchema
