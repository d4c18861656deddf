import DocSchema.Occurrence
import DocSchema.Structure

/-!
# Definitions

A definition is a declaration that fits its kind: every property is known and has a value of the
right shape, quantifiers are normalized and defaults filled in. Names are not yet linked to
structures.
-/
namespace DocSchema

namespace Definition

inductive Member where
  | element (occurrence : Occurrence)
  | group (compositor : Compositor) (members : List Member)
  deriving Repr

inductive Content where
  | empty
  | text
  /-- One name, a child element or the type of a value. The quantifier's place is kept because a
  value takes none. -/
  | single (target : Occurrence) (quantifier : Option Span)
  /-- A list of children, mixed with text when any text was allowed at some depth. -/
  | group (compositor : Compositor) (members : List Member) (mixed : Bool)
  deriving Repr

/-- What the kind decides. A missing type means the default type. -/
inductive Body where
  | element (root : Bool) (attributes : List Occurrence) (content : Content)
  | attribute (valueType : Option (Located String)) (default : Option (Located String))
  | dataType (base : Option (Located String)) (pattern : Option (Located String))
      (values : List (Located String)) (minimum maximum : Option (Located Int))
  | object (root : Bool) (properties : List Occurrence) (order : MemberOrder)
  | property (valueType : Option (Located String))
  | array (itemType : Occurrence)
  deriving Repr

def Body.kind : Body → Kind
  | .element .. => .element
  | .attribute .. => .attribute
  | .dataType .. => .dataType
  | .object .. => .object
  | .property .. => .property
  | .array .. => .array

end Definition

structure Definition where
  name : Located String
  tagName : Option (Located String)
  remarks : Remarks
  body : Definition.Body
  deriving Repr

def Definition.kind (d : Definition) : Kind := d.body.kind

end DocSchema
