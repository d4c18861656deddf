import DocSchema.Content

/-!
# Structures

Every declaration of a schema becomes one structure. What a structure holds depends on its kind.
-/
namespace DocSchema

/-- The kinds of structure. The first two are written to XML, the last three to JSON, and a data
type restricts the values of either. -/
inductive Kind where
  | element
  | attribute
  | dataType
  | object
  | property
  | array
  deriving DecidableEq, Repr

namespace Kind

def all : List Kind := [.element, .attribute, .dataType, .object, .property, .array]

def keyword : Kind → String
  | .element => "element"
  | .attribute => "attribute"
  | .dataType => "dataType"
  | .object => "object"
  | .property => "property"
  | .array => "array"

def ofKeyword? (s : String) : Option Kind := all.find? (·.keyword == s)

end Kind

/-- What one data type adds to its base. -/
structure Constraints where
  pattern : Option String
  values : List String
  minimum : Option Int
  maximum : Option Int
  deriving DecidableEq, Repr

namespace Constraints

def none : Constraints := ⟨.none, [], .none, .none⟩

def isEmpty (c : Constraints) : Bool :=
  c.pattern.isNone && c.values.isEmpty && c.minimum.isNone && c.maximum.isNone

end Constraints

inductive Body where
  | element (root : Bool) (attributes : List Slot) (content : Content)
  | attribute (valueType : TypeRef) (default : Option String)
  | dataType (base : TypeRef) (constraints : Constraints)
  | object (root : Bool) (properties : List Slot) (order : MemberOrder)
  | property (valueType : TypeRef)
  | array (itemType : TypeRef) (items : Cardinality)
  deriving Repr

namespace Body

def kind : Body → Kind
  | .element .. => .element
  | .attribute .. => .attribute
  | .dataType .. => .dataType
  | .object .. => .object
  | .property .. => .property
  | .array .. => .array

def isRoot : Body → Bool
  | .element root _ _ => root
  | .object root _ _ => root
  | _ => false

/-- The structures a body refers to, in the order it lists them. -/
def links : Body → List StructureId
  | .element _ attributes content =>
    attributes.map (·.target) ++ match content with
      | .value type => type.target?.toList
      | other => other.slots.map (·.target)
  | .attribute valueType _ => valueType.target?.toList
  | .dataType base _ => base.target?.toList
  | .object _ properties _ => properties.map (·.target)
  | .property valueType => valueType.target?.toList
  | .array itemType _ => itemType.target?.toList

end Body

/-- What the comment at the start of a declaration says about the structure. -/
structure Remarks where
  description : Option String
  exampleValue : Option String
  deriving DecidableEq, Repr

namespace Remarks

def none : Remarks := ⟨.none, .none⟩

def isEmpty (r : Remarks) : Bool := r.description.isNone && r.exampleValue.isNone

end Remarks

/-- A declared structure. Its reference is the name used in schemas, its tag the name used in
documents. -/
structure Structure where
  reference : String
  tagName : Option String
  remarks : Remarks
  body : Body
  deriving Repr

namespace Structure

def tag (s : Structure) : String := s.tagName.getD s.reference

def kind (s : Structure) : Kind := s.body.kind

def isRoot (s : Structure) : Bool := s.body.isRoot

def links (s : Structure) : List StructureId := s.body.links

def blank : Structure := ⟨"", none, .none, .element false [] .empty⟩

end Structure

end DocSchema
