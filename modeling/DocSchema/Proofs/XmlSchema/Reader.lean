import DocSchema.Proofs.Number
import DocSchema.Proofs.Xml.Reader
import DocSchema.Proofs.XmlSchema.Items

/-!
# Reading an XML Schema

What a schema document says about types and root elements, read from the document alone except for
what type names stand for. Beside it stands what a graph says about the same things.
-/
namespace DocSchema.XmlSchema

open Xml (Element Attribute)

/-- A member of a content model. -/
inductive Term where
  | element (tag : String) (type : TypeRef) (cardinality : Cardinality)
  | group (compositor : Compositor) (terms : List Term)
  deriving Repr

structure AttributeUse where
  tag : String
  type : TypeRef
  required : Bool
  default : Option String
  deriving DecidableEq, Repr

/-- What a type allows between the tags of an element. -/
inductive TypeContent where
  | empty
  | simple (base : TypeRef) (constraints : Constraints)
  | group (compositor : Compositor) (terms : List Term)
  deriving Repr

structure TypeDefinition where
  type : TypeRef
  mixed : Bool
  content : TypeContent
  attributes : List AttributeUse
  deriving Repr

/-- The types that a document defines and its root elements, in order. -/
structure Schema where
  types : List TypeDefinition
  roots : List (String × TypeRef)
  deriving Repr

/-- Once at least, where nothing is said. -/
def minOccurs? : Option String → Option Nat
  | none => some 1
  | some text => Number.natural? text.toList

/-- Once at most, where nothing is said. -/
def maxOccurs? : Option String → Option (Option Nat)
  | none => some (some 1)
  | some text => if text = "unbounded" then some none else (Number.natural? text.toList).map some

def occurrences? (attributes : List Attribute) : Option Cardinality := do
  let min ← minOccurs? (attributes.lookup "minOccurs")
  Cardinality.range? min (← maxOccurs? (attributes.lookup "maxOccurs"))

def compositor? (tag : String) : Option Compositor :=
  if tag = "xs:sequence" then some .sequence
  else if tag = "xs:choice" then some .choice
  else if tag = "xs:all" then some .unordered
  else none

def single? {α : Type} : List α → Option (Option α)
  | [] => some none
  | [a] => some (some a)
  | _ => none

/-- The values of the facets of one name. -/
def facetValues (tag : String) (facets : List Element) : List String :=
  facets.filterMap fun e => if e.tag = tag then e.attribute? "value" else none

/-- One bound at most, as a number. -/
def bound? (tag : String) (facets : List Element) : Option (Option Int) := do
  match ← single? (facetValues tag facets) with
  | some text => (Number.integer? text.toList).map some
  | none => some none

def constraints? (facets : List Element) : Option Constraints :=
  if facets.all (·.tag ∈ ["xs:pattern", "xs:enumeration", "xs:minInclusive", "xs:maxInclusive"])
  then do
    let pattern ← single? (facetValues "xs:pattern" facets)
    let minimum ← bound? "xs:minInclusive" facets
    let maximum ← bound? "xs:maxInclusive" facets
    return ⟨pattern, facetValues "xs:enumeration" facets, minimum, maximum⟩
  else none

section Types

-- what the name of a type stands for
variable (types : String → Option TypeRef)

def typeAt? (key : String) (attributes : List Attribute) : Option TypeRef := do
  types (← attributes.lookup key)

mutual

def term? : Element → Option Term
  | .mk tag attributes children =>
    if tag = "xs:element" then do
      let name ← attributes.lookup "name"
      let type ← typeAt? types "type" attributes
      return .element name type (← occurrences? attributes)
    else do
      let compositor ← compositor? tag
      return .group compositor (← terms? children)

def terms? : List Element → Option (List Term)
  | [] => some []
  | e :: es => do
    let first ← term? e
    return first :: (← terms? es)

end

def attributeUse? (e : Element) : Option AttributeUse :=
  if e.tag = "xs:attribute" then do
    let name ← e.attribute? "name"
    let type ← typeAt? types "type" e.attributes
    let use ← e.attribute? "use"
    let required ← if use = "required" then some true
      else if use = "optional" then some false
      else none
    return ⟨name, type, required, e.attribute? "default"⟩
  else none

def simpleParts? : List Element → Option (TypeContent × List AttributeUse)
  | [.mk tag attributes facets] =>
    if tag = "xs:restriction" then do
      let base ← typeAt? types "base" attributes
      return (.simple base (← constraints? facets), [])
    else none
  | _ => none

/-- Simple content extends a simple type by attributes. -/
def extensionParts? : List Element → Option (TypeContent × List AttributeUse)
  | [.mk tag attributes uses] =>
    if tag = "xs:extension" then do
      let base ← typeAt? types "base" attributes
      return (.simple base .none, ← uses.mapM (attributeUse? types))
    else none
  | _ => none

/-- A complex type has simple content, or a group and attributes, or attributes only. -/
def complexParts? : List Element → Option (TypeContent × List AttributeUse)
  | [] => some (.empty, [])
  | e :: rest =>
    if e.tag = "xs:simpleContent" then
      if rest.isEmpty then extensionParts? types e.children else none
    else
      match compositor? e.tag with
      | some compositor => do
        let terms ← terms? types e.children
        return (.group compositor terms, ← rest.mapM (attributeUse? types))
      | none => do return (.empty, ← (e :: rest).mapM (attributeUse? types))

def parts? (tag : String) (parts : List Element) : Option (TypeContent × List AttributeUse) :=
  if tag = "xs:simpleType" then simpleParts? types parts else complexParts? types parts

/-- The definition of a type. Its documentation is passed over. -/
def definition? (e : Element) : Option TypeDefinition := do
  let type ← typeAt? types "name" e.attributes
  let (content, attributes) ← parts? types e.tag (e.children.filter (·.tag ≠ "xs:annotation"))
  return ⟨type, e.attribute? "mixed" == some "true", content, attributes⟩

def root? (e : Element) : Option (String × TypeRef) := do
  let name ← e.attribute? "name"
  return (name, ← typeAt? types "type" e.attributes)

def isDefinition (e : Element) : Bool :=
  e.tag = "xs:simpleType" ∨ e.tag = "xs:complexType"

/-- A document holds definitions of types and root elements. -/
def schema? : List Element → Option Schema
  | [.mk tag _ items] =>
    if tag = "xs:schema" ∧ items.all (fun e => isDefinition e ∨ e.tag = "xs:element") then do
      let definitions ← (items.filter isDefinition).mapM (definition? types)
      let roots ← (items.filter (·.tag = "xs:element")).mapM (root? types)
      return ⟨definitions, roots⟩
    else none
  | _ => none

/-- Reads the text of a document from its root element on. -/
def read? (text : String) : Option Schema := do schema? types (← Xml.elements? text.toList)

end Types

/-- What a type name of a graph stands for. -/
def typeOf? (settings : Settings) (g : Graph) (name : String) : Option TypeRef :=
  match Primitive.all.find? fun p => primitiveName p = name with
  | some p => some (.primitive p)
  | none => (g.ids.find? fun id => typeName settings (g.get id) = .ok name).map .declared

mutual

def termOf (g : Graph) : Particle → Term
  | .element slot => .element (g.get slot.target).tag (.declared slot.target) slot.cardinality
  | .group compositor particles _ => .group compositor (termsOf g particles)

def termsOf (g : Graph) : List Particle → List Term
  | [] => []
  | p :: ps => termOf g p :: termsOf g ps

end

def valueOf : Body → TypeRef × Option String
  | .attribute valueType default => (valueType, default)
  | _ => (.default, none)

/-- The use of an attribute: required where it occurs exactly once, and else with its default. -/
def useOf (g : Graph) (slot : Slot) : AttributeUse :=
  let s := g.get slot.target
  if slot.cardinality = .one then ⟨s.tag, (valueOf s.body).1, true, none⟩
  else ⟨s.tag, (valueOf s.body).1, false, (valueOf s.body).2⟩

def contentOf (g : Graph) : Content → TypeContent
  | .empty => .empty
  | .text => .simple (.primitive .string) .none
  | .value type => .simple type .none
  | .children group => .group group.compositor (termsOf g group.particles)

def isMixed : Content → Bool
  | .children group => group.mixed
  | _ => false

def definitionOf (g : Graph) (id : StructureId) : TypeDefinition :=
  match (g.get id).body with
  | .dataType base constraints => ⟨.declared id, false, .simple base constraints, []⟩
  | .element _ attributes content =>
    ⟨.declared id, isMixed content, contentOf g content, attributes.map (useOf g)⟩
  | _ => ⟨.declared id, false, .empty, []⟩

/-- What a document says about a graph: the written data types, the written elements and the root
elements. -/
def schemaOf (settings : Settings) (g : Graph) : Schema :=
  ⟨(defined settings g).map (definitionOf g),
    g.rootElements.map fun id => ((g.get id).tag, .declared id)⟩

end DocSchema.XmlSchema
