import DocSchema.Artifact
import DocSchema.Reach
import DocSchema.Settings
import DocSchema.Xml

/-!
# XML Schema

Every data type and element that is written becomes a named type, and elements refer to types by
name, so recursive content needs no special treatment. Data types come first, then element types,
each in declaration order, then one global element per root element.
-/
namespace DocSchema.XmlSchema

open Artifact (Failure Scope)
open Xml (Node Attribute)

def primitiveName : Primitive → String
  | .string => "xs:string"
  | .integer => "xs:integer"
  | .decimal => "xs:decimal"
  | .boolean => "xs:boolean"

/-- The type name of a data type or an element: the two kinds have marks of their own, so that their
names cannot meet. -/
def typeName (settings : Settings) (s : Structure) : Except Failure String :=
  let named (mark : String) : Except Failure String :=
    let name := settings.typePrefix ++ mark ++ s.reference
    if Xml.isName name then .ok name else .error (.invalidName s.reference name)
  match s.kind with
  | .dataType => named "d__"
  | .element => named "e__"
  | kind => .error (.unsupported s.reference (.noXmlType kind))

def typeRefName (settings : Settings) (g : Graph) : TypeRef → Except Failure String
  | .primitive p => .ok (primitiveName p)
  | .declared id => typeName settings (g.get id)

def tagOf (s : Structure) : Except Failure String :=
  if Xml.isName s.tag then .ok s.tag else .error (.invalidName s.reference s.tag)

/-- The first of several structures whose tag belongs to another structure before it; `seen` holds
those before. -/
def collision? (g : Graph) (scope : Scope) (seen : List StructureId) :
    List StructureId → Option Failure
  | [] => none
  | id :: ids =>
    match seen.find? fun other => (g.get other).tag == (g.get id).tag with
    | some other =>
      if other == id then collision? g scope seen ids
      else some (.nameCollision (g.get other).reference (g.get id).reference (g.get id).tag scope)
    | none => collision? g scope (seen ++ [id]) ids

def checkDistinctTags (g : Graph) (scope : Scope) (ids : List StructureId) : Except Failure Unit :=
  match collision? g scope [] ids with
  | some failure => .error failure
  | none => .ok ()

def documentation (s : Structure) : List Node :=
  match s.remarks.description with
  | some text => [.branch "xs:annotation" [] [.text "xs:documentation" [] text]]
  | none => []

def described (tag : String) (attributes : List Attribute) (s : Structure) : Node :=
  match documentation s with
  | [] => .leaf tag attributes
  | notes => .branch tag attributes notes

def facets (c : Constraints) : List Node :=
  let facet (tag : String) (value : String) : Node := .leaf tag [("value", value)]
  c.pattern.toList.map (facet "xs:pattern")
    ++ c.values.map (facet "xs:enumeration")
    ++ c.minimum.toList.map (fun n => facet "xs:minInclusive" (toString n))
    ++ c.maximum.toList.map (fun n => facet "xs:maxInclusive" (toString n))

def restriction (base : String) (c : Constraints) : Node :=
  if c.isEmpty then .leaf "xs:restriction" [("base", base)]
  else .branch "xs:restriction" [("base", base)] (facets c)

def dataType (settings : Settings) (g : Graph) (s : Structure) (base : TypeRef) (c : Constraints) :
    Except Failure Node := do
  let name ← typeName settings s
  let base ← typeRefName settings g base
  return .branch "xs:simpleType" [("name", name)] (documentation s ++ [restriction base c])

/-- An attribute of an element. Defaults apply to attributes that may be left out. -/
def attributeNode (settings : Settings) (g : Graph) (slot : Slot) : Except Failure (List Node) :=
  let s := g.get slot.target
  match s.body with
  | .attribute valueType default => do
    let name ← tagOf s
    let type ← typeRefName settings g valueType
    let required := slot.cardinality.isExactlyOne
    let use := if required then "required" else "optional"
    let default := if required then [] else default.toList.map fun value => ("default", value)
    return [described "xs:attribute" ([("name", name), ("type", type), ("use", use)] ++ default) s]
  | _ => .ok []

def attributeNodes (settings : Settings) (g : Graph) : List Slot → Except Failure (List Node)
  | [] => .ok []
  | slot :: slots => do
    let first ← attributeNode settings g slot
    return first ++ (← attributeNodes settings g slots)

/-- How often a child occurs; once need not be said. -/
def occurrenceAttributes (c : Cardinality) : List Attribute :=
  (if c.min = 1 then [] else [("minOccurs", toString c.min)])
    ++ match c.max with
      | some max => if max = 1 then [] else [("maxOccurs", toString max)]
      | none => [("maxOccurs", "unbounded")]

def child (settings : Settings) (g : Graph) (slot : Slot) : Except Failure Node := do
  let s := g.get slot.target
  let tag ← tagOf s
  let type ← typeName settings s
  return .leaf "xs:element"
    ([("name", tag), ("type", type)] ++ occurrenceAttributes slot.cardinality)

def compositorTag : Compositor → String
  | .sequence => "xs:sequence"
  | .choice => "xs:choice"
  | .unordered => "xs:all"

mutual

/-- The declaration of a particle. An unordered group cannot stand inside another group. -/
def particle (settings : Settings) (g : Graph) (owner : String) : Particle → Except Failure Node
  | .element slot => child settings g slot
  | .group .unordered _ _ => .error (.unsupported owner .unorderedInGroup)
  | .group compositor ps _ => do
    return .branch (compositorTag compositor) [] (← particles settings g owner ps)

def particles (settings : Settings) (g : Graph) (owner : String) :
    List Particle → Except Failure (List Node)
  | [] => .ok []
  | p :: ps => do
    let first ← particle settings g owner p
    return first :: (← particles settings g owner ps)

end

/-- Unordered content holds elements only, each at most once. -/
def checkUnordered (g : Graph) (owner : String) (group : Group) : Except Failure Unit :=
  if group.isNested then .error (.unsupported owner .groupInUnordered)
  else
    match group.slots.find? (·.cardinality.isRepeatable) with
    | some slot =>
      .error (.unsupported owner
        (.repeatedInUnordered (g.get slot.target).reference slot.cardinality))
    | none => .ok ()

/-- The type of an element with text or a value. Without attributes it is a simple type. -/
def simpleContent (settings : Settings) (g : Graph) (name : String) (s : Structure)
    (slots : List Slot) (value : TypeRef) : Except Failure Node := do
  let base ← typeRefName settings g value
  if slots.isEmpty then
    return .branch "xs:simpleType" [("name", name)]
      (documentation s ++ [.leaf "xs:restriction" [("base", base)]])
  else
    let extension := .branch "xs:extension" [("base", base)] (← attributeNodes settings g slots)
    return .branch "xs:complexType" [("name", name)]
      (documentation s ++ [.branch "xs:simpleContent" [] [extension]])

def complexContent (settings : Settings) (g : Graph) (name : String) (s : Structure)
    (slots : List Slot) (group : Group) : Except Failure Node := do
  if group.compositor = .unordered then checkUnordered g s.reference group
  checkDistinctTags g (.children s.reference) (group.slots.map (·.target))
  let inner ←
    if group.particles.isEmpty then pure []
    else do
      let members ← particles settings g s.reference group.particles
      pure [Node.branch (compositorTag group.compositor) [] members]
  let mixed := if group.mixed then [("mixed", "true")] else []
  return .branch "xs:complexType" (("name", name) :: mixed)
    (documentation s ++ inner ++ (← attributeNodes settings g slots))

def element (settings : Settings) (g : Graph) (s : Structure) (slots : List Slot)
    (content : Content) : Except Failure Node := do
  let name ← typeName settings s
  let _ ← tagOf s
  checkDistinctTags g (.attributes s.reference) (slots.map (·.target))
  match content with
  | .text => simpleContent settings g name s slots .default
  | .value type => simpleContent settings g name s slots type
  | .empty =>
    if slots.isEmpty then return described "xs:complexType" [("name", name)] s
    else
      return .branch "xs:complexType" [("name", name)]
        (documentation s ++ (← attributeNodes settings g slots))
  | .children group => complexContent settings g name s slots group

def dataTypes (settings : Settings) (g : Graph) : List StructureId → Except Failure (List Node)
  | [] => .ok []
  | id :: ids =>
    match (g.get id).body with
    | .dataType base c => do
      let first ← dataType settings g (g.get id) base c
      return first :: (← dataTypes settings g ids)
    | _ => dataTypes settings g ids

def elements (settings : Settings) (g : Graph) : List StructureId → Except Failure (List Node)
  | [] => .ok []
  | id :: ids =>
    match (g.get id).body with
    | .element _ slots content => do
      let first ← element settings g (g.get id) slots content
      return first :: (← elements settings g ids)
    | _ => elements settings g ids

def rootElements (settings : Settings) (g : Graph) : List StructureId → Except Failure (List Node)
  | [] => .ok []
  | id :: ids => do
    let tag ← tagOf (g.get id)
    let type ← typeName settings (g.get id)
    return .leaf "xs:element" [("name", tag), ("type", type)] :: (← rootElements settings g ids)

def items (settings : Settings) (g : Graph) : Except Failure (List Node) := do
  checkDistinctTags g .rootElements g.rootElements
  let reach := Reach.ofRoots g g.rootElements settings.pruneUnreachable
  let written := g.ids.filter reach.contains
  let types ← dataTypes settings g written
  let elementTypes ← elements settings g written
  return types ++ elementTypes ++ (← rootElements settings g g.rootElements)

def document (settings : Settings) (g : Graph) : Except Failure Xml.Document := do
  let items ← items settings g
  let comment := (settings.titleFor g.formatName).map fun title => s!"An XSD file for {title}."
  return ⟨comment, .branch "xs:schema"
    [("xmlns:xs", "http://www.w3.org/2001/XMLSchema"), ("elementFormDefault", "qualified")] items⟩

def render (settings : Settings) (g : Graph) : Except Failure String :=
  (document settings g).map (Xml.Document.render settings.indent)

end DocSchema.XmlSchema
