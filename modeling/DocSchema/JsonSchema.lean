import DocSchema.Artifact
import DocSchema.Json
import DocSchema.Reach
import DocSchema.Settings

/-!
# JSON Schema

Data types, objects and arrays become named definitions that are referred to wherever they are used.
Properties are written into the objects that hold them, under their tags. JSON objects have no
order, so ordered and unordered properties are written alike.
-/
namespace DocSchema.JsonSchema

open Artifact (Failure)

/-- The name of a definition: kinds have name spaces of their own. -/
def key (s : Structure) : String := s!"{s.kind.keyword}.{s.reference}"

def reference (s : Structure) : Json := .string s!"#/$defs/{key s}"

def primitiveType : Primitive → String
  | .string => "string"
  | .integer => "integer"
  | .decimal => "number"
  | .boolean => "boolean"

/-- A literal as a value of a built-in type; a literal of no value stays text. -/
def literal (p : Primitive) (text : String) : Json :=
  let value := match p with
    | .string => none
    | .integer => (Number.readInteger? text.toList).map Json.integer
    | .decimal => (Number.Binary64.read? text.toList).map Json.double
    | .boolean => (Primitive.readBoolean? text).map Json.bool
  value.getD (.string text)

/-- The built-in type at the end of a chain; text where the chain has none. -/
def literalType (g : Graph) (type : TypeRef) : Primitive := (g.basePrimitive type).getD .string

/-- The description of a structure, and its example where values have a type. -/
def description (g : Graph) (s : Structure) (type : Option TypeRef) : List (String × Json) :=
  Json.optional "description" (s.remarks.description.map .string)
    ++ match s.remarks.exampleValue, type with
      | some shown, some type => [("examples", .array [literal (literalType g type) shown])]
      | _, _ => []

def typeFields (g : Graph) : TypeRef → List (String × Json)
  | .primitive p => [("type", .string (primitiveType p))]
  | .declared id => [("$ref", reference (g.get id))]

def constraintFields (g : Graph) (id : StructureId) (c : Constraints) : List (String × Json) :=
  Json.optional "pattern" (c.pattern.map fun pattern => .string s!"^(?:{pattern})$")
    ++ Json.optional "enum" (if c.values.isEmpty then none
      else some (.array (c.values.map (literal (literalType g (.declared id))))))
    ++ Json.optional "minimum" (c.minimum.map .integer)
    ++ Json.optional "maximum" (c.maximum.map .integer)

def dataType (g : Graph) (id : StructureId) (base : TypeRef) (c : Constraints) : Json :=
  .object (typeFields g base ++ constraintFields g id c
    ++ description g (g.get id) (some (.declared id)))

def valueFields (g : Graph) (owner : Structure) (type : TypeRef) :
    Except Failure (List (String × Json)) :=
  match type with
  | .primitive _ => .ok (typeFields g type)
  | .declared id =>
    let target := g.get id
    match target.kind with
    | .dataType | .object | .array => .ok (typeFields g type)
    | kind => .error (.unsupported owner.reference (.noJsonForm target.reference kind))

def property (g : Graph) (owner : Structure) (slot : Slot) : Except Failure (String × Json) :=
  let s := g.get slot.target
  match s.body with
  | .property valueType => do
    let fields ← valueFields g s valueType
    return (s.tag, .object (fields ++ description g s (some valueType)))
  | _ => .error (.unsupported owner.reference (.noJsonForm s.reference s.kind))

/-- The properties of an object; `seen` holds the slots before, whose tags are taken. -/
def properties (g : Graph) (owner : Structure) (seen : List Slot) :
    List Slot → Except Failure (List (String × Json))
  | [] => .ok []
  | slot :: slots => do
    let (tag, schema) ← property g owner slot
    match seen.find? fun other => (g.get other.target).tag == tag with
    | some other =>
      throw (.nameCollision (g.get other.target).reference (g.get slot.target).reference tag
        (.properties owner.reference))
    | none => return (tag, schema) :: (← properties g owner (seen ++ [slot]) slots)

def required (g : Graph) (slots : List Slot) : List String :=
  (slots.filter (·.cardinality.isRequired)).map fun slot => (g.get slot.target).tag

def object (settings : Settings) (g : Graph) (s : Structure) (slots : List Slot) :
    Except Failure Json := do
  let inner ← properties g s [] slots
  let required := required g slots
  return .object ([("type", .string "object"), ("properties", .object inner)]
    ++ Json.optional "required"
      (if required.isEmpty then none else some (.array (required.map .string)))
    ++ [("additionalProperties", .bool settings.additionalProperties)]
    ++ description g s none)

def array (g : Graph) (s : Structure) (itemType : TypeRef) (items : Cardinality) :
    Except Failure Json := do
  let fields ← valueFields g s itemType
  return .object ([("type", .string "array"), ("items", .object fields)]
    ++ (if 0 < items.min then [("minItems", .integer items.min)] else [])
    ++ Json.optional "maxItems" (items.max.map fun (max : Nat) => .integer max)
    ++ description g s none)

def definition (settings : Settings) (g : Graph) (id : StructureId) :
    Except Failure (Option Json) :=
  let s := g.get id
  match s.body with
  | .dataType base c => .ok (some (dataType g id base c))
  | .object _ slots _ => (object settings g s slots).map some
  | .array itemType items => (array g s itemType items).map some
  | _ => .ok none

def definitions (settings : Settings) (g : Graph) (before : List (String × Json)) :
    List StructureId → Except Failure (List (String × Json))
  | [] => .ok before
  | id :: ids => do
    match ← definition settings g id with
    | some value => definitions settings g (Json.put before (key (g.get id)) value) ids
    | none => definitions settings g before ids

/-- The root objects: one is referred to, of several exactly one is taken. -/
def rootFields (g : Graph) : List StructureId → List (String × Json)
  | [] => []
  | [root] => [("$ref", reference (g.get root))]
  | roots => [("oneOf", .array (roots.map fun root => .object [("$ref", reference (g.get root))]))]

def document (settings : Settings) (g : Graph) : Except Failure Json := do
  let reach := Reach.ofRoots g g.rootObjects settings.pruneUnreachable
  let defs ← definitions settings g [] (g.ids.filter reach.contains)
  return .object ([("$schema", .string "https://json-schema.org/draft/2020-12/schema")]
    ++ Json.optional "$id" (settings.schemaId.map .string)
    ++ Json.optional "title" ((settings.titleFor g.formatName).map .string)
    ++ rootFields g g.rootObjects
    ++ [("$defs", .object defs)])

def render (settings : Settings) (g : Graph) : Except Failure String :=
  (document settings g).map fun value => value.text ++ "\n"

end DocSchema.JsonSchema
