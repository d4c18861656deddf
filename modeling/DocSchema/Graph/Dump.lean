import DocSchema.Graph
import DocSchema.Json

/-!
# Dumping a graph

A graph as a JSON value that loses nothing, and the graph that such a value describes. Fields
without a value are left out.
-/
namespace DocSchema

namespace Dump

def cardinality (c : Cardinality) : Json :=
  .object [("min", .integer c.min), ("max", match c.max with
    | some max => .integer max
    | none => .null)]

def slot (s : Slot) : Json :=
  .object [("target", .integer s.target), ("cardinality", cardinality s.cardinality)]

def typeRef : TypeRef → Json
  | .primitive p => .object [("primitive", .string p.name)]
  | .declared id => .object [("structure", .integer id)]

mutual

def particle : Particle → Json
  | .element s => .object [("element", slot s)]
  | .group compositor ps mixed =>
    .object [("group", .object [("compositor", .string compositor.name),
      ("particles", .array (particles ps)), ("mixed", .bool mixed)])]

def particles : List Particle → List Json
  | [] => []
  | p :: ps => particle p :: particles ps

end

def group (g : Group) : Json :=
  .object [("compositor", .string g.compositor.name), ("particles", .array (particles g.particles)),
    ("mixed", .bool g.mixed)]

def content : Content → Json
  | .empty => .object [("model", .string "empty")]
  | .text => .object [("model", .string "text_only")]
  | .value type => .object [("model", .string "value"), ("content", typeRef type)]
  | .children g => .object [("model", .string "children"), ("content", group g)]

def constraints (c : Constraints) : Json :=
  .object (Json.optional "pattern" (c.pattern.map .string)
    ++ Json.optional "values"
      (if c.values.isEmpty then none else some (.array (c.values.map .string)))
    ++ Json.optional "minimum" (c.minimum.map .integer)
    ++ Json.optional "maximum" (c.maximum.map .integer))

def body : Body → List (String × Json)
  | .element root attributes inner =>
    [("root", .bool root), ("attributes", .array (attributes.map slot)), ("content", content inner)]
  | .attribute valueType default =>
    ("value_type", typeRef valueType) :: Json.optional "default_value" (default.map .string)
  | .dataType base inner => [("base_type", typeRef base), ("constraints", constraints inner)]
  | .object root properties order =>
    [("root", .bool root), ("properties", .array (properties.map slot)),
      ("ordering", .string order.name)]
  | .property valueType => [("value_type", typeRef valueType)]
  | .array itemType items => [("item_type", typeRef itemType), ("items", cardinality items)]

def remarks (r : Remarks) : Json :=
  .object (Json.optional "description" (r.description.map .string)
    ++ Json.optional "example_value" (r.exampleValue.map .string))

def structureValue (s : Structure) : Json :=
  .object (("reference", .string s.reference)
    :: Json.optional "tag_name" (s.tagName.map .string)
    ++ Json.optional "metadata" (if s.remarks.isEmpty then none else some (remarks s.remarks))
    ++ ("kind", .string s.kind.keyword) :: body s.body)

/-! ## Reading -/

/-- An optional field, where `null` means that it is left out; a value of the wrong shape is
refused. -/
def field? {α : Type} (read : Json → Option α) (v : Json) (key : String) : Option (Option α) :=
  match v.field? key with
  | none | some .null => some none
  | some inner => (read inner).map some

def readString? : Json → Option String
  | .string s => some s
  | _ => none

def readBool? : Json → Option Bool
  | .bool b => some b
  | _ => none

def readInteger? : Json → Option Int
  | .integer n => some n
  | _ => none

def readNat? : Json → Option Nat
  | .integer (.ofNat n) => some n
  | _ => none

def readList? {α : Type} (read : Json → Option α) : Json → Option (List α)
  | .array items => items.mapM read
  | _ => none

def readMax? : Json → Option (Option Nat)
  | .null => some none
  | v => (readNat? v).map some

def readCardinality? (v : Json) : Option Cardinality := do
  let min ← (v.field? "min").bind readNat?
  let max ← (v.field? "max").bind readMax?
  Cardinality.range? min max

def readSlot? (v : Json) : Option Slot := do
  let target ← (v.field? "target").bind readNat?
  let cardinality ← (v.field? "cardinality").bind readCardinality?
  return ⟨target, cardinality⟩

def readTypeRef? (v : Json) : Option TypeRef :=
  match v.field? "primitive" with
  | some p => ((readString? p).bind Primitive.ofName?).map .primitive
  | none => ((v.field? "structure").bind readNat?).map .declared

def readCompositor? (v : Json) : Option Compositor := do
  let name ← readString? v
  [Compositor.sequence, .unordered, .choice].find? (·.name == name)

def readOrder? (v : Json) : Option MemberOrder := do
  let name ← readString? v
  [MemberOrder.ordered, .unordered].find? (·.name == name)

mutual

/-- Reads a particle: an object with the one field `element` or `group`. -/
def readParticle? : Json → Option Particle
  | .object [("element", v)] => (readSlot? v).map .element
  | .object [("group", .object fields)] => do
    let compositor ← ((Json.object fields).field? "compositor").bind readCompositor?
    let mixed ← ((Json.object fields).field? "mixed").bind readBool?
    let ps ← readMembers? fields
    return .group compositor ps mixed
  | _ => none

def readMembers? : List (String × Json) → Option (List Particle)
  | [] => none
  | (key, .array items) :: fields =>
    if key == "particles" then readParticles? items else readMembers? fields
  | _ :: fields => readMembers? fields

def readParticles? : List Json → Option (List Particle)
  | [] => some []
  | v :: vs => do
    let p ← readParticle? v
    return p :: (← readParticles? vs)

end

def readGroup? (v : Json) : Option Group :=
  match readParticle? (.object [("group", v)]) with
  | some (.group compositor ps mixed) => some ⟨compositor, ps, mixed⟩
  | _ => none

def readContent? (v : Json) : Option Content := do
  let model ← (v.field? "model").bind readString?
  if model == "empty" then return .empty
  else if model == "text_only" then return .text
  else if model == "value" then return .value (← (v.field? "content").bind readTypeRef?)
  else if model == "children" then return .children (← (v.field? "content").bind readGroup?)
  else none

def readConstraints? (v : Json) : Option Constraints := do
  let pattern ← field? readString? v "pattern"
  let values ← field? (readList? readString?) v "values"
  let minimum ← field? readInteger? v "minimum"
  let maximum ← field? readInteger? v "maximum"
  return ⟨pattern, values.getD [], minimum, maximum⟩

def readRoot? (v : Json) : Option Bool := (field? readBool? v "root").map (·.getD false)

def readBody? (v : Json) : Kind → Option Body
  | .element => do
    let attributes ← (v.field? "attributes").bind (readList? readSlot?)
    return .element (← readRoot? v) attributes (← (v.field? "content").bind readContent?)
  | .attribute => do
    let default ← field? readString? v "default_value"
    return .attribute (← (v.field? "value_type").bind readTypeRef?) default
  | .dataType => do
    let inner ← (v.field? "constraints").bind readConstraints?
    return .dataType (← (v.field? "base_type").bind readTypeRef?) inner
  | .object => do
    let properties ← (v.field? "properties").bind (readList? readSlot?)
    return .object (← readRoot? v) properties (← (v.field? "ordering").bind readOrder?)
  | .property => do return .property (← (v.field? "value_type").bind readTypeRef?)
  | .array => do
    let items ← (v.field? "items").bind readCardinality?
    return .array (← (v.field? "item_type").bind readTypeRef?) items

def readRemarks? (v : Json) : Option Remarks := do
  let description ← field? readString? v "description"
  let exampleValue ← field? readString? v "example_value"
  return ⟨description, exampleValue⟩

def readStructure? (v : Json) : Option Structure := do
  let reference ← (v.field? "reference").bind readString?
  let kind ← ((v.field? "kind").bind readString?).bind Kind.ofKeyword?
  let tagName ← field? readString? v "tag_name"
  let remarks ← field? readRemarks? v "metadata"
  return ⟨reference, tagName, remarks.getD .none, ← readBody? v kind⟩

end Dump

namespace Graph

def toJson (g : Graph) : Json :=
  .object (Json.optional "format_name" (g.formatName.map .string)
    ++ [("structures", .array (g.structures.map Dump.structureValue)),
      ("roots", .array (g.roots.map fun (id : Nat) => .integer id))])

/-- The graph that a dump describes. Roots follow from the structures. -/
def ofJson? (v : Json) : Option Graph := do
  let structures ← (v.field? "structures").bind (Dump.readList? Dump.readStructure?)
  let formatName ← Dump.field? Dump.readString? v "format_name"
  return ⟨formatName, structures⟩

end Graph

end DocSchema
