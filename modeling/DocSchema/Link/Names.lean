import DocSchema.Checked
import DocSchema.Graph
import DocSchema.Link.Problem

/-!
# Linking names

Every name of a definition is replaced by the index of the definition it stands for. All definitions
share one name space with the built-in types.
-/
namespace DocSchema.Link

/-- Reserved and repeated names; `seen` holds the names declared before. -/
def nameProblems (seen : List (Located String)) : List Definition → List Problem
  | [] => []
  | d :: ds =>
    if (Primitive.ofName? d.name.value).isSome then .reserved d.name :: nameProblems seen ds
    else
      match seen.find? (·.value == d.name.value) with
      | some first => .duplicate d.name first.span :: nameProblems seen ds
      | none => nameProblems (seen ++ [d.name]) ds

/-- The first definition with a name, unless the name is reserved. -/
def findFrom (name : String) (index : StructureId) :
    List Definition → Option (StructureId × Definition)
  | [] => none
  | d :: ds => if d.name.value == name then some (index, d) else findFrom name (index + 1) ds

def find? (definitions : List Definition) (name : String) : Option (StructureId × Definition) :=
  if (Primitive.ofName? name).isSome then none else findFrom name 0 definitions

def lookup (definitions : List Definition) (owner : String) (usage : Usage)
    (name : Located String) : Checked Problem (Option TypeRef) :=
  match Primitive.ofName? name.value with
  | some p =>
    if usage.acceptsPrimitive then pure (some (.primitive p))
    else .report (.builtIn name owner usage) none
  | none =>
    match find? definitions name.value with
    | none => .report (.undefined name owner) none
    | some (id, d) =>
      if usage.accepts d.kind then pure (some (.declared id))
      else .report (.wrongKind name owner usage d.kind d.name.span) none

def typeRef (definitions : List Definition) (owner : String) (usage : Usage) :
    Option (Located String) → Checked Problem TypeRef
  | none => pure .default
  | some name => return (← lookup definitions owner usage name).getD .default

def slot (definitions : List Definition) (owner : String) (usage : Usage) (o : Occurrence) :
    Checked Problem (Option Slot) := do
  match ← lookup definitions owner usage o.name with
  | some (.declared id) => return some ⟨id, o.cardinality⟩
  | _ => return none

def slots (definitions : List Definition) (owner : String) (usage : Usage) :
    List Occurrence → Checked Problem (List Slot)
  | [] => pure []
  | o :: os => do
    let s ← slot definitions owner usage o
    return s.toList ++ (← slots definitions owner usage os)

mutual

def particle (definitions : List Definition) (owner : String) :
    Definition.Member → Checked Problem (List Particle)
  | .element o => do
    let s ← slot definitions owner .child o
    return s.toList.map .element
  | .group compositor members =>
    return [.group compositor (← particles definitions owner members) false]

def particles (definitions : List Definition) (owner : String) :
    List Definition.Member → Checked Problem (List Particle)
  | [] => pure []
  | m :: ms => do
    let first ← particle definitions owner m
    return first ++ (← particles definitions owner ms)

end

def default? (definitions : List Definition) (name : String) : Option (Located String) :=
  match find? definitions name with
  | some (_, ⟨_, _, _, .attribute _ default⟩) => default
  | _ => none

/-- Required attributes whose defaults cannot apply. -/
def unusedDefaults (definitions : List Definition) (owner : String) (os : List Occurrence) :
    List Problem :=
  (os.filter (·.cardinality.isRequired)).filterMap fun o =>
    (default? definitions o.name.value).map (.unusedDefault owner o)

/-- The content of an element. A lone name is a child, or the type of a value, which takes no
quantifier. -/
def content (definitions : List Definition) (owner : String) :
    Definition.Content → Checked Problem Content
  | .empty => pure .empty
  | .text => pure .text
  | .single target quantifier => do
    match ← lookup definitions owner .content target.name with
    | none => return .empty
    | some type =>
      match type.target?.bind (definitions[·]?) with
      | some ⟨_, _, _, .element ..⟩ =>
        let slots := type.target?.toList.map fun id => Particle.element ⟨id, target.cardinality⟩
        return .children ⟨.sequence, slots, false⟩
      | _ =>
        Checked.note (quantifier.toList.map (.quantifiedValue owner))
        return .value type
  | .group compositor members mixed =>
    return .children ⟨compositor, ← particles definitions owner members, mixed⟩

def body (definitions : List Definition) (owner : String) :
    Definition.Body → Checked Problem Body
  | .element root attributes inner => do
    Checked.note (unusedDefaults definitions owner attributes)
    let attributes ← slots definitions owner .attributes attributes
    return .element root attributes (← content definitions owner inner)
  | .attribute valueType default =>
    return .attribute (← typeRef definitions owner .simpleType valueType) (default.map (·.value))
  | .dataType base pattern values minimum maximum =>
    return .dataType (← typeRef definitions owner .simpleType base)
      ⟨pattern.map (·.value), values.map (·.value), minimum.map (·.value), maximum.map (·.value)⟩
  | .object root properties order =>
    return .object root (← slots definitions owner .properties properties) order
  | .property valueType => return .property (← typeRef definitions owner .jsonValue valueType)
  | .array itemType =>
    return .array (← typeRef definitions owner .jsonValue (some itemType.name)) itemType.cardinality

def structureOf (definitions : List Definition) (d : Definition) : Checked Problem Structure := do
  let linked ← body definitions d.name.value d.body
  return ⟨d.name.value, d.tagName.map (·.value), d.remarks, linked⟩

def structures (definitions : List Definition) : List Definition → Checked Problem (List Structure)
  | [] => pure []
  | d :: ds => do
    let s ← structureOf definitions d
    return s :: (← structures definitions ds)

def names (definitions : List Definition) : Checked Problem (List Structure) := do
  Checked.note (nameProblems [] definitions)
  structures definitions definitions

end DocSchema.Link
