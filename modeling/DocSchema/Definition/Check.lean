import DocSchema.Comment
import DocSchema.Definition.Problem

/-!
# From declarations to definitions

Every declaration is checked by itself: first its property names, then the values of its properties
in a fixed order, the tag name last. A property that is given twice counts as first given.
-/
namespace DocSchema.Definition

/-- Unknown and repeated properties, in written order; `seen` holds the properties taken so far. -/
def propertyProblems (owner : String) (kind : Kind) (seen : List Property) :
    List Property → List Problem
  | [] => []
  | p :: ps =>
    if kind.propertyNames.any (·.text == p.name.value) then
      match seen.find? (·.name.value == p.name.value) with
      | some first => .repeatedProperty owner first p :: propertyProblems owner kind seen ps
      | none => propertyProblems owner kind (seen ++ [p]) ps
    else .unknownProperty owner kind p.name :: propertyProblems owner kind seen ps

/-- The value of a property, if the kind of the declaration has the property. -/
def given (d : Declaration) (property : PropertyName) : Option Value :=
  if property ∈ d.kind.value.propertyNames then d.value? property.text else none

/-- Reads a property that may be missing by `read`, which knows the values of the right shape. -/
def optional {α : Type} (d : Declaration) (property : PropertyName) (expected : Shape)
    (read : Value → Option α) : Checked Problem (Option α) :=
  match given d property with
  | none => pure none
  | some value =>
    match read value with
    | some a => pure (some a)
    | none => .report (.wrongShape d.name.value property value expected) none

/-- A string, or a bare name. -/
def string? : Value → Option (Located String)
  | .string s => some s
  | .item ⟨name, none⟩ => some name
  | _ => none

def typeName? : Value → Option (Located String)
  | .item ⟨name, none⟩ => some name
  | _ => none

def literal? : Value → Option (Located String)
  | .string s => some s
  | .integer n => some (n.map toString)
  | _ => none

def integer? : Value → Option (Located Int)
  | .integer n => some n
  | _ => none

def pattern? : Value → Option (Located String)
  | .pattern s => some s
  | .string s => some s
  | _ => none

def typeName (d : Declaration) (property : PropertyName) :
    Checked Problem (Option (Located String)) :=
  optional d property .typeName typeName?

def literalEntries (owner : String) (property : PropertyName) :
    List Entry → Checked Problem (List (Located String))
  | [] => pure []
  | .string s :: es => return s :: (← literalEntries owner property es)
  | .integer n :: es => return n.map toString :: (← literalEntries owner property es)
  | e :: es => do
    Checked.note [.notLiteral owner property e]
    literalEntries owner property es

def literals (d : Declaration) (property : PropertyName) :
    Checked Problem (List (Located String)) :=
  match given d property with
  | none => pure []
  | some (.string s) => pure [s]
  | some (.integer n) => pure [n.map toString]
  | some (.list _ entries _) => literalEntries d.name.value property entries
  | some value => .report (.wrongShape d.name.value property value .literals) []

/-- An item with its quantifier normalized. -/
def occurrence (i : Item) : Checked Problem (Option Occurrence) :=
  match i.quantifier with
  | none => pure (some ⟨i.name, .one⟩)
  | some q =>
    match q.value.cardinality with
    | .ok c => pure (some ⟨i.name, c⟩)
    | .error fault => .report (.quantifier q fault) none

def referenceEntries (owner : String) (property : PropertyName) :
    List Entry → Checked Problem (List Occurrence)
  | [] => pure []
  | .item i :: es => do
    let o ← occurrence i
    return o.toList ++ (← referenceEntries owner property es)
  | e :: es => do
    Checked.note [.notReference owner property e]
    referenceEntries owner property es

/-- A reference or a list of references. Brackets fix the order, braces leave it open. -/
def references (d : Declaration) (property : PropertyName) :
    Checked Problem (MemberOrder × List Occurrence) :=
  match given d property with
  | none => pure (.ordered, [])
  | some (.item i) => return (.ordered, (← occurrence i).toList)
  | some (.list compositor entries span) => do
    let os ← referenceEntries d.name.value property entries
    match compositor with
    | .sequence => return (.ordered, os)
    | .unordered => return (.unordered, os)
    | .choice =>
      .report (.wrongShape d.name.value property (.list compositor entries span) .commaList)
        (.unordered, os)
  | some value => .report (.wrongShape d.name.value property value .references) (.ordered, [])

def collapse (owner : String) (os : List Occurrence) : Checked Problem (List Occurrence) :=
  let c := Occurrence.collapse os
  ⟨c.value, c.problems.map (.repeatedMember owner)⟩

/-- The attributes of an element, each at most once. Their order has no meaning. -/
def attributesOf (d : Declaration) : Checked Problem (List Occurrence) := do
  let (_, os) ← references d .attributes
  Checked.note ((os.filter (·.cardinality.isRepeatable)).map (.repeatableAttribute d.name.value))
  collapse d.name.value os

def Member.occurrence? : Member → Option Occurrence
  | .element o => some o
  | .group .. => none

def Member.isGroup : Member → Bool
  | .element _ => false
  | .group .. => true

/-- The members of a list under a compositor. In an unordered list an element is listed once, and
elements come before groups. -/
def arrange (owner : String) (compositor : Compositor) (members : List Member) :
    Checked Problem (List Member) :=
  match compositor with
  | .unordered => do
    let os ← collapse owner (members.filterMap Member.occurrence?)
    return os.map .element ++ members.filter Member.isGroup
  | _ => pure members

mutual

/-- The members that an entry of a content list gives, and whether it allows any text. -/
def entryMembers (owner : String) : Entry → Checked Problem (List Member × Bool)
  | .item i => do
    let o ← occurrence i
    return (o.toList.map .element, false)
  | .list compositor entries _ => do
    let (members, mixed) ← entriesMembers owner entries
    let members ← arrange owner compositor members
    return (if members.isEmpty then [] else [.group compositor members], mixed)
  | .anyText _ => pure ([], true)
  | .string s => .report (.notContent owner (.string s)) ([], false)
  | .integer n => .report (.notContent owner (.integer n)) ([], false)

def entriesMembers (owner : String) : List Entry → Checked Problem (List Member × Bool)
  | [] => pure ([], false)
  | e :: es => do
    let (first, mixed) ← entryMembers owner e
    let (rest, mixed') ← entriesMembers owner es
    return (first ++ rest, mixed || mixed')

end

/-- The content that a list describes. Without members it is text, or nothing. -/
def Content.ofMembers (compositor : Compositor) (members : List Member) (mixed : Bool) : Content :=
  if members.isEmpty then (if mixed then .text else .empty) else .group compositor members mixed

def contentOf (d : Declaration) : Checked Problem Content :=
  match given d .allowedContent with
  | none => pure .empty
  | some (.anyText _) => pure .text
  | some (.item i) => do
    match ← occurrence i with
    | some target => return .single target (i.quantifier.map (·.span))
    | none => return .empty
  | some (.list compositor entries _) => do
    let (members, mixed) ← entriesMembers d.name.value entries
    let members ← arrange d.name.value compositor members
    return .ofMembers compositor members mixed
  | some value => .report (.wrongShape d.name.value .allowedContent value .content) .empty

/-- The item type of an array. It has to be given; the array itself stands in where it fails. -/
def itemTypeOf (d : Declaration) : Checked Problem Occurrence :=
  match given d .itemType with
  | some (.item i) => return (← occurrence i).getD ⟨d.name, .one⟩
  | some value => .report (.wrongShape d.name.value .itemType value .reference) ⟨d.name, .one⟩
  | none => .report (.missingItemType d.name) ⟨d.name, .one⟩

/-- The properties of an object. Braces leave their order open, so each is listed once. -/
def objectBody (d : Declaration) : Checked Problem Body := do
  let (order, os) ← references d .properties
  match order with
  | .ordered => return .object d.isRoot os .ordered
  | .unordered => return .object d.isRoot (← collapse d.name.value os) .unordered

def bodyOf (d : Declaration) : Checked Problem Body :=
  match d.kind.value with
  | .element => return .element d.isRoot (← attributesOf d) (← contentOf d)
  | .attribute =>
    return .attribute (← typeName d .valueType) (← optional d .defaultValue .literal literal?)
  | .dataType =>
    return .dataType (← typeName d .baseType) (← optional d .allowedPattern .pattern pattern?)
      (← literals d .allowedValues) (← optional d .minimumValue .integer integer?)
      (← optional d .maximumValue .integer integer?)
  | .object => objectBody d
  | .property => return .property (← typeName d .valueType)
  | .array => return .array (← itemTypeOf d)

def ofDeclaration (comments : List (Located String)) (d : Declaration) :
    Checked Problem Definition := do
  Checked.note (propertyProblems d.name.value d.kind.value [] d.properties)
  let body ← bodyOf d
  let tagName ← optional d .tagName .string string?
  return ⟨d.name, tagName, Comment.remarks comments d, body⟩

def ofDeclarations (comments : List (Located String)) :
    List Declaration → Checked Problem (List Definition)
  | [] => pure []
  | d :: ds => return (← ofDeclaration comments d) :: (← ofDeclarations comments ds)

end DocSchema.Definition
