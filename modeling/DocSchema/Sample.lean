import DocSchema.Artifact
import DocSchema.Graph
import DocSchema.Pattern.Compile
import DocSchema.Settings
import DocSchema.Xml

/-!
# Sample documents

A sample shows one document of a root element: every attribute, every child as often as its range
asks for, repeatable children a few times, and of a choice the first option that is not an open
element. An element that is already open is not entered again, so recursive content ends.
-/
namespace DocSchema.Sample

open Artifact (Failure)
open Xml (Node)

def placeholder : String := "..."

def primitiveSample : Primitive → String
  | .string => placeholder
  | .integer => "0"
  | .decimal => "0.0"
  | .boolean => "true"

def repeats : Nat := 3

/-- How often a child is shown: never less than its minimum. -/
def count (c : Cardinality) : Nat :=
  Nat.max (match c.max with
    | some max => Nat.min max repeats
    | none => repeats) c.min

def constraintsOf (s : Structure) : Constraints :=
  match s.body with
  | .dataType _ c => c
  | _ => .none

/-- A value that a data type offers by itself: its example, or else its first allowed value. -/
def ownValue? (s : Structure) : Option String :=
  s.remarks.exampleValue.or (constraintsOf s).values.head?

def ownBound? (s : Structure) : Option Int := (constraintsOf s).minimum.or (constraintsOf s).maximum

/-- The value shown for `owner`: its example, or the nearest value on the chain of data types, or
the nearest bound, or a sample of the built-in type. -/
def choose (owner : Structure) (chain : List Structure) (p : Primitive) : String :=
  (owner.remarks.exampleValue.or (chain.findSome? ownValue?)).getD
    (match chain.findSome? ownBound? with
      | some bound => toString bound
      | none => primitiveSample p)

def checkPattern (value : String) (s : Structure) : Except Failure Unit :=
  match (constraintsOf s).pattern with
  | none => .ok ()
  | some pattern =>
    match Pattern.compile pattern with
    | .error fault => .error (.noSampleValue s.reference (.pattern fault))
    | .ok regex =>
      if regex.occursIn value.toList then .ok ()
      else .error (.noSampleValue s.reference (.mismatch value pattern))

def checkPatterns (value : String) : List Structure → Except Failure Unit
  | [] => .ok ()
  | s :: chain => do
    checkPattern value s
    checkPatterns value chain

def value (g : Graph) (owner : Structure) (type : TypeRef) : Except Failure String :=
  match g.basePrimitive type with
  | none => .ok placeholder
  | some p => do
    let chain := (g.baseChain type).map g.get
    let chosen := choose owner chain p
    checkPatterns chosen chain
    return chosen

/-- The value of an attribute: its default, unless it has an example. -/
def attributeValue (g : Graph) (s : Structure) : Except Failure String :=
  match s.body with
  | .attribute valueType default =>
    match default, s.remarks.exampleValue with
    | some given, none => .ok given
    | _, _ => value g s valueType
  | _ => .ok placeholder

def attributes (g : Graph) : List Slot → Except Failure (List Xml.Attribute)
  | [] => .ok []
  | slot :: slots => do
    let s := g.get slot.target
    let given ← attributeValue g s
    return (s.tag, given) :: (← attributes g slots)

inductive Instance where
  /-- An element without content. -/
  | leaf (id : StructureId) (attributes : List Xml.Attribute)
  /-- An element that holds text or a value. -/
  | text (id : StructureId) (attributes : List Xml.Attribute) (text : String)
  /-- An element that holds elements. -/
  | branch (id : StructureId) (attributes : List Xml.Attribute) (children : List Instance)
  deriving Repr

namespace Instance

def id : Instance → StructureId
  | .leaf id _ | .text id _ _ | .branch id _ _ => id

def attributes : Instance → List Xml.Attribute
  | .leaf _ attributes | .text _ attributes _ | .branch _ attributes _ => attributes

def children : Instance → List Instance
  | .leaf .. | .text .. => []
  | .branch _ _ children => children

mutual

def node (g : Graph) : Instance → Node
  | .leaf id attributes => .leaf (g.get id).tag attributes
  | .text id attributes inner => .text (g.get id).tag attributes inner
  | .branch id attributes children => .branch (g.get id).tag attributes (nodesOf g children)

def nodesOf (g : Graph) : List Instance → List Node
  | [] => []
  | i :: is => i.node g :: nodesOf g is

end

end Instance

def isOpenElement (isOpen : StructureId → Bool) : Particle → Bool
  | .element slot => isOpen slot.target
  | .group .. => false

mutual

/-- What is shown for a particle, given what is shown for a child that is not open. -/
def particle (isOpen : StructureId → Bool) (child : Slot → Except Failure (List Instance)) :
    Particle → Except Failure (List Instance)
  | .element slot => if isOpen slot.target then .ok [] else child slot
  | .group .choice ps _ => option isOpen child ps
  | .group _ ps _ => particles isOpen child ps

def particles (isOpen : StructureId → Bool) (child : Slot → Except Failure (List Instance)) :
    List Particle → Except Failure (List Instance)
  | [] => .ok []
  | p :: ps => do
    let first ← particle isOpen child p
    return first ++ (← particles isOpen child ps)

/-- The first option that is not an open element. -/
def option (isOpen : StructureId → Bool) (child : Slot → Except Failure (List Instance)) :
    List Particle → Except Failure (List Instance)
  | [] => .ok []
  | p :: ps => if isOpenElement isOpen p then option isOpen child ps else particle isOpen child p

end

def group (isOpen : StructureId → Bool) (child : Slot → Except Failure (List Instance))
    (g : Group) : Except Failure (List Instance) :=
  match g.compositor with
  | .choice => option isOpen child g.particles
  | _ => particles isOpen child g.particles

/-- A number of copies of what is shown once; nothing is made for no copies. -/
def copies (n : Nat) (once : Unit → Except Failure (List Instance)) :
    Except Failure (List Instance) :=
  if n = 0 then .ok [] else (once ()).map fun shown => (List.replicate n shown).flatten

/-- What is shown for an element inside the open ones. Open elements differ from each other, so
their number is at most that of the structures. -/
def element (g : Graph) : Nat → List StructureId → StructureId → Except Failure (List Instance)
  | 0, _, _ => .ok []
  | fuel + 1, opened, id =>
    let s := g.get id
    match s.body with
    | .element _ slots content => do
      let given ← attributes g slots
      match content with
      | .empty => return [.leaf id given]
      | .text => return [.text id given (s.remarks.exampleValue.getD placeholder)]
      | .value type => return [.text id given (← value g s type)]
      | .children inner =>
        let opened := id :: opened
        let child (slot : Slot) : Except Failure (List Instance) :=
          copies (count slot.cardinality) fun _ => element g fuel opened slot.target
        let shown ← group opened.contains child inner
        return [.branch id given shown]
    | _ => .ok []

def root (g : Graph) : Option String → Except Failure StructureId
  | none =>
    match g.rootElements with
    | id :: _ => .ok id
    | [] => .error .noRootElement
  | some name =>
    match g.find? name with
    | some id => if id ∈ g.rootElements then .ok id else .error (.unknownRoot name)
    | none => .error (.unknownRoot name)

def instances (g : Graph) (name : Option String) : Except Failure (List Instance) := do
  element g (g.size + 1) [] (← root g name)

def render (settings : Settings) (g : Graph) (name : Option String) : Except Failure String := do
  let shown ← instances g name
  match shown with
  | first :: _ => return Xml.Document.render settings.indent ⟨none, first.node g⟩
  | [] => throw .noRootElement

end DocSchema.Sample
