import DocSchema.Cardinality
import DocSchema.Primitive

/-!
# Content of elements

A content model says which children an element may hold. Its slots name structures by their index in
the graph.
-/
namespace DocSchema

/-- The index of a structure in its graph. -/
abbrev StructureId := Nat

inductive TypeRef where
  | primitive (p : Primitive)
  | declared (id : StructureId)
  deriving DecidableEq, Repr

namespace TypeRef

/-- The type of values that declare none. -/
def default : TypeRef := .primitive .string

def target? : TypeRef → Option StructureId
  | .primitive _ => none
  | .declared id => some id

end TypeRef

/-- A place for a structure, with how often it occurs there. -/
structure Slot where
  target : StructureId
  cardinality : Cardinality
  deriving DecidableEq, Repr

/-- Whether the order of listed members was fixed by the author. -/
inductive MemberOrder where
  | ordered
  | unordered
  deriving DecidableEq, Repr

def MemberOrder.name : MemberOrder → String
  | .ordered => "ordered"
  | .unordered => "unordered"

/-- How the members of a list combine: all in order, all in any order, or one of them. -/
inductive Compositor where
  | sequence
  | unordered
  | choice
  deriving DecidableEq, Repr

def Compositor.name : Compositor → String
  | .sequence => "sequence"
  | .unordered => "unordered"
  | .choice => "choice"

inductive Particle where
  | element (slot : Slot)
  | group (compositor : Compositor) (particles : List Particle) (mixed : Bool)
  deriving Repr

/-- Members combined by a compositor; text may stand between them when the group is mixed. -/
structure Group where
  compositor : Compositor
  particles : List Particle
  mixed : Bool
  deriving Repr

mutual

/-- The element slots of a particle, depth first. -/
def Particle.slots : Particle → List Slot
  | .element slot => [slot]
  | .group _ particles _ => Particle.slotsOf particles

def Particle.slotsOf : List Particle → List Slot
  | [] => []
  | p :: ps => p.slots ++ Particle.slotsOf ps

end

def Particle.isGroup : Particle → Bool
  | .element _ => false
  | .group .. => true

namespace Group

def slots (g : Group) : List Slot := Particle.slotsOf g.particles

def isNested (g : Group) : Bool := g.particles.any Particle.isGroup

end Group

inductive Content where
  /-- Neither children nor text. -/
  | empty
  /-- Text only. -/
  | text
  /-- One value. -/
  | value (type : TypeRef)
  /-- Child elements. -/
  | children (group : Group)
  deriving Repr

namespace Content

def group? : Content → Option Group
  | .children g => some g
  | _ => none

def slots (c : Content) : List Slot :=
  match c.group? with
  | some g => g.slots
  | none => []

end Content

end DocSchema
