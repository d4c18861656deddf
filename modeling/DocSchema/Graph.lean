import DocSchema.Structure

/-!
# Graphs of structures

A graph holds the structures of one schema in declaration order. Structures refer to each other by
index, so recursive content needs no special treatment.
-/
namespace DocSchema

structure Graph where
  formatName : Option String
  structures : List Structure
  deriving Repr

namespace Graph

def ofStructures (structures : List Structure) : Graph := ⟨none, structures⟩

def withFormatName (g : Graph) (name : String) : Graph := { g with formatName := some name }

def size (g : Graph) : Nat := g.structures.length

/-- The structure with an index. Indices come from the graph itself; any other reads as a blank
structure. -/
def get (g : Graph) (id : StructureId) : Structure := g.structures.getD id .blank

def ids (g : Graph) : List StructureId := List.range g.size

/-- The structure declared under a reference, the last one if there are several. -/
def find? (g : Graph) (reference : String) : Option StructureId :=
  g.ids.reverse.find? fun id => (g.get id).reference == reference

def ofKind (g : Graph) (kind : Kind) : List StructureId :=
  g.ids.filter fun id => (g.get id).kind == kind

def roots (g : Graph) : List StructureId := g.ids.filter fun id => (g.get id).isRoot

def rootElements (g : Graph) : List StructureId :=
  g.roots.filter fun id => (g.get id).kind == .element

def rootObjects (g : Graph) : List StructureId :=
  g.roots.filter fun id => (g.get id).kind == .object

def base? (g : Graph) (id : StructureId) : Option TypeRef :=
  match (g.get id).body with
  | .dataType base _ => some base
  | _ => none

def basePrimitiveAux (g : Graph) : Nat → TypeRef → Option Primitive
  | _, .primitive p => some p
  | 0, .declared _ => none
  | fuel + 1, .declared id =>
    match g.base? id with
    | some base => basePrimitiveAux g fuel base
    | none => none

/-- The built-in type at the end of a chain of bases. A chain that meets no structure twice has at
most as many steps as the graph has structures. -/
def basePrimitive (g : Graph) (type : TypeRef) : Option Primitive :=
  g.basePrimitiveAux g.size type

def baseChainAux (g : Graph) : Nat → TypeRef → List StructureId
  | _, .primitive _ => []
  | 0, .declared _ => []
  | fuel + 1, .declared id =>
    match g.base? id with
    | some base => id :: baseChainAux g fuel base
    | none => []

def baseChain (g : Graph) (type : TypeRef) : List StructureId := g.baseChainAux g.size type

end Graph

end DocSchema
