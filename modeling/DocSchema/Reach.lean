import DocSchema.Graph

/-!
# What the roots reach

Structures are listed breadth first: a root, what it links to in the order of its links, what those
link to, and so on. A structure is listed where it is found first.
-/
namespace DocSchema

namespace Graph

def unseen (seen : List StructureId) : List StructureId → List StructureId
  | [] => []
  | id :: ids => if seen.contains id then unseen seen ids else id :: unseen (id :: seen) ids

/-- Adds to `found` what the queue leads to. Every structure enters the queue once, so as many steps
as there are structures are enough. -/
def explore (g : Graph) : Nat → List StructureId → List StructureId → List StructureId
  | 0, _, found => found
  | _, [], found => found
  | fuel + 1, id :: queue, found =>
    let fresh := unseen found (g.get id).links
    explore g fuel (queue ++ fresh) (found ++ fresh)

def reachFrom (g : Graph) (found : List StructureId) : List StructureId → List StructureId
  | [] => found
  | root :: roots =>
    if found.contains root then reachFrom g found roots
    else reachFrom g (g.explore g.size [root] (found ++ [root])) roots

def reachable (g : Graph) (roots : List StructureId) : List StructureId := g.reachFrom [] roots

/-- The order of the manual: what the roots reach, then, unless pruned, the rest. Without roots it
is the order of declaration. -/
def documentationOrder (g : Graph) (prune : Bool) : List StructureId :=
  if g.roots.isEmpty then g.ids
  else
    let found := g.reachable g.roots
    if prune then found else found ++ unseen found g.ids

end Graph

inductive Reach where
  | all
  | only (ids : List StructureId)
  deriving DecidableEq, Repr

namespace Reach

/-- Pruning keeps what the roots reach; without roots everything is kept. -/
def ofRoots (g : Graph) (roots : List StructureId) (prune : Bool) : Reach :=
  if !prune || roots.isEmpty then .all else .only (g.reachable roots)

def contains : Reach → StructureId → Bool
  | .all, _ => true
  | .only ids, id => ids.contains id

end Reach

end DocSchema
