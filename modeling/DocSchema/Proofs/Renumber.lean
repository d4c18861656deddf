import DocSchema.Proofs.BaseCycles

/-!
# Renumbered graphs

Structures refer to each other by index. A graph that lists the same structures in another order has
other indices, and its roots and names are the same up to the new numbers.
-/
namespace DocSchema

section Rename

variable (f : StructureId → StructureId)

def TypeRef.rename : TypeRef → TypeRef
  | .primitive p => .primitive p
  | .declared id => .declared (f id)

def Slot.rename (s : Slot) : Slot := { s with target := f s.target }

mutual

def Particle.rename : Particle → Particle
  | .element slot => .element (slot.rename f)
  | .group compositor particles mixed => .group compositor (Particle.renameAll particles) mixed

def Particle.renameAll : List Particle → List Particle
  | [] => []
  | p :: ps => p.rename :: Particle.renameAll ps

end

def Content.rename : Content → Content
  | .empty => .empty
  | .text => .text
  | .value type => .value (type.rename f)
  | .children ⟨compositor, particles, mixed⟩ =>
    .children ⟨compositor, Particle.renameAll f particles, mixed⟩

def Body.rename : Body → Body
  | .element root attributes content =>
    .element root (attributes.map (Slot.rename f)) (content.rename f)
  | .attribute valueType default => .attribute (valueType.rename f) default
  | .dataType base constraints => .dataType (base.rename f) constraints
  | .object root properties order => .object root (properties.map (Slot.rename f)) order
  | .property valueType => .property (valueType.rename f)
  | .array itemType items => .array (itemType.rename f) items

/-- A structure with every index in its body replaced. Its names and remarks stay. -/
def Structure.rename (s : Structure) : Structure := { s with body := s.body.rename f }

theorem Particle.renameAll_append (ps qs : List Particle) :
    renameAll f (ps ++ qs) = renameAll f ps ++ renameAll f qs := by
  induction ps with
  | nil => rfl
  | cons p ps ih => simp [renameAll, ih]

theorem TypeRef.rename_id (t : TypeRef) : t.rename id = t := by
  cases t <;> rfl

theorem Slot.map_rename_id (ss : List Slot) : ss.map (Slot.rename id) = ss := List.map_id ss

mutual

theorem Particle.rename_id (p : Particle) : p.rename id = p := by
  cases p with
  | element slot => rfl
  | group compositor particles mixed =>
    exact congrArg (Particle.group compositor · mixed) (Particle.renameAll_id particles)

theorem Particle.renameAll_id (ps : List Particle) : Particle.renameAll id ps = ps := by
  cases ps with
  | nil => rfl
  | cons p ps => exact congrArg₂ List.cons (Particle.rename_id p) (Particle.renameAll_id ps)

end

theorem Content.rename_id (c : Content) : c.rename id = c := by
  cases c with
  | empty => rfl
  | text => rfl
  | value type => rw [rename, TypeRef.rename_id]
  | children group => rw [rename, Particle.renameAll_id]

theorem Structure.rename_id (s : Structure) : s.rename id = s := by
  obtain ⟨reference, tagName, remarks, body⟩ := s
  cases body <;>
    simp only [rename, Body.rename, TypeRef.rename_id, Slot.map_rename_id, Content.rename_id]

@[simp] theorem Structure.isRoot_rename (s : Structure) : (s.rename f).isRoot = s.isRoot := by
  obtain ⟨reference, tagName, remarks, body⟩ := s
  cases body <;> rfl

@[simp] theorem Structure.reference_rename (s : Structure) :
    (s.rename f).reference = s.reference := rfl

end Rename

namespace Graph

theorem mem_roots {g : Graph} {id : StructureId} : id ∈ g.roots ↔ (g.get id).isRoot = true := by
  simp only [roots, List.mem_filter, mem_ids, and_iff_right_iff_imp]
  intro hroot
  by_contra hid
  have hblank : g.get id = .blank := List.getD_eq_default _ _ (Nat.le_of_not_lt hid)
  rw [hblank] at hroot
  cases hroot

/-- The second graph lists the structures of the first in another order, that of index `id` at
`σ id`. -/
structure Renumbered (σ : Equiv.Perm StructureId) (g g' : Graph) : Prop where
  size : g'.size = g.size
  get : ∀ id, g'.get (σ id) = (g.get id).rename σ

namespace Renumbered

variable {σ : Equiv.Perm StructureId} {g g' : Graph}

theorem mem_roots (h : g.Renumbered σ g') {id : StructureId} :
    σ id ∈ g'.roots ↔ id ∈ g.roots := by
  rw [Graph.mem_roots, Graph.mem_roots, h.get id, Structure.isRoot_rename]

theorem find? (h : g.Renumbered σ g') (hd : (g.structures.map (·.reference)).Nodup)
    (hd' : (g'.structures.map (·.reference)).Nodup) (hlt : ∀ id, σ id < g'.size ↔ id < g.size)
    (name : String) : g'.find? name = (g.find? name).map σ := by
  ext id
  obtain ⟨id, rfl⟩ := σ.surjective id
  rw [find?_eq_some_iff hd', hlt id, h.get id, Structure.reference_rename]
  simp [find?_eq_some_iff hd]

end Renumbered

end Graph

end DocSchema
