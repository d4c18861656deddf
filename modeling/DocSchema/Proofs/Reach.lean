import DocSchema.Proofs.BreadthFirst
import DocSchema.Proofs.WellLinked

/-!
# What is written is closed under links

The structures that are written are those the roots reach, or all of them. Whatever a written
structure refers to is therefore written, too.
-/
namespace DocSchema

namespace Graph

theorem WellLinked.linksValid {g : Graph} (h : g.WellLinked) : g.LinksValid := by
  intro id hid t ht
  rw [Structure.links, Body.links_eq_references] at ht
  obtain ⟨⟨place, type⟩, hr, he⟩ := List.mem_filterMap.mp ht
  have ha := h.admits (g.get id) (get_mem hid) _ hr
  cases type with
  | primitive p => simp [TypeRef.target?] at he
  | declared id' =>
    simp only [TypeRef.target?, Option.some.injEq] at he
    subst he
    exact ha.1

end Graph

namespace Reach

/-- Pruning keeps exactly what some root reaches, if there is a root. -/
theorem contains_ofRoots {g : Graph} (hg : g.LinksValid) (roots : List StructureId) (prune : Bool)
    (id : StructureId) :
    (ofRoots g roots prune).contains id = true ↔
      prune = false ∨ roots = [] ∨ g.ReachedFrom roots id := by
  rw [ofRoots]
  split_ifs with hall
  · have hall : prune = false ∨ roots = [] := by simpa using hall
    simpa [contains, ← or_assoc] using Or.inl hall
  · have hall : prune = true ∧ roots ≠ [] := by simpa using hall
    simp [contains, hall, Graph.mem_reachable hg]

theorem ofRoots_closed {g : Graph} (hg : g.LinksValid) (roots : List StructureId) (prune : Bool) :
    let reach := ofRoots g roots prune
    (∀ id ∈ roots, reach.contains id = true) ∧
      ∀ id, reach.contains id = true → ∀ t ∈ (g.get id).links, reach.contains t = true := by
  intro reach
  simp only [reach, contains_ofRoots hg]
  refine ⟨fun id hid => .inr (.inr ⟨id, hid, .refl g id⟩), fun id hid t ht => ?_⟩
  exact hid.imp_right (·.imp_right (·.link ht))

end Reach

namespace Graph

/-- The structures that are written from some roots on, in declaration order. -/
def kept (g : Graph) (roots : List StructureId) (prune : Bool) : List StructureId :=
  g.ids.filter (Reach.ofRoots g roots prune).contains

theorem lt_size_of_mem_roots {g : Graph} {id : StructureId} (h : id ∈ g.roots) : id < g.size :=
  mem_ids.mp (List.mem_filter.mp h).1

section Kept

variable {g : Graph} {roots : List StructureId} {prune : Bool} {id : StructureId}

theorem lt_size_of_mem_kept (h : id ∈ g.kept roots prune) : id < g.size :=
  mem_ids.mp (List.mem_filter.mp h).1

theorem WellLinked.root_mem_kept (hg : g.WellLinked) (hr : roots ⊆ g.roots) (h : id ∈ roots) :
    id ∈ g.kept roots prune := by
  have hc := Reach.ofRoots_closed hg.linksValid roots prune
  exact List.mem_filter.mpr ⟨mem_ids.mpr (lt_size_of_mem_roots (hr h)), hc.1 id h⟩

theorem WellLinked.reference_mem_kept (hg : g.WellLinked) (h : id ∈ g.kept roots prune)
    {place : Place} {t : TypeRef} (ht : (place, t) ∈ (g.get id).body.references)
    {target : StructureId} (hm : target ∈ t.target?) : target ∈ g.kept roots prune := by
  have hc := Reach.ofRoots_closed hg.linksValid roots prune
  have hl : target ∈ (g.get id).links := by
    rw [Structure.links, Body.links_eq_references]
    exact List.mem_filterMap.mpr ⟨_, ht, hm⟩
  have hlt := hg.linksValid id (lt_size_of_mem_kept h) target hl
  exact List.mem_filter.mpr ⟨mem_ids.mpr hlt, hc.2 id (List.mem_filter.mp h).2 target hl⟩

end Kept

end Graph

end DocSchema
