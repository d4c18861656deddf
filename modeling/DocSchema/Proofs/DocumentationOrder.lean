import DocSchema.Manual
import DocSchema.Proofs.Reach

/-!
# The order of the manual

The manual lists what the roots reach, segment by segment, and then, unless pruned, all other
structures as they were declared. Either way it has a section for whatever a section links to.
-/
namespace DocSchema

namespace Graph

variable {g : Graph}

theorem documentationOrder_of_roots (hr : g.roots ≠ []) (prune : Bool) :
    g.documentationOrder prune =
      g.reachable g.roots ++ if prune then [] else unseen (g.reachable g.roots) g.ids := by
  have he : g.roots.isEmpty = false := by simpa using hr
  cases prune <;> simp [documentationOrder, he]

theorem documentationOrder_of_no_roots (hr : g.roots = []) (prune : Bool) :
    g.documentationOrder prune = g.ids := by
  simp [documentationOrder, hr]

theorem LinksValid.lt_size_of_reached (hg : g.LinksValid) {id : StructureId}
    (h : g.ReachedFrom g.roots id) : id < g.size := by
  obtain ⟨root, hr, hl⟩ := h
  exact hl.closed (lt_size_of_mem_roots hr) fun _ _ _ ht => hg.lt_size ht

/-- The whole order is the pruned one and the rest as declared. -/
theorem documentationOrder_false (g : Graph) :
    ∃ rest, g.documentationOrder false = g.documentationOrder true ++ rest ∧
      rest.Sublist g.ids := by
  by_cases hr : g.roots = []
  · exact ⟨[], by simp [documentationOrder_of_no_roots hr], by simp⟩
  · refine ⟨unseen (g.reachable g.roots) g.ids, ?_, unseen_sublist _ _⟩
    simp [documentationOrder_of_roots hr]

theorem documentationOrder_perm (hg : g.LinksValid) : (g.documentationOrder false).Perm g.ids := by
  by_cases hr : g.roots = []
  · rw [documentationOrder_of_no_roots hr]
  · rw [documentationOrder_of_roots hr, if_neg Bool.false_ne_true]
    refine (List.perm_ext_iff_of_nodup ?_ List.nodup_range).mpr fun id => ?_
    · refine (nodup_reachable hg g.roots).append (nodup_unseen _ _) fun id hf hu => ?_
      exact (mem_unseen.mp hu).2 hf
    · rw [List.mem_append, mem_unseen]
      constructor
      · rintro (hf | hu)
        · exact mem_ids.mpr (hg.lt_size_of_reached ((mem_reachable hg).mp hf))
        · exact hu.1
      · intro hid
        by_cases hf : id ∈ g.reachable g.roots
        · exact .inl hf
        · exact .inr ⟨hid, hf⟩

theorem link_mem_documentationOrder (hg : g.LinksValid) {prune : Bool} {id t : StructureId}
    (h : id ∈ g.documentationOrder prune) (ht : t ∈ (g.get id).links) :
    t ∈ g.documentationOrder prune := by
  have hall : t ∈ g.ids := mem_ids.mpr (hg.lt_size ht)
  by_cases hr : g.roots = []
  · rwa [documentationOrder_of_no_roots hr]
  · cases prune with
    | false => exact (documentationOrder_perm hg).mem_iff.mpr hall
    | true =>
      simp only [documentationOrder_of_roots hr, if_true, List.append_nil, mem_reachable hg] at h ⊢
      exact h.link ht

end Graph

theorem Manual.section_of_listed (settings : Settings) {g : Graph} {id : StructureId}
    (h : id ∈ g.documentationOrder settings.pruneUnreachable) :
    sectionLines g (g.get id) <:+: lines settings g := by
  obtain ⟨before, after, he⟩ := List.append_of_mem (List.mem_map_of_mem (f := g.get) h)
  refine List.IsInfix.trans ?_ (List.suffix_append _ _).isInfix
  rw [he, List.flatMap_append, List.flatMap_cons, ← List.append_assoc]
  exact List.infix_append _ _ _

namespace Graph

/-- From any roots the listing holds what they reach, each structure once, in one segment for every
root that was not reached before, each nearest first. The manual lists what the roots of the graph
reach, or all structures where there is no root, and the rest in declaration order unless it is
pruned. So whatever a section links to has a section. -/
theorem listing_breadth_first (g : Graph) (hg : g.LinksValid) :
    (∀ roots, (g.reachable roots).Nodup ∧
      (∀ id, id ∈ g.reachable roots ↔ ∃ root ∈ roots, g.Leads root id) ∧
      g.Segmented [] roots (g.reachable roots) ∧
      ∀ id ∈ g.reachable roots, ∀ t ∈ (g.get id).links, t ∈ g.reachable roots) ∧
    (g.documentationOrder true = if g.roots = [] then g.ids else g.reachable g.roots) ∧
    (g.documentationOrder false).Perm g.ids ∧
    (∃ rest, g.documentationOrder false = g.documentationOrder true ++ rest ∧
      rest.Sublist g.ids) ∧
    ∀ settings : Settings, ∀ id ∈ g.documentationOrder settings.pruneUnreachable,
      ∀ t ∈ (g.get id).links, t ∈ g.documentationOrder settings.pruneUnreachable ∧
        Manual.sectionLines g (g.get t) <:+: Manual.lines settings g := by
  refine ⟨fun roots => ⟨nodup_reachable hg roots, fun id => mem_reachable hg,
    reachable_segmented hg roots, fun id hid t ht => ?_⟩, ?_, documentationOrder_perm hg,
    documentationOrder_false g, fun settings id hid t ht => ?_⟩
  · exact (mem_reachable hg).mpr (((mem_reachable hg).mp hid).link ht)
  · split_ifs with hr
    · exact documentationOrder_of_no_roots hr true
    · simp [documentationOrder_of_roots hr]
  · have hlisted := link_mem_documentationOrder hg hid ht
    exact ⟨hlisted, Manual.section_of_listed settings hlisted⟩

def parent (root : Bool) (name : String) (targets : List StructureId) : Structure :=
  ⟨name, none, .none, .element root []
    (.children ⟨.sequence, targets.map fun t => .element ⟨t, .one⟩, false⟩)⟩

/-- Two roots that reach a common cycle, one of them reached from the other, and a structure that no
root reaches. -/
def crossing : Graph := .ofStructures [
  parent true "a" [2, 1, 2], parent false "b" [2, 1], parent false "c" [4, 0],
  parent true "d" [4, 3], parent false "e" [3, 1], parent false "f" [5, 0]]

theorem listing_breadth_first_crossing :
    crossing.LinksValid ∧ crossing.reachable [4, 3, 0, 5] = [4, 3, 1, 2, 0, 5] ∧
      crossing.Segmented [] [4, 3, 0, 5] [4, 3, 1, 2, 0, 5] ∧
      crossing.documentationOrder true = [0, 2, 1, 4, 3] ∧
      (crossing.documentationOrder false).Perm [0, 1, 2, 3, 4, 5] := by
  have hv : crossing.LinksValid := by
    unfold LinksValid
    decide
  obtain ⟨hlisting, horder, hperm, -⟩ := listing_breadth_first crossing hv
  have he : crossing.reachable [4, 3, 0, 5] = [4, 3, 1, 2, 0, 5] := by decide
  have hs := (hlisting [4, 3, 0, 5]).2.2.1
  rw [he] at hs
  exact ⟨hv, he, hs, horder.trans (by decide), hperm⟩

end Graph

end DocSchema
