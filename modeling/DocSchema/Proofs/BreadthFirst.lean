import DocSchema.Reach
import Mathlib

/-!
# Breadth-first listing

A listing from several roots is made of segments. Every root that no earlier root reaches opens one,
with what it reaches and no earlier root does, nearest first. The search for one segment keeps its
findings sorted by their distance from the root, because what is queued is never more than one link
further away than the head of the queue. The queue is empty at the end because every step takes one
structure out of it and a structure enters it once.
-/
namespace DocSchema

namespace Graph

/-- Every link of the graph is one of its indices. -/
def LinksValid (g : Graph) : Prop := ∀ id < g.size, ∀ t ∈ (g.get id).links, t < g.size

/-- A way of so many links from one structure to another. -/
inductive LeadsIn (g : Graph) (start : StructureId) : Nat → StructureId → Prop
  | here : LeadsIn g start 0 start
  | link {n : Nat} {id t : StructureId} :
    LeadsIn g start n id → t ∈ (g.get id).links → LeadsIn g start (n + 1) t

def Leads (g : Graph) (start id : StructureId) : Prop := ∃ n, g.LeadsIn start n id

/-- The least number of links from one structure to another that it reaches. -/
noncomputable def distance (g : Graph) (start id : StructureId) : Nat :=
  sInf {n | g.LeadsIn start n id}

/-- A structure is reached from one of several. -/
def ReachedFrom (g : Graph) (roots : List StructureId) (id : StructureId) : Prop :=
  ∃ root ∈ roots, g.Leads root id

/-- What a root reaches and no earlier one does, each once and nearest first. -/
structure IsSegment (g : Graph) (earlier : List StructureId) (root : StructureId)
    (segment : List StructureId) : Prop where
  nodup : segment.Nodup
  mem_iff : ∀ id, id ∈ segment ↔ g.Leads root id ∧ ¬g.ReachedFrom earlier id
  nearest : segment.Pairwise fun a b => g.distance root a ≤ g.distance root b

/-- A listing from roots that follow earlier ones: one segment after the other, for every root that
was not reached before. -/
inductive Segmented (g : Graph) :
    (earlier roots listing : List StructureId) → Prop
  | done (earlier : List StructureId) : Segmented g earlier [] []
  | reached {earlier roots listing : List StructureId} {root : StructureId} :
    g.ReachedFrom earlier root → Segmented g (earlier ++ [root]) roots listing →
      Segmented g earlier (root :: roots) listing
  | opens {earlier roots segment listing : List StructureId} {root : StructureId} :
    ¬g.ReachedFrom earlier root → g.IsSegment earlier root segment →
      Segmented g (earlier ++ [root]) roots listing →
      Segmented g earlier (root :: roots) (segment ++ listing)

section Ways

variable {g : Graph} {start id t : StructureId}

theorem Leads.refl (g : Graph) (id : StructureId) : g.Leads id id := ⟨0, .here⟩

theorem Leads.link (h : g.Leads start id) (ht : t ∈ (g.get id).links) : g.Leads start t := by
  obtain ⟨n, hn⟩ := h
  exact ⟨n + 1, hn.link ht⟩

theorem Leads.closed {P : StructureId → Prop} (h : g.Leads start id) (hs : P start)
    (hl : ∀ a, P a → ∀ t ∈ (g.get a).links, P t) : P id := by
  obtain ⟨n, hn⟩ := h
  induction hn with
  | here => exact hs
  | link _ ht ih => exact hl _ ih _ ht

theorem Leads.trans {a b c : StructureId} (hab : g.Leads a b) (hbc : g.Leads b c) : g.Leads a c :=
  hbc.closed hab fun _ ha _ ht => ha.link ht

theorem distance_le {n : Nat} (h : g.LeadsIn start n id) : g.distance start id ≤ n := Nat.sInf_le h

theorem Leads.at_distance (h : g.Leads start id) : g.LeadsIn start (g.distance start id) id :=
  Nat.sInf_mem h

theorem distance_link_le (h : g.Leads start id) (ht : t ∈ (g.get id).links) :
    g.distance start t ≤ g.distance start id + 1 := distance_le (h.at_distance.link ht)

theorem LinksValid.lt_size (hg : g.LinksValid) (ht : t ∈ (g.get id).links) : t < g.size := by
  by_cases hid : id < g.size
  · exact hg id hid t ht
  · -- an index outside the graph reads as a structure without links
    have hblank : g.get id = .blank := List.getD_eq_default _ _ (Nat.le_of_not_lt hid)
    rw [hblank] at ht
    cases ht

theorem ReachedFrom.link {roots : List StructureId} (h : g.ReachedFrom roots id)
    (ht : t ∈ (g.get id).links) : g.ReachedFrom roots t := by
  obtain ⟨root, hr, hl⟩ := h
  exact ⟨root, hr, hl.link ht⟩

theorem reachedFrom_append {earlier : List StructureId} {root : StructureId} :
    g.ReachedFrom (earlier ++ [root]) id ↔ g.ReachedFrom earlier id ∨ g.Leads root id := by
  simp [ReachedFrom, or_and_right, exists_or]

end Ways

theorem mem_unseen {seen ids : List StructureId} {id : StructureId} :
    id ∈ unseen seen ids ↔ id ∈ ids ∧ id ∉ seen := by
  fun_induction unseen seen ids with
  | case1 => simp
  | case2 seen a ids ha ih =>
    have ha : a ∈ seen := by simpa using ha
    rw [ih, List.mem_cons]
    constructor
    · rintro ⟨hi, hs⟩
      exact ⟨.inr hi, hs⟩
    · rintro ⟨rfl | hi, hs⟩
      · exact absurd ha hs
      · exact ⟨hi, hs⟩
  | case3 seen a ids ha ih =>
    have ha : a ∉ seen := by simpa using ha
    simp only [List.mem_cons, ih, not_or]
    constructor
    · rintro (rfl | ⟨hi, hn, hs⟩)
      · exact ⟨.inl rfl, ha⟩
      · exact ⟨.inr hi, hs⟩
    · rintro ⟨rfl | hi, hs⟩
      · exact .inl rfl
      · by_cases he : id = a
        · exact .inl he
        · exact .inr ⟨hi, he, hs⟩

theorem nodup_unseen (seen ids : List StructureId) : (unseen seen ids).Nodup := by
  fun_induction unseen seen ids with
  | case1 => simp
  | case2 seen a ids ha ih => exact ih
  | case3 seen a ids ha ih =>
    rw [List.nodup_cons]
    exact ⟨fun hm => (mem_unseen.mp hm).2 (by simp), ih⟩

theorem unseen_sublist (seen ids : List StructureId) : (unseen seen ids).Sublist ids := by
  fun_induction unseen seen ids with
  | case1 => simp
  | case2 seen a ids ha ih => exact ih.cons a
  | case3 seen a ids ha ih => exact ih.cons_cons a

def unfound (g : Graph) (found : List StructureId) : Nat :=
  (g.ids.filter fun id => decide (id ∉ found)).length

theorem unfound_append_le {g : Graph} {found fresh : List StructureId} (hn : fresh.Nodup)
    (hv : ∀ id ∈ fresh, id < g.size) (hf : ∀ id ∈ fresh, id ∉ found) :
    fresh.length + g.unfound (found ++ fresh) ≤ g.unfound found := by
  have hleft : (g.ids.filter fun id => decide (id ∉ found ++ fresh)).Nodup :=
    List.nodup_range.filter _
  have hall : (fresh ++ g.ids.filter fun id => decide (id ∉ found ++ fresh)).Nodup := by
    refine hn.append hleft ?_
    intro id hid hl
    have hnot := (List.mem_filter.mp hl).2
    simp [hid] at hnot
  have hsub : (fresh ++ g.ids.filter fun id => decide (id ∉ found ++ fresh)) ⊆
      g.ids.filter fun id => decide (id ∉ found) := by
    intro id hid
    rcases List.mem_append.mp hid with hid | hid
    · exact List.mem_filter.mpr ⟨List.mem_range.mpr (hv id hid), by simpa using hf id hid⟩
    · obtain ⟨hi, hnot⟩ := List.mem_filter.mp hid
      have hnot : id ∉ found ∧ id ∉ fresh := by simpa using hnot
      exact List.mem_filter.mpr ⟨hi, by simpa using hnot.1⟩
  simpa [unfound] using (hall.subperm hsub).length_le

/-- What holds of the queue and the findings throughout the search for one segment; `before` holds
the findings of the searches before it. -/
structure Search (g : Graph) (before : List StructureId) (root : StructureId)
    (queue segment : List StructureId) : Prop where
  nodup : segment.Nodup
  new : ∀ id ∈ segment, id ∉ before
  leads : ∀ id ∈ segment, g.Leads root id
  root_mem : root ∈ segment
  queued : ∀ id ∈ queue, id ∈ segment
  done : ∀ id ∈ segment, id ∉ queue → ∀ t ∈ (g.get id).links, t ∈ before ++ segment
  nearest : segment.Pairwise fun a b => g.distance root a ≤ g.distance root b
  queue_nearest : queue.Pairwise fun a b => g.distance root a ≤ g.distance root b
  near : ∀ head ∈ queue.head?, ∀ id ∈ segment, g.distance root id ≤ g.distance root head + 1

section Segment

variable {g : Graph} {before queue segment : List StructureId} {root id : StructureId}

theorem Search.start (hn : root ∉ before) : g.Search before root [root] [root] where
  nodup := by simp
  new := by simpa using hn
  leads := by simpa using Leads.refl g root
  root_mem := by simp
  queued := by simp
  done := by simp
  nearest := by simp
  queue_nearest := by simp
  near := by simp

theorem Search.lt_of_not_mem (h : g.Search before root (id :: queue) segment)
    (hb : ∀ a ∈ before, ∀ t ∈ (g.get a).links, t ∈ before) {n : Nat} {t : StructureId}
    (ht : g.LeadsIn root n t) (hn : t ∉ before ++ segment) : g.distance root id < n := by
  induction ht with
  | here => exact absurd (List.mem_append_right before h.root_mem) hn
  | @link n a t hway hl ih =>
    by_cases ha : a ∈ before ++ segment
    · -- the way leaves the findings here, so `a` is still queued
      have hs : a ∈ segment := by
        rcases List.mem_append.mp ha with ha | ha
        · exact absurd (List.mem_append_left segment (hb a ha t hl)) hn
        · exact ha
      have hq : a ∈ id :: queue := by
        by_contra hq
        exact hn (h.done a hs hq t hl)
      have hle : g.distance root id ≤ g.distance root a := by
        rcases List.mem_cons.mp hq with rfl | hq
        · exact Nat.le_refl _
        · exact (List.pairwise_cons.mp h.queue_nearest).1 a hq
      exact Nat.lt_succ_of_le (hle.trans (distance_le hway))
    · exact (ih ha).trans (Nat.lt_succ_self n)

theorem Search.distance_unseen (h : g.Search before root (id :: queue) segment)
    (hb : ∀ a ∈ before, ∀ t ∈ (g.get a).links, t ∈ before) {t : StructureId}
    (ht : t ∈ unseen (before ++ segment) (g.get id).links) :
    g.distance root t = g.distance root id + 1 := by
  obtain ⟨hl, hn⟩ := mem_unseen.mp ht
  have hid : g.Leads root id := h.leads id (h.queued id (by simp))
  have hlt := h.lt_of_not_mem hb (hid.link hl).at_distance hn
  have hle := distance_link_le hid hl
  omega

theorem Search.step (h : g.Search before root (id :: queue) segment)
    (hb : ∀ a ∈ before, ∀ t ∈ (g.get a).links, t ∈ before) :
    let fresh := unseen (before ++ segment) (g.get id).links
    g.Search before root (queue ++ fresh) (segment ++ fresh) := by
  intro fresh
  have hid : id ∈ segment := h.queued id (by simp)
  have hfresh : ∀ t ∈ fresh, t ∈ (g.get id).links ∧ t ∉ before ∧ t ∉ segment := by
    intro t ht
    simpa using mem_unseen.mp ht
  have hd : ∀ t ∈ fresh, g.distance root t = g.distance root id + 1 :=
    fun t ht => h.distance_unseen hb ht
  have hnear : ∀ a ∈ segment, g.distance root a ≤ g.distance root id + 1 := h.near id (by simp)
  have hhead := List.pairwise_cons.mp h.queue_nearest
  have hsorted : fresh.Pairwise fun a b => g.distance root a ≤ g.distance root b :=
    List.pairwise_of_forall_mem_list fun a ha b hb => ((hd a ha).trans (hd b hb).symm).le
  refine ⟨?_, ?_, ?_, List.mem_append_left _ h.root_mem, ?_, ?_, ?_, ?_, ?_⟩
  · refine h.nodup.append (nodup_unseen _ _) fun t hs ht => (hfresh t ht).2.2 hs
  · intro t ht
    exact (List.mem_append.mp ht).elim (h.new t) fun ht => (hfresh t ht).2.1
  · intro t ht
    exact (List.mem_append.mp ht).elim (h.leads t) fun ht => (h.leads id hid).link (hfresh t ht).1
  · intro t ht
    rcases List.mem_append.mp ht with ht | ht
    · exact List.mem_append_left _ (h.queued t (by simp [ht]))
    · exact List.mem_append_right _ ht
  · intro a ha hq t ht
    simp only [List.mem_append, not_or] at hq
    have hs : a ∈ segment := (List.mem_append.mp ha).resolve_right hq.2
    rw [← List.append_assoc]
    by_cases hai : a = id
    · subst hai
      by_cases hf : t ∈ before ++ segment
      · exact List.mem_append_left _ hf
      · exact List.mem_append_right _ (mem_unseen.mpr ⟨ht, hf⟩)
    · exact List.mem_append_left _ (h.done a hs (by simp [hai, hq.1]) t ht)
  · refine List.pairwise_append.mpr ⟨h.nearest, hsorted, fun a ha t ht => ?_⟩
    exact (hnear a ha).trans (hd t ht).ge
  · refine List.pairwise_append.mpr ⟨hhead.2, hsorted, fun a ha t ht => ?_⟩
    exact (hnear a (h.queued a (by simp [ha]))).trans (hd t ht).ge
  · intro head hm a ha
    have hle : g.distance root id ≤ g.distance root head := by
      rcases List.mem_append.mp (List.mem_of_mem_head? hm) with hm | hm
      · exact hhead.1 head hm
      · exact (Nat.le_succ _).trans (hd head hm).ge
    have hmax : g.distance root a ≤ g.distance root id + 1 :=
      (List.mem_append.mp ha).elim (hnear a) fun ha => (hd a ha).le
    exact hmax.trans (Nat.succ_le_succ hle)

theorem Search.explore (hg : g.LinksValid) (hb : ∀ a ∈ before, ∀ t ∈ (g.get a).links, t ∈ before)
    (fuel : Nat) (h : g.Search before root queue segment)
    (hf : queue.length + g.unfound (before ++ segment) ≤ fuel) :
    ∃ segment', g.explore fuel queue (before ++ segment) = before ++ segment' ∧
      g.Search before root [] segment' := by
  -- a step takes one from the queue, and what it adds there is found for the first time
  induction fuel generalizing queue segment with
  | zero =>
    have hq : queue = [] := List.length_eq_zero_iff.mp (by omega)
    subst hq
    exact ⟨segment, rfl, h⟩
  | succ fuel ih =>
    cases queue with
    | nil => exact ⟨segment, rfl, h⟩
    | cons id queue =>
      have hle := unfound_append_le (nodup_unseen (before ++ segment) (g.get id).links)
        (fun t ht => hg.lt_size (mem_unseen.mp ht).1) (fun t ht => (mem_unseen.mp ht).2)
      simp only [List.length_cons] at hf
      rw [Graph.explore, List.append_assoc before]
      refine ih (h.step hb) ?_
      rw [List.length_append, ← List.append_assoc]
      omega

/-- A finished search has found all that its root reaches and no search before it found. -/
theorem Search.isSegment {earlier : List StructureId} (h : g.Search before root [] segment)
    (hb : ∀ id, id ∈ before ↔ g.ReachedFrom earlier id) : g.IsSegment earlier root segment := by
  refine ⟨h.nodup, fun id => ⟨fun hid => ⟨h.leads id hid, ?_⟩, ?_⟩, h.nearest⟩
  · exact fun hr => h.new id hid ((hb id).mpr hr)
  · rintro ⟨hl, hn⟩
    have hclosed : ∀ a, a ∈ before ++ segment → ∀ t ∈ (g.get a).links, t ∈ before ++ segment := by
      intro a ha t ht
      rcases List.mem_append.mp ha with ha | ha
      · exact List.mem_append_left _ ((hb t).mpr (((hb a).mp ha).link ht))
      · exact h.done a ha (by simp) t ht
    have hfound := hl.closed (List.mem_append_right before h.root_mem) hclosed
    exact (List.mem_append.mp hfound).resolve_left fun hid => hn ((hb id).mp hid)

theorem explore_root (hg : g.LinksValid) {earlier : List StructureId}
    (hb : ∀ id, id ∈ before ↔ g.ReachedFrom earlier id) (hn : root ∉ before) :
    ∃ segment, g.explore g.size [root] (before ++ [root]) = before ++ segment ∧
      g.IsSegment earlier root segment := by
  have hclosed : ∀ a ∈ before, ∀ t ∈ (g.get a).links, t ∈ before :=
    fun a ha t ht => (hb t).mpr (((hb a).mp ha).link ht)
  have hstart : g.Search before root [root] [root] := .start hn
  by_cases hr : root < g.size
  · have hle : 1 + g.unfound (before ++ [root]) ≤ g.unfound before :=
      unfound_append_le (List.nodup_singleton root) (by simpa using hr) (by simpa using hn)
    have hall : g.unfound before ≤ g.size := by
      simpa [unfound, ids] using List.length_filter_le (fun id => decide (id ∉ before)) g.ids
    obtain ⟨segment, he, hs⟩ := hstart.explore hg hclosed g.size (hle.trans hall)
    exact ⟨segment, he, hs.isSegment hb⟩
  · -- a root outside the graph has no links, so it is all of its segment
    have hblank : g.get root = .blank := List.getD_eq_default _ _ (Nat.le_of_not_lt hr)
    have hlinks : (g.get root).links = [] := by rw [hblank]; rfl
    have hs := hstart.step hclosed
    simp only [hlinks, unseen, List.append_nil] at hs
    refine ⟨[root], ?_, hs.isSegment hb⟩
    cases g.size with
    | zero => rfl
    | succ fuel => cases fuel <;> simp [Graph.explore, hlinks, unseen]

end Segment

section Listing

variable {g : Graph}

theorem IsSegment.reachedFrom_append {earlier segment : List StructureId} {root : StructureId}
    (h : g.IsSegment earlier root segment) (id : StructureId) :
    g.ReachedFrom (earlier ++ [root]) id ↔ g.ReachedFrom earlier id ∨ id ∈ segment := by
  rw [Graph.reachedFrom_append, h.mem_iff]
  by_cases hr : g.ReachedFrom earlier id
  · simp [hr]
  · simp [hr]

theorem ReachedFrom.reachedFrom_append {earlier : List StructureId} {root : StructureId}
    (h : g.ReachedFrom earlier root) (id : StructureId) :
    g.ReachedFrom (earlier ++ [root]) id ↔ g.ReachedFrom earlier id := by
  rw [Graph.reachedFrom_append, or_iff_left_iff_imp]
  intro hl
  obtain ⟨first, hf, hroot⟩ := h
  exact ⟨first, hf, hroot.trans hl⟩

theorem Segmented.listing {earlier roots listing : List StructureId}
    (h : g.Segmented earlier roots listing) :
    listing.Nodup ∧
      ∀ id, id ∈ listing ↔ g.ReachedFrom (earlier ++ roots) id ∧ ¬g.ReachedFrom earlier id := by
  induction h with
  | done earlier => simp
  | @reached earlier roots listing root hr _ ih =>
    refine ⟨ih.1, fun id => ?_⟩
    rw [ih.2 id, hr.reachedFrom_append, List.append_assoc, List.singleton_append]
  | @opens earlier roots segment listing root hr hs _ ih =>
    have hmem : ∀ id, id ∈ listing ↔
        g.ReachedFrom (earlier ++ root :: roots) id ∧ ¬g.ReachedFrom earlier id ∧ id ∉ segment := by
      intro id
      rw [ih.2 id, hs.reachedFrom_append, not_or, List.append_assoc, List.singleton_append]
    refine ⟨hs.nodup.append ih.1 fun id hid hl => ((hmem id).mp hl).2.2 hid, fun id => ?_⟩
    rw [List.mem_append, hmem id]
    constructor
    · rintro (hid | ⟨hreached, hnew, -⟩)
      · obtain ⟨hl, hnew⟩ := (hs.mem_iff id).mp hid
        exact ⟨⟨root, by simp, hl⟩, hnew⟩
      · exact ⟨hreached, hnew⟩
    · rintro ⟨hreached, hnew⟩
      by_cases hid : id ∈ segment
      · exact .inl hid
      · exact .inr ⟨hreached, hnew, hid⟩

/-- Further roots add their segments to what earlier roots reach. -/
theorem reachFrom_segmented (hg : g.LinksValid) {earlier found : List StructureId}
    (hf : ∀ id, id ∈ found ↔ g.ReachedFrom earlier id) (roots : List StructureId) :
    ∃ listing, g.reachFrom found roots = found ++ listing ∧ g.Segmented earlier roots listing := by
  induction roots generalizing earlier found with
  | nil => exact ⟨[], by simp [reachFrom], .done earlier⟩
  | cons root roots ih =>
    rw [reachFrom]
    split_ifs with hc
    · have hr : g.ReachedFrom earlier root := (hf root).mp (by simpa using hc)
      obtain ⟨listing, he, hs⟩ := ih fun id => (hf id).trans (hr.reachedFrom_append id).symm
      exact ⟨listing, he, .reached hr hs⟩
    · have hn : root ∉ found := by simpa using hc
      obtain ⟨segment, hse, hseg⟩ := explore_root hg hf hn
      have hnext : ∀ id, id ∈ found ++ segment ↔ g.ReachedFrom (earlier ++ [root]) id := by
        intro id
        rw [List.mem_append, hf id, hseg.reachedFrom_append]
      obtain ⟨listing, he, hs⟩ := ih hnext
      refine ⟨segment ++ listing, ?_, .opens (fun hr => hn ((hf root).mpr hr)) hseg hs⟩
      rw [hse, he, List.append_assoc]

theorem reachable_segmented (hg : g.LinksValid) (roots : List StructureId) :
    g.Segmented [] roots (g.reachable roots) := by
  have hnone : ∀ id, id ∈ [] ↔ g.ReachedFrom [] id := by simp [ReachedFrom]
  obtain ⟨listing, he, hs⟩ := reachFrom_segmented hg hnone roots
  rwa [reachable, he, List.nil_append]

theorem mem_reachable (hg : g.LinksValid) {roots : List StructureId} {id : StructureId} :
    id ∈ g.reachable roots ↔ g.ReachedFrom roots id := by
  rw [(reachable_segmented hg roots).listing.2 id]
  simp [ReachedFrom]

theorem nodup_reachable (hg : g.LinksValid) (roots : List StructureId) :
    (g.reachable roots).Nodup := (reachable_segmented hg roots).listing.1

end Listing

end Graph

end DocSchema
