import DocSchema.Proofs.Content
import DocSchema.Proofs.Populated
import DocSchema.Sample

/-!
# Runs of the sample writer

Every instance in a sample document was made inside the instances above it, and these are of
different structures. So there are never more open structures than the graph has, and the steps that
a run is given always suffice.
-/
namespace DocSchema.Sample

open Artifact (Failure)

section Particles

variable {isOpen : StructureId → Bool} {child : Slot → Except Failure (List Instance)}

/-- The option that is shown for a choice. -/
def picked (isOpen : StructureId → Bool) (ps : List Particle) : Option Particle :=
  ps.find? fun p => !isOpenElement isOpen p

theorem option_eq_picked (ps : List Particle) :
    option isOpen child ps = (picked isOpen ps).elim (.ok []) (particle isOpen child) := by
  induction ps with
  | nil => simp [option, picked]
  | cons p ps ih =>
    rw [option]
    cases ho : isOpenElement isOpen p with
    | true => simpa [picked, ho] using ih
    | false => simp [picked, ho]

theorem group_eq_particle (g : Group) :
    group isOpen child g = particle isOpen child g.particle := by
  rcases g with ⟨_ | _ | _, ps, mixed⟩ <;> simp [group, Group.particle, particle]

variable {M : Instance → Prop} {R : Failure → Prop}

mutual

/-- What holds of everything shown for single slots holds of what is shown for a particle, and a
particle fails only where a slot does. -/
theorem particle_outcome : (p : Particle) →
    (∀ s ∈ p.slots, isOpen s.target = false → Outcome (child s) (∀ i ∈ ·, M i) R) →
    Outcome (particle isOpen child p) (∀ i ∈ ·, M i) R
  | .element slot => fun h => by
    rw [particle]
    split_ifs with ho
    · simp [Outcome]
    · exact h slot (by simp [Particle.slots]) (by simpa using ho)
  | .group .choice ps mixed => fun h => by
    rw [particle]
    exact option_outcome ps (by simpa [Particle.slots] using h)
  | .group .sequence ps mixed => fun h => by
    rw [particle]
    · exact particles_outcome ps (by simpa [Particle.slots] using h)
    · simp
  | .group .unordered ps mixed => fun h => by
    rw [particle]
    · exact particles_outcome ps (by simpa [Particle.slots] using h)
    · simp

theorem particles_outcome : (ps : List Particle) →
    (∀ s ∈ Particle.slotsOf ps, isOpen s.target = false →
      Outcome (child s) (∀ i ∈ ·, M i) R) →
    Outcome (particles isOpen child ps) (∀ i ∈ ·, M i) R
  | [] => fun _ => by simp [particles, Outcome]
  | p :: ps => fun h => by
    simp only [Particle.slotsOf, List.mem_append] at h
    rw [particles]
    refine (particle_outcome p fun s hs => h s (.inl hs)).bind fun first hf => ?_
    refine (particles_outcome ps fun s hs => h s (.inr hs)).bind fun rest hr => ?_
    intro i hi
    exact (List.mem_append.mp hi).elim (hf i) (hr i)

theorem option_outcome : (ps : List Particle) →
    (∀ s ∈ Particle.slotsOf ps, isOpen s.target = false →
      Outcome (child s) (∀ i ∈ ·, M i) R) →
    Outcome (option isOpen child ps) (∀ i ∈ ·, M i) R
  | [] => fun _ => by simp [option, Outcome]
  | p :: ps => fun h => by
    simp only [Particle.slotsOf, List.mem_append] at h
    rw [option]
    split_ifs
    · exact option_outcome ps fun s hs => h s (.inr hs)
    · exact particle_outcome p fun s hs => h s (.inl hs)

end

theorem exists_slot_of_mem {p : Particle} {shown : List Instance} {i : Instance}
    (h : particle isOpen child p = .ok shown) (hi : i ∈ shown) :
    ∃ s ∈ p.slots, isOpen s.target = false ∧ ∃ is, child s = .ok is ∧ i ∈ is := by
  have ho : Outcome (particle isOpen child p)
      (∀ j ∈ ·, ∃ s ∈ p.slots, isOpen s.target = false ∧ ∃ is, child s = .ok is ∧ j ∈ is)
      fun _ => True := by
    refine particle_outcome p fun s hs hopen => ?_
    cases hc : child s with
    | error e => trivial
    | ok is => exact fun j hj => ⟨s, hs, hopen, is, hc, hj⟩
  rw [h] at ho
  exact ho i hi

end Particles

variable {g : Graph}

def slotInstances (g : Graph) (opened : List StructureId) (s : Slot) :
    Except Failure (List Instance) :=
  copies (count s.cardinality) fun _ => element g (g.size + 1 - opened.length) opened s.target

/-- A sequence of instances is what is shown for a particle inside open elements. -/
def Shows (g : Graph) (opened : List StructureId) (p : Particle) (shown : List Instance) : Prop :=
  particle opened.contains (slotInstances g opened) p = .ok shown

theorem element_eq_ok {fuel : Nat} {opened : List StructureId} {id : StructureId}
    {root : Bool} {slots : List Slot} {content : Content} {shown : List Instance}
    (hb : (g.get id).body = .element root slots content)
    (h : element g (fuel + 1) opened id = .ok shown) :
    ∃ i : Instance, shown = [i] ∧ i.id = id ∧ attributes g slots = .ok i.attributes ∧
      (∀ inner, content = .children inner → group (id :: opened).contains
        (fun s => copies (count s.cardinality) fun _ => element g fuel (id :: opened) s.target)
        inner = .ok i.children) ∧
      ((∀ inner, content ≠ .children inner) → i.children = []) ∧
      ∀ type, content = .value type → ∃ text, value g (g.get id) type = .ok text ∧
        i = .text id i.attributes text := by
  simp only [element, hb] at h
  obtain ⟨given, hg, h⟩ := bind_eq_ok.mp h
  cases content with
  | empty =>
    cases h
    exact ⟨_, rfl, rfl, hg, by simp [Instance.children]⟩
  | text =>
    cases h
    exact ⟨_, rfl, rfl, hg, by simp [Instance.children]⟩
  | value type =>
    obtain ⟨text, hv, h⟩ := bind_eq_ok.mp h
    cases h
    exact ⟨_, rfl, rfl, hg, by simp [Instance.children, Instance.attributes, hv]⟩
  | children inner =>
    obtain ⟨below, hs, h⟩ := bind_eq_ok.mp h
    cases h
    exact ⟨_, rfl, rfl, hg, by simpa [Instance.children] using hs⟩

theorem child_admitted (hw : g.WellLinked) {id : StructureId} (hid : id < g.size) {s : Slot}
    (hs : s ∈ (g.get id).content.slots) :
    s.target < g.size ∧ (g.get s.target).kind = .element := by
  have hr : (Place.childSlot, s.type) ∈ (g.get id).body.references := by
    revert hs
    unfold Structure.content
    cases (g.get id).body with
    | element root attributes content =>
      cases content with
      | children inner =>
        intro hs
        exact List.mem_append_right _ (List.mem_map_of_mem hs)
      | _ => simp [Content.slots, Content.group?]
    | _ => simp [Content.slots, Content.group?]
  simpa [Graph.Admits, Slot.type, Place.kinds] using hw.admits _ (Graph.get_mem hid) _ hr

theorem copies_eq_ok {n : Nat} {once : Unit → Except Failure (List Instance)}
    {shown : List Instance} (h : copies n once = .ok shown) :
    n = 0 ∧ shown = [] ∨ ∃ is, once () = .ok is ∧ shown = (List.replicate n is).flatten := by
  unfold copies at h
  split_ifs at h with hn
  · cases h
    exact .inl ⟨hn, rfl⟩
  · cases ho : once () with
    | error e => simp [ho, Except.map] at h
    | ok is =>
      simp only [ho, Except.map, Except.ok.injEq] at h
      exact .inr ⟨is, rfl, h.symm⟩

/-- The structures that are open where an instance is made: they differ from each other and from
that of the instance. -/
structure Open (g : Graph) (opened : List StructureId) : Prop where
  nodup : opened.Nodup
  bound : ∀ id ∈ opened, id < g.size

theorem Open.nil : Open g [] := ⟨List.nodup_nil, by simp⟩

theorem Open.cons {opened : List StructureId} (h : Open g opened) {id : StructureId}
    (hid : id < g.size) (hn : id ∉ opened) : Open g (id :: opened) :=
  ⟨List.nodup_cons.mpr ⟨hn, h.nodup⟩, List.forall_mem_cons.mpr ⟨hid, h.bound⟩⟩

theorem Open.length_le {opened : List StructureId} (h : Open g opened) :
    opened.length ≤ g.size := by
  -- open structures are different, so there are at most as many as in the graph
  have hs : opened ⊆ List.range g.size := fun id hid => List.mem_range.mpr (h.bound id hid)
  simpa using (h.nodup.subperm hs).length_le

/-- The steps left inside open structures: one for the next element, and the rest inside it. -/
theorem Open.steps_left {opened : List StructureId} (h : Open g opened) (id : StructureId) :
    g.size + 1 - opened.length = (g.size + 1 - (id :: opened).length) + 1 := by
  have := h.length_le
  simp only [List.length_cons]
  omega

/-- An instance of an element that was made inside open structures. -/
structure Made (g : Graph) (opened : List StructureId) (i : Instance) : Prop where
  isOpen : Open g opened
  isNew : i.id ∉ opened
  bound : i.id < g.size
  isElement : (g.get i.id).kind = .element
  made : element g (g.size + 1 - opened.length) opened i.id = .ok [i]

theorem made_of_element {opened : List StructureId} {id : StructureId} {shown : List Instance}
    (ho : Open g opened) (hn : id ∉ opened) (hid : id < g.size)
    (hk : (g.get id).kind = .element)
    (h : element g (g.size + 1 - opened.length) opened id = .ok shown) :
    ∃ i, shown = [i] ∧ i.id = id ∧ Made g opened i := by
  obtain ⟨root, slots, content, hb⟩ := exists_element_body hk
  rw [ho.steps_left id] at h
  obtain ⟨i, rfl, rfl, -⟩ := element_eq_ok hb h
  exact ⟨i, rfl, rfl, ho, hn, hid, hk, by rwa [ho.steps_left i.id]⟩

namespace Made

variable {opened : List StructureId} {i : Instance}

theorem open_cons (h : Made g opened i) : Open g (i.id :: opened) := h.isOpen.cons h.bound h.isNew

theorem filled (h : Made g opened i) {root : Bool} {slots : List Slot} {content : Content}
    (hb : (g.get i.id).body = .element root slots content) :
    attributes g slots = .ok i.attributes ∧
      (∀ inner, content = .children inner →
        Shows g (i.id :: opened) inner.particle i.children) ∧
      ((∀ inner, content ≠ .children inner) → i.children = []) ∧
      ∀ type, content = .value type → ∃ text, value g (g.get i.id) type = .ok text ∧
        i = .text i.id i.attributes text := by
  have hm := h.made
  rw [h.isOpen.steps_left i.id] at hm
  obtain ⟨j, hj, -, ha, hs, hn, hv⟩ := element_eq_ok hb hm
  cases hj
  refine ⟨ha, fun inner hc => ?_, hn, hv⟩
  rw [Shows, ← group_eq_particle]
  exact hs inner hc

theorem of_slot (hw : g.WellLinked) (h : Made g opened i) {s : Slot}
    (hs : s ∈ (g.get i.id).content.slots) (hn : s.target ∉ i.id :: opened)
    {shown : List Instance} (hsh : slotInstances g (i.id :: opened) s = .ok shown) :
    shown = [] ∧ count s.cardinality = 0 ∨ ∃ c, c.id = s.target ∧ Made g (i.id :: opened) c ∧
      shown = List.replicate (count s.cardinality) c := by
  rcases copies_eq_ok hsh with ⟨hz, rfl⟩ | ⟨is, hel, rfl⟩
  · exact .inl ⟨rfl, hz⟩
  · obtain ⟨hid, hk⟩ := child_admitted hw h.bound hs
    obtain ⟨c, rfl, hc, hm⟩ := made_of_element h.open_cons hn hid hk hel
    exact .inr ⟨c, hc, hm, by simp⟩

theorem child (hw : g.WellLinked) (h : Made g opened i) {c : Instance} (hc : c ∈ i.children) :
    Made g (i.id :: opened) c ∧ ∃ s ∈ (g.get i.id).content.slots, s.target = c.id := by
  obtain ⟨root, slots, content, hb⟩ := exists_element_body h.isElement
  obtain ⟨-, hshows, hnone, -⟩ := h.filled hb
  have hcontent := Structure.content_eq hb
  cases content with
  | children inner =>
    obtain ⟨s, hs, hopen, is, hch, hm⟩ := exists_slot_of_mem (hshows inner rfl) hc
    have hs : s ∈ (g.get i.id).content.slots := by
      rw [hcontent]
      rwa [Group.slots_particle] at hs
    rcases of_slot hw h hs (by simpa using hopen) hch with ⟨rfl, -⟩ | ⟨j, hj, hmade, rfl⟩
    · simp at hm
    · obtain rfl := List.eq_of_mem_replicate hm
      exact ⟨hmade, s, hs, hj.symm⟩
  | _ =>
    rw [hnone (by simp)] at hc
    simp at hc

end Made

/-- An instance occurs in a document inside instances of the structures above it, the nearest
first. -/
inductive Instance.Within (root : Instance) : List StructureId → Instance → Prop
  | root : Within root [] root
  | child {above : List StructureId} {i c : Instance} :
      Within root above i → c ∈ i.children → Within root (i.id :: above) c

theorem Made.within (hw : g.WellLinked) {root : Instance} (h : Made g [] root)
    {above : List StructureId} {i : Instance} (hi : root.Within above i) : Made g above i := by
  induction hi with
  | root => exact h
  | child _ hc ih => exact (ih.child hw hc).1

theorem root_mem_rootElements {name : Option String} {r : StructureId}
    (h : root g name = .ok r) : r ∈ g.rootElements := by
  unfold root at h
  split at h
  · split at h
    · next hl =>
      cases h
      simp [hl]
    · cases h
  · split at h
    · split_ifs at h with hm
      cases h
      exact hm
    · cases h

theorem root_isElement {name : Option String} {r : StructureId} (h : root g name = .ok r) :
    r < g.size ∧ (g.get r).kind = .element := by
  have hr := root_mem_rootElements h
  simp only [Graph.rootElements, Graph.roots, List.mem_filter, Graph.mem_ids, beq_iff_eq] at hr
  exact ⟨hr.1.1, hr.2⟩

theorem render_eq_ok {settings : Settings} {name : Option String} {text : String}
    (h : render settings g name = .ok text) :
    ∃ i, root g name = .ok i.id ∧ instances g name = .ok [i] ∧ Made g [] i ∧
      text = Xml.Document.render settings.indent ⟨none, i.node g⟩ := by
  obtain ⟨shown, hs, h⟩ := bind_eq_ok.mp h
  obtain ⟨r, hr, he⟩ := bind_eq_ok.mp hs
  obtain ⟨hid, hk⟩ := root_isElement hr
  obtain ⟨i, rfl, rfl, hm⟩ := made_of_element .nil List.not_mem_nil hid hk he
  cases h
  exact ⟨i, hr, hs, hm, rfl⟩

end DocSchema.Sample
