import DocSchema.Proofs.Xml.Names
import DocSchema.Proofs.XmlSchema.Items

/-!
# What an XML Schema can express

The graphs that have an XML Schema, and why any other has none. The writer makes its checks one by
one, at different places and at any depth of content; here its conditions stand together. Every
failure names a condition that does not hold, and no document is written while one does not.
-/
namespace DocSchema

mutual

def Particle.compositors : Particle → List Compositor
  | .element _ => []
  | .group compositor particles _ => compositor :: Particle.compositorsOf particles

def Particle.compositorsOf : List Particle → List Compositor
  | [] => []
  | p :: ps => p.compositors ++ Particle.compositorsOf ps

end

namespace XmlSchema

open Artifact (Failure Scope)

/-- Different structures have different tags. -/
def DistinctTags (g : Graph) (ids : List StructureId) : Prop :=
  ∀ a ∈ ids, ∀ b ∈ ids, (g.get a).tag = (g.get b).tag → a = b

/-- Unordered content is a whole content model of elements that occur at most once. -/
structure ExpressibleGroup (group : Group) : Prop where
  outermost : .unordered ∉ Particle.compositorsOf group.particles
  flat : group.compositor = .unordered → ∀ p ∈ group.particles, p.isGroup = false
  once : group.compositor = .unordered →
    ∀ slot ∈ group.slots, ∃ max ≤ 1, slot.cardinality.max = some max

structure ExpressibleElement (g : Graph) (s : Structure) (attributes : List Slot)
    (content : Content) : Prop where
  tag : Xml.isName s.tag = true
  attributeTags : ∀ slot ∈ attributes, Xml.isName (g.get slot.target).tag = true
  attributesDistinct : DistinctTags g (attributes.map (·.target))
  childTags : ∀ slot ∈ content.slots, Xml.isName (g.get slot.target).tag = true
  childrenDistinct : DistinctTags g (content.slots.map (·.target))
  group : ∀ group, content = .children group → ExpressibleGroup group

/-- What a graph has to satisfy to be written as an XML Schema. -/
structure Expressible (settings : Settings) (g : Graph) : Prop where
  rootsDistinct : DistinctTags g g.rootElements
  typeNames : ∀ id ∈ written settings g, ∀ mark, typeMark? (g.get id).kind = some mark →
    Xml.isName (settings.typePrefix ++ mark ++ (g.get id).reference) = true
  elements : ∀ id ∈ written settings g, ∀ root attributes content,
    (g.get id).body = .element root attributes content →
      ExpressibleElement g (g.get id) attributes content

inductive Collision (g : Graph) (scope : Scope) (ids : List StructureId) : Failure → Prop where
  | intro {a b : StructureId} (ha : a ∈ ids) (hb : b ∈ ids) (hne : a ≠ b)
      (ht : (g.get a).tag = (g.get b).tag) :
      Collision g scope ids
        (.nameCollision (g.get a).reference (g.get b).reference (g.get b).tag scope)

inductive GroupObstacle (g : Graph) (owner : String) (group : Group) : Failure → Prop where
  | unorderedInGroup (h : .unordered ∈ Particle.compositorsOf group.particles) :
      GroupObstacle g owner group (.unsupported owner .unorderedInGroup)
  | groupInUnordered {p : Particle} (hc : group.compositor = .unordered)
      (hp : p ∈ group.particles) (h : p.isGroup = true) :
      GroupObstacle g owner group (.unsupported owner .groupInUnordered)
  | repeatedInUnordered {slot : Slot} (hc : group.compositor = .unordered)
      (hs : slot ∈ group.slots) (h : ∀ max ≤ 1, slot.cardinality.max ≠ some max) :
      GroupObstacle g owner group (.unsupported owner
        (.repeatedInUnordered (g.get slot.target).reference slot.cardinality))

inductive ElementObstacle (g : Graph) (s : Structure) (attributes : List Slot)
    (content : Content) : Failure → Prop where
  | tag (h : Xml.isName s.tag = false) :
      ElementObstacle g s attributes content (.invalidName s.reference s.tag)
  | slotTag {slot : Slot} (hs : slot ∈ attributes ++ content.slots)
      (h : Xml.isName (g.get slot.target).tag = false) :
      ElementObstacle g s attributes content
        (.invalidName (g.get slot.target).reference (g.get slot.target).tag)
  | attributes {f : Failure}
      (h : Collision g (.attributes s.reference) (attributes.map (·.target)) f) :
      ElementObstacle g s attributes content f
  | children {f : Failure}
      (h : Collision g (.children s.reference) (content.slots.map (·.target)) f) :
      ElementObstacle g s attributes content f
  | group {group : Group} {f : Failure} (hc : content = .children group)
      (h : GroupObstacle g s.reference group f) : ElementObstacle g s attributes content f

/-- The failures that a graph can cause, each with the condition that it violates. -/
inductive Obstacle (settings : Settings) (g : Graph) : Failure → Prop where
  | roots {f : Failure} (h : Collision g .rootElements g.rootElements f) : Obstacle settings g f
  | typeName {id : StructureId} {mark : String} (hid : id ∈ written settings g)
      (hm : typeMark? (g.get id).kind = some mark)
      (h : Xml.isName (settings.typePrefix ++ mark ++ (g.get id).reference) = false) :
      Obstacle settings g (.invalidName (g.get id).reference
        (settings.typePrefix ++ mark ++ (g.get id).reference))
  | element {id : StructureId} {root : Bool} {attributes : List Slot} {content : Content}
      {f : Failure} (hid : id ∈ written settings g)
      (hb : (g.get id).body = .element root attributes content)
      (h : ElementObstacle g (g.get id) attributes content f) : Obstacle settings g f

theorem Collision.not_distinct {g : Graph} {scope : Scope} {ids : List StructureId} {f : Failure}
    (h : Collision g scope ids f) : ¬DistinctTags g ids := by
  obtain ⟨ha, hb, hne, ht⟩ := h
  exact fun hd => hne (hd _ ha _ hb ht)

theorem GroupObstacle.not_expressible {g : Graph} {owner : String} {group : Group} {f : Failure}
    (h : GroupObstacle g owner group f) : ¬ExpressibleGroup group := by
  intro he
  cases h with
  | unorderedInGroup h => exact he.outermost h
  | groupInUnordered hc hp h => simp [he.flat hc _ hp] at h
  | repeatedInUnordered hc hs h =>
    obtain ⟨max, hle, hm⟩ := he.once hc _ hs
    exact h max hle hm

theorem ElementObstacle.not_expressible {g : Graph} {s : Structure} {attributes : List Slot}
    {content : Content} {f : Failure} (h : ElementObstacle g s attributes content f) :
    ¬ExpressibleElement g s attributes content := by
  intro he
  cases h with
  | tag h => simp [he.tag] at h
  | slotTag hs h =>
    rcases List.mem_append.mp hs with hs | hs
    · simp [he.attributeTags _ hs] at h
    · simp [he.childTags _ hs] at h
  | attributes h => exact h.not_distinct he.attributesDistinct
  | children h => exact h.not_distinct he.childrenDistinct
  | group hc h => exact h.not_expressible (he.group _ hc)

theorem Obstacle.not_expressible {settings : Settings} {g : Graph} {f : Failure}
    (h : Obstacle settings g f) : ¬Expressible settings g := by
  intro he
  cases h with
  | roots h => exact h.not_distinct he.rootsDistinct
  | typeName hid hm h => simp [he.typeNames _ hid _ hm] at h
  | element hid hb h => exact h.not_expressible (he.elements _ hid _ _ _ hb)

/-- The search for a collision keeps those it has seen distinct. -/
theorem distinctTags_of_collision? {g : Graph} {scope : Scope} {seen ids : List StructureId}
    (hs : DistinctTags g seen) (h : collision? g scope seen ids = none) :
    DistinctTags g (seen ++ ids) := by
  induction ids generalizing seen with
  | nil => simpa using hs
  | cons id ids ih =>
    rw [collision?] at h
    split at h
    · next other hf =>
      split_ifs at h with he
      obtain rfl : other = id := by simpa using he
      have hid : other ∈ seen := List.mem_of_find?_eq_some hf
      have hrest := ih hs h
      have hsub : ∀ a ∈ seen ++ other :: ids, a ∈ seen ++ ids := by
        intro a ha
        simp only [List.mem_append, List.mem_cons] at ha ⊢
        rcases ha with ha | rfl | ha
        · exact .inl ha
        · exact .inl hid
        · exact .inr ha
      exact fun a ha b hb => hrest a (hsub a ha) b (hsub b hb)
    · next hf =>
      have hnew : ∀ a ∈ seen, (g.get a).tag ≠ (g.get id).tag := by
        simpa [List.find?_eq_none] using hf
      have hs' : DistinctTags g (seen ++ [id]) := by
        intro a ha b hb ht
        simp only [List.mem_append, List.mem_singleton] at ha hb
        rcases ha with ha | rfl <;> rcases hb with hb | rfl
        · exact hs a ha b hb ht
        · exact absurd ht (hnew a ha)
        · exact absurd ht.symm (hnew b hb)
        · rfl
      simpa using ih hs' h

theorem collision_of_collision? {g : Graph} {scope : Scope} {seen ids : List StructureId}
    {f : Failure} (h : collision? g scope seen ids = some f) :
    Collision g scope (seen ++ ids) f := by
  induction ids generalizing seen with
  | nil => simp [collision?] at h
  | cons id ids ih =>
    have widen {all : List StructureId} (hc : Collision g scope all f)
        (hsub : ∀ a ∈ all, a ∈ seen ++ id :: ids) : Collision g scope (seen ++ id :: ids) f := by
      obtain ⟨ha, hb, hne, ht⟩ := hc
      exact ⟨hsub _ ha, hsub _ hb, hne, ht⟩
    rw [collision?] at h
    split at h
    · next other hf =>
      split_ifs at h with he
      · refine widen (ih h) fun a ha => ?_
        simp only [List.mem_append, List.mem_cons] at ha ⊢
        exact ha.imp_right .inr
      · have ht : (g.get other).tag = (g.get id).tag := by simpa using List.find?_some hf
        obtain rfl : _ = f := Option.some.inj h
        exact ⟨by simp [List.mem_of_find?_eq_some hf], by simp, by simpa using he, ht⟩
    · exact widen (ih h) (by simp)

theorem checkDistinctTags_outcome (g : Graph) (scope : Scope) (ids : List StructureId) :
    Outcome (checkDistinctTags g scope ids) (fun _ => DistinctTags g ids)
      (Collision g scope ids) := by
  unfold checkDistinctTags
  cases h : collision? g scope [] ids with
  | none => simpa [Outcome] using distinctTags_of_collision? (by simp [DistinctTags]) h
  | some f => simpa [Outcome] using collision_of_collision? h

theorem tagOf_outcome (s : Structure) :
    Outcome (tagOf s) (fun _ => Xml.isName s.tag = true)
      fun f => Xml.isName s.tag = false ∧ f = .invalidName s.reference s.tag := by
  unfold tagOf
  split_ifs with h
  · exact h
  · exact ⟨by simpa using h, rfl⟩

section Steps

variable {settings : Settings} {g : Graph}

theorem typeName_outcome {id : StructureId} (hid : id ∈ written settings g) (mark : String)
    (hm : typeMark? (g.get id).kind = some mark) :
    Outcome (typeName settings (g.get id))
      (fun _ => Xml.isName (settings.typePrefix ++ mark ++ (g.get id).reference) = true)
      (Obstacle settings g) := by
  cases hn : Xml.isName (settings.typePrefix ++ mark ++ (g.get id).reference) with
  | true =>
    rw [typeName_eq_ok.mpr ⟨mark, hm, rfl, hn⟩]
    exact rfl
  | false =>
    have hf := Obstacle.typeName hid hm hn
    unfold typeName
    cases hk : (g.get id).kind <;> simp only [hk, typeMark?, Option.some.injEq, reduceCtorEq] at hm
    all_goals
      subst hm
      simp only [hn, Bool.false_eq_true, if_false]
      exact hf

theorem typeRefName_outcome (hg : g.WellLinked) {id : StructureId} (hid : id ∈ written settings g)
    (place : Place) (hp : place.kinds = [.dataType]) {t : TypeRef}
    (ht : (place, t) ∈ (g.get id).body.references) :
    Outcome (typeRefName settings g t) (fun _ => True) (Obstacle settings g) := by
  cases t with
  | primitive p => trivial
  | declared target =>
    have ha := hg.admits _ (Graph.get_mem (lt_size_of_mem_written hid)) _ ht
    have hk : (g.get target).kind = .dataType := by simpa [Graph.Admits, hp] using ha.2
    have hw : target ∈ written settings g := reference_mem_written hg hid ht rfl
    exact (typeName_outcome hw "d__" (by rw [hk]; rfl)).weaken fun _ _ => trivial

section Element

variable {id : StructureId} {root : Bool} {attributes : List Slot} {content : Content}

theorem childSlots_of_element (hg : g.WellLinked) (hid : id ∈ written settings g)
    (hb : (g.get id).body = .element root attributes content) :
    ∀ slot ∈ content.slots, slot.target ∈ written settings g ∧
      (g.get slot.target).kind = .element := by
  intro slot hs
  cases content with
  | children group =>
    have hr : (.childSlot, slot.type) ∈ (g.get id).body.references := by
      rw [hb]
      exact List.mem_append_right _ (List.mem_map_of_mem hs)
    have ha := hg.admits _ (Graph.get_mem (lt_size_of_mem_written hid)) _ hr
    exact ⟨reference_mem_written hg hid hr rfl, by simpa [Place.kinds] using ha.2⟩
  | _ => simp [Content.slots, Content.group?] at hs

theorem slotTag_outcome (hid : id ∈ written settings g)
    (hb : (g.get id).body = .element root attributes content) {slot : Slot}
    (hs : slot ∈ attributes ++ content.slots) :
    Outcome (tagOf (g.get slot.target)) (fun _ => Xml.isName (g.get slot.target).tag = true)
      (Obstacle settings g) := by
  refine (tagOf_outcome _).explain ?_
  rintro _ ⟨hn, rfl⟩
  exact .element hid hb (.slotTag hs hn)

theorem attributeNode_outcome (hg : g.WellLinked) (hid : id ∈ written settings g)
    (hb : (g.get id).body = .element root attributes content) {slot : Slot}
    (hs : slot ∈ attributes) :
    Outcome (attributeNode settings g slot) (fun _ => Xml.isName (g.get slot.target).tag = true)
      (Obstacle settings g) := by
  obtain ⟨hw, valueType, default, hv⟩ := attributeSlots_of_element hg hid hb slot hs
  have htag := slotTag_outcome hid hb (List.mem_append_left _ hs)
  have htype := typeRefName_outcome hg hw .attributeType rfl
    (by rw [hv]; simp [Body.references] : (_, valueType) ∈ _)
  simp only [attributeNode, hv]
  exact htag.bind fun _ ht => htype.bind fun _ _ => ht

theorem attributeNodes_outcome (hg : g.WellLinked) (hid : id ∈ written settings g)
    (hb : (g.get id).body = .element root attributes content) {slots : List Slot}
    (hs : slots ⊆ attributes) :
    Outcome (attributeNodes settings g slots)
      (fun _ => ∀ slot ∈ slots, Xml.isName (g.get slot.target).tag = true)
      (Obstacle settings g) := by
  induction slots with
  | nil => simp [attributeNodes, Outcome]
  | cons slot slots ih =>
    obtain ⟨hslot, hrest⟩ := List.cons_subset.mp hs
    rw [attributeNodes]
    refine (attributeNode_outcome hg hid hb hslot).bind fun _ hfirst =>
      (ih hrest).bind fun _ hall => ?_
    simpa [Outcome] using ⟨hfirst, hall⟩

theorem child_outcome (hg : g.WellLinked) (hid : id ∈ written settings g)
    (hb : (g.get id).body = .element root attributes content) {slot : Slot}
    (hs : slot ∈ content.slots) :
    Outcome (child settings g slot) (fun _ => Xml.isName (g.get slot.target).tag = true)
      (Obstacle settings g) := by
  obtain ⟨hw, hk⟩ := childSlots_of_element hg hid hb slot hs
  have htag := slotTag_outcome hid hb (List.mem_append_right attributes hs)
  have hname := typeName_outcome hw "e__" (by rw [hk]; rfl)
  unfold child
  exact htag.bind fun _ ht => hname.bind fun _ _ => ht

section Group

variable {group : Group}

mutual

theorem particle_outcome (hg : g.WellLinked) (hid : id ∈ written settings g)
    (hb : (g.get id).body = .element root attributes (.children group)) : (p : Particle) →
    p.slots ⊆ group.slots → p.compositors ⊆ Particle.compositorsOf group.particles →
      Outcome (particle settings g (g.get id).reference p)
        (fun _ => (∀ slot ∈ p.slots, Xml.isName (g.get slot.target).tag = true) ∧
          .unordered ∉ p.compositors) (Obstacle settings g)
  | .element slot => fun hs _ => by
    have hslot : slot ∈ group.slots := hs (by simp [Particle.slots])
    rw [particle]
    refine (child_outcome hg hid hb hslot).weaken fun _ ht => ?_
    simpa [Particle.slots, Particle.compositors] using ht
  | .group compositor ps mixed => fun hs hc => by
    rw [Particle.slots] at hs
    obtain ⟨hfirst, hrest⟩ := List.cons_subset.mp (by simpa [Particle.compositors] using hc)
    have hps := particles_outcome hg hid hb ps hs hrest
    cases compositor with
    -- a group that is a particle is never the outermost one
    | unordered => exact .element hid hb (.group rfl (.unorderedInGroup hfirst))
    | _ =>
      simp only [particle]
      refine hps.bind fun _ h => ?_
      simpa [Outcome, Particle.slots, Particle.compositors] using h

theorem particles_outcome (hg : g.WellLinked) (hid : id ∈ written settings g)
    (hb : (g.get id).body = .element root attributes (.children group)) : (ps : List Particle) →
    Particle.slotsOf ps ⊆ group.slots →
    Particle.compositorsOf ps ⊆ Particle.compositorsOf group.particles →
      Outcome (particles settings g (g.get id).reference ps)
        (fun _ => (∀ slot ∈ Particle.slotsOf ps, Xml.isName (g.get slot.target).tag = true) ∧
          .unordered ∉ Particle.compositorsOf ps) (Obstacle settings g)
  | [] => fun _ _ => by simp [particles, Outcome, Particle.slotsOf, Particle.compositorsOf]
  | p :: ps => fun hs hc => by
    rw [Particle.slotsOf] at hs
    rw [Particle.compositorsOf] at hc
    obtain ⟨hsp, hsps⟩ := List.append_subset.mp hs
    obtain ⟨hcp, hcps⟩ := List.append_subset.mp hc
    rw [particles]
    refine (particle_outcome hg hid hb p hsp hcp).bind fun _ hp =>
      (particles_outcome hg hid hb ps hsps hcps).bind fun _ hps => ?_
    simp only [Particle.slotsOf, Particle.compositorsOf, List.mem_append, not_or]
    exact ⟨fun slot hm => hm.elim (hp.1 slot) (hps.1 slot), hp.2, hps.2⟩

end

theorem isRepeatable_eq_false {c : Cardinality} :
    c.isRepeatable = false ↔ ∃ max ≤ 1, c.max = some max := by
  unfold Cardinality.isRepeatable
  cases c.max <;> simp

theorem checkUnordered_outcome (hid : id ∈ written settings g)
    (hb : (g.get id).body = .element root attributes (.children group))
    (hc : group.compositor = .unordered) :
    Outcome (checkUnordered g (g.get id).reference group)
      (fun _ => (∀ p ∈ group.particles, p.isGroup = false) ∧
        ∀ slot ∈ group.slots, ∃ max ≤ 1, slot.cardinality.max = some max)
      (Obstacle settings g) := by
  have obstacle {f : Failure} (h : GroupObstacle g (g.get id).reference group f) :
      Obstacle settings g f := .element hid hb (.group rfl h)
  unfold checkUnordered
  split_ifs with hn
  · obtain ⟨p, hp, hpg⟩ := List.any_eq_true.mp hn
    exact obstacle (.groupInUnordered hc hp hpg)
  · have hflat : ∀ p ∈ group.particles, p.isGroup = false := by
      simpa [Group.isNested] using hn
    cases hf : group.slots.find? (·.cardinality.isRepeatable) with
    | none =>
      refine ⟨hflat, fun slot hs => isRepeatable_eq_false.mp ?_⟩
      simpa using List.find?_eq_none.mp hf slot hs
    | some slot =>
      have hr : slot.cardinality.isRepeatable = true := by simpa using List.find?_some hf
      refine obstacle (.repeatedInUnordered hc (List.mem_of_find?_eq_some hf) ?_)
      intro max hle hm
      have hfalse := isRepeatable_eq_false.mpr ⟨max, hle, hm⟩
      rw [hr] at hfalse
      cases hfalse

theorem complexContent_outcome (hg : g.WellLinked) (hid : id ∈ written settings g)
    (hb : (g.get id).body = .element root attributes (.children group)) (name : String) :
    Outcome (complexContent settings g name (g.get id) attributes group)
      (fun _ => (∀ slot ∈ attributes, Xml.isName (g.get slot.target).tag = true) ∧
        (∀ slot ∈ group.slots, Xml.isName (g.get slot.target).tag = true) ∧
        DistinctTags g (group.slots.map (·.target)) ∧ ExpressibleGroup group)
      (Obstacle settings g) := by
  have hdistinct := (checkDistinctTags_outcome g (.children (g.get id).reference)
    (group.slots.map (·.target))).explain fun _ h => Obstacle.element hid hb (.children h)
  have hattributes := attributeNodes_outcome hg hid hb (fun _ h => h)
  have hinner := particles_outcome hg hid hb group.particles (fun _ h => h) fun _ h => h
  unfold complexContent
  refine Outcome.check (checkUnordered_outcome hid hb) fun hu => hdistinct.bind fun _ hd => ?_
  dsimp only
  by_cases he : group.particles.isEmpty = true
  · -- a group without members has no slots and no groups in it
    have hnil : group.particles = [] := by simpa using he
    rw [if_pos he]
    refine hattributes.bind fun _ ha => ⟨ha, ?_, hd, ?_, fun hc => (hu hc).1, fun hc => (hu hc).2⟩
    · simp [Group.slots, hnil, Particle.slotsOf]
    · simp [hnil, Particle.compositorsOf]
  · rw [if_neg he]
    exact hinner.bind fun _ hi => hattributes.bind fun _ ha =>
      ⟨ha, hi.1, hd, hi.2, fun hc => (hu hc).1, fun hc => (hu hc).2⟩

end Group

/-- Text and values bring no conditions besides those on the attributes. -/
theorem simpleContent_outcome (hg : g.WellLinked) (hid : id ∈ written settings g)
    (hb : (g.get id).body = .element root attributes content) (name : String) {value : TypeRef}
    (hv : Outcome (typeRefName settings g value) (fun _ => True) (Obstacle settings g)) :
    Outcome (simpleContent settings g name (g.get id) attributes value)
      (fun _ => ∀ slot ∈ attributes, Xml.isName (g.get slot.target).tag = true)
      (Obstacle settings g) := by
  have hattributes := attributeNodes_outcome hg hid hb (fun _ h => h)
  unfold simpleContent
  refine hv.bind fun _ _ => ?_
  split_ifs with he
  · have hnil : attributes = [] := by simpa using he
    simp [Outcome, hnil]
  · exact hattributes.bind fun _ ha => ha

theorem tag_outcome (hid : id ∈ written settings g)
    (hb : (g.get id).body = .element root attributes content) :
    Outcome (tagOf (g.get id)) (fun _ => Xml.isName (g.get id).tag = true)
      (Obstacle settings g) := by
  refine (tagOf_outcome _).explain ?_
  rintro _ ⟨hn, rfl⟩
  exact .element hid hb (.tag hn)

theorem expressibleElement_of_childless {s : Structure} (hc : content.group? = none)
    (ht : Xml.isName s.tag = true)
    (ha : ∀ slot ∈ attributes, Xml.isName (g.get slot.target).tag = true)
    (hd : DistinctTags g (attributes.map (·.target))) :
    ExpressibleElement g s attributes content := by
  refine ⟨ht, ha, hd, by simp [Content.slots, hc], by simp [Content.slots, hc, DistinctTags], ?_⟩
  rintro group rfl
  cases hc

theorem element_outcome (hg : g.WellLinked) (hid : id ∈ written settings g)
    (hb : (g.get id).body = .element root attributes content) :
    Outcome (element settings g (g.get id) attributes content)
      (fun _ => ExpressibleElement g (g.get id) attributes content ∧
        Xml.isName (settings.typePrefix ++ "e__" ++ (g.get id).reference) = true)
      (Obstacle settings g) := by
  have hkind : (g.get id).kind = .element := by simp [Structure.kind, hb, Body.kind]
  have hname := typeName_outcome hid "e__" (by rw [hkind]; rfl)
  have hdistinct := (checkDistinctTags_outcome g (.attributes (g.get id).reference)
    (attributes.map (·.target))).explain fun _ h => Obstacle.element hid hb (.attributes h)
  unfold element
  refine hname.bind fun name hn => (tag_outcome hid hb).bind fun _ ht =>
    hdistinct.bind fun _ hd => ?_
  cases content with
  | text =>
    have hdefault : Outcome (typeRefName settings g .default) (fun _ => True)
        (Obstacle settings g) := trivial
    exact (simpleContent_outcome hg hid hb name hdefault).weaken fun _ ha =>
      ⟨expressibleElement_of_childless rfl ht ha hd, hn⟩
  | value type =>
    have htype := typeRefName_outcome hg hid .valueContent rfl
      (by rw [hb]; simp [Body.references, Content.references] : (_, type) ∈ _)
    exact (simpleContent_outcome hg hid hb name htype).weaken fun _ ha =>
      ⟨expressibleElement_of_childless rfl ht ha hd, hn⟩
  | empty =>
    dsimp only
    split_ifs with he
    · have hnil : attributes = [] := by simpa using he
      exact ⟨expressibleElement_of_childless rfl ht (by simp [hnil]) hd, hn⟩
    · exact (attributeNodes_outcome hg hid hb (fun _ h => h)).bind fun _ ha =>
        ⟨expressibleElement_of_childless rfl ht ha hd, hn⟩
  | children group =>
    refine (complexContent_outcome hg hid hb name).weaken ?_
    rintro _ ⟨ha, hslots, hchildren, hgroup⟩
    refine ⟨⟨ht, ha, hd, hslots, hchildren, ?_⟩, hn⟩
    rintro _ ⟨⟩
    exact hgroup

end Element

theorem dataType_outcome (hg : g.WellLinked) {id : StructureId} (hid : id ∈ written settings g)
    {base : TypeRef} {c : Constraints} (hb : (g.get id).body = .dataType base c) :
    Outcome (dataType settings g (g.get id) base c)
      (fun _ => Xml.isName (settings.typePrefix ++ "d__" ++ (g.get id).reference) = true)
      (Obstacle settings g) := by
  have hkind : (g.get id).kind = .dataType := by simp [Structure.kind, hb, Body.kind]
  have hname := typeName_outcome hid "d__" (by rw [hkind]; rfl)
  have hbase := typeRefName_outcome hg hid .baseType rfl
    (by rw [hb]; simp [Body.references] : (_, base) ∈ _)
  exact hname.bind fun _ hn => hbase.bind fun _ _ => hn

theorem dataTypes_outcome (hg : g.WellLinked) {ids : List StructureId}
    (hw : ids ⊆ written settings g) :
    Outcome (dataTypes settings g ids) (fun _ => ∀ id ∈ ids, (g.get id).kind = .dataType →
      Xml.isName (settings.typePrefix ++ "d__" ++ (g.get id).reference) = true)
      (Obstacle settings g) := by
  induction ids with
  | nil => simp [dataTypes, Outcome]
  | cons id ids ih =>
    obtain ⟨hid, hrest⟩ := List.cons_subset.mp hw
    rw [dataTypes]
    split
    · next base c hb =>
      refine (dataType_outcome hg hid hb).bind fun _ hfirst => (ih hrest).bind fun _ hall => ?_
      simpa [Outcome, hfirst] using hall
    · next hb =>
      have hk : (g.get id).kind ≠ .dataType := by
        cases hc : (g.get id).body <;> simp_all [Structure.kind, Body.kind]
      refine (ih hrest).weaken fun _ hall => ?_
      simpa [hk] using hall

theorem elements_outcome (hg : g.WellLinked) {ids : List StructureId}
    (hw : ids ⊆ written settings g) :
    Outcome (elements settings g ids) (fun _ => ∀ id ∈ ids, ∀ root attributes content,
      (g.get id).body = .element root attributes content →
        ExpressibleElement g (g.get id) attributes content ∧
          Xml.isName (settings.typePrefix ++ "e__" ++ (g.get id).reference) = true)
      (Obstacle settings g) := by
  induction ids with
  | nil => simp [elements, Outcome]
  | cons id ids ih =>
    obtain ⟨hid, hrest⟩ := List.cons_subset.mp hw
    rw [elements]
    split
    · next root attributes content hb =>
      refine (element_outcome hg hid hb).bind fun _ hfirst => (ih hrest).bind fun _ hall => ?_
      intro other ho root' attributes' content' hb'
      rcases List.mem_cons.mp ho with rfl | ho
      · rw [hb] at hb'
        cases hb'
        exact hfirst
      · exact hall other ho _ _ _ hb'
    · next hb =>
      refine (ih hrest).weaken fun _ hall other ho root attributes content hb' => ?_
      rcases List.mem_cons.mp ho with rfl | ho
      · exact absurd hb' (hb _ _ _)
      · exact hall other ho _ _ _ hb'

/-- The global elements repeat what was checked of the elements themselves. -/
theorem rootElements_outcome (settings : Settings) (hg : g.WellLinked) {ids : List StructureId}
    (hr : ids ⊆ g.rootElements) :
    Outcome (rootElements settings g ids) (fun _ => True) (Obstacle settings g) := by
  induction ids with
  | nil => trivial
  | cons id ids ih =>
    obtain ⟨hid, hrest⟩ := List.cons_subset.mp hr
    have hw : id ∈ written settings g := root_mem_written hg hid
    have hk : (g.get id).kind = .element := by simpa using (List.mem_filter.mp hid).2
    have hname := typeName_outcome hw "e__" (by rw [hk]; rfl)
    rw [rootElements]
    rcases hb : (g.get id).body with ⟨root, attributes, content⟩ | _ | _ | _ | _ | _ <;>
      simp [Structure.kind, hb, Body.kind] at hk
    exact (tag_outcome hw hb).bind fun _ _ => hname.bind fun _ _ =>
      (ih hrest).bind fun _ _ => trivial

theorem items_outcome (settings : Settings) (hg : g.WellLinked) :
    Outcome (items settings g) (fun _ => Expressible settings g) (Obstacle settings g) := by
  have hroots := (checkDistinctTags_outcome g .rootElements g.rootElements).explain
    fun _ h => (.roots h : Obstacle settings g _)
  have htypes := dataTypes_outcome hg (fun _ h => h : written settings g ⊆ written settings g)
  have helements := elements_outcome hg (fun _ h => h : written settings g ⊆ written settings g)
  have hglobal := rootElements_outcome settings hg (fun _ h => h)
  refine hroots.bind fun _ hr => htypes.bind fun _ ht => helements.bind fun _ he =>
    hglobal.bind fun _ _ => ?_
  refine ⟨hr, fun id hid mark hm => ?_, fun id hid _ _ _ hb => (he id hid _ _ _ hb).1⟩
  rcases hb : (g.get id).body with ⟨root, attributes, content⟩ | _ | _ | _ | _ | _ <;>
    simp only [Structure.kind, hb, Body.kind, typeMark?, Option.some.injEq, reduceCtorEq] at hm
  · subst hm
    exact (he id hid _ _ _ hb).2
  · subst hm
    exact ht id hid (by simp [Structure.kind, hb, Body.kind])

theorem render_outcome (settings : Settings) (hg : g.WellLinked) :
    Outcome (render settings g) (fun _ => Expressible settings g) (Obstacle settings g) := by
  have hdocument : Outcome (document settings g) (fun _ => Expressible settings g)
      (Obstacle settings g) := (items_outcome settings hg).bind fun _ h => h
  exact hdocument.map fun _ h => h

end Steps

/-- A compiled schema is written as an XML Schema exactly when it is expressible as one, and a
failure names a condition that it violates. -/
theorem render_ok_iff_expressible {source : String} {c : Compiled}
    (hc : compile source = .ok c) (settings : Settings) :
    ((∃ text, render settings c.graph = .ok text) ↔ Expressible settings c.graph) ∧
      ∀ f, render settings c.graph = .error f → Obstacle settings c.graph f := by
  have ho := render_outcome settings (compile_wellLinked hc)
  cases hr : render settings c.graph with
  | ok text =>
    rw [hr] at ho
    exact ⟨⟨fun _ => ho, fun _ => ⟨text, rfl⟩⟩, by simp⟩
  | error f =>
    rw [hr] at ho
    refine ⟨⟨by simp, fun he => absurd he (Obstacle.not_expressible ho)⟩, ?_⟩
    rintro _ ⟨⟩
    exact ho

/-- A schema with an unordered group inside a choice inside a sequence. -/
def nestedSource : String :=
  "root element a \x7ballowedContent: [b, \x7bb / \x7ba, b\x7d\x7d];\x7d element b \x7b\x7d"

set_option maxRecDepth 2000 in
theorem render_ok_iff_expressible_nested :
    (∃ c, compile sectionSource = .ok c ∧ Expressible .default c.graph) ∧
      ∃ c, compile nestedSource = .ok c ∧
        render .default c.graph = .error (.unsupported "a" .unorderedInGroup) ∧
        ¬Expressible .default c.graph ∧
        Obstacle .default c.graph (.unsupported "a" .unorderedInGroup) := by
  constructor
  · obtain ⟨c, hc, ht⟩ := exists_compiled (String.toList_ofList : sectionSource.toList = _)
      (fun c => (render .default c.graph).toOption.isSome) (by decide +kernel)
    cases hr : render .default c.graph with
    | error f => simp [hr, Except.toOption] at ht
    | ok text => exact ⟨c, hc, (render_ok_iff_expressible hc .default).1.mp ⟨text, hr⟩⟩
  · obtain ⟨c, hc, ht⟩ := exists_compiled (String.toList_ofList : nestedSource.toList = _)
      (fun c => failsWith (render .default c.graph) (.unsupported "a" .unorderedInGroup))
      (by decide +kernel)
    have hr := failsWith_iff.mp ht
    obtain ⟨hok, hf⟩ := render_ok_iff_expressible hc .default
    refine ⟨c, hc, hr, fun he => ?_, hf _ hr⟩
    obtain ⟨text, hok⟩ := hok.mpr he
    simp [hr] at hok

/-- A schema whose root element has a tag with a letter that is in no name of the grammar. -/
def micronSource : String := "root element micron \x7btagName: \"µm\";\x7d"

set_option maxRecDepth 4000 in
/-- Such a tag is accepted like any other. -/
theorem render_ok_with_stray_tag :
    ∃ c, compile micronSource = .ok c ∧ (∃ text, render .default c.graph = .ok text) ∧
      0 ∈ written .default c.graph ∧ (c.graph.get 0).kind = .element ∧
      (c.graph.get 0).tag = "µm" ∧ Xml.Grammar.isNCName "µm".toList = false := by
  obtain ⟨c, hc, ht⟩ := exists_compiled (String.toList_ofList : micronSource.toList = _)
    (fun c => (render .default c.graph).toOption.isSome &&
      (written .default c.graph).contains 0 && (c.graph.get 0).kind == .element &&
      (c.graph.get 0).tag == "µm") (by decide)
  simp only [Bool.and_eq_true, Option.isSome_iff_exists, toOption_eq_some, beq_iff_eq,
    List.contains_iff_mem] at ht
  obtain ⟨⟨⟨hr, hw⟩, hk⟩, htag⟩ := ht
  exact ⟨c, hc, hr, hw, hk, htag, by decide⟩

end XmlSchema

end DocSchema
