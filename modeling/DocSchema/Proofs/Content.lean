import DocSchema.Structure
import Mathlib

/-!
# Child sequences of content models

The language of a content model over the structures of a graph. A slot stands for as many copies of
its target as its range admits, a sequence for a concatenation, a choice for a union, and members in
no order for a concatenation in any order. Slots of omitted structures may stay empty; with nothing
omitted the language is exact.
-/
namespace DocSchema

/-- Copies of the target, or nothing where the target is omitted. -/
def Slot.words (omitted : Set StructureId) (s : Slot) : Language StructureId :=
  {w | (∃ n, s.cardinality.admits n = true ∧ w = List.replicate n s.target) ∨
    w = [] ∧ s.target ∈ omitted}

/-- Concatenations of one word of each language, in any order. -/
def anyOrder (languages : List (Language StructureId)) : Language StructureId :=
  {w | ∃ order : List (Language StructureId), order.Perm languages ∧ w ∈ order.prod}

mutual

/-- The child sequences that a particle allows when slots of omitted structures may stay empty. -/
def Particle.words (omitted : Set StructureId) : Particle → Language StructureId
  | .element slot => slot.words omitted
  | .group .sequence ps _ => (Particle.wordsOf omitted ps).prod
  | .group .unordered ps _ => anyOrder (Particle.wordsOf omitted ps)
  | .group .choice ps _ => (Particle.wordsOf omitted ps).sum

def Particle.wordsOf (omitted : Set StructureId) : List Particle → List (Language StructureId)
  | [] => []
  | p :: ps => p.words omitted :: Particle.wordsOf omitted ps

end

def Group.particle (g : Group) : Particle := .group g.compositor g.particles g.mixed

theorem Group.slots_particle (g : Group) : g.particle.slots = g.slots := by
  rw [Group.particle, Particle.slots, Group.slots]

/-- The child sequences of an element with a content. -/
def Content.words (omitted : Set StructureId) : Content → Language StructureId
  | .empty | .text | .value _ => 1
  | .children g => g.particle.words omitted

def Structure.content (s : Structure) : Content :=
  match s.body with
  | .element _ _ content => content
  | _ => .empty

theorem Structure.content_eq {s : Structure} {root : Bool} {slots : List Slot} {content : Content}
    (hb : s.body = .element root slots content) : s.content = content := by
  simp [Structure.content, hb]

namespace Particle

variable {omitted : Set StructureId}

theorem slots_subset_slotsOf {p : Particle} {ps : List Particle} (hp : p ∈ ps) :
    p.slots ⊆ slotsOf ps := by
  induction ps with
  | nil => simp at hp
  | cons q ps ih =>
    rw [slotsOf]
    rcases List.mem_cons.mp hp with rfl | hp
    · exact List.subset_append_left _ _
    · exact List.Subset.trans (ih hp) (List.subset_append_right _ _)

theorem mem_words_choice {ps : List Particle} {mixed : Bool} {w : List StructureId} :
    w ∈ (group .choice ps mixed).words omitted ↔ ∃ p ∈ ps, w ∈ p.words omitted := by
  rw [words]
  induction ps with
  | nil => simp [wordsOf]
  | cons p ps ih => simp [wordsOf, Language.mem_add, ih]

theorem prod_wordsOf_le {compositor : Compositor} (hc : compositor ≠ .choice) {ps : List Particle}
    {mixed : Bool} {w : List StructureId} (hw : w ∈ (wordsOf omitted ps).prod) :
    w ∈ (group compositor ps mixed).words omitted := by
  cases compositor with
  | sequence => rwa [words]
  | unordered =>
    rw [words]
    exact ⟨_, .refl _, hw⟩
  | choice => exact absurd rfl hc

mutual

/-- Only slots of omitted structures tell a language from the exact one. -/
theorem words_eq_of_disjoint : (p : Particle) → (∀ s ∈ p.slots, s.target ∉ omitted) →
    p.words omitted = p.words ∅
  | .element slot => fun h => by
    have hn : slot.target ∉ omitted := h slot (by simp [slots])
    rw [words, words]
    ext w
    simp [Slot.words, hn]
  | .group compositor ps mixed => fun h => by
    have hps := wordsOf_eq_of_disjoint ps (by simpa [slots] using h)
    cases compositor <;> simp only [words, hps]

theorem wordsOf_eq_of_disjoint : (ps : List Particle) →
    (∀ s ∈ slotsOf ps, s.target ∉ omitted) → wordsOf omitted ps = wordsOf ∅ ps
  | [] => fun _ => by simp [wordsOf]
  | p :: ps => fun h => by
    simp only [slotsOf, List.mem_append] at h
    rw [wordsOf, wordsOf, words_eq_of_disjoint p fun s hs => h s (.inl hs),
      wordsOf_eq_of_disjoint ps fun s hs => h s (.inr hs)]

end

end Particle

theorem Content.words_eq_of_disjoint {omitted : Set StructureId} {c : Content}
    (h : ∀ s ∈ c.slots, s.target ∉ omitted) : c.words omitted = c.words ∅ := by
  cases c with
  | children g =>
    refine Particle.words_eq_of_disjoint g.particle fun s hs => h s ?_
    rwa [Group.slots_particle] at hs
  | _ => rfl

end DocSchema
