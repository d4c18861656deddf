import DocSchema.Proofs.Collapse
import DocSchema.Proofs.Populated

/-!
# Members of compiled structures

Where order has no meaning a member is listed once, and an attribute occurs at most once. Both are
settled on names, one declaration at a time. Linking passes members on one by one: different names
lead to different structures, and a group below another one is never mixed.
-/
namespace DocSchema

def Particle.slot? : Particle → Option Slot
  | .element slot => some slot
  | .group .. => none

mutual

/-- Every group in a particle, at any depth; the particle itself if it is a group. -/
def Particle.groups : Particle → List Group
  | .element _ => []
  | .group compositor particles mixed =>
    ⟨compositor, particles, mixed⟩ :: Particle.groupsOf particles

def Particle.groupsOf : List Particle → List Group
  | [] => []
  | p :: ps => p.groups ++ Particle.groupsOf ps

end

namespace Group

/-- The slots of the elements that stand directly in a group. -/
def directSlots (g : Group) : List Slot := g.particles.filterMap Particle.slot?

/-- The groups below a group, at any depth. -/
def inner (g : Group) : List Group := Particle.groupsOf g.particles

end Group

def Declaration.listsInBraces (d : Declaration) (property : PropertyName) : Bool :=
  match d.value? property.text with
  | some (.list compositor _ _) => compositor != .sequence
  | _ => false

theorem Particle.groupsOf_append (ps qs : List Particle) :
    Particle.groupsOf (ps ++ qs) = Particle.groupsOf ps ++ Particle.groupsOf qs := by
  induction ps with
  | nil => simp [Particle.groupsOf]
  | cons p ps ih => simp [Particle.groupsOf, ih]

theorem Particle.groupsOf_elements (slots : List Slot) :
    Particle.groupsOf (slots.map .element) = [] := by
  induction slots with
  | nil => rfl
  | cons s slots ih => simp [Particle.groupsOf, Particle.groups, ih]

mutual

theorem Particle.Populated.groups : (p : Particle) → p.Populated →
    ∀ g ∈ p.groups, g.particles ≠ []
  | .element slot => fun _ g hg => by simp [Particle.groups] at hg
  | .group compositor particles mixed => fun hp g hg => by
    rw [Particle.groups] at hg
    rcases List.mem_cons.mp hg with rfl | hg
    · exact hp.1
    · exact Particle.PopulatedOf.groupsOf particles hp.2 g hg

theorem Particle.PopulatedOf.groupsOf : (ps : List Particle) → Particle.PopulatedOf ps →
    ∀ g ∈ Particle.groupsOf ps, g.particles ≠ []
  | [] => fun _ g hg => by simp [Particle.groupsOf] at hg
  | p :: ps => fun hp g hg => by
    rw [Particle.groupsOf] at hg
    rcases List.mem_append.mp hg with hg | hg
    · exact Particle.Populated.groups p hp.1 g hg
    · exact Particle.PopulatedOf.groupsOf ps hp.2 g hg

end

theorem Cardinality.max_eq_of_not_isRepeatable {c : Cardinality} (h : c.isRepeatable = false) :
    c.max = some 0 ∨ c.max = some 1 := by
  obtain ⟨min, _ | max, hv⟩ := c
  · simp [isRepeatable] at h
  · have hmax : max ≤ 1 := by simpa [isRepeatable] using h
    obtain rfl | rfl : max = 0 ∨ max = 1 := by omega
    · exact .inl rfl
    · exact .inr rfl

namespace Occurrence

def Distinct (os : List Occurrence) : Prop := (os.map (·.name.value)).Nodup

theorem collapse_distinct (os : List Occurrence) : Distinct (collapse os).value :=
  collapse_names_nodup os

end Occurrence

namespace Definition

open Occurrence (Distinct)

mutual

def Member.groups : Member → List (Compositor × List Member)
  | .element _ => []
  | .group compositor members => (compositor, members) :: Member.groupsOf members

def Member.groupsOf : List Member → List (Compositor × List Member)
  | [] => []
  | m :: ms => m.groups ++ Member.groupsOf ms

end

def Content.groups : Content → List (Compositor × List Member)
  | .group compositor members _ => (compositor, members) :: Member.groupsOf members
  | _ => []

/-- A group that lists an element once where order has no meaning. -/
def ListsOnce (g : Compositor × List Member) : Prop :=
  g.1 = .unordered → Distinct (g.2.filterMap Member.occurrence?)

theorem Member.mem_groupsOf {ms : List Member} {g : Compositor × List Member} :
    g ∈ Member.groupsOf ms ↔ ∃ m ∈ ms, g ∈ m.groups := by
  induction ms with
  | nil => simp [Member.groupsOf]
  | cons m ms ih => simp [Member.groupsOf, ih]

theorem arrange_listsOnce (owner : String) (compositor : Compositor) (ms : List Member) :
    ListsOnce (compositor, (arrange owner compositor ms).value) := by
  rintro rfl
  have hgroups : (ms.filter Member.isGroup).filterMap Member.occurrence? = [] := by
    apply List.filterMap_eq_nil_iff.mpr
    intro m hm
    cases m with
    | element o => simp [Member.isGroup] at hm
    | group compositor members => rfl
  have helements (os : List Occurrence) :
      (os.map Member.element).filterMap Member.occurrence? = os := by
    simp [List.filterMap_map, Function.comp_def, Member.occurrence?]
  simp only [arrange, Checked.value_bind, Checked.value_pure, List.filterMap_append, hgroups,
    helements, List.append_nil]
  exact Occurrence.collapse_distinct _

theorem groupsOf_arrange {owner : String} {compositor : Compositor} {ms : List Member}
    {g : Compositor × List Member} (h : g ∈ Member.groupsOf (arrange owner compositor ms).value) :
    g ∈ Member.groupsOf ms := by
  cases compositor with
  | unordered =>
    rw [Member.mem_groupsOf] at h ⊢
    obtain ⟨m, hm, hg⟩ := h
    simp only [arrange, Checked.value_bind, Checked.value_pure, List.mem_append, List.mem_map,
      List.mem_filter] at hm
    rcases hm with ⟨o, -, rfl⟩ | ⟨hm, -⟩
    · simp [Member.groups] at hg
    · exact ⟨m, hm, hg⟩
  | _ => exact h

mutual

theorem entryMembers_listsOnce (owner : String) : (e : Entry) →
    ∀ g ∈ Member.groupsOf (entryMembers owner e).value.1, ListsOnce g
  | .item i => by
    simp only [entryMembers, Checked.value_bind, Checked.value_pure]
    cases (occurrence i).value <;> simp [Member.groupsOf, Member.groups]
  | .list compositor entries span => by
    intro g hg
    simp only [entryMembers, Checked.value_bind, Checked.value_pure] at hg
    split_ifs at hg with he
    · simp [Member.groupsOf] at hg
    · simp only [Member.groupsOf, Member.groups, List.append_nil, List.mem_cons] at hg
      rcases hg with rfl | hg
      · exact arrange_listsOnce owner compositor _
      · exact entriesMembers_listsOnce owner entries g (groupsOf_arrange hg)
  | .anyText span => by simp [entryMembers, Member.groupsOf]
  | .string s => by simp [entryMembers, Member.groupsOf]
  | .integer n => by simp [entryMembers, Member.groupsOf]

theorem entriesMembers_listsOnce (owner : String) : (es : List Entry) →
    ∀ g ∈ Member.groupsOf (entriesMembers owner es).value.1, ListsOnce g
  | [] => by simp [entriesMembers, Member.groupsOf]
  | e :: es => by
    have hf := entryMembers_listsOnce owner e
    have hr := entriesMembers_listsOnce owner es
    simp only [Member.mem_groupsOf, entriesMembers, Checked.value_bind, Checked.value_pure,
      List.mem_append] at hf hr ⊢
    rintro g ⟨m, hm | hm, hg⟩
    · exact hf g ⟨m, hm, hg⟩
    · exact hr g ⟨m, hm, hg⟩

end

theorem contentOf_listsOnce (d : Declaration) : ∀ g ∈ (contentOf d).value.groups, ListsOnce g := by
  unfold contentOf
  split
  · simp [Content.groups]
  · simp [Content.groups]
  · next i _ =>
    simp only [Checked.value_bind]
    cases (occurrence i).value <;> simp [Content.groups]
  · next compositor entries _ _ =>
    simp only [Checked.value_bind, Checked.value_pure, Content.ofMembers]
    split_ifs with he
    · simp [Content.groups]
    · simp [Content.groups]
    · intro g hg
      rcases List.mem_cons.mp hg with rfl | hg
      · exact arrange_listsOnce d.name.value compositor _
      · exact entriesMembers_listsOnce d.name.value entries g (groupsOf_arrange hg)
  · simp [Content.groups]

/-- A repeatable attribute is an error, so those that are left occur at most once. -/
theorem attributesOf_once {d : Declaration}
    (h : ∀ p ∈ (attributesOf d).problems, p.diagnostic.isError = false) :
    ∀ o ∈ (attributesOf d).value, o.cardinality.isRepeatable = false := by
  intro o ho
  have hlisted : o ∈ (references d .attributes).value.2 := Occurrence.mem_of_mem_collapse ho
  by_contra hrepeats
  have hproblem : .repeatableAttribute d.name.value o ∈ (attributesOf d).problems := by
    simp only [attributesOf, Checked.problems_bind, Checked.problems_note, List.mem_append]
    refine .inr (.inl (List.mem_map_of_mem (List.mem_filter.mpr ⟨hlisted, ?_⟩)))
    simpa using hrepeats
  exact absurd (h _ hproblem) (by simp [Problem.diagnostic, Diagnostic.isError, Diagnostic.error])

theorem kind_bodyOf (d : Declaration) : (bodyOf d).value.kind = d.kind.value := by
  unfold bodyOf
  cases d.kind.value with
  | object =>
    simp only [objectBody, Checked.value_bind]
    cases (references d .properties).value.1 <;> rfl
  | _ => rfl

theorem order_references (d : Declaration) (property : PropertyName)
    (h : property ∈ d.kind.value.propertyNames) :
    (references d property).value.1 = .unordered ↔ d.listsInBraces property = true := by
  have hgiven : given d property = d.value? property.text := if_pos h
  unfold references Declaration.listsInBraces
  rw [hgiven]
  cases d.value? property.text with
  | none => simp
  | some value =>
    cases value with
    | list compositor entries span => cases compositor <;> simp
    | _ => simp

theorem objectBody_eq {d : Declaration} (hk : d.kind.value = .object) {root : Bool}
    {os : List Occurrence} {order : MemberOrder}
    (h : (objectBody d).value = .object root os order) :
    (order = .unordered ↔ d.listsInBraces .properties = true) ∧
      (order = .unordered → Distinct os) := by
  have horder := order_references d .properties (by simp [hk, Kind.propertyNames])
  simp only [objectBody, Checked.value_bind] at h
  cases hr : (references d .properties).value.1 with
  | ordered =>
    rw [hr] at h horder
    simp only [Checked.value_pure, Body.object.injEq] at h
    obtain ⟨-, -, rfl⟩ := h
    refine ⟨horder, fun he => ?_⟩
    cases he
  | unordered =>
    rw [hr] at h horder
    simp only [Checked.value_bind, Checked.value_pure, Body.object.injEq] at h
    obtain ⟨-, rfl, rfl⟩ := h
    exact ⟨horder, fun _ => Occurrence.collapse_distinct _⟩

end Definition

namespace Link

open Occurrence (Distinct)

variable {definitions : List Definition} {owner : String} {usage : Usage}

theorem slot_target_name {o : Occurrence} {s : Slot}
    (h : (slot definitions owner usage o).value = some s) :
    ∃ d, definitions[s.target]? = some d ∧ d.name.value = o.name.value := by
  obtain ⟨d, hf, -⟩ := lookup_eq_declared.mp (slot_eq_some h).1
  exact ⟨d, find?_eq_some hf⟩

def linked (definitions : List Definition) (owner : String) (usage : Usage)
    (os : List Occurrence) : List Slot :=
  os.filterMap fun o => (slot definitions owner usage o).value

theorem linked_targets_nodup {os : List Occurrence} (h : Distinct os) :
    ((linked definitions owner usage os).map (·.target)).Nodup := by
  unfold Distinct List.Nodup at h
  rw [List.pairwise_map] at h
  rw [List.Nodup, List.pairwise_map]
  refine h.filterMap _ ?_
  intro o o' hne s hs s' hs' he
  -- a common target would be the definition of both names
  obtain ⟨d, hd, hname⟩ := slot_target_name hs
  obtain ⟨d', hd', hname'⟩ := slot_target_name hs'
  rw [he, hd'] at hd
  cases hd
  exact hne (hname.symm.trans hname')

theorem value_slots (os : List Occurrence) :
    (slots definitions owner usage os).value = linked definitions owner usage os := by
  induction os with
  | nil => rfl
  | cons o os ih =>
    simp only [slots, Checked.value_bind, Checked.value_pure, ih, linked, List.filterMap_cons]
    cases (slot definitions owner usage o).value <;> rfl

theorem directSlots_particles (ms : List Definition.Member) :
    (particles definitions owner ms).value.filterMap Particle.slot? =
      linked definitions owner .child (ms.filterMap Definition.Member.occurrence?) := by
  induction ms with
  | nil => simp [particles, linked]
  | cons m ms ih =>
    simp only [particles, Checked.value_bind, Checked.value_pure, List.filterMap_append, ih]
    cases m with
    | group compositor members =>
      simp [particle, List.filterMap_cons, Particle.slot?, Definition.Member.occurrence?]
    | element o =>
      simp only [particle, Checked.value_bind, Checked.value_pure, linked, List.filterMap_cons,
        Definition.Member.occurrence?]
      cases (slot definitions owner .child o).value <;> simp [Particle.slot?]

def LinkedFrom (definitions : List Definition) (owner : String)
    (groups : List (Compositor × List Definition.Member)) (g : Group) : Prop :=
  g.mixed = false ∧ ∃ members, (g.compositor, members) ∈ groups ∧
    g.particles = (particles definitions owner members).value

theorem LinkedFrom.mono {groups groups' : List (Compositor × List Definition.Member)} {g : Group}
    (h : LinkedFrom definitions owner groups g) (hs : groups ⊆ groups') :
    LinkedFrom definitions owner groups' g := by
  obtain ⟨hmixed, members, hm, hps⟩ := h
  exact ⟨hmixed, members, hs hm, hps⟩

mutual

theorem groupsOf_particle : (m : Definition.Member) →
    ∀ g ∈ Particle.groupsOf (particle definitions owner m).value,
      LinkedFrom definitions owner m.groups g
  | .element o => by
    simp only [particle, Checked.value_bind, Checked.value_pure]
    cases (slot definitions owner .child o).value <;> simp [Particle.groupsOf, Particle.groups]
  | .group compositor members => by
    intro g hg
    simp only [particle, Checked.value_bind, Checked.value_pure, Particle.groupsOf,
      Particle.groups, List.append_nil, List.mem_cons] at hg
    rw [Definition.Member.groups]
    rcases hg with rfl | hg
    · exact ⟨rfl, members, by simp, rfl⟩
    · exact (groupsOf_particles members g hg).mono (List.subset_cons_self _ _)

theorem groupsOf_particles : (ms : List Definition.Member) →
    ∀ g ∈ Particle.groupsOf (particles definitions owner ms).value,
      LinkedFrom definitions owner (Definition.Member.groupsOf ms) g
  | [] => by simp [particles, Particle.groupsOf]
  | m :: ms => by
    intro g hg
    simp only [particles, Checked.value_bind, Checked.value_pure, Particle.groupsOf_append,
      List.mem_append] at hg
    rw [Definition.Member.groupsOf]
    rcases hg with hg | hg
    · exact (groupsOf_particle m g hg).mono (List.subset_append_left _ _)
    · exact (groupsOf_particles ms g hg).mono (List.subset_append_right _ _)

end

theorem LinkedFrom.targets_nodup {groups : List (Compositor × List Definition.Member)} {g : Group}
    (h : LinkedFrom definitions owner groups g) (hl : ∀ m ∈ groups, Definition.ListsOnce m)
    (hu : g.compositor = .unordered) : (g.directSlots.map (·.target)).Nodup := by
  obtain ⟨-, members, hm, hps⟩ := h
  rw [Group.directSlots, hps, directSlots_particles]
  exact linked_targets_nodup (hl _ hm hu)

/-- The groups of a linked content: in each of them that has no order a child has one slot, and only
the outermost may be mixed. -/
theorem content_groups {c : Definition.Content} (hl : ∀ g ∈ c.groups, Definition.ListsOnce g)
    {outer : Group} (h : (content definitions owner c).value = .children outer) :
    (∀ g ∈ outer :: outer.inner, g.compositor = .unordered →
        (g.directSlots.map (·.target)).Nodup) ∧
      ∀ g ∈ outer.inner, g.mixed = false := by
  cases c with
  | empty => simp [content] at h
  | text => simp [content] at h
  | group compositor members mixed =>
    obtain rfl : ⟨compositor, (particles definitions owner members).value, mixed⟩ = outer := by
      simpa [content] using h
    have hinner : ∀ g ∈ Particle.groupsOf (particles definitions owner members).value,
        LinkedFrom definitions owner (Definition.Member.groupsOf members) g :=
      groupsOf_particles members
    constructor
    · intro g hg hu
      rcases List.mem_cons.mp hg with rfl | hg
      · rw [Group.directSlots, directSlots_particles]
        exact linked_targets_nodup
          (hl (compositor, members) (by simp [Definition.Content.groups]) hu)
      · exact (hinner g hg).targets_nodup
          (fun m hm => hl m (by simp [Definition.Content.groups, hm])) hu
    · exact fun g hg => (hinner g hg).1
  | single target quantifier =>
    -- a lone child is a sequence of its own
    have hsingle : ∃ slots : List Slot, outer = ⟨.sequence, slots.map Particle.element, false⟩ := by
      simp only [content, Checked.value_bind] at h
      cases hl : (lookup definitions owner .content target.name).value with
      | none => simp [hl] at h
      | some t =>
        simp only [hl] at h
        split at h
        · obtain rfl := Content.children.inj h
          exact ⟨t.target?.toList.map fun id => ⟨id, target.cardinality⟩, by simp⟩
        · simp at h
    obtain ⟨slots, rfl⟩ := hsingle
    simp [Group.inner, Particle.groupsOf_elements]

theorem body_attributes {d : Declaration}
    (h : ∀ p ∈ (Definition.bodyOf d).problems, p.diagnostic.isError = false) {root : Bool}
    {attributes : List Slot} {inner : Content}
    (hb : (body definitions owner (Definition.bodyOf d).value).value =
      .element root attributes inner) :
    (∀ a ∈ attributes, a.cardinality.max = some 0 ∨ a.cardinality.max = some 1) ∧
      (attributes.map (·.target)).Nodup := by
  have hk : d.kind.value = .element := by
    rw [← Definition.kind_bodyOf, ← body_kind, hb, Body.kind]
  simp only [Definition.bodyOf, hk, Checked.problems_bind, List.mem_append] at h
  have hb : (slots definitions owner .attributes (Definition.attributesOf d).value).value =
      attributes := by
    simp only [Definition.bodyOf, hk, Checked.value_bind, Checked.value_pure, body,
      Body.element.injEq] at hb
    exact hb.2.1
  have honce := Definition.attributesOf_once fun p hp => h p (.inl hp)
  rw [value_slots] at hb
  subst hb
  constructor
  · intro a ha
    obtain ⟨o, ho, hs⟩ := List.mem_filterMap.mp ha
    rw [(slot_eq_some hs).2]
    exact Cardinality.max_eq_of_not_isRepeatable (honce o ho)
  · exact linked_targets_nodup (Occurrence.collapse_distinct _)

theorem body_groups {d : Declaration} {root : Bool} {attributes : List Slot} {outer : Group}
    (hb : (body definitions owner (Definition.bodyOf d).value).value =
      .element root attributes (.children outer)) :
    (∀ g ∈ outer :: outer.inner, g.compositor = .unordered →
        (g.directSlots.map (·.target)).Nodup) ∧
      ∀ g ∈ outer.inner, g.mixed = false := by
  have hk : d.kind.value = .element := by
    rw [← Definition.kind_bodyOf, ← body_kind, hb, Body.kind]
  simp only [Definition.bodyOf, hk, Checked.value_bind, Checked.value_pure, body,
    Body.element.injEq] at hb
  exact content_groups (Definition.contentOf_listsOnce d) hb.2.2

theorem body_properties {d : Declaration} {root : Bool} {properties : List Slot}
    {order : MemberOrder}
    (hb : (body definitions owner (Definition.bodyOf d).value).value =
      .object root properties order) :
    (order = .unordered ↔ d.listsInBraces .properties = true) ∧
      (order = .unordered → (properties.map (·.target)).Nodup) := by
  have hk : d.kind.value = .object := by
    rw [← Definition.kind_bodyOf, ← body_kind, hb, Body.kind]
  simp only [Definition.bodyOf, hk] at hb
  cases hd : (Definition.objectBody d).value with
  | object root' os order' =>
    obtain ⟨horder, hdistinct⟩ := Definition.objectBody_eq hk hd
    simp only [hd, body, Checked.value_bind, Checked.value_pure, value_slots,
      Body.object.injEq] at hb
    obtain ⟨-, rfl, rfl⟩ := hb
    exact ⟨horder, fun hu => linked_targets_nodup (hdistinct hu)⟩
  | _ => simp [hd, body] at hb

end Link

theorem compile_declared {source : String} {c : Compiled} (h : compile source = .ok c) :
    ∃ lexed declarations definitions, tokenize source = .ok lexed ∧
      parseDeclarations lexed.tokens = .ok declarations ∧
      (∀ d ∈ declarations, ∀ p ∈ (Definition.bodyOf d).problems, p.diagnostic.isError = false) ∧
      c.graph.structures = declarations.map fun d =>
        (Link.structureOf definitions (Definition.ofDeclaration lexed.comments d).value).value := by
  obtain ⟨lexed, declarations, ht, hp, hc⟩ := compile_ok h
  obtain ⟨hd, -, hg, -⟩ := compileDeclarations_ok hc
  let definitions := (Definition.ofDeclarations lexed.comments declarations).value
  refine ⟨lexed, declarations, definitions, ht, hp, ?_, ?_⟩
  · intro d hm p hproblem
    have hin : p ∈ (Definition.ofDeclarations lexed.comments declarations).problems := by
      rw [Definition.problems_ofDeclarations, List.mem_flatMap]
      refine ⟨d, hm, ?_⟩
      simp only [Definition.ofDeclaration, Checked.problems_bind, List.mem_append]
      exact .inr (.inl hproblem)
    simpa using List.any_eq_false.mp hd p hin
  · have hmap : definitions = declarations.map fun d =>
        (Definition.ofDeclaration lexed.comments d).value :=
      Definition.value_ofDeclarations lexed.comments declarations
    have hstructures : c.graph.structures =
        definitions.map fun d => (Link.structureOf definitions d).value := by
      rw [← Link.names_value, hg, Link.value_graph]
      rfl
    rw [hstructures]
    nth_rewrite 2 [hmap]
    rw [List.map_map]
    rfl

/-- Every range in a body, at any depth of its groups. -/
def Body.cardinalities : Body → List Cardinality
  | .element _ attributes content => (attributes ++ content.slots).map (·.cardinality)
  | .object _ properties _ => properties.map (·.cardinality)
  | .array _ items => [items]
  | .attribute .. | .dataType .. | .property .. => []

/-- In a compiled graph every range holds a count; an attribute occurs at most once, and no element
has one attribute twice; no group is empty, an element stands once among the members of a group
without order, and only outermost groups are mixed; and the properties of an object have no order
exactly if they are listed in braces, and are then different. -/
theorem compile_members_regular {source : String} {c : Compiled} (h : compile source = .ok c) :
    (∀ s ∈ c.graph.structures, ∀ k ∈ s.body.cardinalities, ∀ max ∈ k.max, k.min ≤ max) ∧
      (∀ s ∈ c.graph.structures, ∀ root attributes content,
        s.body = .element root attributes content →
          (∀ a ∈ attributes, a.cardinality.max = some 0 ∨ a.cardinality.max = some 1) ∧
            (attributes.map (·.target)).Nodup) ∧
      (∀ s ∈ c.graph.structures, ∀ root attributes outer,
        s.body = .element root attributes (.children outer) →
          (∀ g ∈ outer :: outer.inner, g.particles ≠ [] ∧
            (g.compositor = .unordered → (g.directSlots.map (·.target)).Nodup)) ∧
          ∀ g ∈ outer.inner, g.mixed = false) ∧
      ∃ lexed declarations, tokenize source = .ok lexed ∧
        parseDeclarations lexed.tokens = .ok declarations ∧
        List.Forall₂ (fun d s => ∀ root properties order,
          s.body = .object root properties order →
            (order = .unordered ↔ d.listsInBraces .properties = true) ∧
              (order = .unordered → (properties.map (·.target)).Nodup))
          declarations c.graph.structures := by
  obtain ⟨lexed, declarations, definitions, ht, hp, herrors, hs⟩ := compile_declared h
  refine ⟨fun _ _ k _ => k.valid, ?_, ?_, lexed, declarations, ht, hp, ?_⟩
  · intro s hm root attributes content hb
    rw [hs] at hm
    obtain ⟨d, hd, rfl⟩ := List.mem_map.mp hm
    exact Link.body_attributes (herrors d hd) hb
  · intro s hm root attributes outer hb
    obtain ⟨hfilled, hbelow⟩ := compile_populated h hm hb
    rw [hs] at hm
    obtain ⟨d, -, rfl⟩ := List.mem_map.mp hm
    obtain ⟨hdistinct, hmixed⟩ := Link.body_groups hb
    refine ⟨fun g hg => ⟨?_, hdistinct g hg⟩, hmixed⟩
    rcases List.mem_cons.mp hg with rfl | hg
    · exact hfilled
    · exact Particle.PopulatedOf.groupsOf _ hbelow g hg
  · rw [hs, List.forall₂_map_right_iff, List.forall₂_same]
    intro d _ root properties order hb
    exact Link.body_properties hb

/-- A schema with mixed content, nested groups and an object whose properties have no order. -/
def orderlessSource : String :=
  "root element a \x7battributes: [x (optional), y];
    allowedContent: \x7bb, [*any text*, a, \x7bb, a\x7d]\x7d;\x7d
  element b \x7b\x7d attribute x \x7b\x7d attribute y \x7b\x7d
  root object o \x7bproperties: \x7bp, q (n >= 2)\x7d;\x7d property p \x7b\x7d property q \x7b\x7d"

set_option maxRecDepth 2000 in
theorem compile_members_regular_orderless :
    ∃ c, compile orderlessSource = .ok c ∧ c.graph.size = 7 ∧
      (∀ s ∈ c.graph.structures, ∀ root attributes content,
        s.body = .element root attributes content →
          (∀ a ∈ attributes, a.cardinality.max = some 0 ∨ a.cardinality.max = some 1) ∧
            (attributes.map (·.target)).Nodup) ∧
      (∀ s ∈ c.graph.structures, ∀ root attributes outer,
        s.body = .element root attributes (.children outer) →
          (∀ g ∈ outer :: outer.inner, g.particles ≠ [] ∧
            (g.compositor = .unordered → (g.directSlots.map (·.target)).Nodup)) ∧
          ∀ g ∈ outer.inner, g.mixed = false) := by
  obtain ⟨c, hc, hn⟩ := exists_compiled (String.toList_ofList : orderlessSource.toList = _)
    (fun c => c.graph.size == 7) (by decide +kernel)
  obtain ⟨-, hattributes, hgroups, -⟩ := compile_members_regular hc
  exact ⟨c, hc, by simpa using hn, hattributes, hgroups⟩

end DocSchema
