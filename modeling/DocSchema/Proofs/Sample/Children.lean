import DocSchema.Proofs.Sample.Run

/-!
# Children in sample documents

The children of every instance in a sample document form a word of the content model of its
structure, except that slots of open structures stay empty. A content model without recursion is met
exactly. A choice is met exactly too when the option that is shown mentions no open structure; but
options that are groups are shown without a look at what they mention.
-/
namespace DocSchema

theorem Particle.populated_of_mem {p : Particle} {ps : List Particle} (hp : p ∈ ps)
    (h : Particle.PopulatedOf ps) : p.Populated := by
  induction ps with
  | nil => simp at hp
  | cons q ps ih =>
    rcases List.mem_cons.mp hp with rfl | hp
    · exact h.1
    · exact ih hp h.2

theorem Particle.mem_words_one {t : StructureId} {w : List StructureId} :
    w ∈ (element ⟨t, .one⟩).words ∅ ↔ w = [t] := by
  rw [words]
  constructor
  · rintro (⟨n, hn, rfl⟩ | ⟨-, hm⟩)
    · obtain rfl := Cardinality.admits_one.mp hn
      rfl
    · exact absurd hm (Set.notMem_empty _)
  · rintro rfl
    exact .inl ⟨1, rfl, rfl⟩

structure Graph.WellFormed (g : Graph) : Prop where
  wellLinked : g.WellLinked
  populated : ∀ id < g.size, (g.get id).content.Populated

theorem compile_wellFormed {source : String} {c : Compiled} (h : compile source = .ok c) :
    c.graph.WellFormed := by
  refine ⟨compile_wellLinked h, fun id hid => ?_⟩
  unfold Structure.content
  cases hb : (c.graph.get id).body with
  | element root slots content => exact compile_populated h (Graph.get_mem hid) hb
  | _ => trivial

namespace Sample

open Artifact (Failure)

theorem count_admits (c : Cardinality) : c.admits (count c) = true := by
  rw [Cardinality.admits_iff]
  refine ⟨Nat.le_max_right _ _, fun m hm => ?_⟩
  have hcap : Nat.min m repeats ≤ m := Nat.min_le_left _ _
  rw [count, hm]
  exact Nat.max_le.mpr ⟨hcap, c.valid m hm⟩

section Particles

variable {isOpen : StructureId → Bool} {child : Slot → Except Failure (List Instance)}

def ChildWords (isOpen : StructureId → Bool) (child : Slot → Except Failure (List Instance))
    (s : Slot) : Prop :=
  isOpen s.target = false → ∀ shown, child s = .ok shown →
    shown.map (·.id) ∈ s.words {id | isOpen id = true}

mutual

theorem particle_words : (p : Particle) → p.Populated →
    (∀ s ∈ p.slots, ChildWords isOpen child s) → ∀ shown, particle isOpen child p = .ok shown →
      shown.map (·.id) ∈ p.words {id | isOpen id = true}
  | .element slot => fun _ hc shown h => by
    rw [particle] at h
    rw [Particle.words]
    split_ifs at h with ho
    · cases h
      exact .inr ⟨rfl, ho⟩
    · exact hc slot (by simp [Particle.slots]) (by simpa using ho) shown h
  | .group .choice ps mixed => fun hp hc shown h => by
    rw [particle] at h
    rw [Particle.mem_words_choice]
    exact option_words ps hp.1 hp.2 (by simpa [Particle.slots] using hc) shown h
  | .group .sequence ps mixed => fun hp hc shown h => by
    rw [particle] at h
    · apply Particle.prod_wordsOf_le (by simp)
      exact particles_words ps hp.2 (by simpa [Particle.slots] using hc) shown h
    · simp
  | .group .unordered ps mixed => fun hp hc shown h => by
    rw [particle] at h
    · apply Particle.prod_wordsOf_le (by simp)
      exact particles_words ps hp.2 (by simpa [Particle.slots] using hc) shown h
    · simp

theorem particles_words : (ps : List Particle) → Particle.PopulatedOf ps →
    (∀ s ∈ Particle.slotsOf ps, ChildWords isOpen child s) →
    ∀ shown, particles isOpen child ps = .ok shown →
      shown.map (·.id) ∈ (Particle.wordsOf {id | isOpen id = true} ps).prod
  | [] => fun _ _ shown h => by
    rw [particles] at h
    cases h
    simp [Particle.wordsOf]
  | p :: ps => fun hp hc shown h => by
    simp only [Particle.slotsOf, List.mem_append] at hc
    rw [particles] at h
    obtain ⟨first, hf, h⟩ := bind_eq_ok.mp h
    obtain ⟨rest, hr, h⟩ := bind_eq_ok.mp h
    cases h
    have hfirst := particle_words p hp.1 (fun s hs => hc s (.inl hs)) first hf
    have hrest := particles_words ps hp.2 (fun s hs => hc s (.inr hs)) rest hr
    rw [Particle.wordsOf, List.prod_cons, Language.mem_mul]
    exact ⟨_, hfirst, _, hrest, by simp⟩

theorem option_words : (ps : List Particle) → ps ≠ [] → Particle.PopulatedOf ps →
    (∀ s ∈ Particle.slotsOf ps, ChildWords isOpen child s) →
    ∀ shown, option isOpen child ps = .ok shown →
      ∃ p ∈ ps, shown.map (·.id) ∈ p.words {id | isOpen id = true}
  | [] => fun hne => absurd rfl hne
  | p :: ps => fun _ hp hc shown h => by
    simp only [Particle.slotsOf, List.mem_append] at hc
    rw [option] at h
    split_ifs at h with ho
    · by_cases hne : ps = []
      · -- every option is open: nothing is shown, as the last one allows
        subst hne
        rw [option] at h
        cases h
        refine ⟨p, by simp, ?_⟩
        cases p with
        | element slot =>
          rw [Particle.words]
          exact .inr ⟨rfl, ho⟩
        | group => simp [isOpenElement] at ho
      · obtain ⟨q, hq, hw⟩ := option_words ps hne hp.2 (fun s hs => hc s (.inr hs)) shown h
        exact ⟨q, by simp [hq], hw⟩
    · exact ⟨p, by simp, particle_words p hp.1 (fun s hs => hc s (.inl hs)) shown h⟩

end

/-- A particle is met when another one is shown: itself, members of groups, and of choices what the
option that is shown holds. -/
inductive Met (isOpen : StructureId → Bool) : Particle → Particle → Prop
  | self {p : Particle} : Met isOpen p p
  | member {compositor : Compositor} {ps : List Particle} {mixed : Bool} {p q : Particle} :
      compositor ≠ .choice → p ∈ ps → Met isOpen p q → Met isOpen (.group compositor ps mixed) q
  | option {ps : List Particle} {mixed : Bool} {p q : Particle} :
      picked isOpen ps = some p → Met isOpen p q → Met isOpen (.group .choice ps mixed) q

theorem particles_segment {p : Particle} {ps : List Particle} (hp : p ∈ ps) {shown : List Instance}
    (h : particles isOpen child ps = .ok shown) :
    ∃ before part after, shown = before ++ part ++ after ∧ particle isOpen child p = .ok part := by
  induction ps generalizing shown with
  | nil => simp at hp
  | cons q ps ih =>
    rw [particles] at h
    obtain ⟨first, hf, h⟩ := bind_eq_ok.mp h
    obtain ⟨rest, hr, h⟩ := bind_eq_ok.mp h
    cases h
    rcases List.mem_cons.mp hp with rfl | hp
    · exact ⟨[], first, rest, by simp, hf⟩
    · obtain ⟨before, part, after, rfl, hpart⟩ := ih hp hr
      exact ⟨first ++ before, part, after, by simp, hpart⟩

theorem Met.segment {p q : Particle} (hm : Met isOpen p q) {shown : List Instance}
    (h : particle isOpen child p = .ok shown) :
    ∃ before part after, shown = before ++ part ++ after ∧ particle isOpen child q = .ok part := by
  induction hm generalizing shown with
  | self => exact ⟨[], shown, [], by simp, h⟩
  | @member compositor ps mixed p q hc hp _ ih =>
    have hps : particles isOpen child ps = .ok shown := by
      cases compositor <;> simp_all [particle]
    obtain ⟨before, part, after, rfl, hpart⟩ := particles_segment hp hps
    obtain ⟨before', part', after', rfl, hpart'⟩ := ih hpart
    exact ⟨before ++ before', part', after' ++ after, by simp, hpart'⟩
  | option hpick _ ih =>
    rw [particle, option_eq_picked, hpick] at h
    exact ih h

theorem Met.inherits {p q : Particle} (hm : Met isOpen p q) (hp : p.Populated) :
    q.Populated ∧ q.slots ⊆ p.slots := by
  induction hm with
  | self => exact ⟨hp, fun _ h => h⟩
  | member _ hmem _ ih =>
    obtain ⟨hq, hs⟩ := ih (Particle.populated_of_mem hmem hp.2)
    rw [Particle.slots]
    exact ⟨hq, List.Subset.trans hs (Particle.slots_subset_slotsOf hmem)⟩
  | option hpick _ ih =>
    have hmem := List.mem_of_find?_eq_some hpick
    obtain ⟨hq, hs⟩ := ih (Particle.populated_of_mem hmem hp.2)
    rw [Particle.slots]
    exact ⟨hq, List.Subset.trans hs (Particle.slots_subset_slotsOf hmem)⟩

end Particles

variable {g : Graph} {opened : List StructureId} {i : Instance}

theorem setOf_contains (opened : List StructureId) :
    {id | opened.contains id = true} = {id | id ∈ opened} := by
  ext id
  simp

theorem Made.childWords (hg : g.WellFormed) (h : Made g opened i) {s : Slot}
    (hs : s ∈ (g.get i.id).content.slots) :
    ChildWords (i.id :: opened).contains (slotInstances g (i.id :: opened)) s := by
  intro hn shown hsh
  refine .inl ⟨count s.cardinality, count_admits s.cardinality, ?_⟩
  rcases h.of_slot hg.wellLinked hs (by simpa using hn) hsh with ⟨rfl, hz⟩ | ⟨c, hc, -, rfl⟩
  · simp [hz]
  · simp [hc]

theorem Made.shows_words (hg : g.WellFormed) (h : Made g opened i) {p : Particle}
    (hp : p.Populated) (hs : p.slots ⊆ (g.get i.id).content.slots) {shown : List Instance}
    (hsh : Shows g (i.id :: opened) p shown) :
    shown.map (·.id) ∈ p.words {id | id ∈ i.id :: opened} := by
  rw [← setOf_contains]
  exact particle_words p hp (fun s hm => h.childWords hg (hs hm)) shown hsh

theorem Made.shows_group (hg : g.WellFormed) (h : Made g opened i) {inner : Group}
    (hc : (g.get i.id).content = .children inner) :
    inner.particle.Populated ∧ inner.particle.slots = (g.get i.id).content.slots ∧
      Shows g (i.id :: opened) inner.particle i.children := by
  obtain ⟨root, slots, content, hb⟩ := exists_element_body h.isElement
  obtain ⟨-, hshows, -⟩ := h.filled hb
  have hp := hg.populated i.id h.bound
  refine ⟨?_, ?_, hshows inner (Structure.content_eq hb ▸ hc)⟩
  · simpa [hc, Content.Populated, Group.particle, Particle.Populated] using hp
  · rw [hc, Group.slots_particle]
    rfl

theorem Made.children_words (hg : g.WellFormed) (h : Made g opened i) :
    i.children.map (·.id) ∈ (g.get i.id).content.words {id | id ∈ i.id :: opened} := by
  cases hcontent : (g.get i.id).content with
  | children inner =>
    obtain ⟨hp, hs, hshows⟩ := h.shows_group hg hcontent
    exact h.shows_words hg hp (fun _ hm => hs ▸ hm) hshows
  | _ =>
    obtain ⟨root, slots, content, hb⟩ := exists_element_body h.isElement
    obtain ⟨-, -, hnone, -⟩ := h.filled hb
    rw [Structure.content_eq hb] at hcontent
    rw [hnone (by simp [hcontent])]
    exact Language.nil_mem_one

/-- One structure holds another one in an element slot. -/
def Holds (g : Graph) (a b : StructureId) : Prop :=
  ∃ s ∈ (g.get a).content.slots, s.target = b

/-- Structures above an instance lead down to it through element slots. -/
theorem Made.holds_above (hw : g.WellLinked) {root : Instance} (h : Made g [] root)
    (hi : root.Within opened i) : ∀ a ∈ opened, Relation.TransGen (Holds g) a i.id := by
  induction hi with
  | root => simp
  | @child above i c hi hc ih =>
    have hstep : Holds g i.id c.id := ((h.within hw hi).child hw hc).2
    intro a ha
    rcases List.mem_cons.mp ha with rfl | ha
    · exact .single hstep
    · exact (ih a ha).tail hstep

theorem Made.not_open (hw : g.WellLinked) (hr : ∀ a, ¬Relation.TransGen (Holds g) a a)
    {root : Instance} (h : Made g [] root) (hi : root.Within opened i) :
    ∀ s ∈ (g.get i.id).content.slots, s.target ∉ i.id :: opened := by
  intro s hs hm
  have hstep : Holds g i.id s.target := ⟨s, hs, rfl⟩
  rcases List.mem_cons.mp hm with he | ha
  · rw [he] at hstep
    exact hr i.id (.single hstep)
  · exact hr s.target ((h.holds_above hw hi s.target ha).tail hstep)

/-- Under every instance of a sample document the children form a word of the content model in which
slots of open structures may stay empty; where no element can hold itself, the content model is met
exactly. -/
theorem render_children_words {source : String} {c : Compiled} (hc : compile source = .ok c)
    {settings : Settings} {name : Option String} {text : String}
    (h : render settings c.graph name = .ok text) :
    ∃ root : Instance, Sample.root c.graph name = .ok root.id ∧
      instances c.graph name = .ok [root] ∧
      text = Xml.Document.render settings.indent ⟨none, root.node c.graph⟩ ∧
      (∀ above i, root.Within above i → i.children.map (·.id) ∈
        (c.graph.get i.id).content.words {id | id ∈ i.id :: above}) ∧
      ((∀ id, ¬Relation.TransGen (Holds c.graph) id id) → ∀ above i, root.Within above i →
        i.children.map (·.id) ∈ (c.graph.get i.id).content.words ∅) := by
  have hg := compile_wellFormed hc
  obtain ⟨root, hr, hs, hm, ht⟩ := render_eq_ok h
  have hwords (above : List StructureId) (i : Instance) (hi : root.Within above i) :=
    (hm.within hg.wellLinked hi).children_words hg
  refine ⟨root, hr, hs, ht, hwords, fun hacyclic above i hi => ?_⟩
  have hexact : (c.graph.get i.id).content.words {id | id ∈ i.id :: above} =
      (c.graph.get i.id).content.words ∅ :=
    Content.words_eq_of_disjoint (hm.not_open hg.wellLinked hacyclic hi)
  exact hexact ▸ hwords above i hi

def nestedGroupsSource : String :=
  "root element a \x7ballowedContent: [b (n <= 2), \x7bb / c\x7d, \x7bc, d (optional)\x7d];\x7d
  element b \x7b\x7d element c \x7b\x7d element d \x7ballowedContent: *any text*;\x7d"

def nestedGroupsGraph : Graph := ⟨none,
  [⟨"a", none, .none, .element true [] (.children ⟨.sequence,
      [.element ⟨1, ⟨0, some 2, by simp⟩⟩,
        .group .choice [.element ⟨1, .one⟩, .element ⟨2, .one⟩] false,
        .group .unordered [.element ⟨2, .one⟩, .element ⟨3, .optional⟩] false], false⟩)⟩,
    ⟨"b", none, .none, .element false [] .empty⟩, ⟨"c", none, .none, .element false [] .empty⟩,
    ⟨"d", none, .none, .element false [] .text⟩]⟩

theorem not_holds_itself {g : Graph}
    (h : ∀ id < g.size, ∀ s ∈ (g.get id).content.slots, id < s.target) (id : StructureId) :
    ¬Relation.TransGen (Holds g) id id := by
  have hstep (a b : StructureId) (hab : Holds g a b) : a < b := by
    obtain ⟨s, hs, rfl⟩ := hab
    by_cases ha : a < g.size
    · exact h a ha s hs
    · have hblank : g.get a = .blank := List.getD_eq_default _ _ (Nat.le_of_not_lt ha)
      rw [hblank] at hs
      simp [Structure.blank, Structure.content, Content.slots, Content.group?] at hs
  intro hcycle
  have hlt (b : StructureId) (hb : Relation.TransGen (Holds g) id b) : id < b := by
    induction hb with
    | single hab => exact hstep _ _ hab
    | tail _ hbc ih => exact ih.trans (hstep _ _ hbc)
  exact Nat.lt_irrefl id (hlt id hcycle)

set_option maxRecDepth 4000 in
theorem render_children_words_nestedGroups :
    compile nestedGroupsSource = .ok ⟨nestedGroupsGraph, []⟩ ∧
      (∃ text, render .default nestedGroupsGraph none = .ok text) ∧
      (∀ id, ¬Relation.TransGen (Holds nestedGroupsGraph) id id) ∧
      [1, 1, 1, 2, 3] ∈ (nestedGroupsGraph.get 0).content.words ∅ := by
  have hc : compile nestedGroupsSource = .ok ⟨nestedGroupsGraph, []⟩ :=
    compile_of_scan String.toList_ofList rfl
  have hr : ∃ text, render .default nestedGroupsGraph none = .ok text := ⟨_, rfl⟩
  have hacyclic := @not_holds_itself nestedGroupsGraph (by decide)
  refine ⟨hc, hr, hacyclic, ?_⟩
  obtain ⟨text, hr⟩ := hr
  obtain ⟨root, -, hroot, -, -, hexact⟩ := render_children_words hc hr
  cases hroot
  exact hexact hacyclic [] _ .root

/-- No structure that a particle mentions is open. -/
def Free (opened : List StructureId) (p : Particle) : Prop := ∀ s ∈ p.slots, s.target ∉ opened

theorem exists_picked {ps : List Particle} {p : Particle} (hp : p ∈ ps) (hf : Free opened p) :
    ∃ q ∈ ps, picked opened.contains ps = some q := by
  have hn : isOpenElement opened.contains p = false := by
    cases p with
    | element slot => simpa [isOpenElement] using hf slot (by simp [Particle.slots])
    | group => rfl
  have hsome : (picked opened.contains ps).isSome = true :=
    List.find?_isSome.mpr ⟨p, hp, by simp [hn]⟩
  obtain ⟨q, hq⟩ := Option.isSome_iff_exists.mp hsome
  exact ⟨q, List.mem_of_find?_eq_some hq, hq⟩

theorem free_of_picked {ps : List Particle} {q : Particle}
    (hq : picked opened.contains ps = some q) (hg : q.isGroup = false) : Free opened q := by
  have hn : isOpenElement opened.contains q = false := by simpa using List.find?_some hq
  cases q with
  | element slot => simpa [Free, Particle.slots, isOpenElement] using hn
  | group => simp [Particle.isGroup] at hg

theorem Made.free_words (hg : g.WellFormed) (h : Made g opened i) {p : Particle}
    (hp : p.Populated) (hs : p.slots ⊆ (g.get i.id).content.slots)
    (hf : Free (i.id :: opened) p) {shown : List Instance}
    (hsh : Shows g (i.id :: opened) p shown) : shown.map (·.id) ∈ p.words ∅ := by
  have hexact : p.words {id | id ∈ i.id :: opened} = p.words ∅ :=
    Particle.words_eq_of_disjoint p hf
  exact hexact ▸ h.shows_words hg hp hs hsh

/-- Wherever a sample document shows a choice of which some option is free of open structures, what
it shows is an exact word of an option, unless the first option that is not an open element is a
group in which an open structure is mentioned. -/
theorem render_choice_exact_or_group_recurs {source : String} {c : Compiled}
    (hc : compile source = .ok c) {settings : Settings} {name : Option String} {text : String}
    (h : render settings c.graph name = .ok text) :
    ∃ root : Instance, instances c.graph name = .ok [root] ∧
      text = Xml.Document.render settings.indent ⟨none, root.node c.graph⟩ ∧
      ∀ above i, root.Within above i → ∀ inner, (c.graph.get i.id).content = .children inner →
      ∀ ps mixed, Met (i.id :: above).contains inner.particle (.group .choice ps mixed) →
      (∃ p ∈ ps, Free (i.id :: above) p) →
      ∃ before shown after, i.children = before ++ shown ++ after ∧
        Shows c.graph (i.id :: above) (.group .choice ps mixed) shown ∧
        ((∃ p ∈ ps, shown.map (·.id) ∈ p.words ∅) ∨
          ∃ q, picked (i.id :: above).contains ps = some q ∧ q.isGroup = true ∧
            ¬Free (i.id :: above) q) := by
  have hg := compile_wellFormed hc
  obtain ⟨root, -, hs, hm, ht⟩ := render_eq_ok h
  refine ⟨root, hs, ht, fun above i hi inner hinner ps mixed hmet ⟨p, hp, hfree⟩ => ?_⟩
  have hmade := hm.within hg.wellLinked hi
  obtain ⟨hpop, hslots, hshows⟩ := hmade.shows_group hg hinner
  obtain ⟨before, shown, after, hsplit, hshown⟩ := hmet.segment hshows
  refine ⟨before, shown, after, hsplit, hshown, ?_⟩
  obtain ⟨q, hq, hpick⟩ := exists_picked hp hfree
  by_cases hqf : Free (i.id :: above) q
  · refine .inl ⟨q, hq, ?_⟩
    -- the option is itself met, so its slots are slots of the content
    have hqmet : Met (i.id :: above).contains (.group .choice ps mixed) q := .option hpick .self
    obtain ⟨hcpop, hcslots⟩ := hmet.inherits hpop
    obtain ⟨hqpop, hqslots⟩ := hqmet.inherits hcpop
    have hqshown : Shows c.graph (i.id :: above) q shown := by
      rw [particle, option_eq_picked, hpick] at hshown
      exact hshown
    exact hmade.free_words hg hqpop (fun s hs => hslots ▸ hcslots (hqslots hs)) hqf hqshown
  · refine .inr ⟨q, hpick, ?_, hqf⟩
    by_contra hn
    exact hqf (free_of_picked hpick (by simpa using hn))

/-- Of a choice between an open element and a group that is free of it the group is shown. -/
def groupAfterOpenSource : String :=
  "root element node \x7ballowedContent: \x7bnode / [x, leaf (n > 1)]\x7d;\x7d
  element x \x7b\x7d element leaf \x7b\x7d"

def optionsAfterOpen : List Particle :=
  [.element ⟨0, .one⟩,
    .group .sequence [.element ⟨1, .one⟩, .element ⟨2, .atLeast 2⟩] false]

def groupAfterOpenGraph : Graph := ⟨none,
  [⟨"node", none, .none, .element true [] (.children ⟨.choice, optionsAfterOpen, false⟩)⟩,
    ⟨"x", none, .none, .element false [] .empty⟩, ⟨"leaf", none, .none, .element false [] .empty⟩]⟩

set_option maxRecDepth 4000 in
theorem render_choice_exact_or_group_recurs_after_open :
    compile groupAfterOpenSource = .ok ⟨groupAfterOpenGraph, []⟩ ∧
      (∃ text, render .default groupAfterOpenGraph none = .ok text) ∧
      instances groupAfterOpenGraph none =
        .ok [.branch 0 [] [.leaf 1 [], .leaf 2 [], .leaf 2 [], .leaf 2 []]] ∧
      ∃ p ∈ optionsAfterOpen, [1, 2, 2, 2] ∈ p.words ∅ := by
  have hc : compile groupAfterOpenSource = .ok ⟨groupAfterOpenGraph, []⟩ :=
    compile_of_scan String.toList_ofList rfl
  have hi : instances groupAfterOpenGraph none =
      .ok [.branch 0 [] [.leaf 1 [], .leaf 2 [], .leaf 2 [], .leaf 2 []]] := rfl
  have hr : ∃ text, render .default groupAfterOpenGraph none = .ok text := ⟨_, rfl⟩
  refine ⟨hc, hr, hi, ?_⟩
  obtain ⟨text, hr⟩ := hr
  obtain ⟨root, hroot, -, hchoice⟩ := render_choice_exact_or_group_recurs hc hr
  cases hi.symm.trans hroot
  have hlast : Free [0] (.group .sequence
      [.element ⟨1, .one⟩, .element ⟨2, .atLeast 2⟩] false) := by
    simp [Free, Particle.slots, Particle.slotsOf]
  obtain ⟨before, shown, after, -, hshown, hexact⟩ :=
    hchoice [] _ .root _ rfl optionsAfterOpen false .self ⟨_, by simp [optionsAfterOpen], hlast⟩
  cases hshown
  rcases hexact with hexact | ⟨q, hq, -, hfree⟩
  · exact hexact
  · cases hq
    exact absurd hlast hfree

def groupOptionSource : String :=
  "root element node \x7ballowedContent: \x7b[node, x] / leaf\x7d;\x7d
  element x \x7b\x7d element leaf \x7b\x7d"

/-- The options of `groupOptionSource`: the first one is a group that mentions its own element. -/
def groupOptions : List Particle :=
  [.group .sequence [.element ⟨0, .one⟩, .element ⟨1, .one⟩] false, .element ⟨2, .one⟩]

def groupOptionGraph : Graph := ⟨none,
  [⟨"node", none, .none, .element true [] (.children ⟨.choice, groupOptions, false⟩)⟩,
    ⟨"x", none, .none, .element false [] .empty⟩, ⟨"leaf", none, .none, .element false [] .empty⟩]⟩

set_option maxRecDepth 4000 in
theorem render_choice_shows_no_option :
    compile groupOptionSource = .ok ⟨groupOptionGraph, []⟩ ∧
      (∃ text, render .default groupOptionGraph none = .ok text) ∧
      instances groupOptionGraph none = .ok [.branch 0 [] [.leaf 1 []]] ∧
      (∃ p ∈ groupOptions, Free [0] p) ∧
      Shows groupOptionGraph [0] (.group .choice groupOptions false) [.leaf 1 []] ∧
      ∀ p ∈ groupOptions, [1] ∉ p.words ∅ := by
  refine ⟨compile_of_scan String.toList_ofList rfl, ⟨_, rfl⟩, rfl, ?_, rfl, ?_⟩
  · exact ⟨.element ⟨2, .one⟩, by simp [groupOptions], by simp [Free, Particle.slots]⟩
  · simp only [groupOptions, List.forall_mem_cons, Particle.mem_words_one]
    refine ⟨fun h => ?_, by decide, by simp⟩
    rw [Particle.words] at h
    simp only [Particle.wordsOf, List.prod_cons, List.prod_nil, mul_one, Language.mem_mul,
      Particle.mem_words_one] at h
    obtain ⟨_, rfl, _, rfl, he⟩ := h
    simp at he

end Sample

end DocSchema
