import DocSchema.Proofs.Compile

/-!
# Compiled graphs are well linked

Every reference of a compiled graph is an index of the graph and leads to a structure of a kind that
its place allows, and names identify structures. Linking replaces a name it cannot resolve by a
default, so links are valid in any case; that names are distinct needs a compilation without errors.
-/
namespace DocSchema

/-- Where a body refers to a built-in type or to a structure. -/
inductive Place where
  | attributeSlot
  | childSlot
  | valueContent
  | attributeType
  | baseType
  | propertySlot
  | propertyType
  | itemType
  deriving DecidableEq, Repr

namespace Place

/-- The kinds of structure that may stand at a place. -/
def kinds : Place → List Kind
  | .attributeSlot => [.attribute]
  | .childSlot => [.element]
  | .valueContent | .attributeType | .baseType => [.dataType]
  | .propertySlot => [.property]
  | .propertyType | .itemType => [.dataType, .object, .array]

/-- Slots hold structures only; the other places are types. -/
def takesPrimitive : Place → Bool
  | .attributeSlot | .childSlot | .propertySlot => false
  | .valueContent | .attributeType | .baseType | .propertyType | .itemType => true

end Place

theorem exists_element_body {s : Structure} (h : s.kind = .element) :
    ∃ root slots content, s.body = .element root slots content := by
  cases hb : s.body with
  | element root slots content => exact ⟨root, slots, content, rfl⟩
  | _ => simp [Structure.kind, Body.kind, hb] at h

def Slot.type (s : Slot) : TypeRef := .declared s.target

/-- Every reference in the content of an element, at any depth of its groups. -/
def Content.references : Content → List (Place × TypeRef)
  | .empty | .text => []
  | .value type => [(.valueContent, type)]
  | .children group => group.slots.map fun s => (.childSlot, s.type)

def Body.references : Body → List (Place × TypeRef)
  | .element _ attributes content =>
    attributes.map (fun s => (.attributeSlot, s.type)) ++ content.references
  | .attribute valueType _ => [(.attributeType, valueType)]
  | .dataType base _ => [(.baseType, base)]
  | .object _ properties _ => properties.map fun s => (.propertySlot, s.type)
  | .property valueType => [(.propertyType, valueType)]
  | .array itemType _ => [(.itemType, itemType)]

theorem Body.links_eq_references (b : Body) :
    b.links = b.references.filterMap fun r => r.2.target? := by
  have slots (place : Place) (ss : List Slot) :
      (ss.map fun s => (place, s.type)).filterMap (fun r => r.2.target?) =
        ss.map (·.target) := by
    simp [List.filterMap_map, Slot.type, TypeRef.target?]
  have single (place : Place) (t : TypeRef) :
      [(place, t)].filterMap (fun r => r.2.target?) = t.target?.toList := by
    cases t <;> rfl
  cases b with
  | element root attributes content =>
    cases content <;>
      simp [Body.links, Body.references, Content.references, slots, single, Content.slots,
        Content.group?, -List.filterMap_map]
  | _ => simp only [Body.links, Body.references, slots, single]

/-- What a place may hold in a graph: a valid index of a structure of the right kind, or a built-in
type where one is allowed. -/
def Graph.Admits (g : Graph) (place : Place) : TypeRef → Prop
  | .primitive _ => place.takesPrimitive = true
  | .declared id => id < g.size ∧ (g.get id).kind ∈ place.kinds

/-- What every compiled graph satisfies: names are distinct and not reserved, and every reference
fits its place. -/
structure Graph.WellLinked (g : Graph) : Prop where
  distinct : (g.structures.map (·.reference)).Nodup
  unreserved : ∀ s ∈ g.structures, ∀ p : Primitive, s.reference ≠ p.name
  admits : ∀ s ∈ g.structures, ∀ r ∈ s.body.references, g.Admits r.1 r.2

namespace Graph

theorem getElem?_structures {g : Graph} {id : StructureId} (h : id < g.size) :
    g.structures[id]? = some (g.get id) := by
  unfold size at h
  simp [get, List.getElem?_eq_getElem h]

theorem get_mem {g : Graph} {id : StructureId} (h : id < g.size) : g.get id ∈ g.structures :=
  List.mem_of_getElem? (getElem?_structures h)

@[simp] theorem mem_ids {g : Graph} {id : StructureId} : id ∈ g.ids ↔ id < g.size := by
  simp [ids]

theorem eq_of_reference_eq {g : Graph} (hd : (g.structures.map (·.reference)).Nodup)
    {a b : StructureId} (ha : a < g.size) (hb : b < g.size)
    (h : (g.get a).reference = (g.get b).reference) : a = b := by
  apply (List.getElem?_inj (by simpa [size] using ha) hd).mp
  simp only [List.getElem?_map, getElem?_structures ha, getElem?_structures hb, Option.map_some, h]

theorem find?_eq_some_iff {g : Graph} (hd : (g.structures.map (·.reference)).Nodup)
    {name : String} {id : StructureId} :
    g.find? name = some id ↔ id < g.size ∧ (g.get id).reference = name := by
  unfold find?
  constructor
  · intro h
    exact ⟨by simpa using List.mem_of_find?_eq_some h, by simpa using List.find?_some h⟩
  · rintro ⟨hid, rfl⟩
    cases hf : g.ids.reverse.find? fun other => (g.get other).reference == (g.get id).reference with
    | none => simpa using List.find?_eq_none.mp hf id (by simpa using hid)
    | some other =>
      have ho : other < g.size := by simpa using List.mem_of_find?_eq_some hf
      have he : (g.get other).reference = (g.get id).reference := by
        simpa using List.find?_some hf
      rw [eq_of_reference_eq hd ho hid he]

end Graph

theorem Particle.slotsOf_append (ps qs : List Particle) :
    Particle.slotsOf (ps ++ qs) = Particle.slotsOf ps ++ Particle.slotsOf qs := by
  induction ps with
  | nil => simp [Particle.slotsOf]
  | cons p ps ih => simp [Particle.slotsOf, ih]

namespace Link

def Fits (definitions : List Definition) (usage : Usage) : TypeRef → Prop
  | .primitive _ => usage.acceptsPrimitive = true
  | .declared id => ∃ d, definitions[id]? = some d ∧ usage.accepts d.kind = true

/-- What a place may hold, among the definitions. -/
def Admits (definitions : List Definition) (place : Place) : TypeRef → Prop
  | .primitive _ => place.takesPrimitive = true
  | .declared id => ∃ d, definitions[id]? = some d ∧ d.kind ∈ place.kinds

variable {definitions : List Definition} {owner : String} {usage : Usage}

def Usage.Serves (usage : Usage) (place : Place) : Prop :=
  (∀ k ∈ Kind.all, usage.accepts k = true → k ∈ place.kinds) ∧
    (usage.acceptsPrimitive = true → place.takesPrimitive = true)

instance (usage : Usage) (place : Place) : Decidable (usage.Serves place) :=
  inferInstanceAs (Decidable (_ ∧ _))

theorem Fits.admits {place : Place} {t : TypeRef} (hs : usage.Serves place)
    (h : Fits definitions usage t) : Admits definitions place t := by
  cases t with
  | primitive p => exact hs.2 h
  | declared id =>
    obtain ⟨d, hd, ha⟩ := h
    exact ⟨d, hd, hs.1 d.kind (by cases d.kind <;> decide) ha⟩

theorem findFrom_eq_some {name : String} {index id : Nat} {ds : List Definition}
    {d : Definition} (h : findFrom name index ds = some (id, d)) :
    ∃ k, id = index + k ∧ ds[k]? = some d ∧ d.name.value = name := by
  induction ds generalizing index with
  | nil => simp [findFrom] at h
  | cons e ds ih =>
    simp only [findFrom] at h
    split_ifs at h with he
    · cases h
      exact ⟨0, rfl, rfl, by simpa using he⟩
    · obtain ⟨k, hk, hd, hn⟩ := ih h
      exact ⟨k + 1, by omega, by simpa using hd, hn⟩

theorem find?_eq_some {name : String} {id : StructureId} {d : Definition}
    (h : find? definitions name = some (id, d)) :
    definitions[id]? = some d ∧ d.name.value = name := by
  unfold find? at h
  split_ifs at h
  obtain ⟨k, hk, hd, hn⟩ := findFrom_eq_some h
  rw [hk, Nat.zero_add]
  exact ⟨hd, hn⟩

/-- A name is linked to the definition that is found under it, if that is of an accepted kind. -/
theorem lookup_eq_declared {name : Located String} {id : StructureId} :
    (lookup definitions owner usage name).value = some (.declared id) ↔
      ∃ d, find? definitions name.value = some (id, d) ∧ usage.accepts d.kind = true := by
  unfold lookup
  cases hp : Primitive.ofName? name.value with
  | some p =>
    have hnone : find? definitions name.value = none := by simp [find?, hp]
    rw [hnone]
    by_cases ha : usage.acceptsPrimitive = true <;> simp [ha]
  | none =>
    cases hf : find? definitions name.value with
    | none => simp
    | some found =>
      obtain ⟨found, d⟩ := found
      by_cases ha : usage.accepts d.kind = true
      · simp only [ha, if_true, Checked.value_pure, Option.some.injEq, TypeRef.declared.injEq,
          Prod.mk.injEq]
        constructor
        · rintro rfl
          exact ⟨d, ⟨rfl, rfl⟩, ha⟩
        · rintro ⟨-, ⟨rfl, -⟩, -⟩
          rfl
      · simp only [ha, Bool.false_eq_true, if_false, Checked.value_report, reduceCtorEq,
          Option.some.injEq, Prod.mk.injEq, false_iff]
        rintro ⟨e, ⟨-, rfl⟩, he⟩
        exact ha he

theorem lookup_fits {name : Located String} {t : TypeRef}
    (h : (lookup definitions owner usage name).value = some t) : Fits definitions usage t := by
  unfold lookup at h
  cases hp : Primitive.ofName? name.value with
  | some p =>
    simp only [hp] at h
    split_ifs at h with ha
    · cases h
      exact ha
    · simp at h
  | none =>
    cases hf : find? definitions name.value with
    | none => simp [hp, hf] at h
    | some found =>
      obtain ⟨id, d⟩ := found
      simp only [hp, hf] at h
      split_ifs at h with ha
      · cases h
        exact ⟨d, (find?_eq_some hf).1, ha⟩
      · simp at h

theorem typeRef_fits (hp : usage.acceptsPrimitive = true) (name : Option (Located String)) :
    Fits definitions usage (typeRef definitions owner usage name).value := by
  cases name with
  | none => exact hp
  | some name =>
    simp only [typeRef, Checked.value_bind, Checked.value_pure]
    cases hl : (lookup definitions owner usage name).value with
    | none => exact hp
    | some t => exact lookup_fits hl

theorem slot_eq_some {o : Occurrence} {s : Slot}
    (h : (slot definitions owner usage o).value = some s) :
    (lookup definitions owner usage o.name).value = some s.type ∧
      s.cardinality = o.cardinality := by
  simp only [slot, Checked.value_bind] at h
  cases hl : (lookup definitions owner usage o.name).value with
  | none => simp [hl] at h
  | some t =>
    cases t with
    | primitive p => simp [hl] at h
    | declared id =>
      obtain rfl : ⟨id, o.cardinality⟩ = s := by simpa [hl] using h
      exact ⟨rfl, rfl⟩

theorem slot_fits {o : Occurrence} {s : Slot}
    (h : (slot definitions owner usage o).value = some s) : Fits definitions usage s.type :=
  lookup_fits (slot_eq_some h).1

theorem slots_fits {os : List Occurrence} :
    ∀ s ∈ (slots definitions owner usage os).value, Fits definitions usage s.type := by
  induction os with
  | nil => simp [slots]
  | cons o os ih =>
    intro s hs
    simp only [slots, Checked.value_bind, Checked.value_pure, List.mem_append,
      Option.mem_toList] at hs
    rcases hs with hs | hs
    · exact slot_fits hs
    · exact ih s hs

mutual

theorem particle_fits (m : Definition.Member) :
    ∀ s ∈ Particle.slotsOf (particle definitions owner m).value, Fits definitions .child s.type :=
  match m with
  | .element o => by
    intro s hs
    simp only [particle, Checked.value_bind, Checked.value_pure] at hs
    cases ho : (slot definitions owner .child o).value with
    | none => simp [ho, Particle.slotsOf] at hs
    | some s' =>
      simp only [ho, Option.toList_some, List.map_cons, List.map_nil, Particle.slotsOf,
        Particle.slots, List.append_nil, List.mem_singleton] at hs
      subst hs
      exact slot_fits ho
  | .group compositor members => by
    intro s hs
    simp only [particle, Checked.value_bind, Checked.value_pure, Particle.slotsOf, Particle.slots,
      List.append_nil] at hs
    exact particles_fits members s hs

theorem particles_fits (ms : List Definition.Member) :
    ∀ s ∈ Particle.slotsOf (particles definitions owner ms).value, Fits definitions .child s.type :=
  match ms with
  | [] => by simp [particles, Particle.slotsOf]
  | m :: ms => by
    intro s hs
    simp only [particles, Checked.value_bind, Checked.value_pure, Particle.slotsOf_append,
      List.mem_append] at hs
    rcases hs with hs | hs
    · exact particle_fits m s hs
    · exact particles_fits ms s hs

end

theorem Fits.valueContent {t : TypeRef} (h : Fits definitions .content t)
    (hn : ∀ d, t.target?.bind (definitions[·]?) = some d → d.kind ≠ .element) :
    Admits definitions .valueContent t := by
  cases t with
  | primitive p => rfl
  | declared id =>
    obtain ⟨d, hd, ha⟩ := h
    have hne : d.kind ≠ .element := hn d (by simpa [TypeRef.target?] using hd)
    exact ⟨d, hd, by simpa [Usage.accepts, Place.kinds, hne] using ha⟩

theorem content_admits (c : Definition.Content) :
    ∀ r ∈ (content definitions owner c).value.references, Admits definitions r.1 r.2 := by
  have child (t : TypeRef) (h : Fits definitions .child t) : Admits definitions .childSlot t :=
    h.admits (by decide)
  cases c with
  | empty => simp [content, Content.references]
  | text => simp [content, Content.references]
  | group compositor members mixed =>
    simp only [content, Checked.value_bind, Checked.value_pure, Content.references, List.mem_map,
      forall_exists_index, and_imp]
    rintro _ s hs rfl
    exact child _ (particles_fits members s hs)
  | single target quantifier =>
    simp only [content, Checked.value_bind]
    cases hl : (lookup definitions owner .content target.name).value with
    | none => simp [Content.references]
    | some t =>
      have hf := lookup_fits hl
      dsimp only
      split
      · rename_i d name tagName remarks root attributes inner he
        -- The name stands for an element, so it is the only child.
        cases t with
        | primitive p => simp [TypeRef.target?] at he
        | declared id =>
          simp only [TypeRef.target?, Option.bind_some] at he
          have ha : Admits definitions .childSlot (.declared id) :=
            ⟨_, he, by simp [Definition.kind, Definition.Body.kind, Place.kinds]⟩
          simpa [Content.references, Group.slots, Particle.slotsOf, Particle.slots, Slot.type,
            TypeRef.target?] using ha
      · rename_i hn
        have ha : Admits definitions .valueContent t := by
          apply hf.valueContent
          rintro ⟨name, tagName, remarks, b⟩ hd hk
          cases b <;> simp [Definition.kind, Definition.Body.kind] at hk
          exact hn _ _ _ _ _ _ hd
        simpa [Content.references] using ha

theorem body_kind (b : Definition.Body) : (body definitions owner b).value.kind = b.kind := by
  cases b <;> rfl

theorem body_admits (b : Definition.Body) :
    ∀ r ∈ (body definitions owner b).value.references, Admits definitions r.1 r.2 := by
  have type {usage : Usage} (place : Place) (name : Option (Located String))
      (hp : usage.acceptsPrimitive = true) (hs : usage.Serves place) :
      ∀ r ∈ [(place, (typeRef definitions owner usage name).value)],
        Admits definitions r.1 r.2 := by
    simpa using (typeRef_fits hp name).admits hs
  have slots {usage : Usage} (place : Place) (os : List Occurrence) (hs : usage.Serves place) :
      ∀ r ∈ (slots definitions owner usage os).value.map fun s => (place, s.type),
        Admits definitions r.1 r.2 := by
    simp only [List.mem_map]
    rintro _ ⟨s, hm, rfl⟩
    exact (slots_fits s hm).admits hs
  rcases b with ⟨root, attributes, inner⟩ | ⟨valueType, default⟩ |
    ⟨base, pattern, values, minimum, maximum⟩ | ⟨root, properties, order⟩ | ⟨valueType⟩ | ⟨itemType⟩
  · intro r hr
    rcases List.mem_append.mp hr with hr | hr
    · exact slots .attributeSlot attributes (by decide) r hr
    · exact content_admits inner r hr
  · exact type .attributeType valueType (by decide) (by decide)
  · exact type .baseType base (by decide) (by decide)
  · exact slots .propertySlot properties (by decide)
  · exact type .propertyType valueType (by decide) (by decide)
  · exact type .itemType (some itemType.name) (by decide) (by decide)

theorem structures_value (ds : List Definition) :
    (structures definitions ds).value = ds.map fun d => (structureOf definitions d).value := by
  induction ds with
  | nil => rfl
  | cons d ds ih => simp [structures, ih]

theorem names_value (definitions : List Definition) :
    (names definitions).value = definitions.map fun d => (structureOf definitions d).value := by
  simp [names, structures_value]

theorem size_graph (definitions : List Definition) :
    (graph definitions).value.size = definitions.length := by
  simp [Graph.size, Graph.ofStructures, names_value]

@[simp] theorem structureOf_reference (d : Definition) :
    (structureOf definitions d).value.reference = d.name.value := rfl

@[simp] theorem structureOf_kind (d : Definition) :
    (structureOf definitions d).value.kind = d.kind :=
  body_kind d.body

theorem Admits.graph {g : Graph} (hg : g.structures = (names definitions).value) {place : Place}
    {t : TypeRef} (h : Admits definitions place t) : g.Admits place t := by
  cases t with
  | primitive p => exact h
  | declared id =>
    obtain ⟨d, hd, hk⟩ := h
    have hs : g.structures[id]? = some (structureOf definitions d).value := by
      simp [hg, names_value, hd]
    refine ⟨(List.getElem?_eq_some_iff.mp hs).1, ?_⟩
    simpa [Graph.get, hs] using hk

theorem nameProblems_isError (seen : List (Located String)) (ds : List Definition) :
    ∀ p ∈ nameProblems seen ds, p.isError = true := by
  fun_induction nameProblems seen ds with
  | case1 => simp
  | case2 seen d ds hr ih => simpa [Problem.isError] using ih
  | case3 seen d ds hr first hf ih => simpa [Problem.isError] using ih
  | case4 seen d ds hr hf ih => exact ih

theorem nameProblems_eq_nil {seen : List (Located String)} {ds : List Definition}
    (h : nameProblems seen ds = []) :
    (ds.map (·.name.value)).Nodup ∧
      ∀ d ∈ ds, Primitive.ofName? d.name.value = none ∧ ∀ n ∈ seen, n.value ≠ d.name.value := by
  fun_induction nameProblems seen ds with
  | case1 => simp
  | case2 seen d ds hr ih => simp at h
  | case3 seen d ds hr first hf ih => simp at h
  | case4 seen d ds hr hf ih =>
    obtain ⟨hd, hs⟩ := ih h
    have hnew : ∀ n ∈ seen, n.value ≠ d.name.value := by
      simpa [List.find?_eq_none] using hf
    refine ⟨?_, ?_⟩
    · simp only [List.map_cons, List.nodup_cons, hd, and_true, List.mem_map, not_exists, not_and]
      intro e he heq
      exact (hs e he).2 d.name (by simp) heq.symm
    · intro e he
      rcases List.mem_cons.mp he with rfl | he
      · exact ⟨by simpa using hr, hnew⟩
      · exact ⟨(hs e he).1, fun n hn => (hs e he).2 n (by simp [hn])⟩

theorem wellLinked {g : Graph} (hg : g.structures = (names definitions).value)
    (h : (names definitions).problems.any (·.isError) = false) : g.WellLinked := by
  have hn : nameProblems [] definitions = [] := by
    simp only [names, Checked.problems_bind, Checked.problems_note, List.any_append,
      Bool.or_eq_false_iff] at h
    apply List.eq_nil_iff_forall_not_mem.mpr
    intro p hp
    have he := List.any_eq_false.mp h.1 p hp
    exact he (nameProblems_isError _ _ p hp)
  obtain ⟨hd, hs⟩ := nameProblems_eq_nil hn
  refine ⟨?_, ?_, ?_⟩
  · simpa [hg, names_value, Function.comp_def] using hd
  · simp only [hg, names_value, List.mem_map]
    rintro _ ⟨d, hm, rfl⟩ p he
    have := (hs d hm).1
    rw [structureOf_reference] at he
    simp [he, Primitive.ofName?_name] at this
  · simp only [hg, names_value, List.mem_map]
    rintro _ ⟨d, -, rfl⟩ r hr
    exact (body_admits d.body r hr).graph hg

end Link

theorem compileDeclarations_wellLinked {comments : List (Located String)}
    {declarations : List Declaration} {c : Compiled}
    (h : compileDeclarations comments declarations = .ok c) : c.graph.WellLinked := by
  obtain ⟨-, hl, hg, -⟩ := compileDeclarations_ok h
  refine Link.wellLinked ?_ (Link.names_problems_of_graph hl)
  rw [hg, Link.value_graph]
  rfl

theorem compile_wellLinked {source : String} {c : Compiled} (h : compile source = .ok c) :
    c.graph.WellLinked := by
  obtain ⟨lexed, declarations, -, -, hc⟩ := compile_ok h
  exact compileDeclarations_wellLinked hc

/-- Names of a compiled graph are distinct, not reserved and found by lookup, and every reference in
a body, at any depth, is valid and of a kind that its place allows. -/
theorem compile_names_distinct_links_admitted {source : String} {c : Compiled}
    (h : compile source = .ok c) :
    (c.graph.structures.map (·.reference)).Nodup ∧
      (∀ s ∈ c.graph.structures, s.reference ∉ ["string", "integer", "decimal", "boolean"]) ∧
      (∀ name id, c.graph.find? name = some id ↔
        id < c.graph.size ∧ (c.graph.get id).reference = name) ∧
      (∀ s ∈ c.graph.structures, ∀ r ∈ s.body.references, ∀ id, r.2 = .declared id →
        id < c.graph.size ∧ (c.graph.get id).kind ∈ r.1.kinds) ∧
      (∀ s ∈ c.graph.structures, ∀ r ∈ s.body.references, ∀ p, r.2 = .primitive p →
        r.1.takesPrimitive = true) := by
  have hw := compile_wellLinked h
  refine ⟨hw.distinct, ?_, fun _ _ => Graph.find?_eq_some_iff hw.distinct, ?_, ?_⟩
  · intro s hs hm
    have hall (p : Primitive) := hw.unreserved s hs p
    simp only [List.mem_cons, List.not_mem_nil, or_false] at hm
    rcases hm with he | he | he | he
    · exact hall .string he
    · exact hall .integer he
    · exact hall .decimal he
    · exact hall .boolean he
  · intro s hs r hr id he
    have ha := hw.admits s hs r hr
    rwa [he] at ha
  · intro s hs r hr p he
    have ha := hw.admits s hs r hr
    rwa [he] at ha

/-- A schema with a recursive element, a nested choice, a typed attribute and a value. -/
def sectionSource : String :=
  "root element a \x7battributes: x; allowedContent: [b, \x7ba / b (n > 1)\x7d];\x7d
  element b \x7ballowedContent: w;\x7d attribute x \x7bvalueType: w;\x7d dataType w \x7b\x7d"

set_option maxRecDepth 2000 in
theorem compile_names_distinct_links_admitted_section :
    ∃ c, compile sectionSource = .ok c ∧ c.graph.size = 4 ∧
      (c.graph.structures.map (·.reference)).Nodup ∧
      ∀ s ∈ c.graph.structures, ∀ r ∈ s.body.references, ∀ id, r.2 = .declared id →
        id < c.graph.size ∧ (c.graph.get id).kind ∈ r.1.kinds := by
  obtain ⟨c, hc, hn⟩ := exists_compiled (String.toList_ofList : sectionSource.toList = _)
    (fun c => c.graph.size == 4) (by decide +kernel)
  obtain ⟨hd, -, -, hl, -⟩ := compile_names_distinct_links_admitted hc
  exact ⟨c, hc, by simpa using hn, hd, hl⟩

end DocSchema
