import DocSchema.Proofs.Populated
import DocSchema.Proofs.XmlSchema.Reader
import DocSchema.Proofs.XmlSchema.StartTags

/-!
# An XML Schema reads back

Reading the text of a document gives what the graph says about the written structures: content
models at every depth, occurrence ranges, attributes with their defaults, bases and constraints.
-/
namespace DocSchema.XmlSchema

open Artifact (Failure)
open Xml (Node Element Attribute PlainTag isPlain)

theorem typeOf?_of_typeRefName {settings : Settings} {g : Graph} (hg : g.WellLinked) {t : TypeRef}
    (ht : ∀ id ∈ t.target?, id < g.size) {v : String} (h : typeRefName settings g t = .ok v) :
    typeOf? settings g v = some t := by
  cases t with
  | primitive p =>
    obtain rfl : primitiveName p = v := by simpa [typeRefName] using h
    cases p <;> simp [typeOf?, Primitive.all, primitiveName]
  | declared id =>
    have hn : typeName settings (g.get id) = .ok v := h
    have hid : id < g.size := ht id rfl
    have hp : (Primitive.all.find? fun p => primitiveName p = v) = none := by
      simpa [List.find?_eq_none] using fun p _ => (typeName_ne_primitiveName hn p).symm
    rw [typeOf?, hp]
    cases hf : g.ids.find? fun id => typeName settings (g.get id) = .ok v with
    | none =>
      have hne := List.find?_eq_none.mp hf id (Graph.mem_ids.mpr hid)
      simp [hn] at hne
    | some other =>
      have ho : other < g.size := Graph.mem_ids.mp (List.mem_of_find?_eq_some hf)
      have hon : typeName settings (g.get other) = .ok v := by simpa using List.find?_some hf
      have he : other = id :=
        Graph.eq_of_reference_eq hg.distinct ho hid (reference_eq_of_typeName hon hn)
      rw [he]
      rfl

theorem typeOf?_of_typeName {settings : Settings} {g : Graph} (hg : g.WellLinked)
    {id : StructureId} (hid : id < g.size) {v : String}
    (h : typeName settings (g.get id) = .ok v) : typeOf? settings g v = some (.declared id) :=
  typeOf?_of_typeRefName hg (by simpa [TypeRef.target?] using hid) h

theorem tag_of_tagOf {s : Structure} {tag : String} (h : tagOf s = .ok tag) : s.tag = tag := by
  unfold tagOf at h
  split_ifs at h
  exact Except.ok.inj h

theorem minOccurs?_written (c : Cardinality) :
    minOccurs? ((occurrenceAttributes c).lookup "minOccurs") = some c.min := by
  have hl : (occurrenceAttributes c).lookup "minOccurs" =
      if c.min = 1 then none else some (toString c.min) := by
    unfold occurrenceAttributes
    cases c.max with
    | none => split_ifs <;> simp
    | some max => dsimp only; split_ifs <;> simp
  rw [hl]
  split_ifs with hm
  · rw [hm]
    rfl
  · exact Number.natural?_toString c.min

theorem toString_ne_unbounded (n : Nat) : toString n ≠ "unbounded" := by
  intro h
  have hr := Number.natural?_toString n
  have hu : Number.natural? "unbounded".toList = none := by decide +kernel
  rw [h, hu] at hr
  cases hr

theorem maxOccurs?_written (c : Cardinality) :
    maxOccurs? ((occurrenceAttributes c).lookup "maxOccurs") = some c.max := by
  have hl : (occurrenceAttributes c).lookup "maxOccurs" = c.max.elim (some "unbounded")
      fun max => if max = 1 then none else some (toString max) := by
    unfold occurrenceAttributes
    cases c.max with
    | none => split_ifs <;> simp [List.lookup]
    | some max => dsimp only [Option.elim]; split_ifs <;> simp [List.lookup]
  rw [hl]
  cases c.max with
  | none => rfl
  | some max =>
    dsimp only [Option.elim]
    split_ifs with hm
    · rw [hm]
      rfl
    · rw [maxOccurs?, if_neg (toString_ne_unbounded max), Number.natural?_toString]
      rfl

theorem occurrences?_child (tag type : String) (c : Cardinality) :
    occurrences? ([("name", tag), ("type", type)] ++ occurrenceAttributes c) = some c := by
  have hskip {key : String} (hn : key ≠ "name") (ht : key ≠ "type") :
      ([("name", tag), ("type", type)] ++ occurrenceAttributes c).lookup key =
        (occurrenceAttributes c).lookup key := by
    simp [List.lookup, beq_eq_false_iff_ne.mpr hn, beq_eq_false_iff_ne.mpr ht]
  rw [occurrences?, hskip (by decide) (by decide), hskip (by decide) (by decide),
    minOccurs?_written, maxOccurs?_written]
  exact c.range?_min_max

section Reading

variable {settings : Settings} {g : Graph}

theorem child_read (hg : g.WellLinked) {slot : Slot} (hs : slot.target < g.size) {n : Node}
    (h : child settings g slot = .ok n) :
    term? (typeOf? settings g) n.element =
      some (.element (g.get slot.target).tag (.declared slot.target) slot.cardinality) := by
  obtain ⟨tag, type, ht, hn, rfl⟩ := child_ok h
  rw [Node.element, term?, if_pos rfl, occurrences?_child, tag_of_tagOf ht]
  simp [typeAt?, List.lookup, typeOf?_of_typeName hg hs hn]

theorem compositor?_compositorTag (c : Compositor) : compositor? (compositorTag c) = some c := by
  cases c <;> simp [compositor?, compositorTag]

theorem compositorTag_ne_element (c : Compositor) : compositorTag c ≠ "xs:element" := by
  cases c <;> simp [compositorTag]

mutual

theorem particle_read (hg : g.WellLinked) {owner : String} : (p : Particle) → ∀ n : Node,
    (∀ slot ∈ p.slots, slot.target < g.size) → particle settings g owner p = .ok n →
      term? (typeOf? settings g) n.element = some (termOf g p)
  | .element slot => fun n hs h => by
    rw [termOf]
    exact child_read hg (hs slot (by simp [Particle.slots])) h
  | .group compositor ps mixed => by
    intro n hs h
    obtain ⟨ns, hn, rfl⟩ := particle_group_ok h
    have hps : ∀ slot ∈ Particle.slotsOf ps, slot.target < g.size := by
      simpa [Particle.slots] using hs
    rw [Node.element, term?, if_neg (compositorTag_ne_element compositor),
      compositor?_compositorTag, particles_read hg ps ns hps hn]
    rfl

theorem particles_read (hg : g.WellLinked) {owner : String} : (ps : List Particle) →
    ∀ ns : List Node, (∀ slot ∈ Particle.slotsOf ps, slot.target < g.size) →
      particles settings g owner ps = .ok ns →
        terms? (typeOf? settings g) (Node.elements ns) = some (termsOf g ps)
  | [] => by
    intro ns _ h
    obtain rfl : [] = ns := by simpa [particles] using h
    rfl
  | p :: ps => by
    intro ns hs h
    obtain ⟨first, rest, hf, hr, rfl⟩ := particles_cons_ok h
    simp only [Particle.slotsOf, List.mem_append] at hs
    rw [Node.elements, terms?, particle_read hg p first (fun slot hm => hs slot (.inl hm)) hf,
      particles_read hg ps rest (fun slot hm => hs slot (.inr hm)) hr]
    rfl

end

/-- An element without content is read as one that holds no elements. -/
theorem described_element (tag : String) (attributes : List Attribute) (s : Structure) :
    (described tag attributes s).element =
      (Node.branch tag attributes (documentation s)).element := by
  unfold described
  split
  · next he => rw [he, Node.element, Node.element, Node.elements]
  · rfl

theorem attributeNode_read (hg : g.WellLinked) {slot : Slot} {ns : List Node}
    (hs : slot.target ∈ written settings g) {valueType : TypeRef} {default : Option String}
    (hb : (g.get slot.target).body = .attribute valueType default)
    (h : attributeNode settings g slot = .ok ns) :
    ∃ n, ns = [n] ∧ n.element.tag = "xs:attribute" ∧
      attributeUse? (typeOf? settings g) n.element = some (useOf g slot) := by
  obtain ⟨name, type, hn, ht, rfl⟩ := attributeNode_ok hb h
  have hlt := reference_lt_size hg hs .attributeType
    (by rw [hb]; simp [Body.references] : (_, valueType) ∈ _)
  have htype := typeOf?_of_typeRefName hg hlt ht
  refine ⟨_, rfl, by rw [described_element]; rfl, ?_⟩
  rw [described_element, Node.element]
  simp only [useOf, hb, valueOf, tag_of_tagOf hn]
  cases hr : slot.cardinality.isExactlyOne with
  | true =>
    have hc : slot.cardinality = .one := by
      simpa [Cardinality.isExactlyOne, Cardinality.one] using hr
    simp [attributeUse?, attributeFields, List.lookup, typeAt?, htype, hc]
  | false =>
    have hc : slot.cardinality ≠ .one := by
      simpa [Cardinality.isExactlyOne, Cardinality.one] using hr
    cases default <;> simp [attributeUse?, attributeFields, List.lookup, typeAt?, htype, hc]

theorem attributeNodes_read (hg : g.WellLinked) {slots : List Slot} {ns : List Node}
    (hs : AttributeSlots settings g slots) (h : attributeNodes settings g slots = .ok ns) :
    (∀ e ∈ Node.elements ns, e.tag = "xs:attribute") ∧
      (Node.elements ns).mapM (attributeUse? (typeOf? settings g)) =
        some (slots.map (useOf g)) := by
  induction slots generalizing ns with
  | nil =>
    obtain rfl : [] = ns := by simpa [attributeNodes] using h
    exact ⟨by simp [Node.elements], rfl⟩
  | cons slot slots ih =>
    obtain ⟨first, rest, hf, hr, rfl⟩ := attributeNodes_cons_ok h
    obtain ⟨hw, valueType, default, hb⟩ := hs slot (by simp)
    obtain ⟨n, rfl, ht, hn⟩ := attributeNode_read hg hw hb hf
    obtain ⟨hts, hrest⟩ := ih (fun s hm => hs s (by simp [hm])) hr
    rw [List.singleton_append, Node.elements]
    exact ⟨by simpa [ht] using hts, by simp [hn, hrest]⟩

def facetElements (tag : String) (values : List String) : List Element :=
  values.map fun v => .mk tag [("value", v)] []

theorem facets_elements (c : Constraints) : Node.elements (facets c) =
    facetElements "xs:pattern" c.pattern.toList ++ facetElements "xs:enumeration" c.values
      ++ facetElements "xs:minInclusive" (c.minimum.toList.map toString)
      ++ facetElements "xs:maxInclusive" (c.maximum.toList.map toString) := by
  simp [facets, facetElements, Node.elements_eq_map, Node.element, Function.comp_def]

theorem facetValues_append (tag : String) (es fs : List Element) :
    facetValues tag (es ++ fs) = facetValues tag es ++ facetValues tag fs := by
  simp [facetValues]

theorem facetValues_facetElements (tag tag' : String) (values : List String) :
    facetValues tag (facetElements tag' values) = if tag' = tag then values else [] := by
  unfold facetValues facetElements
  split_ifs with he
  · simp [List.filterMap_map, he]
  · simp [List.filterMap_map, he]

theorem single?_toList {α : Type} (a : Option α) : single? a.toList = some a := by
  cases a <;> rfl

theorem bound?_of_values {tag : String} {facets : List Element} {n : Option Int}
    (h : facetValues tag facets = n.toList.map toString) : bound? tag facets = some n := by
  cases n with
  | none => simp [bound?, h, single?]
  | some n => simpa [bound?, h, single?] using Number.integer?_toString n

theorem facetValues_facets (tag : String) (c : Constraints) :
    facetValues tag (Node.elements (facets c)) =
      (if "xs:pattern" = tag then c.pattern.toList else [])
        ++ (if "xs:enumeration" = tag then c.values else [])
        ++ (if "xs:minInclusive" = tag then c.minimum.toList.map toString else [])
        ++ (if "xs:maxInclusive" = tag then c.maximum.toList.map toString else []) := by
  simp only [facets_elements, facetValues_append, facetValues_facetElements]

theorem constraints?_facets (c : Constraints) :
    constraints? (Node.elements (facets c)) = some c := by
  have hpattern : single? (facetValues "xs:pattern" (Node.elements (facets c))) =
      some c.pattern := by
    simpa [facetValues_facets] using single?_toList c.pattern
  have hmin : bound? "xs:minInclusive" (Node.elements (facets c)) = some c.minimum :=
    bound?_of_values (by simp [facetValues_facets])
  have hmax : bound? "xs:maxInclusive" (Node.elements (facets c)) = some c.maximum :=
    bound?_of_values (by simp [facetValues_facets])
  have htags : (Node.elements (facets c)).all (·.tag ∈
      ["xs:pattern", "xs:enumeration", "xs:minInclusive", "xs:maxInclusive"]) = true := by
    simp [facets_elements, facetElements]
  rw [constraints?, if_pos htags, hpattern, hmin, hmax]
  simp [facetValues_facets]

theorem restriction_element (base : String) (c : Constraints) :
    (restriction base c).element =
      .mk "xs:restriction" [("base", base)] (Node.elements (facets c)) := by
  unfold restriction
  split_ifs with he
  · obtain ⟨pattern, values, minimum, maximum⟩ := c
    have hempty : ((pattern = none ∧ values = []) ∧ minimum = none) ∧ maximum = none := by
      simpa [Constraints.isEmpty] using he
    obtain ⟨⟨⟨rfl, rfl⟩, rfl⟩, rfl⟩ := hempty
    simp [facets, Node.element, Node.elements]
  · rw [Node.element]

theorem simpleParts?_restriction {types : String → Option TypeRef} {base : String} {t : TypeRef}
    (hb : types base = some t) (c : Constraints) :
    simpleParts? types (Node.elements [restriction base c]) = some (.simple t c, []) := by
  rw [Node.elements, Node.elements, restriction_element, simpleParts?, if_pos rfl,
    constraints?_facets]
  simp [typeAt?, List.lookup, hb]

/-- A type is read by its name and its parts, whatever its documentation. -/
theorem definition?_branch {types : String → Option TypeRef} {tag name : String}
    {more : List Attribute} {ns : List Node} {t : TypeRef} {content : TypeContent}
    {uses : List AttributeUse} (s : Structure) (hn : types name = some t)
    (hp : ∀ e ∈ Node.elements ns, e.tag ≠ "xs:annotation")
    (h : parts? types tag (Node.elements ns) = some (content, uses)) :
    definition? types (Node.branch tag (("name", name) :: more) (documentation s ++ ns)).element =
      some ⟨t, more.lookup "mixed" == some "true", content, uses⟩ := by
  have hd : ∀ e ∈ Node.elements (documentation s), e.tag = "xs:annotation" := by
    unfold documentation
    split <;> simp [Node.elements, Node.element]
  have hf : (Node.elements (documentation s ++ ns)).filter (·.tag ≠ "xs:annotation") =
      Node.elements ns := by
    rw [Node.elements_append, List.filter_append, List.filter_eq_nil_iff.mpr (by simpa using hd),
      List.nil_append, List.filter_eq_self.mpr (by simpa using hp)]
  simp only [definition?, Node.element, Element.children_mk, hf]
  simp [typeAt?, hn, h, List.lookup]

theorem dataType_read (hg : g.WellLinked) {id : StructureId} (hid : id ∈ written settings g)
    {n : Node} (h : IsDataType settings g id n) :
    definition? (typeOf? settings g) n.element = some (definitionOf g id) := by
  obtain ⟨base, c, hb, h⟩ := h
  obtain ⟨name, type, hn, ht, rfl⟩ := dataType_ok h
  have hlt := reference_lt_size hg hid .baseType
    (by rw [hb]; simp [Body.references] : (_, base) ∈ _)
  have hname := typeOf?_of_typeName hg (lt_size_of_mem_written hid) hn
  have hparts := simpleParts?_restriction (typeOf?_of_typeRefName hg hlt ht) c
  rw [definition?_branch _ hname (by simp [Node.elements, restriction_element])
    (by rw [parts?, if_pos rfl, hparts])]
  simp [definitionOf, hb]

theorem simpleContent_read (hg : g.WellLinked) {id : StructureId} (hid : id ∈ written settings g)
    {name : String} (hn : typeName settings (g.get id) = .ok name) {slots : List Slot}
    (hs : AttributeSlots settings g slots) {value : TypeRef}
    (hv : ∀ id ∈ value.target?, id < g.size) {n : Node}
    (h : simpleContent settings g name (g.get id) slots value = .ok n) :
    definition? (typeOf? settings g) n.element =
      some ⟨.declared id, false, .simple value .none, slots.map (useOf g)⟩ := by
  obtain ⟨base, attributes, hb, ha, rfl⟩ := simpleContent_ok h
  have hname := typeOf?_of_typeName hg (lt_size_of_mem_written hid) hn
  have hbase := typeOf?_of_typeRefName hg hv hb
  cases slots with
  | nil =>
    -- without attributes it is a restriction that adds nothing
    have hparts : simpleParts? (typeOf? settings g)
        (Node.elements [.leaf "xs:restriction" [("base", base)]]) =
          some (.simple value .none, []) :=
      simpleParts?_restriction hbase .none
    rw [List.isEmpty_nil, if_pos rfl, definition?_branch _ hname
      (by simp [Node.elements, Node.element]) (by rw [parts?, if_pos rfl, hparts])]
    simp
  | cons slot slots =>
    obtain ⟨-, huses⟩ := attributeNodes_read hg hs ha
    have hparts : complexParts? (typeOf? settings g) (Node.elements
        [.branch "xs:simpleContent" [] [.branch "xs:extension" [("base", base)] attributes]]) =
          some (.simple value .none, (slot :: slots).map (useOf g)) := by
      simp only [Node.element, Node.elements, complexParts?, Element.tag_mk, Element.children_mk,
        List.isEmpty_nil, if_true, extensionParts?, huses]
      simp [typeAt?, List.lookup, hbase]
    rw [List.isEmpty_cons, if_neg (by simp), definition?_branch _ hname
      (by simp [Node.elements, Node.element]) (by rw [parts?, if_neg (by simp), hparts])]
    simp

theorem complexParts?_attributes {types : String → Option TypeRef} {es : List Element}
    {uses : List AttributeUse} (ht : ∀ e ∈ es, e.tag = "xs:attribute")
    (h : es.mapM (attributeUse? types) = some uses) :
    complexParts? types es = some (.empty, uses) := by
  cases es with
  | nil =>
    obtain rfl : [] = uses := by simpa using h
    rfl
  | cons e es =>
    have he : e.tag = "xs:attribute" := ht e (by simp)
    have hc : compositor? "xs:attribute" = none := by simp [compositor?]
    rw [complexParts?, he, if_neg (by simp), hc]
    simp only [h]
    rfl

theorem complexContent_read (hg : g.WellLinked) {id : StructureId} (hid : id ∈ written settings g)
    {name : String} (hn : typeName settings (g.get id) = .ok name) {slots : List Slot}
    (hs : AttributeSlots settings g slots) {group : Group} (hp : group.particles ≠ [])
    (hc : ∀ slot ∈ group.slots, slot.target < g.size) {n : Node}
    (h : complexContent settings g name (g.get id) slots group = .ok n) :
    definition? (typeOf? settings g) n.element =
      some ⟨.declared id, group.mixed, .group group.compositor (termsOf g group.particles),
        slots.map (useOf g)⟩ := by
  obtain ⟨members, attributes, hm, ha, rfl⟩ := complexContent_ok h
  have hname := typeOf?_of_typeName hg (lt_size_of_mem_written hid) hn
  obtain ⟨htags, huses⟩ := attributeNodes_read hg hs ha
  have hterms := particles_read hg group.particles members hc hm
  have hne : compositorTag group.compositor ≠ "xs:annotation" ∧
      compositorTag group.compositor ≠ "xs:simpleContent" := by
    cases group.compositor <;> simp [compositorTag]
  -- the group comes first, so that its tag tells a type with children from one without
  let first := Node.branch (compositorTag group.compositor) [] members
  have hparts : complexParts? (typeOf? settings g) (Node.elements (first :: attributes)) =
      some (.group group.compositor (termsOf g group.particles), slots.map (useOf g)) := by
    rw [Node.elements, complexParts?, Node.element, Element.tag_mk, if_neg hne.2,
      compositor?_compositorTag]
    simp [hterms, huses]
  have hempty : group.particles.isEmpty = false := by simpa using hp
  have hnotes : ∀ e ∈ Node.elements (first :: attributes), e.tag ≠ "xs:annotation" := by
    intro e he
    rcases List.mem_cons.mp he with rfl | he
    · exact hne.1
    · rw [htags e he]
      decide
  rw [hempty, if_neg Bool.false_ne_true, List.append_assoc, List.singleton_append,
    definition?_branch _ hname hnotes (by rw [parts?, if_neg (by simp), hparts])]
  cases group.mixed <;> simp

theorem emptyContent_read (hg : g.WellLinked) {id : StructureId} (hid : id ∈ written settings g)
    {name : String} (hn : typeName settings (g.get id) = .ok name) {slots : List Slot}
    (hs : AttributeSlots settings g slots) {attributes : List Node}
    (ha : attributeNodes settings g slots = .ok attributes) :
    definition? (typeOf? settings g)
        (if slots.isEmpty then described "xs:complexType" [("name", name)] (g.get id)
          else .branch "xs:complexType" [("name", name)]
            (documentation (g.get id) ++ attributes)).element =
      some ⟨.declared id, false, .empty, slots.map (useOf g)⟩ := by
  obtain ⟨htags, huses⟩ := attributeNodes_read hg hs ha
  have hname := typeOf?_of_typeName hg (lt_size_of_mem_written hid) hn
  have hsame : (if slots.isEmpty then described "xs:complexType" [("name", name)] (g.get id)
      else .branch "xs:complexType" [("name", name)]
        (documentation (g.get id) ++ attributes)).element =
      (Node.branch "xs:complexType" [("name", name)]
        (documentation (g.get id) ++ attributes)).element := by
    cases slots with
    | nil =>
      obtain rfl : [] = attributes := by simpa [attributeNodes] using ha
      rw [List.isEmpty_nil, if_pos rfl, described_element, List.append_nil]
    | cons slot slots => rfl
  rw [hsame, definition?_branch _ hname (fun e he => by rw [htags e he]; decide)
    (by rw [parts?, if_neg (by simp), complexParts?_attributes htags huses])]
  rfl

theorem element_read (hg : g.WellLinked) {id : StructureId} (hid : id ∈ written settings g)
    (hp : ∀ root slots content, (g.get id).body = .element root slots content →
      content.Populated) {n : Node} (h : IsElement settings g id n) :
    definition? (typeOf? settings g) n.element = some (definitionOf g id) := by
  obtain ⟨root, slots, content, hb, h⟩ := h
  obtain ⟨name, hn, h⟩ := element_ok h
  have hslots := attributeSlots_of_element hg hid hb
  have hlt (place : Place) {t : TypeRef} (ht : (place, t) ∈ content.references) :=
    reference_lt_size hg hid place (by rw [hb]; exact List.mem_append_right _ ht)
  simp only [definitionOf, hb]
  cases content with
  | text => exact simpleContent_read hg hid hn hslots (by simp [TypeRef.target?]) h
  | value type =>
    exact simpleContent_read hg hid hn hslots (hlt .valueContent (by simp [Content.references])) h
  | empty =>
    obtain ⟨attributes, ha, rfl⟩ := h
    exact emptyContent_read hg hid hn hslots ha
  | children group =>
    have hgroup : group.particles ≠ [] := (hp _ _ _ hb).1
    refine complexContent_read hg hid hn hslots hgroup (fun slot hm => ?_) h
    exact hlt .childSlot (List.mem_map_of_mem hm) slot.target rfl

theorem root_read (hg : g.WellLinked) {id : StructureId} (hid : id ∈ g.rootElements) {n : Node}
    (h : IsRoot settings g id n) :
    root? (typeOf? settings g) n.element = some ((g.get id).tag, .declared id) := by
  obtain ⟨tag, type, ht, hn, rfl⟩ := h
  rw [tag_of_tagOf ht]
  simp [root?, Node.element, typeAt?, List.lookup,
    typeOf?_of_typeName hg (lt_size_of_mem_rootElements hid) hn]

theorem definitions_read (hg : g.WellLinked)
    (hp : ∀ id ∈ written settings g, ∀ root slots content,
      (g.get id).body = .element root slots content → content.Populated)
    {nodes : List Node} (h : Items settings g nodes) :
    ((h.types ++ h.elementTypes).map Node.element).mapM (definition? (typeOf? settings g)) =
      some ((defined settings g).map (definitionOf g)) := by
  refine mapM_of_forall₂ (List.forall₂_map_right_iff.mpr (List.rel_append ?_ ?_))
  · refine forall₂_imp_of_mem h.dataTypes fun id hid n hd => ?_
    exact dataType_read hg (List.mem_filter.mp hid).1 hd
  · refine forall₂_imp_of_mem h.elements fun id hid n he => ?_
    have hw := (List.mem_filter.mp hid).1
    exact element_read hg hw (hp id hw) he

theorem roots_read (hg : g.WellLinked) {nodes : List Node} (h : Items settings g nodes) :
    (h.roots.map Node.element).mapM (root? (typeOf? settings g)) =
      some (g.rootElements.map fun id => ((g.get id).tag, .declared id)) := by
  refine mapM_of_forall₂ (List.forall₂_map_right_iff.mpr ?_)
  exact forall₂_imp_of_mem h.rootElements fun id hid n hr => root_read hg hid hr

theorem schema?_items (hg : g.WellLinked)
    (hp : ∀ id ∈ written settings g, ∀ root slots content,
      (g.get id).body = .element root slots content → content.Populated)
    {nodes : List Node} (h : Items settings g nodes) :
    schema? (typeOf? settings g) [(schemaNode nodes).element] = some (schemaOf settings g) := by
  have htypes : (Node.elements nodes).filter isDefinition =
      (h.types ++ h.elementTypes).map Node.element := by
    rw [Node.elements_eq_map, List.filter_map, ← h.filter_types]
    simp only [Function.comp_def, isDefinition, Node.tag_element]
  have hroots : (Node.elements nodes).filter (·.tag = "xs:element") =
      h.roots.map Node.element := by
    rw [Node.elements_eq_map, List.filter_map, ← h.filter_roots]
    simp only [Function.comp_def, Node.tag_element]
  have hall : (Node.elements nodes).all
      (fun e => isDefinition e ∨ e.tag = "xs:element") = true := by
    rw [Node.elements_eq_map, List.all_eq_true]
    intro e he
    obtain ⟨n, hn, rfl⟩ := List.mem_map.mp he
    simpa [isDefinition, Node.tag_element] using h.tag_of_mem hn
  rw [schemaNode, Node.element, schema?, if_pos ⟨rfl, hall⟩, htypes, hroots,
    definitions_read hg hp h, roots_read hg h]
  rfl

end Reading

def vocabulary : List String :=
  ["xs:annotation", "xs:documentation", "xs:pattern", "xs:enumeration", "xs:minInclusive",
    "xs:maxInclusive", "xs:restriction", "xs:extension", "xs:simpleContent", "xs:sequence",
    "xs:choice", "xs:all", "xs:element", "xs:attribute", "xs:simpleType", "xs:complexType",
    "xs:schema", "xmlns:xs", "elementFormDefault", "value", "base", "name", "type", "minOccurs",
    "maxOccurs", "use", "default", "mixed"]

theorem isPlain_of_mem_vocabulary : ∀ name ∈ vocabulary, isPlain name = true := by
  decide +kernel

theorem StartTag.mem_vocabulary {settings : Settings} {g : Graph} {tag : String}
    {attributes : List Attribute} (h : StartTag settings g tag attributes) :
    tag ∈ vocabulary ∧ ∀ a ∈ attributes, a.1 ∈ vocabulary := by
  cases h with
  | facet value ht =>
    simp only [List.mem_cons, List.not_mem_nil, or_false] at ht
    rcases ht with rfl | rfl | rfl | rfl <;> simp [vocabulary]
  | derivation ht _ =>
    simp only [List.mem_cons, List.not_mem_nil, or_false] at ht
    rcases ht with rfl | rfl <;> simp [vocabulary]
  | group compositor => cases compositor <;> simp [vocabulary, compositorTag]
  | element c _ _ =>
    refine ⟨by simp [vocabulary], fun a ha => ?_⟩
    rcases List.mem_append.mp ha with ha | ha
    · simp only [List.mem_cons, List.not_mem_nil, or_false] at ha
      rcases ha with rfl | rfl <;> simp [vocabulary]
    · rcases key_of_mem_occurrenceAttributes ha with hk | hk <;> simp [hk, vocabulary]
  | attributeUse required default _ _ =>
    cases required <;> cases default <;> simp [attributeFields, vocabulary]
  | complexType mixed _ => cases mixed <;> simp [vocabulary]
  | _ => simp [vocabulary]

theorem StartTag.plain {settings : Settings} {g : Graph} {tag : String}
    {attributes : List Attribute} (h : StartTag settings g tag attributes) :
    PlainTag tag attributes :=
  ⟨isPlain_of_mem_vocabulary _ h.mem_vocabulary.1,
    fun a ha => isPlain_of_mem_vocabulary _ (h.mem_vocabulary.2 a ha)⟩

/-- Reading the document of a compiled schema, from its root element on, gives back every written
data type, every written element and the root elements, as the graph has them. -/
theorem read?_render {source : String} {c : Compiled} {settings : Settings} {text : String}
    (hc : compile source = .ok c) (hr : render settings c.graph = .ok text) :
    ∃ body, text = Xml.prolog (title? settings c.graph) ++ body ∧
      read? (typeOf? settings c.graph) body = some (schemaOf settings c.graph) := by
  have hg := compile_wellLinked hc
  cases hd : document settings c.graph with
  | error failure => simp [render, hd, Except.map] at hr
  | ok doc =>
    obtain rfl : doc.render settings.indent = text := by
      simpa [render, hd, Except.map] using hr
    obtain ⟨nodes, hi, rfl⟩ := document_eq_ok hd
    obtain ⟨parts⟩ := items_eq_ok hi
    refine ⟨_, Xml.Document.render_eq settings.indent _, ?_⟩
    have hplain : (schemaNode nodes).All PlainTag := by
      refine ⟨⟨by decide +kernel, by decide +kernel⟩, ?_⟩
      exact Node.AllOf.imp (fun _ _ => StartTag.plain) nodes (items_tagged hg parts)
    have hp : ∀ id ∈ written settings c.graph, ∀ root slots content,
        (c.graph.get id).body = .element root slots content → content.Populated :=
      fun id hid _ _ _ hb =>
        compile_populated hc (Graph.get_mem (lt_size_of_mem_written hid)) hb
    rw [read?, String.toList_ofList, Xml.elements?_lines settings.indent 0 hplain]
    exact schema?_items hg hp parts

/-- A schema with mixed content, a default that needs escapes, an open range and constraints. -/
def formSource : String :=
  "root element a \x7battributes: x (n < 2); allowedContent: [*any text*, b (n > 1)];\x7d
  element b \x7ballowedContent: w;\x7d attribute x \x7bdefaultValue: \"<&>\";\x7d
  dataType w \x7bbaseType: integer; minimumValue: -1; allowedValues: [0, 7];\x7d"

set_option maxRecDepth 3000 in
theorem read?_render_form :
    ∃ c text body, compile formSource = .ok c ∧ render .default c.graph = .ok text ∧
      text = Xml.prolog none ++ body ∧
      read? (typeOf? .default c.graph) body = some (schemaOf .default c.graph) := by
  obtain ⟨c, hc, ht⟩ := exists_compiled (String.toList_ofList : formSource.toList = _)
    (fun c => (render .default c.graph).toOption.isSome && title? .default c.graph == none)
    (by decide +kernel)
  simp only [Bool.and_eq_true, beq_iff_eq] at ht
  cases hr : render .default c.graph with
  | error failure => simp [hr, Except.toOption] at ht
  | ok text =>
    obtain ⟨body, hb, hread⟩ := read?_render hc hr
    rw [ht.2] at hb
    exact ⟨c, text, body, hc, hr, hb, hread⟩

end DocSchema.XmlSchema
