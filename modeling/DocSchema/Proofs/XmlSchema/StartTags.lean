import DocSchema.Proofs.XmlSchema.Items

/-!
# The tags of an XML Schema

A document is written by many functions, but it has few forms of tag. Every type that a tag refers
to is built in or written itself, since what is written is closed under links.
-/
namespace DocSchema.XmlSchema

open Artifact (Failure)
open Xml (Node Attribute)

/-- A name that some written structure, or a built-in type, goes by. -/
def Refers (settings : Settings) (g : Graph) (v : String) : Prop :=
  ∃ t : TypeRef, typeRefName settings g t = .ok v ∧ ∀ id ∈ t.target?, id ∈ written settings g

def RefersBase (settings : Settings) (g : Graph) (v : String) : Prop :=
  ∃ t : TypeRef, typeRefName settings g t = .ok v ∧
    ∀ id ∈ t.target?, id ∈ written settings g ∧ (g.get id).kind = .dataType

/-- The forms of tag in a document. -/
inductive StartTag (settings : Settings) (g : Graph) : String → List Attribute → Prop where
  | remark : StartTag settings g "xs:annotation" []
  | documentation : StartTag settings g "xs:documentation" []
  | facet {tag : String} (value : String)
      (h : tag ∈ ["xs:pattern", "xs:enumeration", "xs:minInclusive", "xs:maxInclusive"]) :
      StartTag settings g tag [("value", value)]
  | derivation {tag base : String} (h : tag ∈ ["xs:restriction", "xs:extension"])
      (hb : RefersBase settings g base) : StartTag settings g tag [("base", base)]
  | simpleContent : StartTag settings g "xs:simpleContent" []
  | group (compositor : Compositor) : StartTag settings g (compositorTag compositor) []
  | element {tag type : String} (c : Cardinality) (hn : Xml.isName tag = true)
      (ht : Refers settings g type) :
      StartTag settings g "xs:element" ([("name", tag), ("type", type)] ++ occurrenceAttributes c)
  | attributeUse {tag type : String} (required : Bool) (default : Option String)
      (hn : Xml.isName tag = true) (ht : Refers settings g type) :
      StartTag settings g "xs:attribute" (attributeFields required default tag type)
  | simpleType {name : String} (hn : Xml.isName name = true) :
      StartTag settings g "xs:simpleType" [("name", name)]
  | complexType {name : String} (mixed : Bool) (hn : Xml.isName name = true) :
      StartTag settings g "xs:complexType"
        (("name", name) :: if mixed then [("mixed", "true")] else [])

theorem isName_of_tagOf {s : Structure} {tag : String} (h : tagOf s = .ok tag) :
    Xml.isName tag = true := by
  unfold tagOf at h
  split_ifs at h with hn
  cases h
  exact hn

theorem isName_of_typeName {settings : Settings} {s : Structure} {name : String}
    (h : typeName settings s = .ok name) : Xml.isName name = true := by
  obtain ⟨_, -, -, hn⟩ := typeName_eq_ok.mp h
  exact hn

section Tags

variable {settings : Settings} {g : Graph}

theorem refers_of_reference (hg : g.WellLinked) {id : StructureId}
    (hid : id ∈ written settings g) (place : Place) {t : TypeRef}
    (ht : (place, t) ∈ (g.get id).body.references) {v : String}
    (h : typeRefName settings g t = .ok v) : Refers settings g v :=
  ⟨t, h, fun _ hm => reference_mem_written hg hid ht hm⟩

theorem refersBase_of_reference (hg : g.WellLinked) {id : StructureId}
    (hid : id ∈ written settings g) (place : Place) (hp : place.kinds = [.dataType]) {t : TypeRef}
    (ht : (place, t) ∈ (g.get id).body.references) {v : String}
    (h : typeRefName settings g t = .ok v) : RefersBase settings g v := by
  refine ⟨t, h, fun target hm => ⟨reference_mem_written hg hid ht hm, ?_⟩⟩
  have ha := hg.admits _ (Graph.get_mem (lt_size_of_mem_written hid)) _ ht
  cases t with
  | primitive p => simp [TypeRef.target?] at hm
  | declared id' =>
    obtain rfl : id' = target := by simpa [TypeRef.target?] using hm
    simpa [Graph.Admits, hp] using ha.2

abbrev Tagged (settings : Settings) (g : Graph) (ns : List Node) : Prop :=
  Node.AllOf (StartTag settings g) ns

theorem documentation_tagged (s : Structure) : Tagged settings g (documentation s) := by
  unfold documentation
  split
  · exact ⟨⟨.remark, .documentation, trivial⟩, trivial⟩
  · trivial

theorem described_tagged {tag : String} {attributes : List Attribute} (s : Structure)
    (h : StartTag settings g tag attributes) :
    (described tag attributes s).All (StartTag settings g) := by
  unfold described
  split
  · exact h
  · exact ⟨h, documentation_tagged s⟩

theorem facets_tagged (c : Constraints) : Tagged settings g (facets c) := by
  refine Node.allOf_iff.mpr fun n hn => ?_
  simp only [facets, List.mem_append, List.mem_map] at hn
  rcases hn with ((⟨v, -, rfl⟩ | ⟨v, -, rfl⟩) | ⟨v, -, rfl⟩) | ⟨v, -, rfl⟩
  all_goals exact .facet _ (by simp)

theorem restriction_tagged {base : String} (h : RefersBase settings g base) (c : Constraints) :
    (restriction base c).All (StartTag settings g) := by
  have ht : StartTag settings g "xs:restriction" [("base", base)] := .derivation (by simp) h
  unfold restriction
  split_ifs
  · exact ht
  · exact ⟨ht, facets_tagged c⟩

theorem attributeNode_tagged (hg : g.WellLinked) {slot : Slot} {ns : List Node}
    (hs : slot.target ∈ written settings g) {valueType : TypeRef} {default : Option String}
    (hb : (g.get slot.target).body = .attribute valueType default)
    (h : attributeNode settings g slot = .ok ns) : Tagged settings g ns := by
  obtain ⟨name, type, hn, ht, rfl⟩ := attributeNode_ok hb h
  have hr : Refers settings g type :=
    refers_of_reference hg hs .attributeType (by rw [hb]; simp [Body.references]) ht
  exact ⟨described_tagged _ (.attributeUse _ _ (isName_of_tagOf hn) hr), trivial⟩

theorem attributeNodes_tagged (hg : g.WellLinked) {slots : List Slot} {ns : List Node}
    (hs : AttributeSlots settings g slots) (h : attributeNodes settings g slots = .ok ns) :
    Tagged settings g ns := by
  induction slots generalizing ns with
  | nil =>
    obtain rfl : [] = ns := by simpa [attributeNodes] using h
    trivial
  | cons slot slots ih =>
    obtain ⟨first, rest, hf, hr, rfl⟩ := attributeNodes_cons_ok h
    obtain ⟨hw, valueType, default, hb⟩ := hs slot (by simp)
    exact Node.allOf_append.mpr
      ⟨attributeNode_tagged hg hw hb hf, ih (fun s hm => hs s (by simp [hm])) hr⟩

theorem child_tagged {slot : Slot} {n : Node} (hs : slot.target ∈ written settings g)
    (h : child settings g slot = .ok n) : n.All (StartTag settings g) := by
  obtain ⟨tag, type, hn, ht, rfl⟩ := child_ok h
  exact .element _ (isName_of_tagOf hn)
    ⟨.declared slot.target, ht, by simpa [TypeRef.target?] using hs⟩

mutual

theorem particle_tagged {owner : String} : (p : Particle) → ∀ n : Node,
    (∀ slot ∈ p.slots, slot.target ∈ written settings g) →
      particle settings g owner p = .ok n → n.All (StartTag settings g)
  | .element slot => fun n hs h => child_tagged (hs slot (by simp [Particle.slots])) h
  | .group compositor ps mixed => by
    intro n hs h
    obtain ⟨ns, hn, rfl⟩ := particle_group_ok h
    have hps : ∀ slot ∈ Particle.slotsOf ps, slot.target ∈ written settings g := by
      simpa [Particle.slots] using hs
    exact ⟨.group compositor, particles_tagged ps ns hps hn⟩

theorem particles_tagged {owner : String} : (ps : List Particle) → ∀ ns : List Node,
    (∀ slot ∈ Particle.slotsOf ps, slot.target ∈ written settings g) →
      particles settings g owner ps = .ok ns → Tagged settings g ns
  | [] => by
    intro ns _ h
    obtain rfl : [] = ns := by simpa [particles] using h
    trivial
  | p :: ps => by
    intro ns hs h
    obtain ⟨first, rest, hf, hr, rfl⟩ := particles_cons_ok h
    simp only [Particle.slotsOf, List.mem_append] at hs
    exact ⟨particle_tagged p first (fun slot hm => hs slot (.inl hm)) hf,
      particles_tagged ps rest (fun slot hm => hs slot (.inr hm)) hr⟩

end

theorem dataType_tagged (hg : g.WellLinked) {id : StructureId} (hid : id ∈ written settings g)
    {n : Node} (h : IsDataType settings g id n) : n.All (StartTag settings g) := by
  obtain ⟨base, c, hb, h⟩ := h
  obtain ⟨name, type, hn, ht, rfl⟩ := dataType_ok h
  have hr : RefersBase settings g type :=
    refersBase_of_reference hg hid .baseType rfl (by rw [hb]; simp [Body.references]) ht
  exact ⟨.simpleType (isName_of_typeName hn), Node.allOf_append.mpr
    ⟨documentation_tagged _, restriction_tagged hr c, trivial⟩⟩

theorem simpleContent_tagged {name : String} {s : Structure} {slots : List Slot} {value : TypeRef}
    (hg : g.WellLinked) (hn : Xml.isName name = true) (hs : AttributeSlots settings g slots)
    (hv : ∀ v, typeRefName settings g value = .ok v → RefersBase settings g v) {n : Node}
    (h : simpleContent settings g name s slots value = .ok n) : n.All (StartTag settings g) := by
  obtain ⟨base, attributes, hb, ha, rfl⟩ := simpleContent_ok h
  have hr := hv base hb
  split_ifs
  · exact ⟨.simpleType hn, Node.allOf_append.mpr
      ⟨documentation_tagged s, .derivation (by simp) hr, trivial⟩⟩
  · have hext : Tagged settings g [.branch "xs:extension" [("base", base)] attributes] :=
      ⟨⟨.derivation (by simp) hr, attributeNodes_tagged hg hs ha⟩, trivial⟩
    exact ⟨.complexType false hn, Node.allOf_append.mpr
      ⟨documentation_tagged s, ⟨.simpleContent, hext⟩, trivial⟩⟩

theorem complexContent_tagged {name : String} {s : Structure} {slots : List Slot} {group : Group}
    (hg : g.WellLinked) (hn : Xml.isName name = true) (hs : AttributeSlots settings g slots)
    (hc : ∀ slot ∈ group.slots, slot.target ∈ written settings g) {n : Node}
    (h : complexContent settings g name s slots group = .ok n) : n.All (StartTag settings g) := by
  obtain ⟨members, attributes, hm, ha, rfl⟩ := complexContent_ok h
  have hinner : Tagged settings g (if group.particles.isEmpty then []
      else [.branch (compositorTag group.compositor) [] members]) := by
    split_ifs
    · trivial
    · exact ⟨⟨.group group.compositor, particles_tagged _ _ hc hm⟩, trivial⟩
  exact ⟨.complexType group.mixed hn, Node.allOf_append.mpr
    ⟨Node.allOf_append.mpr ⟨documentation_tagged s, hinner⟩, attributeNodes_tagged hg hs ha⟩⟩

theorem element_tagged (hg : g.WellLinked) {id : StructureId} (hid : id ∈ written settings g)
    {n : Node} (h : IsElement settings g id n) : n.All (StartTag settings g) := by
  obtain ⟨root, slots, content, hb, h⟩ := h
  obtain ⟨name, hn, h⟩ := element_ok h
  have hn := isName_of_typeName hn
  have hslots := attributeSlots_of_element hg hid hb
  have href {place : Place} {t : TypeRef} (ht : (place, t) ∈ content.references) :
      (place, t) ∈ (g.get id).body.references := by
    rw [hb]
    exact List.mem_append_right _ ht
  cases content with
  | text =>
    refine simpleContent_tagged hg hn hslots (fun v hv => ⟨.default, hv, ?_⟩) h
    simp [TypeRef.default, TypeRef.target?]
  | value type =>
    exact simpleContent_tagged hg hn hslots (fun v hv =>
      refersBase_of_reference hg hid .valueContent rfl (href (by simp [Content.references])) hv) h
  | empty =>
    obtain ⟨attributes, ha, rfl⟩ := h
    split_ifs
    · exact described_tagged _ (.complexType false hn)
    · exact ⟨.complexType false hn, Node.allOf_append.mpr
        ⟨documentation_tagged _, attributeNodes_tagged hg hslots ha⟩⟩
  | children group =>
    refine complexContent_tagged hg hn hslots (fun slot hm => ?_) h
    exact reference_mem_written hg hid (href (List.mem_map_of_mem hm)) rfl

theorem root_tagged (hg : g.WellLinked) {id : StructureId} (hid : id ∈ g.rootElements) {n : Node}
    (h : IsRoot settings g id n) : n.All (StartTag settings g) := by
  obtain ⟨tag, type, hn, ht, rfl⟩ := h
  -- a root element says nothing about how often it occurs, as a child that occurs once
  exact .element .one (isName_of_tagOf hn)
    ⟨.declared id, ht, by simpa [TypeRef.target?] using root_mem_written hg hid⟩

theorem items_tagged (hg : g.WellLinked) {nodes : List Node} (h : Items settings g nodes) :
    Tagged settings g nodes := by
  refine Node.allOf_iff.mpr fun n hn => ?_
  rw [h.split] at hn
  rcases List.mem_append.mp hn with hn | hn
  · rcases List.mem_append.mp hn with hn | hn
    · obtain ⟨id, hid, hd⟩ := exists_of_mem_right h.dataTypes hn
      exact dataType_tagged hg (List.mem_filter.mp hid).1 hd
    · obtain ⟨id, hid, he⟩ := exists_of_mem_right h.elements hn
      exact element_tagged hg (List.mem_filter.mp hid).1 he
  · obtain ⟨id, hid, hr⟩ := exists_of_mem_right h.rootElements hn
    exact root_tagged hg hid hr

end Tags

end DocSchema.XmlSchema
