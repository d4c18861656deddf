import DocSchema.Proofs.XmlSchema.References
import DocSchema.Proofs.XmlSchema.RoundTrip

/-!
# What an XML Schema declares

A written element has one type in the document, and inside this type stands a declaration for each
of its slots: for attributes with their names, for children with their names and the types of their
structures. Root elements are declared at the top.
-/
namespace DocSchema

namespace Xml

mutual

/-- The elements inside an element, at any depth. -/
def Element.inside : Element → List Element
  | .mk _ _ children => Element.withInside children

def Element.withInside : List Element → List Element
  | [] => []
  | e :: es => e :: (e.inside ++ Element.withInside es)

end

theorem Element.withInside_append (es fs : List Element) :
    Element.withInside (es ++ fs) = Element.withInside es ++ Element.withInside fs := by
  induction es with
  | nil => rfl
  | cons e es ih => simp [Element.withInside, ih]

theorem Element.subset_withInside (es : List Element) : es ⊆ Element.withInside es := by
  induction es with
  | nil => simp
  | cons e es ih =>
    rw [Element.withInside]
    exact List.cons_subset_cons e (List.subset_append_of_subset_right _ ih)

theorem Node.attribute?_element (key : String) (n : Node) :
    n.element.attribute? key = n.attribute? key := by
  cases n <;> rfl

/-- A text that is read as one element after the lines in front of it. -/
def IsDocument (comment : Option String) (text : String) (root : Element) : Prop :=
  ∃ body, text = prolog comment ++ body ∧ elements? body.toList = some [root]

theorem isDocument_render (width : Nat) (comment : Option String) {n : Node}
    (h : n.All PlainTag) : IsDocument comment (Document.render width ⟨comment, n⟩) n.element := by
  refine ⟨_, Document.render_eq width ⟨comment, n⟩, ?_⟩
  rw [String.toList_ofList]
  exact elements?_lines width 0 h

end Xml

namespace XmlSchema

open Xml (Element Node)

def DeclaresElement (settings : Settings) (s : Structure) (tag : String) (d : Element) : Prop :=
  ∃ type, typeName settings s = .ok type ∧ d.tag = "xs:element" ∧
    d.attribute? "name" = some tag ∧ d.attribute? "type" = some type

def DeclaresAttribute (name : String) (d : Element) : Prop :=
  d.tag = "xs:attribute" ∧ d.attribute? "name" = some name

/-- The definition of a type. -/
def IsDefinition (d : Element) : Prop := d.tag = "xs:simpleType" ∨ d.tag = "xs:complexType"

/-- The type of a structure in a schema: the only definition under its type name. -/
structure IsTypeOf (settings : Settings) (s : Structure) (schema type : Element) : Prop where
  mem : type ∈ schema.children
  isDefinition : IsDefinition type
  name : ∃ name, typeName settings s = .ok name ∧ type.attribute? "name" = some name
  only : ∀ other ∈ schema.children, IsDefinition other →
    other.attribute? "name" = type.attribute? "name" → other = type

variable {settings : Settings} {g : Graph}

section Declarations

theorem child_declares {slot : Slot} {n : Node} (h : child settings g slot = .ok n) :
    DeclaresElement settings (g.get slot.target) (g.get slot.target).tag n.element := by
  obtain ⟨tag, type, ht, hn, rfl⟩ := child_ok h
  refine ⟨type, hn, rfl, ?_, ?_⟩
  · simp [Node.element, tag_of_tagOf ht]
  · simp [Node.element, List.lookup]

mutual

theorem particle_declares {owner : String} {slot : Slot} : (p : Particle) → ∀ n : Node,
    particle settings g owner p = .ok n → slot ∈ p.slots →
      ∃ d ∈ Element.withInside [n.element],
        DeclaresElement settings (g.get slot.target) (g.get slot.target).tag d
  | .element s => fun n h hs => by
    obtain rfl : slot = s := by simpa [Particle.slots] using hs
    exact ⟨n.element, by simp [Element.withInside], child_declares h⟩
  | .group compositor ps mixed => fun n h hs => by
    obtain ⟨ns, hps, rfl⟩ := particle_group_ok h
    obtain ⟨d, hd, hdecl⟩ := particles_declare ps ns hps (by simpa [Particle.slots] using hs)
    exact ⟨d, by simp [Element.withInside, Node.element, Element.inside, hd], hdecl⟩

theorem particles_declare {owner : String} {slot : Slot} : (ps : List Particle) →
    ∀ ns : List Node, particles settings g owner ps = .ok ns → slot ∈ Particle.slotsOf ps →
      ∃ d ∈ Element.withInside (Node.elements ns),
        DeclaresElement settings (g.get slot.target) (g.get slot.target).tag d
  | [] => fun ns _ hs => by simp [Particle.slotsOf] at hs
  | p :: ps => fun ns h hs => by
    obtain ⟨first, rest, hf, hr, rfl⟩ := particles_cons_ok h
    have hsplit : Element.withInside (Node.elements (first :: rest)) =
        Element.withInside [first.element] ++ Element.withInside (Node.elements rest) := by
      simp [Node.elements, Element.withInside]
    rw [Particle.slotsOf] at hs
    rw [hsplit]
    rcases List.mem_append.mp hs with hs | hs
    · obtain ⟨d, hd, hdecl⟩ := particle_declares p first hf hs
      exact ⟨d, List.mem_append_left _ hd, hdecl⟩
    · obtain ⟨d, hd, hdecl⟩ := particles_declare ps rest hr hs
      exact ⟨d, List.mem_append_right _ hd, hdecl⟩

end

theorem attributeNode_declares {slot : Slot} {ns : List Node} {valueType : TypeRef}
    {default : Option String} (hb : (g.get slot.target).body = .attribute valueType default)
    (h : attributeNode settings g slot = .ok ns) :
    ∃ d ∈ Node.elements ns, DeclaresAttribute (g.get slot.target).tag d := by
  obtain ⟨name, type, hn, -, rfl⟩ := attributeNode_ok hb h
  refine ⟨_, List.mem_cons_self, ?_, ?_⟩
  · rw [described_element]
    rfl
  · rw [described_element, tag_of_tagOf hn]
    simp [Node.element, attributeFields]

theorem attributeNodes_declare {slots : List Slot} {ns : List Node}
    (hslots : AttributeSlots settings g slots) (h : attributeNodes settings g slots = .ok ns) :
    ∀ slot ∈ slots, ∃ d ∈ Element.withInside (Node.elements ns),
      DeclaresAttribute (g.get slot.target).tag d := by
  induction slots generalizing ns with
  | nil => simp
  | cons s slots ih =>
    obtain ⟨first, rest, hf, hr, rfl⟩ := attributeNodes_cons_ok h
    rw [Node.elements_append, Element.withInside_append]
    refine List.forall_mem_cons.mpr ⟨?_, fun slot hs => ?_⟩
    · obtain ⟨-, valueType, default, hb⟩ := hslots s (by simp)
      obtain ⟨d, hd, hdecl⟩ := attributeNode_declares hb hf
      exact ⟨d, List.mem_append_left _ (Element.subset_withInside _ hd), hdecl⟩
    · obtain ⟨d, hd, hdecl⟩ := ih (fun s hm => hslots s (by simp [hm])) hr slot hs
      exact ⟨d, List.mem_append_right _ hd, hdecl⟩

/-- What the type of an element declares: its attributes and its children. -/
structure DeclaresSlots (settings : Settings) (g : Graph) (slots : List Slot) (content : Content)
    (type : Element) : Prop where
  isComplex : slots ≠ [] ∨ content.slots ≠ [] → type.tag = "xs:complexType"
  attributes : ∀ slot ∈ slots, ∃ d ∈ type.inside, DeclaresAttribute (g.get slot.target).tag d
  children : ∀ slot ∈ content.slots, ∃ d ∈ type.inside,
    DeclaresElement settings (g.get slot.target) (g.get slot.target).tag d

theorem simpleContent_declares {s : Structure} {slots : List Slot} {content : Content}
    {value : TypeRef} {name : String} {n : Node} (hslots : AttributeSlots settings g slots)
    (hc : content.slots = []) (h : simpleContent settings g name s slots value = .ok n) :
    DeclaresSlots settings g slots content n.element := by
  obtain ⟨base, attributes, -, ha, rfl⟩ := simpleContent_ok h
  have hdeclared := attributeNodes_declare hslots ha
  cases slots with
  | nil => exact ⟨by simp [hc], by simp, by simp [hc]⟩
  | cons first rest =>
    refine ⟨fun _ => rfl, fun slot hs => ?_, by simp [hc]⟩
    obtain ⟨d, hd, hdecl⟩ := hdeclared slot hs
    refine ⟨d, ?_, hdecl⟩
    simp [Node.element, Node.elements, Node.elements_append, Element.inside, Element.withInside,
      Element.withInside_append, hd]

theorem complexContent_declares {s : Structure} {slots : List Slot} {group : Group}
    {name : String} {n : Node} (hslots : AttributeSlots settings g slots)
    (h : complexContent settings g name s slots group = .ok n) :
    DeclaresSlots settings g slots (.children group) n.element := by
  obtain ⟨members, attributes, hm, ha, rfl⟩ := complexContent_ok h
  refine ⟨fun _ => rfl, fun slot hs => ?_, fun slot hs => ?_⟩
  · obtain ⟨d, hd, hdecl⟩ := attributeNodes_declare hslots ha slot hs
    refine ⟨d, ?_, hdecl⟩
    simp [Node.element, Node.elements_append, Element.inside, Element.withInside_append, hd]
  · obtain ⟨d, hd, hdecl⟩ := particles_declare group.particles members hm hs
    have hne : group.particles.isEmpty = false := by
      cases hp : group.particles with
      | nil => simp [Content.slots, Content.group?, Group.slots, hp, Particle.slotsOf] at hs
      | cons p ps => rfl
    refine ⟨d, ?_, hdecl⟩
    simp [Node.element, Node.elements, Node.elements_append, Element.inside, Element.withInside,
      Element.withInside_append, hne, hd]

theorem element_declares {s : Structure} {slots : List Slot} {content : Content} {n : Node}
    (hslots : AttributeSlots settings g slots)
    (h : element settings g s slots content = .ok n) :
    DeclaresSlots settings g slots content n.element := by
  obtain ⟨name, -, h⟩ := element_ok h
  cases content with
  | text => exact simpleContent_declares hslots rfl h
  | value type => exact simpleContent_declares hslots rfl h
  | children group => exact complexContent_declares hslots h
  | empty =>
    obtain ⟨attributes, ha, rfl⟩ := h
    have hdeclared := attributeNodes_declare hslots ha
    have hnone : Content.empty.slots = [] := rfl
    cases slots with
    | nil => exact ⟨by simp [hnone], by simp, by simp [hnone]⟩
    | cons first rest =>
      refine ⟨fun _ => rfl, fun slot hs => ?_, by simp [hnone]⟩
      obtain ⟨d, hd, hdecl⟩ := hdeclared slot hs
      refine ⟨d, ?_, hdecl⟩
      simp [Node.element, Node.elements_append, Element.inside, Element.withInside_append, hd]

end Declarations

section Documents

variable {nodes : List Node}

theorem mem_children_schemaNode {d : Element} :
    d ∈ (schemaNode nodes).element.children ↔ ∃ n ∈ nodes, n.element = d := by
  simp [schemaNode, Node.element, Node.elements_eq_map]

theorem exists_type (hg : g.WellLinked) (parts : Items settings g nodes) {id : StructureId}
    (hid : id ∈ written settings g) {root : Bool} {slots : List Slot} {content : Content}
    (hb : (g.get id).body = .element root slots content) :
    ∃ n, element settings g (g.get id) slots content = .ok n ∧
      IsTypeOf settings (g.get id) (schemaNode nodes).element n.element := by
  have hmem : id ∈ writtenOf settings g .element :=
    List.mem_filter.mpr ⟨hid, by simp [Structure.kind, hb, Body.kind]⟩
  obtain ⟨n, hn, he⟩ := exists_of_mem_left parts.elements hmem
  have hin : n ∈ nodes := by
    rw [parts.split]
    simp [hn]
  obtain ⟨htag, name, hname, hkey⟩ := he.defines
  have hnodup := nodup_names hg (definitions_forall₂ parts none)
  have hdefinition {m : Node} (hm : m ∈ nodes) (hd : IsDefinition m.element) :
      m ∈ definitions ⟨none, schemaNode nodes⟩ := by
    rw [IsDefinition, Node.tag_element] at hd
    exact List.mem_filter.mpr ⟨hm, by simpa using hd⟩
  have hown : IsDefinition n.element := by rwa [IsDefinition, Node.tag_element]
  refine ⟨n, ?_, mem_children_schemaNode.mpr ⟨n, hin, rfl⟩, hown, ⟨name, hname, ?_⟩, ?_⟩
  · obtain ⟨root', slots', content', hb', he⟩ := he
    obtain ⟨rfl, rfl, rfl⟩ : root = root' ∧ slots = slots' ∧ content = content' := by
      simpa [hb] using hb'
    exact he
  · rwa [Node.attribute?_element]
  · intro other hother hd heq
    obtain ⟨m, hm, rfl⟩ := mem_children_schemaNode.mp hother
    rw [Node.attribute?_element, Node.attribute?_element] at heq
    rw [List.inj_on_of_nodup_map hnodup (hdefinition hm hd) (hdefinition hin hown) heq]

theorem exists_isTypeOf (hg : g.WellLinked) (parts : Items settings g nodes) {id : StructureId}
    (hid : id ∈ written settings g) {root : Bool} {slots : List Slot} {content : Content}
    (hb : (g.get id).body = .element root slots content) :
    ∃ type, IsTypeOf settings (g.get id) (schemaNode nodes).element type ∧
      DeclaresSlots settings g slots content type := by
  obtain ⟨n, he, htype⟩ := exists_type hg parts hid hb
  exact ⟨n.element, htype, element_declares (attributeSlots_of_element hg hid hb) he⟩

theorem exists_global (parts : Items settings g nodes) {id : StructureId}
    (hid : id ∈ g.rootElements) : ∃ d ∈ (schemaNode nodes).element.children,
      DeclaresElement settings (g.get id) (g.get id).tag d := by
  obtain ⟨n, hn, tag, type, ht, htype, rfl⟩ := exists_of_mem_left parts.rootElements hid
  have hin : Node.leaf "xs:element" [("name", tag), ("type", type)] ∈ nodes := by
    rw [parts.split]
    exact List.mem_append_right _ hn
  refine ⟨_, mem_children_schemaNode.mpr ⟨_, hin, rfl⟩, type, htype, rfl, ?_, ?_⟩
  · simp [Node.element, tag_of_tagOf ht]
  · simp [Node.element, List.lookup]

theorem schemaNode_plain (hg : g.WellLinked) (parts : Items settings g nodes) :
    (schemaNode nodes).All Xml.PlainTag := by
  refine ⟨⟨by decide, by decide⟩, ?_⟩
  exact Node.AllOf.imp (fun _ _ => StartTag.plain) nodes (items_tagged hg parts)

end Documents

end XmlSchema

end DocSchema
