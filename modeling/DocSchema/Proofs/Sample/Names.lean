import DocSchema.Proofs.Members
import DocSchema.Proofs.Sample.Run
import DocSchema.Proofs.Xml.Names
import DocSchema.Proofs.XmlSchema.Declarations
import DocSchema.Proofs.XmlSchema.Expressible

/-!
# Names of sample documents

A sample checks no name. Its names are right only because every structure that it shows is also
written in the XML Schema, where names and collisions are checked: a sample starts at a root element
and goes on along element slots, and what is written is closed under links. So whatever stands in an
element of a sample is declared in the type of its structure.
-/
namespace DocSchema.Sample

open Xml (Element NamedTag IsDocument)
open XmlSchema

theorem tag_node (g : Graph) (i : Instance) : (i.node g).tag = (g.get i.id).tag := by
  cases i <;> rfl

theorem attributes_names {g : Graph} {slots : List Slot} {given : List Xml.Attribute}
    (h : attributes g slots = .ok given) :
    given.map (·.1) = slots.map fun slot => (g.get slot.target).tag := by
  induction slots generalizing given with
  | nil =>
    cases h
    rfl
  | cons slot slots ih =>
    obtain ⟨value, -, h⟩ := bind_eq_ok.mp h
    obtain ⟨rest, hr, h⟩ := bind_eq_ok.mp h
    cases h
    simp [ih hr]

/-- What an instance shows is declared in the type of its structure. -/
structure DeclaredIn (settings : Settings) (g : Graph) (type : Element) (i : Instance) : Prop where
  isComplex : i.attributes ≠ [] ∨ i.children ≠ [] → type.tag = "xs:complexType"
  attributes : ∀ a ∈ i.attributes, ∃ d ∈ type.inside, DeclaresAttribute a.1 d
  children : ∀ c ∈ i.children, ∃ d ∈ type.inside,
    DeclaresElement settings (g.get c.id) (c.node g).tag d

section Written

variable {settings : Settings} {g : Graph} {opened : List StructureId} {i : Instance}

theorem Made.child_mem_written (hg : g.WellLinked) (h : Made g opened i)
    (hid : i.id ∈ written settings g) {c : Instance} (hc : c ∈ i.children) :
    c.id ∈ written settings g := by
  obtain ⟨root, slots, content, hb⟩ := exists_element_body h.isElement
  obtain ⟨-, slot, hs, heq⟩ := h.child hg hc
  rw [Structure.content_eq hb] at hs
  rw [← heq]
  exact (childSlots_of_element hg hid hb slot hs).1

theorem Made.within_mem_written (hg : g.WellLinked) {root : Instance} (h : Made g [] root)
    (hid : root.id ∈ written settings g) {above : List StructureId} (hi : root.Within above i) :
    i.id ∈ written settings g := by
  induction hi with
  | root => exact hid
  | child hwithin hc ih => exact (h.within hg hwithin).child_mem_written hg ih hc

def AttributesOnce (g : Graph) : Prop :=
  ∀ s ∈ g.structures, ∀ root slots content, s.body = .element root slots content →
    (slots.map (·.target)).Nodup

theorem Made.namedTag (he : Expressible settings g) (ho : AttributesOnce g) (h : Made g opened i)
    (hid : i.id ∈ written settings g) : NamedTag (g.get i.id).tag i.attributes := by
  obtain ⟨root, slots, content, hb⟩ := exists_element_body h.isElement
  have hnames := attributes_names (h.filled hb).1
  have hexpr := he.elements i.id hid root slots content hb
  refine .of_accepted ?_ ?_
  · rw [hnames]
    refine List.forall_mem_cons.mpr ⟨hexpr.tag, ?_⟩
    simpa using hexpr.attributeTags
  · have honce := ho _ (Graph.get_mem h.bound) root slots content hb
    have htags := honce.map_on fun a ha b hb' hab => hexpr.attributesDistinct a ha b hb' hab
    rw [hnames]
    simpa [Function.comp_def] using htags

mutual

theorem node_named (hg : g.WellLinked) (he : Expressible settings g) (ho : AttributesOnce g) :
    (i : Instance) → ∀ opened, Made g opened i → i.id ∈ written settings g →
      (i.node g).All NamedTag
  | .leaf .. => fun _ h hid => h.namedTag he ho hid
  | .text .. => fun _ h hid => h.namedTag he ho hid
  | .branch id _ children => fun opened h hid =>
    ⟨h.namedTag he ho hid, nodesOf_named hg he ho children (id :: opened)
      (fun _ hc => (h.child hg hc).1) fun _ hc => h.child_mem_written hg hid hc⟩

theorem nodesOf_named (hg : g.WellLinked) (he : Expressible settings g) (ho : AttributesOnce g) :
    (is : List Instance) → ∀ opened, (∀ i ∈ is, Made g opened i) →
      (∀ i ∈ is, i.id ∈ written settings g) → Xml.Node.AllOf NamedTag (Instance.nodesOf g is)
  | [] => fun _ _ _ => trivial
  | i :: is => fun opened hm hw =>
    ⟨node_named hg he ho i opened (hm i (by simp)) (hw i (by simp)),
      nodesOf_named hg he ho is opened (fun j hj => hm j (by simp [hj]))
        fun j hj => hw j (by simp [hj])⟩

end

theorem Made.declaredIn (hg : g.WellLinked) (h : Made g opened i) {root : Bool}
    {slots : List Slot} {content : Content}
    (hb : (g.get i.id).body = .element root slots content) {type : Element}
    (ht : DeclaresSlots settings g slots content type) : DeclaredIn settings g type i := by
  have hnames := attributes_names (h.filled hb).1
  have hslot {c : Instance} (hc : c ∈ i.children) : ∃ slot ∈ content.slots, slot.target = c.id := by
    obtain ⟨-, hs⟩ := h.child hg hc
    rwa [Structure.content_eq hb] at hs
  refine ⟨fun hne => ht.isComplex (hne.imp ?_ ?_), fun a ha => ?_, fun c hc => ?_⟩
  · rintro hne rfl
    exact hne (by simpa using hnames)
  · intro hne hnil
    obtain ⟨c, hc⟩ := List.exists_mem_of_ne_nil _ hne
    obtain ⟨slot, hs, -⟩ := hslot hc
    simp [hnil] at hs
  · have hmem : a.1 ∈ slots.map fun slot => (g.get slot.target).tag := by
      rw [← hnames]
      exact List.mem_map_of_mem ha
    obtain ⟨slot, hs, heq⟩ := List.mem_map.mp hmem
    rw [← heq]
    exact ht.attributes slot hs
  · obtain ⟨slot, hs, heq⟩ := hslot hc
    rw [tag_node, ← heq]
    exact ht.children slot hs

end Written

theorem compile_attributesOnce {source : String} {c : Compiled} (h : compile source = .ok c) :
    AttributesOnce c.graph := by
  obtain ⟨lexed, declarations, definitions, -, -, herrors, hs⟩ := compile_declared h
  intro s hm root slots content hb
  rw [hs] at hm
  obtain ⟨d, hd, rfl⟩ := List.mem_map.mp hm
  exact (Link.body_attributes (herrors d hd) hb).2

/-- Where a graph is written both as an XML Schema and as a sample document, both texts are read as
one element each. All names of the sample are accepted, and each is a name of the grammar without a
colon unless it has one of the letters and numbers that the grammar leaves out; no tag repeats an
attribute. The root of the sample is declared at the top of the schema, and whatever stands in an
element of the sample is declared in the type of its structure: attributes by their names, elements
by their names and the types of their structures. -/
theorem names_declared {source : String} {c : Compiled} {settings : Settings}
    {name : Option String} {schema text : String} (hc : compile source = .ok c)
    (hs : XmlSchema.render settings c.graph = .ok schema)
    (ht : render settings c.graph name = .ok text) :
    ∃ (root : Instance) (top : Element),
      Sample.root c.graph name = .ok root.id ∧ instances c.graph name = .ok [root] ∧
      IsDocument none text (root.node c.graph).element ∧
      IsDocument (title? settings c.graph) schema top ∧
      (root.node c.graph).All NamedTag ∧
      (∃ d ∈ top.children,
        DeclaresElement settings (c.graph.get root.id) (root.node c.graph).tag d) ∧
      ∀ above i, root.Within above i → ∃ type,
        IsTypeOf settings (c.graph.get i.id) top type ∧ DeclaredIn settings c.graph type i := by
  have hg := compile_wellLinked hc
  have he : Expressible settings c.graph := by
    have ho := render_outcome settings hg
    rwa [hs] at ho
  obtain ⟨doc, hd, rfl⟩ := map_eq_ok.mp hs
  obtain ⟨nodes, hi, rfl⟩ := document_eq_ok hd
  obtain ⟨parts⟩ := items_eq_ok hi
  obtain ⟨root, hroot, hshown, hmade, rfl⟩ := render_eq_ok ht
  have hmem := root_mem_rootElements hroot
  have hwritten : root.id ∈ written settings c.graph := root_mem_written hg hmem
  have hnamed := node_named hg he (compile_attributesOnce hc) root [] hmade hwritten
  refine ⟨root, (schemaNode nodes).element, hroot, hshown, ?_, ?_, hnamed, ?_, ?_⟩
  · exact Xml.isDocument_render _ _ (Xml.Node.All.imp (fun _ _ => NamedTag.plain) _ hnamed)
  · exact Xml.isDocument_render _ _ (schemaNode_plain hg parts)
  · rw [tag_node]
    exact exists_global parts hmem
  · intro above i hwithin
    have hm := hmade.within hg hwithin
    obtain ⟨isRoot, slots, content, hb⟩ := exists_element_body hm.isElement
    have hid := hmade.within_mem_written hg hwritten hwithin
    obtain ⟨type, htype, hslots⟩ := exists_isTypeOf hg parts hid hb
    exact ⟨type, htype, hm.declaredIn hg hb hslots⟩

/-- A schema with an attribute, an element under another tag and an element that holds itself. -/
def relabelledSource : String :=
  "root element a \x7battributes: x; allowedContent: [b, a];\x7d attribute x \x7b\x7d
  element b \x7btagName: \"c\";\x7d"

set_option maxRecDepth 4000 in
theorem names_declared_relabelled :
    ∃ c schema text, compile relabelledSource = .ok c ∧
      XmlSchema.render .default c.graph = .ok schema ∧ render .default c.graph none = .ok text ∧
      ∃ (root : Instance) (top : Element), root.attributes.length = 1 ∧
        root.children.length = 1 ∧ IsDocument none text (root.node c.graph).element ∧
        IsDocument (title? .default c.graph) schema top ∧ ∃ type,
          IsTypeOf .default (c.graph.get root.id) top type ∧
          DeclaredIn .default c.graph type root := by
  obtain ⟨c, hc, ht⟩ := exists_compiled (String.toList_ofList : relabelledSource.toList = _)
    (fun c => (XmlSchema.render .default c.graph).toOption.isSome &&
      (render .default c.graph none).toOption.isSome &&
      ((instances c.graph none).toOption.getD []).all fun i =>
        i.attributes.length == 1 && i.children.length == 1) (by decide)
  simp only [Bool.and_eq_true, Option.isSome_iff_exists, toOption_eq_some, List.all_eq_true,
    beq_iff_eq] at ht
  obtain ⟨⟨⟨schema, hs⟩, text, hd⟩, hshown⟩ := ht
  obtain ⟨root, top, -, hi, htext, hschema, -, -, hdeclared⟩ := names_declared hc hs hd
  have hroot := hshown root (by simp [hi, Except.toOption])
  exact ⟨c, schema, text, hc, hs, hd, root, top, hroot.1, hroot.2, htext, hschema,
    hdeclared [] root .root⟩

/-- A schema whose root element has a tag with a letter that no name has. -/
def ordinalSource : String := "root element number \x7btagName: \"nº\";\x7d"

def ordinalText : String := "<?xml version=\"1.0\" encoding=\"UTF-8\"?>\n<nº/>\n"

set_option maxRecDepth 4000 in
/-- Such a tag is accepted and written. -/
theorem names_declared_not_ncName :
    ∃ c schema, compile ordinalSource = .ok c ∧ XmlSchema.render .default c.graph = .ok schema ∧
      render .default c.graph none = .ok ordinalText ∧
      Xml.Grammar.isNCName "nº".toList = false := by
  obtain ⟨c, hc, ht⟩ := exists_compiled (String.toList_ofList : ordinalSource.toList = _)
    (fun c => (XmlSchema.render .default c.graph).toOption.isSome &&
      (render .default c.graph none).toOption == some ordinalText) (by decide)
  simp only [Bool.and_eq_true, Option.isSome_iff_exists, beq_iff_eq, toOption_eq_some] at ht
  obtain ⟨⟨schema, hs⟩, hd⟩ := ht
  exact ⟨c, schema, hc, hs, hd, by decide⟩

end DocSchema.Sample
