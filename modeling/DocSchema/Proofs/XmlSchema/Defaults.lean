import DocSchema.Proofs.Pruning
import DocSchema.Proofs.Warnings
import DocSchema.Proofs.XmlSchema.Declarations

/-!
# Defaults in an XML Schema

The type of an element holds one declaration for each attribute, in order, and no others. A default
is left out where the attribute occurs exactly once. As an attribute that is required occurs exactly
once, the defaults that are left out are those that a warning tells of.
-/
namespace DocSchema

namespace Xml

mutual

theorem Node.All.withInside {P : String → List Attribute → Prop} : (n : Node) → n.All P →
    ∀ e ∈ Element.withInside [n.element], P e.tag e.attributes
  | .leaf tag attributes => fun h => by
    simpa [Node.element, Element.withInside, Element.inside, Node.All] using h
  | .text tag attributes content => fun h => by
    simpa [Node.element, Element.withInside, Element.inside, Node.All] using h
  | .branch tag attributes children => fun h e he => by
    rw [Node.element, Element.withInside, Element.inside, Element.withInside, List.append_nil,
      List.mem_cons] at he
    rcases he with rfl | he
    · exact h.1
    · exact Node.AllOf.withInside children h.2 e he

theorem Node.AllOf.withInside {P : String → List Attribute → Prop} : (ns : List Node) →
    Node.AllOf P ns → ∀ e ∈ Element.withInside (Node.elements ns), P e.tag e.attributes
  | [] => fun _ => by simp [Node.elements, Element.withInside]
  | n :: ns => fun h e he => by
    have hsplit : Element.withInside (Node.elements (n :: ns)) =
        Element.withInside [n.element] ++ Element.withInside (Node.elements ns) := by
      simp [Node.elements, Element.withInside]
    rw [hsplit] at he
    rcases List.mem_append.mp he with he | he
    · exact Node.All.withInside n h.1 e he
    · exact Node.AllOf.withInside ns h.2 e he

end

end Xml

namespace XmlSchema

open Xml (Element Node Attribute)

/-- The declarations of attributes in a type, at any depth. -/
def attributesOf (type : Element) : List Element := type.inside.filter (·.tag = "xs:attribute")

def attributesIn (ns : List Node) : List Element :=
  (Element.withInside (Node.elements ns)).filter (·.tag = "xs:attribute")

theorem attributesOf_branch (tag : String) (attributes : List Attribute) (ns : List Node) :
    attributesOf (Node.branch tag attributes ns).element = attributesIn ns := by
  rw [attributesOf, Node.element, Element.inside, attributesIn]

theorem attributesIn_append (ns ms : List Node) :
    attributesIn (ns ++ ms) = attributesIn ns ++ attributesIn ms := by
  simp only [attributesIn, Node.elements_append, Element.withInside_append, List.filter_append]

theorem attributesIn_branch {tag : String} (ht : tag ≠ "xs:attribute")
    (attributes : List Attribute) (ns : List Node) :
    attributesIn [.branch tag attributes ns] = attributesIn ns := by
  simp [attributesIn, Node.elements, Node.element, Element.withInside, Element.inside, ht]

abbrev Others (ns : List Node) : Prop := Node.AllOf (fun tag _ => tag ≠ "xs:attribute") ns

theorem attributesIn_others {ns : List Node} (h : Others ns) : attributesIn ns = [] := by
  refine List.filter_eq_nil_iff.mpr fun e he => ?_
  simpa using Node.AllOf.withInside ns h e he

theorem documentation_others (s : Structure) : Others (documentation s) := by
  have hnote : "xs:annotation" ≠ "xs:attribute" := by decide
  have htext : "xs:documentation" ≠ "xs:attribute" := by decide
  unfold documentation
  split
  · exact ⟨⟨hnote, htext, trivial⟩, trivial⟩
  · trivial

variable {settings : Settings} {g : Graph}

mutual

theorem particle_others {owner : String} : (p : Particle) → ∀ n : Node,
    particle settings g owner p = .ok n → Others [n]
  | .element slot => fun n h => by
    obtain ⟨tag, type, -, -, rfl⟩ := child_ok h
    have hchild : "xs:element" ≠ "xs:attribute" := by decide
    exact ⟨hchild, trivial⟩
  | .group compositor ps mixed => fun n h => by
    obtain ⟨ns, hps, rfl⟩ := particle_group_ok h
    refine ⟨⟨?_, particles_others ps ns hps⟩, trivial⟩
    cases compositor <;> decide

theorem particles_others {owner : String} : (ps : List Particle) → ∀ ns : List Node,
    particles settings g owner ps = .ok ns → Others ns
  | [] => fun ns h => by
    obtain rfl : [] = ns := by simpa [particles] using h
    trivial
  | p :: ps => fun ns h => by
    obtain ⟨first, rest, hf, hr, rfl⟩ := particles_cons_ok h
    exact ⟨(particle_others p first hf).1, particles_others ps rest hr⟩

end

theorem simpleContent_attributes {s : Structure} {slots : List Slot} {value : TypeRef}
    {name : String} {n : Node} (h : simpleContent settings g name s slots value = .ok n) :
    ∃ ns, attributeNodes settings g slots = .ok ns ∧
      attributesOf n.element = attributesIn ns := by
  have hdocs := attributesIn_others (documentation_others s)
  obtain ⟨base, ns, -, ha, rfl⟩ := simpleContent_ok h
  refine ⟨ns, ha, ?_⟩
  cases slots with
  | nil =>
    obtain rfl : [] = ns := by simpa [attributeNodes] using ha
    have hbase : "xs:restriction" ≠ "xs:attribute" := by decide
    have hnone : attributesIn [.leaf "xs:restriction" [("base", base)]] = [] :=
      attributesIn_others ⟨hbase, trivial⟩
    rw [List.isEmpty_nil, if_pos rfl, attributesOf_branch, attributesIn_append, hdocs, hnone]
    rfl
  | cons slot slots =>
    rw [List.isEmpty_cons, if_neg Bool.false_ne_true, attributesOf_branch, attributesIn_append,
      hdocs, attributesIn_branch (by decide), attributesIn_branch (by decide), List.nil_append]

theorem complexContent_attributes {s : Structure} {slots : List Slot} {group : Group}
    {name : String} {n : Node} (h : complexContent settings g name s slots group = .ok n) :
    ∃ ns, attributeNodes settings g slots = .ok ns ∧
      attributesOf n.element = attributesIn ns := by
  obtain ⟨members, ns, hm, ha, rfl⟩ := complexContent_ok h
  have hinner : attributesIn (if group.particles.isEmpty then []
      else [.branch (compositorTag group.compositor) [] members]) = [] := by
    split_ifs
    · rfl
    · rw [attributesIn_branch (by cases group.compositor <;> decide),
        attributesIn_others (particles_others _ _ hm)]
  refine ⟨ns, ha, ?_⟩
  rw [attributesOf_branch, attributesIn_append, attributesIn_append, hinner,
    attributesIn_others (documentation_others s), List.append_nil, List.nil_append]

theorem element_attributes {s : Structure} {slots : List Slot} {content : Content} {n : Node}
    (h : element settings g s slots content = .ok n) :
    ∃ ns, attributeNodes settings g slots = .ok ns ∧
      attributesOf n.element = attributesIn ns := by
  obtain ⟨name, -, h⟩ := element_ok h
  cases content with
  | text => exact simpleContent_attributes h
  | value type => exact simpleContent_attributes h
  | children group => exact complexContent_attributes h
  | empty =>
    have hdocs := attributesIn_others (documentation_others s)
    obtain ⟨ns, ha, rfl⟩ := h
    refine ⟨ns, ha, ?_⟩
    cases slots with
    | nil =>
      obtain rfl : [] = ns := by simpa [attributeNodes] using ha
      rw [List.isEmpty_nil, if_pos rfl, described_element, attributesOf_branch, hdocs]
      rfl
    | cons slot slots =>
      rw [List.isEmpty_cons, if_neg Bool.false_ne_true, attributesOf_branch, attributesIn_append,
        hdocs, List.nil_append]

/-- What is written of an attribute: its name, and its default unless it occurs exactly once. -/
structure DeclaresDefault (g : Graph) (slot : Slot) (d : Element) : Prop where
  declares : DeclaresAttribute (g.get slot.target).tag d
  default : d.attribute? "default" =
    if slot.cardinality.isExactlyOne then none else (g.get slot.target).default?

theorem lookup_attributeFields (required : Bool) (default : Option String) (name type : String) :
    (attributeFields required default name type).lookup "default" =
      if required then none else default := by
  cases required <;> cases default <;> simp [attributeFields, List.lookup]

theorem attributesIn_described (attributes : List Attribute) (s : Structure) :
    attributesIn [described "xs:attribute" attributes s] =
      [(described "xs:attribute" attributes s).element] := by
  have hdocs : (Element.withInside (Node.elements (documentation s))).filter
      (·.tag = "xs:attribute") = [] := attributesIn_others (documentation_others s)
  rw [attributesIn, Node.elements, Node.elements, described_element]
  simp only [Node.element, Element.withInside, Element.inside, List.append_nil, Element.tag_mk,
    List.filter_cons_of_pos, decide_true, hdocs]

theorem attributeNode_default {slot : Slot} {ns : List Node} {valueType : TypeRef}
    {default : Option String} (hb : (g.get slot.target).body = .attribute valueType default)
    (h : attributeNode settings g slot = .ok ns) :
    ∃ d, attributesIn ns = [d] ∧ DeclaresDefault g slot d := by
  obtain ⟨name, type, hn, -, rfl⟩ := attributeNode_ok hb h
  have hdefault : (g.get slot.target).default? = default := by simp [Structure.default?, hb]
  refine ⟨_, attributesIn_described _ _, ⟨?_, ?_⟩, ?_⟩
  · rw [described_element]
    rfl
  · rw [described_element, tag_of_tagOf hn]
    simp [Node.element, attributeFields]
  · rw [described_element, hdefault]
    exact lookup_attributeFields ..

theorem attributeNodes_default {slots : List Slot} {ns : List Node}
    (hslots : AttributeSlots settings g slots) (h : attributeNodes settings g slots = .ok ns) :
    List.Forall₂ (DeclaresDefault g) slots (attributesIn ns) := by
  induction slots generalizing ns with
  | nil =>
    obtain rfl : [] = ns := by simpa [attributeNodes] using h
    exact .nil
  | cons slot slots ih =>
    obtain ⟨first, rest, hf, hr, rfl⟩ := attributeNodes_cons_ok h
    obtain ⟨-, valueType, default, hb⟩ := hslots slot (by simp)
    obtain ⟨d, hd, hdefault⟩ := attributeNode_default hb hf
    rw [attributesIn_append, hd]
    exact .cons hdefault (ih (fun s hm => hslots s (by simp [hm])) hr)

/-- What the warnings say of a default, and what its declaration says. -/
structure AgreesOnDefault (warnings : List String) (warning default : String) (d : Element) :
    Prop where
  missing_iff : d.attribute? "default" = none ↔ warning ∈ warnings
  once : warning ∈ warnings → warnings.count warning = 1
  given : warning ∉ warnings → d.attribute? "default" = some default

theorem DeclaresDefault.agrees {source : String} {c : Compiled} (hc : compile source = .ok c)
    {id : StructureId} {slot : Slot} (hs : slot ∈ (c.graph.get id).attributes) {d : Element}
    (h : DeclaresDefault c.graph slot d) {default : String}
    (hd : (c.graph.get slot.target).default? = some default) :
    AgreesOnDefault c.messages (unusedDefaultMessage (c.graph.get slot.target).reference
      (c.graph.get id).reference default) default d := by
  have hmem := message_mem_iff hc hs hd
  have hid := Graph.lt_size_of_mem_attributes hs
  have hrequired := (compile_attributes hc (Graph.get_mem hid)).2 slot hs
  have hdefault := h.default
  rw [hd, hrequired] at hdefault
  refine ⟨?_, fun hin => ?_, fun hout => ?_⟩
  · rw [hmem, hdefault]
    cases slot.cardinality.isRequired <;> simp
  · exact le_antisymm (count_messages_le_one hc ..) (List.count_pos_iff.mpr hin)
  · rw [hdefault, if_neg (mt hmem.mpr hout)]

/-- An XML Schema and the warnings of a compilation agree on defaults. Where all elements are
written, the type of each of them declares its attributes in order, and the default of one of them
is missing there exactly if a warning tells that it is never used. There is one such warning then,
and every such warning is about one attribute of one element. -/
theorem default_missing_iff_warned {source : String} {c : Compiled} {settings : Settings}
    {text : String} (hc : compile source = .ok c)
    (hx : render (settings.pruning false) c.graph = .ok text) :
    ∃ schema, Xml.IsDocument (title? settings c.graph) text schema ∧
      (∀ id ∈ c.graph.ofKind .element, ∃ type,
        IsTypeOf settings (c.graph.get id) schema type ∧
        List.Forall₂ (fun slot d => DeclaresAttribute (c.graph.get slot.target).tag d ∧
            ∀ default ∈ (c.graph.get slot.target).default?,
              AgreesOnDefault c.messages (unusedDefaultMessage (c.graph.get slot.target).reference
                (c.graph.get id).reference default) default d)
          (c.graph.get id).attributes (attributesOf type)) ∧
      ∀ warning ∈ c.messages,
        (∃ name owner default, warning = unusedDefaultMessage name owner default) →
          ∃! use : StructureId × Slot, use.2 ∈ (c.graph.get use.1).attributes ∧
            ∃ default ∈ (c.graph.get use.2.target).default?,
              warning = unusedDefaultMessage (c.graph.get use.2.target).reference
                (c.graph.get use.1).reference default := by
  have hg := compile_wellLinked hc
  obtain ⟨doc, hd, rfl⟩ := map_eq_ok.mp hx
  obtain ⟨nodes, hi, rfl⟩ := document_eq_ok hd
  obtain ⟨parts⟩ := items_eq_ok hi
  refine ⟨(schemaNode nodes).element, Xml.isDocument_render _ _ (schemaNode_plain hg parts),
    fun id hid => ?_, ?_⟩
  · have hkind := List.mem_filter.mp hid
    obtain ⟨root, slots, content, hb⟩ := exists_element_body (by simpa using hkind.2)
    have hw : id ∈ written (settings.pruning false) c.graph := by
      rw [written_unpruned]
      exact hkind.1
    obtain ⟨n, he, htype⟩ := exists_type hg parts hw hb
    obtain ⟨ns, ha, huses⟩ := element_attributes he
    have hslots : (c.graph.get id).attributes = slots := by simp [Structure.attributes, hb]
    -- the names of types do not depend on what is written
    refine ⟨n.element, ⟨htype.mem, htype.isDefinition, htype.name, htype.only⟩, ?_⟩
    rw [hslots, huses]
    refine forall₂_imp_of_mem (attributeNodes_default (attributeSlots_of_element hg hw hb) ha) ?_
    intro slot hs d hd
    exact ⟨hd.declares, fun default hdefault => hd.agrees hc (by rwa [hslots]) hdefault⟩
  · rintro _ hm ⟨name, owner, default, rfl⟩
    obtain ⟨s, hs, hin⟩ := (mem_messages_iff hc).mp hm
    obtain ⟨slot, hslot, -, default', hd, he⟩ := Graph.mem_unusedDefaults.mp hin
    obtain ⟨id, rfl⟩ := Graph.exists_get_of_mem hs
    refine ⟨(id, slot), ⟨hslot, default', hd, he.symm⟩, ?_⟩
    rintro ⟨id', slot'⟩ ⟨hslot', default'', hd', he'⟩
    obtain ⟨rfl, rfl⟩ := slot_eq_of_message_eq hc hslot' hslot hd' hd (he'.symm.trans he.symm)
    rfl

/-- An element whose attributes all have defaults: one is required, one may be left out and one is
never given. -/
def defaultsSource : String :=
  "root element a \x7battributes: \x7bx, x, y (optional), z (n = 0)\x7d;\x7d
  attribute x \x7bdefaultValue: '`1';\x7d attribute y \x7bdefaultValue: 2;\x7d
  attribute z \x7bdefaultValue: '3';\x7d"

set_option maxRecDepth 4000 in
theorem default_missing_iff_warned_listed :
    ∃ c text, compile defaultsSource = .ok c ∧
      render (Settings.default.pruning false) c.graph = .ok text ∧ c.messages.length = 2 ∧
      (c.graph.get 0).attributes.map (·.cardinality) = [.one, .optional, .exactly 0] ∧
      ((c.graph.get 0).attributes.all fun slot => (c.graph.get slot.target).default?.isSome) ∧
      ∃ schema, Xml.IsDocument (title? .default c.graph) text schema ∧
        ∃ type, IsTypeOf .default (c.graph.get 0) schema type ∧
        List.Forall₂ (fun slot d => DeclaresAttribute (c.graph.get slot.target).tag d ∧
            ∀ default ∈ (c.graph.get slot.target).default?,
              AgreesOnDefault c.messages (unusedDefaultMessage (c.graph.get slot.target).reference
                (c.graph.get 0).reference default) default d)
          (c.graph.get 0).attributes (attributesOf type) := by
  obtain ⟨c, hc, ht⟩ := exists_compiled (String.toList_ofList : defaultsSource.toList = _)
    (fun c => (render (Settings.default.pruning false) c.graph).toOption.isSome &&
      c.messages.length == 2 &&
      (c.graph.get 0).attributes.map (·.cardinality) == [.one, .optional, .exactly 0] &&
      ((c.graph.get 0).attributes.all fun slot => (c.graph.get slot.target).default?.isSome) &&
      c.graph.ofKind .element == [0]) (by decide)
  simp only [Bool.and_eq_true, Option.isSome_iff_exists, toOption_eq_some, beq_iff_eq] at ht
  obtain ⟨⟨⟨⟨⟨text, hx⟩, hmessages⟩, hslots⟩, hdefaults⟩, helements⟩ := ht
  obtain ⟨schema, hschema, htypes, -⟩ := default_missing_iff_warned hc hx
  exact ⟨c, text, hc, hx, hmessages, hslots, hdefaults, schema, hschema,
    htypes 0 (by simp [helements])⟩

end XmlSchema

end DocSchema
