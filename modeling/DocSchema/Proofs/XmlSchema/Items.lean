import DocSchema.Proofs.Reach
import DocSchema.Proofs.Xml.Node
import DocSchema.Proofs.XmlSchema.Shapes

/-!
# The items of an XML Schema

The items of a document are the types of the written data types, the types of the written elements
and the root elements, one item each and in this order. What is written is closed under links.
-/
namespace DocSchema.XmlSchema

open Artifact (Failure)
open Xml (Node)

def written (settings : Settings) (g : Graph) : List StructureId :=
  g.ids.filter (Reach.ofRoots g g.rootElements settings.pruneUnreachable).contains

theorem lt_size_of_mem_written {settings : Settings} {g : Graph} {id : StructureId}
    (h : id ∈ written settings g) : id < g.size :=
  Graph.lt_size_of_mem_kept h

theorem lt_size_of_mem_rootElements {g : Graph} {id : StructureId} (h : id ∈ g.rootElements) :
    id < g.size :=
  Graph.lt_size_of_mem_roots (List.mem_filter.mp h).1

theorem root_mem_written {settings : Settings} {g : Graph} (hg : g.WellLinked) {id : StructureId}
    (h : id ∈ g.rootElements) : id ∈ written settings g :=
  hg.root_mem_kept (List.filter_subset_self _) h

theorem reference_mem_written {settings : Settings} {g : Graph} (hg : g.WellLinked)
    {id target : StructureId} (h : id ∈ written settings g) {place : Place} {t : TypeRef}
    (ht : (place, t) ∈ (g.get id).body.references) (hm : target ∈ t.target?) :
    target ∈ written settings g :=
  hg.reference_mem_kept h ht hm

theorem reference_lt_size {settings : Settings} {g : Graph} (hg : g.WellLinked)
    {id : StructureId} (h : id ∈ written settings g) (place : Place) {t : TypeRef}
    (ht : (place, t) ∈ (g.get id).body.references) : ∀ target ∈ t.target?, target < g.size :=
  fun _ hm => lt_size_of_mem_written (reference_mem_written hg h ht hm)

def AttributeSlots (settings : Settings) (g : Graph) (slots : List Slot) : Prop :=
  ∀ slot ∈ slots, slot.target ∈ written settings g ∧
    ∃ valueType default, (g.get slot.target).body = .attribute valueType default

theorem attributeSlots_of_element {settings : Settings} {g : Graph} (hg : g.WellLinked)
    {id : StructureId} (h : id ∈ written settings g) {root : Bool} {slots : List Slot}
    {content : Content} (hb : (g.get id).body = .element root slots content) :
    AttributeSlots settings g slots := by
  intro slot hs
  have hr : (.attributeSlot, slot.type) ∈ (g.get id).body.references := by
    rw [hb]
    exact List.mem_append_left _ (List.mem_map_of_mem hs)
  constructor
  · exact reference_mem_written hg h hr rfl
  · have ha := hg.admits _ (Graph.get_mem (lt_size_of_mem_written h)) _ hr
    have hk : (g.get slot.target).kind = .attribute := by
      simpa [Place.kinds] using ha.2
    rcases hb : (g.get slot.target).body with _ | ⟨valueType, default⟩ | _ | _ | _ | _ <;>
      simp [Structure.kind, hb, Body.kind] at hk
    exact ⟨valueType, default, rfl⟩

/-- The written structures of a kind, in declaration order. -/
def writtenOf (settings : Settings) (g : Graph) (kind : Kind) : List StructureId :=
  (written settings g).filter fun id => (g.get id).kind == kind

/-- The structures whose types a document defines, in the order of the definitions. -/
def defined (settings : Settings) (g : Graph) : List StructureId :=
  writtenOf settings g .dataType ++ writtenOf settings g .element

def IsDataType (settings : Settings) (g : Graph) (id : StructureId) (node : Node) : Prop :=
  ∃ base c, (g.get id).body = .dataType base c ∧ dataType settings g (g.get id) base c = .ok node

def IsElement (settings : Settings) (g : Graph) (id : StructureId) (node : Node) : Prop :=
  ∃ root slots content, (g.get id).body = .element root slots content ∧
    element settings g (g.get id) slots content = .ok node

def IsRoot (settings : Settings) (g : Graph) (id : StructureId) (node : Node) : Prop :=
  ∃ tag type, tagOf (g.get id) = .ok tag ∧ typeName settings (g.get id) = .ok type ∧
    node = .leaf "xs:element" [("name", tag), ("type", type)]

section Defines

variable {settings : Settings} {g : Graph} {id : StructureId} {n : Node}

/-- A node that defines the type of a structure under its type name. -/
structure Defines (settings : Settings) (g : Graph) (id : StructureId) (n : Node) : Prop where
  tag : n.tag = "xs:simpleType" ∨ n.tag = "xs:complexType"
  name : ∃ name, typeName settings (g.get id) = .ok name ∧ n.attribute? "name" = some name

theorem IsDataType.tag (h : IsDataType settings g id n) : n.tag = "xs:simpleType" := by
  obtain ⟨base, c, -, h⟩ := h
  obtain ⟨name, type, -, -, rfl⟩ := dataType_ok h
  rfl

theorem Defines.of_attributes {name : String} {more : List Xml.Attribute}
    (ht : n.tag = "xs:simpleType" ∨ n.tag = "xs:complexType")
    (hn : typeName settings (g.get id) = .ok name) (ha : n.attributes = ("name", name) :: more) :
    Defines settings g id n :=
  ⟨ht, name, hn, by simp [Node.attribute?, ha]⟩

theorem IsDataType.defines (h : IsDataType settings g id n) : Defines settings g id n := by
  obtain ⟨base, c, -, h⟩ := h
  obtain ⟨name, type, hn, -, rfl⟩ := dataType_ok h
  exact .of_attributes (.inl rfl) hn rfl

theorem IsElement.defines (h : IsElement settings g id n) : Defines settings g id n := by
  obtain ⟨root, slots, content, -, h⟩ := h
  obtain ⟨name, hn, h⟩ := element_ok h
  have simple {value : TypeRef}
      (h : simpleContent settings g name (g.get id) slots value = .ok n) :
      Defines settings g id n := by
    obtain ⟨base, attributes, -, -, rfl⟩ := simpleContent_ok h
    split_ifs
    · exact .of_attributes (.inl rfl) hn rfl
    · exact .of_attributes (.inr rfl) hn rfl
  cases content with
  | text => exact simple h
  | value type => exact simple h
  | empty =>
    obtain ⟨attributes, -, rfl⟩ := h
    unfold described
    split_ifs
    · split
      · exact .of_attributes (.inr rfl) hn rfl
      · exact .of_attributes (.inr rfl) hn rfl
    · exact .of_attributes (.inr rfl) hn rfl
  | children group =>
    obtain ⟨members, attributes, -, -, rfl⟩ := complexContent_ok h
    exact .of_attributes (.inr rfl) hn rfl

end Defines

theorem dataTypes_forall₂ {settings : Settings} {g : Graph} {ids : List StructureId}
    {nodes : List Node} (h : dataTypes settings g ids = .ok nodes) :
    List.Forall₂ (IsDataType settings g)
      (ids.filter fun id => (g.get id).kind == .dataType) nodes := by
  induction ids generalizing nodes with
  | nil =>
    obtain rfl : [] = nodes := by simpa [dataTypes] using h
    exact .nil
  | cons id ids ih =>
    rw [dataTypes] at h
    split at h
    · next base c hb =>
      obtain ⟨first, hf, h⟩ := bind_eq_ok.mp h
      obtain ⟨rest, hr, h⟩ := bind_eq_ok.mp h
      obtain rfl : first :: rest = nodes := by simpa using h
      rw [List.filter_cons_of_pos (by simp [Structure.kind, hb, Body.kind])]
      exact .cons ⟨base, c, hb, hf⟩ (ih hr)
    · next hb =>
      rw [List.filter_cons_of_neg]
      · exact ih h
      · cases hk : (g.get id).body <;> simp_all [Structure.kind, Body.kind]

theorem elements_forall₂ {settings : Settings} {g : Graph} {ids : List StructureId}
    {nodes : List Node} (h : elements settings g ids = .ok nodes) :
    List.Forall₂ (IsElement settings g)
      (ids.filter fun id => (g.get id).kind == .element) nodes := by
  induction ids generalizing nodes with
  | nil =>
    obtain rfl : [] = nodes := by simpa [elements] using h
    exact .nil
  | cons id ids ih =>
    rw [elements] at h
    split at h
    · next root slots content hb =>
      obtain ⟨first, hf, h⟩ := bind_eq_ok.mp h
      obtain ⟨rest, hr, h⟩ := bind_eq_ok.mp h
      obtain rfl : first :: rest = nodes := by simpa using h
      rw [List.filter_cons_of_pos (by simp [Structure.kind, hb, Body.kind])]
      exact .cons ⟨root, slots, content, hb, hf⟩ (ih hr)
    · next hb =>
      rw [List.filter_cons_of_neg]
      · exact ih h
      · cases hk : (g.get id).body <;> simp_all [Structure.kind, Body.kind]

theorem rootElements_forall₂ {settings : Settings} {g : Graph} {ids : List StructureId}
    {nodes : List Node} (h : rootElements settings g ids = .ok nodes) :
    List.Forall₂ (IsRoot settings g) ids nodes := by
  induction ids generalizing nodes with
  | nil =>
    obtain rfl : [] = nodes := by simpa [rootElements] using h
    exact .nil
  | cons id ids ih =>
    rw [rootElements] at h
    obtain ⟨tag, ht, h⟩ := bind_eq_ok.mp h
    obtain ⟨type, hn, h⟩ := bind_eq_ok.mp h
    obtain ⟨rest, hr, h⟩ := bind_eq_ok.mp h
    obtain rfl : _ :: rest = nodes := by simpa using h
    exact .cons ⟨tag, type, ht, hn, rfl⟩ (ih hr)

/-- The items of a document, part by part. -/
structure Items (settings : Settings) (g : Graph) (nodes : List Node) where
  types : List Node
  elementTypes : List Node
  roots : List Node
  split : nodes = types ++ elementTypes ++ roots
  dataTypes : List.Forall₂ (IsDataType settings g) (writtenOf settings g .dataType) types
  elements : List.Forall₂ (IsElement settings g) (writtenOf settings g .element) elementTypes
  rootElements : List.Forall₂ (IsRoot settings g) g.rootElements roots

namespace Items

variable {settings : Settings} {g : Graph} {nodes : List Node}

theorem tag_of_mem_types (h : Items settings g nodes) :
    ∀ n ∈ h.types ++ h.elementTypes, n.tag = "xs:simpleType" ∨ n.tag = "xs:complexType" := by
  intro n hm
  rcases List.mem_append.mp hm with hm | hm
  · obtain ⟨id, -, hd⟩ := exists_of_mem_right h.dataTypes hm
    exact hd.defines.tag
  · obtain ⟨id, -, he⟩ := exists_of_mem_right h.elements hm
    exact he.defines.tag

theorem tag_of_mem_roots (h : Items settings g nodes) : ∀ n ∈ h.roots, n.tag = "xs:element" := by
  intro n hm
  obtain ⟨id, -, tag, type, -, -, rfl⟩ := exists_of_mem_right h.rootElements hm
  rfl

theorem filter_types (h : Items settings g nodes) :
    nodes.filter (fun n => n.tag = "xs:simpleType" ∨ n.tag = "xs:complexType") =
      h.types ++ h.elementTypes := by
  have hr : ∀ n ∈ h.roots, ¬(n.tag = "xs:simpleType" ∨ n.tag = "xs:complexType") := by
    intro n hm
    simp [h.tag_of_mem_roots n hm]
  calc nodes.filter (fun n => n.tag = "xs:simpleType" ∨ n.tag = "xs:complexType")
      = (h.types ++ h.elementTypes ++ h.roots).filter
          fun n => n.tag = "xs:simpleType" ∨ n.tag = "xs:complexType" :=
        congrArg (List.filter _) h.split
    _ = h.types ++ h.elementTypes := by
        rw [List.filter_append, List.filter_eq_self.mpr (by simpa using h.tag_of_mem_types),
          List.filter_eq_nil_iff.mpr (by simpa using hr), List.append_nil]

theorem filter_roots (h : Items settings g nodes) :
    nodes.filter (·.tag = "xs:element") = h.roots := by
  have ht : ∀ n ∈ h.types ++ h.elementTypes, ¬n.tag = "xs:element" := by
    intro n hm
    rcases h.tag_of_mem_types n hm with ht | ht <;> simp [ht]
  calc nodes.filter (·.tag = "xs:element")
      = (h.types ++ h.elementTypes ++ h.roots).filter (·.tag = "xs:element") :=
        congrArg (List.filter _) h.split
    _ = h.roots := by
        rw [List.filter_append, List.filter_eq_nil_iff.mpr (by simpa using ht),
          List.filter_eq_self.mpr (by simpa using h.tag_of_mem_roots), List.nil_append]

theorem tag_of_mem (h : Items settings g nodes) {n : Node} (hn : n ∈ nodes) :
    (n.tag = "xs:simpleType" ∨ n.tag = "xs:complexType") ∨ n.tag = "xs:element" := by
  rw [h.split] at hn
  exact (List.mem_append.mp hn).imp (h.tag_of_mem_types n) (h.tag_of_mem_roots n)

end Items

theorem items_eq_ok {settings : Settings} {g : Graph} {nodes : List Node}
    (h : items settings g = .ok nodes) : Nonempty (Items settings g nodes) := by
  obtain ⟨_, -, h⟩ := bind_eq_ok.mp h
  obtain ⟨types, ht, h⟩ := bind_eq_ok.mp h
  obtain ⟨elementTypes, he, h⟩ := bind_eq_ok.mp h
  obtain ⟨roots, hr, h⟩ := bind_eq_ok.mp h
  obtain rfl : types ++ elementTypes ++ roots = nodes := by simpa using h
  exact ⟨types, elementTypes, roots, rfl, dataTypes_forall₂ ht, elements_forall₂ he,
    rootElements_forall₂ hr⟩

def title? (settings : Settings) (g : Graph) : Option String :=
  (settings.titleFor g.formatName).map fun title => s!"An XSD file for {title}."

def schemaNode (nodes : List Node) : Node :=
  .branch "xs:schema"
    [("xmlns:xs", "http://www.w3.org/2001/XMLSchema"), ("elementFormDefault", "qualified")] nodes

theorem document_eq_ok {settings : Settings} {g : Graph} {doc : Xml.Document}
    (h : document settings g = .ok doc) :
    ∃ nodes, items settings g = .ok nodes ∧ doc = ⟨title? settings g, schemaNode nodes⟩ := by
  obtain ⟨nodes, hn, h⟩ := bind_eq_ok.mp h
  exact ⟨nodes, hn, by simpa [title?, schemaNode] using h.symm⟩

end DocSchema.XmlSchema
