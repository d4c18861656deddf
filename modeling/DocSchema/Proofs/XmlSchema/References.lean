import DocSchema.Proofs.XmlSchema.StartTags

/-!
# References of an XML Schema resolve

Every type that a document refers to by name is built in or defined in the document exactly once,
and what it restricts or extends is a simple type. References are written in many places, but each
of them names a built-in type or a written structure, since what is written is closed under links.
-/
namespace DocSchema.XmlSchema

open Artifact (Failure)
open Xml (Node valuesAt)

/-- The definitions of types at the top of a document. -/
def definitions (doc : Xml.Document) : List Node :=
  doc.root.children.filter fun n => n.tag = "xs:simpleType" ∨ n.tag = "xs:complexType"

def builtinNames : List String := ["xs:string", "xs:integer", "xs:decimal", "xs:boolean"]

theorem valuesAt_occurrenceAttributes {key : String} (hmin : key ≠ "minOccurs")
    (hmax : key ≠ "maxOccurs") (c : Cardinality) : valuesAt key (occurrenceAttributes c) = [] := by
  unfold valuesAt
  rw [List.map_eq_nil_iff, List.filter_eq_nil_iff]
  intro a ha
  rcases key_of_mem_occurrenceAttributes ha with hk | hk <;> simp [hk, hmin.symm, hmax.symm]

/-- Only children, attributes and root elements have a type. -/
theorem StartTag.refers {settings : Settings} {g : Graph} {tag v : String}
    {attributes : List Xml.Attribute} (h : StartTag settings g tag attributes)
    (hv : v ∈ valuesAt "type" attributes) : Refers settings g v := by
  cases h with
  | element c _ ht =>
    rw [Xml.valuesAt_append, valuesAt_occurrenceAttributes (by decide) (by decide)] at hv
    obtain rfl : v = _ := by simpa [valuesAt] using hv
    exact ht
  | attributeUse required default _ ht =>
    obtain rfl : v = _ := by
      cases required <;> cases default <;> simpa [attributeFields, valuesAt] using hv
    exact ht
  | complexType mixed _ => cases mixed <;> simp [valuesAt] at hv
  | _ => simp [valuesAt] at hv

/-- Only restrictions and extensions have a base. -/
theorem StartTag.refersBase {settings : Settings} {g : Graph} {tag v : String}
    {attributes : List Xml.Attribute} (h : StartTag settings g tag attributes)
    (hv : v ∈ valuesAt "base" attributes) : RefersBase settings g v := by
  cases h with
  | derivation _ hb =>
    obtain rfl : v = _ := by simpa [valuesAt] using hv
    exact hb
  | element c _ _ =>
    rw [Xml.valuesAt_append, valuesAt_occurrenceAttributes (by decide) (by decide)] at hv
    simp [valuesAt] at hv
  | attributeUse required default _ _ =>
    cases required <;> cases default <;> simp [attributeFields, valuesAt] at hv
  | complexType mixed _ => cases mixed <;> simp [valuesAt] at hv
  | _ => simp [valuesAt] at hv

section Names

variable {settings : Settings} {g : Graph} {id : StructureId} {n : Node}

theorem mem_defined (hid : id ∈ written settings g) {name : String}
    (hn : typeName settings (g.get id) = .ok name) : id ∈ defined settings g := by
  obtain ⟨mark, hm, -⟩ := typeName_eq_ok.mp hn
  cases hk : (g.get id).kind <;> simp [hk, typeMark?] at hm
  · exact List.mem_append_right _ (List.mem_filter.mpr ⟨hid, by simp [hk]⟩)
  · exact List.mem_append_left _ (List.mem_filter.mpr ⟨hid, by simp [hk]⟩)

theorem nodup_defined (settings : Settings) (g : Graph) : (defined settings g).Nodup := by
  have hw : (written settings g).Nodup := List.nodup_range.filter _
  refine (hw.filter _).append (hw.filter _) ?_
  intro id hd he
  have hd := (List.mem_filter.mp hd).2
  have he := (List.mem_filter.mp he).2
  simp_all

theorem definitions_eq {nodes : List Node} (h : Items settings g nodes) (comment : Option String) :
    definitions ⟨comment, schemaNode nodes⟩ = h.types ++ h.elementTypes :=
  h.filter_types

theorem definitions_forall₂ {nodes : List Node} (h : Items settings g nodes)
    (comment : Option String) :
    List.Forall₂ (Defines settings g) (defined settings g)
      (definitions ⟨comment, schemaNode nodes⟩) := by
  rw [definitions_eq]
  exact List.rel_append (h.dataTypes.imp fun _ _ => IsDataType.defines)
    (h.elements.imp fun _ _ => IsElement.defines)

theorem names_eq {ids : List StructureId} {ns : List Node}
    (h : List.Forall₂ (Defines settings g) ids ns) :
    ns.map (·.attribute? "name") = ids.map fun id => (typeName settings (g.get id)).toOption := by
  induction h with
  | nil => rfl
  | cons hd _ ih =>
    obtain ⟨name, hn, ha⟩ := hd.name
    simp [hn, ha, ih, Except.toOption]

theorem nodup_names (hg : g.WellLinked) {ns : List Node}
    (h : List.Forall₂ (Defines settings g) (defined settings g) ns) :
    (ns.map (·.attribute? "name")).Nodup := by
  rw [names_eq h]
  refine (nodup_defined settings g).map_on ?_
  intro a ha b hb hab
  obtain ⟨na, -, da⟩ := exists_of_mem_left h ha
  obtain ⟨nb, -, db⟩ := exists_of_mem_left h hb
  obtain ⟨name, hn, -⟩ := da.name
  obtain ⟨name', hn', -⟩ := db.name
  obtain rfl : name = name' := by simpa [hn, hn', Except.toOption] using hab
  have hlt {id : StructureId} (hid : id ∈ defined settings g) : id < g.size := by
    rcases List.mem_append.mp hid with hid | hid
    · exact lt_size_of_mem_written (List.mem_filter.mp hid).1
    · exact lt_size_of_mem_written (List.mem_filter.mp hid).1
  exact Graph.eq_of_reference_eq hg.distinct (hlt ha) (hlt hb) (reference_eq_of_typeName hn hn')

theorem none_not_mem_names {ns : List Node}
    (h : List.Forall₂ (Defines settings g) (defined settings g) ns) :
    none ∉ ns.map (·.attribute? "name") := by
  intro hm
  obtain ⟨n, hn, he⟩ := List.mem_map.mp hm
  obtain ⟨id, -, hd⟩ := exists_of_mem_right h hn
  obtain ⟨name, -, ha⟩ := hd.name
  rw [ha] at he
  cases he

theorem primitiveName_mem (p : Primitive) : primitiveName p ∈ builtinNames := by
  cases p <;> simp [primitiveName, builtinNames]

theorem Refers.resolves {v : String} (h : Refers settings g v) {ns : List Node}
    (hd : List.Forall₂ (Defines settings g) (defined settings g) ns) :
    v ∈ builtinNames ∨ some v ∈ ns.map (·.attribute? "name") := by
  obtain ⟨t, ht, hw⟩ := h
  cases t with
  | primitive p =>
    obtain rfl : primitiveName p = v := by simpa [typeRefName] using ht
    exact .inl (primitiveName_mem p)
  | declared id =>
    right
    rw [names_eq hd]
    have hn : typeName settings (g.get id) = .ok v := ht
    exact List.mem_map.mpr ⟨id, mem_defined (hw id rfl) hn, by simp [hn, Except.toOption]⟩

theorem RefersBase.refers {v : String} (h : RefersBase settings g v) : Refers settings g v := by
  obtain ⟨t, ht, hw⟩ := h
  exact ⟨t, ht, fun id hid => (hw id hid).1⟩

theorem RefersBase.resolves {v : String} (h : RefersBase settings g v) {ns : List Node}
    (hd : List.Forall₂ (IsDataType settings g) (writtenOf settings g .dataType) ns) :
    v ∈ builtinNames ∨ ∃ n ∈ ns, n.tag = "xs:simpleType" ∧ n.attribute? "name" = some v := by
  obtain ⟨t, ht, hw⟩ := h
  cases t with
  | primitive p =>
    obtain rfl : primitiveName p = v := by simpa [typeRefName] using ht
    exact .inl (primitiveName_mem p)
  | declared id =>
    obtain ⟨hid, hk⟩ := hw id rfl
    obtain ⟨n, hm, hn⟩ := exists_of_mem_left hd (List.mem_filter.mpr ⟨hid, by simpa using hk⟩)
    obtain ⟨name, hname, ha⟩ := hn.defines.name
    obtain rfl : name = v := Except.ok.inj (hname.symm.trans ht)
    exact .inr ⟨n, hm, hn.tag, ha⟩

end Names

/-- The document of a compiled schema defines every type once, under a name of its own, and refers
only to built-in types and to what it defines; what it derives from is a simple type. -/
theorem document_references_resolve {source : String} {c : Compiled} {settings : Settings}
    {doc : Xml.Document} (hc : compile source = .ok c) (hd : document settings c.graph = .ok doc) :
    let names := (definitions doc).map (·.attribute? "name")
    names.Nodup ∧ none ∉ names ∧
      (∀ v ∈ doc.root.values "type" ++ doc.root.values "base",
        v ∈ builtinNames ∨ names.count (some v) = 1) ∧
      ∀ v ∈ doc.root.values "base", v ∈ builtinNames ∨
        ∃ n ∈ definitions doc, n.tag = "xs:simpleType" ∧ n.attribute? "name" = some v := by
  intro names
  have hg := compile_wellLinked hc
  obtain ⟨nodes, hi, rfl⟩ := document_eq_ok hd
  obtain ⟨parts⟩ := items_eq_ok hi
  have hs := items_tagged hg parts
  have hdef := definitions_forall₂ parts (title? settings c.graph)
  have hnodup : names.Nodup := nodup_names hg hdef
  have htypes : (schemaNode nodes).values "type" = Node.valuesOf "type" nodes := by
    simp [schemaNode, Node.values, valuesAt]
  have hbases : (schemaNode nodes).values "base" = Node.valuesOf "base" nodes := by
    simp [schemaNode, Node.values, valuesAt]
  refine ⟨hnodup, none_not_mem_names hdef, ?_, ?_⟩
  · intro v hv
    rw [htypes, hbases] at hv
    have hr : Refers settings c.graph v := by
      rcases List.mem_append.mp hv with hv | hv
      · obtain ⟨tag, attributes, hp, hv⟩ := Node.exists_of_mem_valuesOf nodes hs hv
        exact hp.refers hv
      · obtain ⟨tag, attributes, hp, hv⟩ := Node.exists_of_mem_valuesOf nodes hs hv
        exact (hp.refersBase hv).refers
    exact (hr.resolves hdef).imp id (List.count_eq_one_of_mem hnodup)
  · intro v hv
    rw [hbases] at hv
    obtain ⟨tag, attributes, hp, hv⟩ := Node.exists_of_mem_valuesOf nodes hs hv
    rcases (hp.refersBase hv).resolves parts.dataTypes with hb | ⟨n, hm, hn⟩
    · exact .inl hb
    · refine .inr ⟨n, ?_, hn⟩
      rw [definitions_eq parts]
      exact List.mem_append_left _ hm

set_option maxRecDepth 2000 in
theorem document_references_resolve_section :
    ∃ c doc, compile sectionSource = .ok c ∧ document .default c.graph = .ok doc ∧
      ((definitions doc).map (·.attribute? "name")).Nodup ∧
      doc.root.values "base" = ["xs:string", "__type__d__w"] ∧
      ∀ v ∈ doc.root.values "base", v ∈ builtinNames ∨
        ∃ n ∈ definitions doc, n.tag = "xs:simpleType" ∧ n.attribute? "name" = some v := by
  obtain ⟨c, hc, ht⟩ := exists_compiled (String.toList_ofList : sectionSource.toList = _)
    (fun c => (document .default c.graph).toOption.any fun doc =>
      doc.root.values "base" == ["xs:string", "__type__d__w"]) (by decide +kernel)
  cases hd : document .default c.graph with
  | error failure => simp [hd, Except.toOption] at ht
  | ok doc =>
    have hv : doc.root.values "base" = ["xs:string", "__type__d__w"] := by
      simpa [hd, Except.toOption] using ht
    obtain ⟨hn, -, -, hb⟩ := document_references_resolve hc hd
    exact ⟨c, doc, hc, hd, hn, hv, hb⟩

end DocSchema.XmlSchema
