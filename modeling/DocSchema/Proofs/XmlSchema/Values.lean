import DocSchema.Proofs.BaseChain
import DocSchema.Proofs.XmlSchema.References
import DocSchema.Proofs.XmlSchema.RoundTrip

/-!
# The values of simple types

Which texts a simple type of a document accepts: the text has to be a value of the built-in type
where the restrictions end, and every restriction on the way has to be met. For a data type these
are the restrictions along its chain of bases.
-/
namespace DocSchema.XmlSchema

open Xml (Node Element)

/-- A value of the built-in types of text and of integers. -/
inductive Datum where
  | text (s : String)
  | integer (n : Int)
  deriving DecidableEq, Repr

def Datum.read? (builtin text : String) : Option Datum :=
  if builtin = "xs:string" then some (.text text)
  else if builtin = "xs:integer" then (Number.signed? text.toList).map .integer
  else none

def AtMost (low high : Option Datum) : Prop :=
  ∃ m n, low = some (.integer m) ∧ high = some (.integer n) ∧ m ≤ n

/-- What the facets of one restriction ask of a text. Patterns are about the text itself, the other
facets about its value; patterns of one restriction are alternatives, and so are listed values. -/
structure Meets (Matches : String → String → Prop) (builtin : String) (facets : List Element)
    (text : String) : Prop where
  pattern : facetValues "xs:pattern" facets ≠ [] →
    ∃ p ∈ facetValues "xs:pattern" facets, Matches p text
  listed : facetValues "xs:enumeration" facets ≠ [] →
    ∃ v ∈ facetValues "xs:enumeration" facets, Datum.read? builtin v = Datum.read? builtin text
  minimum : ∀ m ∈ facetValues "xs:minInclusive" facets,
    AtMost (Datum.read? builtin m) (Datum.read? builtin text)
  maximum : ∀ m ∈ facetValues "xs:maxInclusive" facets,
    AtMost (Datum.read? builtin text) (Datum.read? builtin m)

/-- The base and the facets of the simple type with a name. -/
def simpleType? (doc : Xml.Document) (name : String) : Option (String × List Element) := do
  let type ← (definitions doc).find? (·.attribute? "name" == some name)
  let restriction ← type.element.children.find? (·.tag == "xs:restriction")
  let base ← restriction.attribute? "base"
  return (base, restriction.children)

/-- A text is accepted by a simple type whose restrictions end in a built-in type. -/
inductive Accepts (Matches : String → String → Prop) (doc : Xml.Document) (text : String) :
    String → String → Prop
  | builtin {b : String} : (Datum.read? b text).isSome = true → Accepts Matches doc text b b
  | restriction {name base b : String} {facets : List Element} :
      simpleType? doc name = some (base, facets) → Accepts Matches doc text base b →
      Meets Matches b facets text → Accepts Matches doc text name b

/-- The simple type with a name accepts a text. The values of facets are taken raw from the tree:
that a reader of XML turns tabs, line feeds and carriage returns in attribute values into blanks is
not part of this reading. -/
def Valid (Matches : String → String → Prop) (doc : Xml.Document) (name text : String) : Prop :=
  ∃ b, Accepts Matches doc text name b

theorem meets_facets_iff {Matches : String → String → Prop} {builtin text : String}
    {k : Constraints} :
    Meets Matches builtin (Node.elements (facets k)) text ↔
      (∀ p ∈ k.pattern, Matches p text) ∧
      (k.values ≠ [] → ∃ v ∈ k.values, Datum.read? builtin v = Datum.read? builtin text) ∧
      (∀ m ∈ k.minimum, AtMost (Datum.read? builtin (toString m)) (Datum.read? builtin text)) ∧
      ∀ m ∈ k.maximum, AtMost (Datum.read? builtin text) (Datum.read? builtin (toString m)) := by
  have hpattern : facetValues "xs:pattern" (Node.elements (facets k)) = k.pattern.toList := by
    simp [facetValues_facets]
  have hvalues : facetValues "xs:enumeration" (Node.elements (facets k)) = k.values := by
    simp [facetValues_facets]
  have hmin : facetValues "xs:minInclusive" (Node.elements (facets k)) =
      k.minimum.toList.map toString := by
    simp [facetValues_facets]
  have hmax : facetValues "xs:maxInclusive" (Node.elements (facets k)) =
      k.maximum.toList.map toString := by
    simp [facetValues_facets]
  constructor
  · rintro ⟨hp, hv, hl, hu⟩
    rw [hpattern] at hp
    rw [hvalues] at hv
    rw [hmin] at hl
    rw [hmax] at hu
    refine ⟨fun p hm => ?_, hv, fun m hm => hl _ ?_, fun m hm => hu _ ?_⟩
    · obtain ⟨q, hq, h⟩ := hp (List.ne_nil_of_mem (Option.mem_toList.mpr hm))
      rwa [Option.mem_unique hm (Option.mem_toList.mp hq)]
    · exact List.mem_map_of_mem (Option.mem_toList.mpr hm)
    · exact List.mem_map_of_mem (Option.mem_toList.mpr hm)
  · rintro ⟨hp, hv, hl, hu⟩
    refine ⟨?_, hvalues ▸ hv, ?_, ?_⟩
    · rw [hpattern]
      intro hne
      obtain ⟨p, hm⟩ := List.exists_mem_of_ne_nil _ hne
      exact ⟨p, hm, hp p (Option.mem_toList.mp hm)⟩
    · rw [hmin]
      intro bound hbound
      obtain ⟨m, hm, rfl⟩ := List.mem_map.mp hbound
      exact hl m (Option.mem_toList.mp hm)
    · rw [hmax]
      intro bound hbound
      obtain ⟨m, hm, rfl⟩ := List.mem_map.mp hbound
      exact hu m (Option.mem_toList.mp hm)

section Lookup

variable {settings : Settings} {g : Graph} {doc : Xml.Document}

theorem find?_restriction (s : Structure) (base : String) (k : Constraints) :
    (Node.elements (documentation s ++ [restriction base k])).find? (·.tag == "xs:restriction") =
      some (.mk "xs:restriction" [("base", base)] (Node.elements (facets k))) := by
  have hd : ∀ e ∈ Node.elements (documentation s), e.tag ≠ "xs:restriction" := by
    unfold documentation
    split <;> simp [Node.elements, Node.element, Element.tag]
  rw [Node.elements_append, List.find?_append, List.find?_eq_none.mpr (by simpa using hd)]
  simp [Node.elements, restriction_element, Element.tag]

theorem simpleType?_of_written (hg : g.WellLinked) (hdoc : document settings g = .ok doc)
    {id : StructureId} (hid : id ∈ written settings g) {base : TypeRef} {k : Constraints}
    (hb : (g.get id).body = .dataType base k) :
    ∃ name type, typeName settings (g.get id) = .ok name ∧
      typeRefName settings g base = .ok type ∧
      simpleType? doc name = some (type, Node.elements (facets k)) := by
  obtain ⟨nodes, hitems, rfl⟩ := document_eq_ok hdoc
  obtain ⟨items⟩ := items_eq_ok hitems
  have hkind : id ∈ writtenOf settings g .dataType :=
    List.mem_filter.mpr ⟨hid, by simp [Structure.kind, hb, Body.kind]⟩
  obtain ⟨n, hn, base', k', hb', hok⟩ := exists_of_mem_left items.dataTypes hkind
  rw [hb] at hb'
  cases hb'
  obtain ⟨name, type, hname, htype, rfl⟩ := dataType_ok hok
  refine ⟨name, type, hname, htype, ?_⟩
  have hnodup := nodup_names hg (definitions_forall₂ items (title? settings g))
  have hmem : .branch "xs:simpleType" [("name", name)]
      (documentation (g.get id) ++ [restriction type k]) ∈
        definitions ⟨title? settings g, schemaNode nodes⟩ := by
    rw [definitions_eq items]
    exact List.mem_append_left _ hn
  have hfind : (definitions ⟨title? settings g, schemaNode nodes⟩).find?
      (·.attribute? "name" == some name) = some _ := find?_eq_some_of_nodup hnodup hmem
  have hchildren : (Node.branch "xs:simpleType" [("name", name)]
      (documentation (g.get id) ++ [restriction type k])).element.children =
        Node.elements (documentation (g.get id) ++ [restriction type k]) := rfl
  simp only [simpleType?, hfind, Option.bind_eq_bind, Option.bind_some, hchildren,
    find?_restriction]
  rfl

theorem simpleType?_primitiveName (hdoc : document settings g = .ok doc) (p : Primitive) :
    simpleType? doc (primitiveName p) = none := by
  obtain ⟨nodes, hitems, rfl⟩ := document_eq_ok hdoc
  obtain ⟨items⟩ := items_eq_ok hitems
  have hnone : (definitions ⟨title? settings g, schemaNode nodes⟩).find?
      (·.attribute? "name" == some (primitiveName p)) = none := by
    refine List.find?_eq_none.mpr fun n hn he => ?_
    obtain ⟨id, -, hd⟩ := exists_of_mem_right (definitions_forall₂ items (title? settings g)) hn
    obtain ⟨name, hname, ha⟩ := hd.name
    rw [ha] at he
    exact typeName_ne_primitiveName hname p (by simpa using he)
  simp [simpleType?, hnone]

/-- Only built-in types have values of their own. -/
theorem read?_typeName {s : Structure} {name : String} (h : typeName settings s = .ok name)
    (text : String) : Datum.read? name text = none := by
  have hs : name ≠ "xs:string" := typeName_ne_primitiveName h .string
  have hi : name ≠ "xs:integer" := typeName_ne_primitiveName h .integer
  simp [Datum.read?, hs, hi]

end Lookup

theorem accepts_iff {settings : Settings} {g : Graph} {doc : Xml.Document} (hg : g.WellLinked)
    (hdoc : document settings g = .ok doc) {p : Primitive} {t : TypeRef} {ks : List Constraints}
    (hc : g.Chain p t ks) (hw : ∀ id ∈ t.target?, id ∈ written settings g) {name : String}
    (hn : typeRefName settings g t = .ok name) (Matches : String → String → Prop)
    (text b : String) :
    Accepts Matches doc text name b ↔
      b = primitiveName p ∧ (Datum.read? b text).isSome = true ∧
        ∀ k ∈ ks, Meets Matches b (Node.elements (facets k)) text := by
  -- a name leads to one restriction at most, so every derivation follows the chain
  induction hc generalizing name with
  | primitive =>
    obtain rfl : primitiveName p = name := by simpa [typeRefName] using hn
    constructor
    · intro h
      cases h with
      | builtin h => exact ⟨rfl, h, by simp⟩
      | restriction hs => simp [simpleType?_primitiveName hdoc] at hs
    · rintro ⟨rfl, h, -⟩
      exact .builtin h
  | @declared id base k ks hb htail ih =>
    have hid : id ∈ written settings g := hw id rfl
    obtain ⟨name', type, hname, htype, hs⟩ := simpleType?_of_written hg hdoc hid hb
    obtain rfl : name' = name := Except.ok.inj (hname.symm.trans hn)
    have hbase : ∀ target ∈ base.target?, target ∈ written settings g := fun target hm =>
      reference_mem_written hg hid (by rw [hb]; simp [Body.references] : (.baseType, base) ∈ _) hm
    have htypes := ih hbase htype
    constructor
    · intro h
      cases h with
      | builtin h => simp [read?_typeName hname] at h
      | restriction hs' hrest hmeets =>
        rw [hs] at hs'
        cases hs'
        obtain ⟨hb, hv, hall⟩ := htypes.mp hrest
        exact ⟨hb, hv, List.forall_mem_cons.mpr ⟨hmeets, hall⟩⟩
    · rintro ⟨hb, hv, hall⟩
      obtain ⟨hfirst, hall⟩ := List.forall_mem_cons.mp hall
      exact .restriction hs (htypes.mpr ⟨hb, hv, hall⟩) hfirst

theorem valid_iff {settings : Settings} {g : Graph} {doc : Xml.Document} (hg : g.WellLinked)
    (hdoc : document settings g = .ok doc) {id : StructureId} (hid : id ∈ written settings g)
    {p : Primitive} {ks : List Constraints} (hc : g.Chain p (.declared id) ks)
    (Matches : String → String → Prop) (text : String) :
    Valid Matches doc (settings.typePrefix ++ "d__" ++ (g.get id).reference) text ↔
      (Datum.read? (primitiveName p) text).isSome = true ∧
        ∀ k ∈ ks, Meets Matches (primitiveName p) (Node.elements (facets k)) text := by
  have hname : typeName settings (g.get id) =
      .ok (settings.typePrefix ++ "d__" ++ (g.get id).reference) := by
    cases hc with
    | declared hb _ =>
      obtain ⟨name, -, hn, -⟩ := simpleType?_of_written hg hdoc hid hb
      obtain ⟨mark, hm, rfl, -⟩ := typeName_eq_ok.mp hn
      obtain rfl : "d__" = mark := by simpa [Structure.kind, hb, Body.kind, typeMark?] using hm
      exact hn
  have hw : ∀ target ∈ (TypeRef.declared id).target?, target ∈ written settings g := by
    rintro _ ⟨⟩
    exact hid
  have haccepts := accepts_iff hg hdoc hc hw hname Matches text
  constructor
  · rintro ⟨b, hb⟩
    obtain ⟨rfl, h⟩ := (haccepts b).mp hb
    exact h
  · intro h
    exact ⟨primitiveName p, (haccepts _).mpr ⟨rfl, h⟩⟩

end DocSchema.XmlSchema
