import DocSchema.Proofs.JsonSchema.Definitions
import DocSchema.Proofs.Xml.Reader
import DocSchema.Proofs.XmlSchema.Expressible

/-!
# Pruning only removes definitions

Whether unreachable structures are left out decides which definitions a schema document has, and
nothing else: a definition does not depend on what is written beside it. So the pruned document has
the definitions of what the roots reach, in the same order and with the same text, and everything
around them stays as it is.
-/
namespace DocSchema

open Artifact (Failure)
open Xml (Node)

/-- The settings with another choice of what is left out. -/
def Settings.pruning (settings : Settings) (prune : Bool) : Settings :=
  { settings with pruneUnreachable := prune }

namespace Graph

/-- Of definitions with their structures, `kept` are those whose structure is reached from the
roots, in the same order. Where there is no root all are kept. -/
structure Pruned {α : Type} (g : Graph) (roots : List StructureId)
    (all kept : List (StructureId × α)) : Prop where
  sublist : kept.Sublist all
  mem_iff : ∀ d ∈ all, d ∈ kept ↔ roots = [] ∨ g.ReachedFrom roots d.1

end Graph

theorem Graph.exists_pruned {β : Type} {R : StructureId → β → Prop} {g : Graph}
    (hg : g.LinksValid) (hf : ∀ a b b', R a b → R a b' → b = b') (roots : List StructureId)
    {ids : List StructureId} {bs bs' : List β} (h : List.Forall₂ R ids bs)
    (h' : List.Forall₂ R (ids.filter (Reach.ofRoots g roots true).contains) bs') :
    ∃ all kept : List (StructureId × β), all.map (·.1) = ids ∧ all.map (·.2) = bs ∧
      kept.map (·.2) = bs' ∧ (∀ d ∈ all, R d.1 d.2) ∧ g.Pruned roots all kept := by
  obtain ⟨hids, hbs, hr⟩ := map_zip_of_forall₂ h
  refine ⟨ids.zip bs, _, hids, hbs, (map_zip_of_forall₂ h').2.1, hr, ?_⟩
  rw [zip_filter_of_forall₂ hf _ h h']
  refine ⟨List.filter_sublist, fun d hd => ?_⟩
  rw [List.mem_filter, Reach.contains_ofRoots hg]
  simp [hd]

theorem Reach.filter_unpruned (g : Graph) (roots ids : List StructureId) :
    ids.filter (ofRoots g roots false).contains = ids :=
  List.filter_eq_self.mpr fun _ _ => rfl

namespace XmlSchema

section Settings

variable (settings : Settings) (prune : Bool) (g : Graph)

theorem attributeNodes_pruning (slots : List Slot) :
    attributeNodes (settings.pruning prune) g slots = attributeNodes settings g slots := by
  induction slots with
  | nil => rfl
  | cons slot slots ih => exact congrArg (attributeNode settings g slot >>= ·) (by rw [ih])

mutual

theorem particle_pruning (owner : String) : (p : Particle) →
    particle (settings.pruning prune) g owner p = particle settings g owner p
  | .element _ => rfl
  | .group .unordered _ _ => rfl
  | .group .sequence ps _ => by
    rw [particle, particle, particles_pruning owner ps] <;> simp
  | .group .choice ps _ => by
    rw [particle, particle, particles_pruning owner ps] <;> simp

theorem particles_pruning (owner : String) : (ps : List Particle) →
    particles (settings.pruning prune) g owner ps = particles settings g owner ps
  | [] => rfl
  | p :: ps => by
    rw [particles, particles, particle_pruning owner p, particles_pruning owner ps]

end

/-- The type of an element depends on the settings through the names of types only. -/
theorem element_pruning (s : Structure) (slots : List Slot) (content : Content) :
    element (settings.pruning prune) g s slots content = element settings g s slots content := by
  unfold element simpleContent complexContent
  simp only [attributeNodes_pruning, particles_pruning]
  rfl

end Settings

section Pruned

variable {settings : Settings} {g : Graph} {id : StructureId}

/-- The definition of the type of a structure. -/
def IsType (settings : Settings) (g : Graph) (id : StructureId) (node : Node) : Prop :=
  IsDataType settings g id node ∨ IsElement settings g id node

theorem IsType.unique {a b : Node} (ha : IsType settings g id a) (hb : IsType settings g id b) :
    a = b := by
  rcases ha with ⟨base, c, hbody, ha⟩ | ⟨root, slots, content, hbody, ha⟩ <;>
    rcases hb with ⟨base', c', hbody', hb⟩ | ⟨root', slots', content', hbody', hb⟩ <;>
    rw [hbody] at hbody' <;> cases hbody'
  · exact Except.ok.inj (ha.symm.trans hb)
  · exact Except.ok.inj (ha.symm.trans hb)

theorem written_unpruned (settings : Settings) (g : Graph) :
    written (settings.pruning false) g = g.ids := Reach.filter_unpruned g g.rootElements g.ids

theorem written_pruned_subset (settings : Settings) (g : Graph) :
    written (settings.pruning true) g ⊆ written (settings.pruning false) g := by
  rw [written_unpruned]
  exact List.filter_subset_self _

theorem Items.isType {prune : Bool} {nodes : List Node}
    (h : Items (settings.pruning prune) g nodes) :
    List.Forall₂ (IsType settings g)
      ((g.ofKind .dataType ++ g.ofKind .element).filter
        (Reach.ofRoots g g.rootElements prune).contains) (h.types ++ h.elementTypes) := by
  have hkind (kind : Kind) : writtenOf (settings.pruning prune) g kind =
      (g.ofKind kind).filter (Reach.ofRoots g g.rootElements prune).contains :=
    List.filter_comm _ _ _
  rw [List.filter_append, ← hkind, ← hkind]
  refine List.rel_append (h.dataTypes.imp fun id n hn => .inl hn)
    (h.elements.imp fun id n hn => .inr ?_)
  obtain ⟨root, slots, content, hb, he⟩ := hn
  exact ⟨root, slots, content, hb, by rwa [element_pruning] at he⟩

/-- Leaving structures out takes away conditions. -/
theorem Expressible.pruned (h : Expressible (settings.pruning false) g) :
    Expressible (settings.pruning true) g where
  rootsDistinct := h.rootsDistinct
  typeNames id hid := h.typeNames id (written_pruned_subset settings g hid)
  elements id hid := h.elements id (written_pruned_subset settings g hid)

theorem exists_items_pruned (hg : g.WellLinked) {nodes : List Node}
    (h : items (settings.pruning false) g = .ok nodes) :
    ∃ nodes', items (settings.pruning true) g = .ok nodes' := by
  have he := items_outcome (settings.pruning false) hg
  rw [h] at he
  have hout := items_outcome (settings.pruning true) hg
  cases hi : items (settings.pruning true) g with
  | ok nodes' => exact ⟨nodes', rfl⟩
  | error f =>
    rw [hi] at hout
    exact absurd (Expressible.pruned he) hout.not_expressible

theorem Items.roots_eq {prune prune' : Bool} {nodes nodes' : List Node}
    (h : Items (settings.pruning prune) g nodes) (h' : Items (settings.pruning prune') g nodes') :
    h.roots = h'.roots := by
  have hu : Relator.RightUnique (IsRoot settings g) := by
    rintro id _ _ ⟨tag, type, ht, hn, rfl⟩ ⟨tag', type', ht', hn', rfl⟩
    rw [Except.ok.inj (ht.symm.trans ht'), Except.ok.inj (hn.symm.trans hn')]
  have hroots : List.Forall₂ (IsRoot settings g) g.rootElements h.roots := h.rootElements
  exact Relator.RightUnique.forall₂ hu hroots h'.rootElements

def itemText (settings : Settings) (n : Node) : String :=
  String.join ((n.lines settings.indent 1).map (· ++ "\n"))

/-- The text of a document around its items: the declaration, the comment and the tags of the
schema. -/
def schemaText (settings : Settings) (g : Graph) (nodes : List Node) : String :=
  Xml.prolog (title? settings g)
    ++ "<xs:schema xmlns:xs=\"http://www.w3.org/2001/XMLSchema\" "
    ++ "elementFormDefault=\"qualified\">\n"
    ++ String.join (nodes.map (itemText settings)) ++ "</xs:schema>\n"

theorem toList_join_itemText (settings : Settings) (nodes : List Node) :
    (String.join (nodes.map (itemText settings))).toList =
      Xml.lineChars (Node.linesOf settings.indent 1 nodes) := by
  induction nodes with
  | nil => simp [Node.linesOf, Xml.lineChars]
  | cons n nodes ih =>
    rw [Node.linesOf, Xml.lineChars_append, ← ih]
    simp [itemText, Xml.lineChars, List.flatMap_map, String.toList_append]

theorem render_schemaNode (settings : Settings) (g : Graph) (nodes : List Node) :
    Xml.Document.render settings.indent ⟨title? settings g, schemaNode nodes⟩ =
      schemaText settings g nodes := by
  have htag : Xml.tagText "xs:schema" [("xmlns:xs", "http://www.w3.org/2001/XMLSchema"),
      ("elementFormDefault", "qualified")] =
        "xs:schema xmlns:xs=\"http://www.w3.org/2001/XMLSchema\" "
          ++ "elementFormDefault=\"qualified\"" := by decide
  rw [Xml.Document.render_eq]
  apply String.toList_injective
  simp only [schemaNode, Node.lines, htag, schemaText, String.toList_append, String.toList_ofList,
    toList_join_itemText, Xml.lineChars_append, List.append_assoc]
  simp [Xml.lineChars, Xml.margin, toString]

theorem render_eq_ok {text : String} (h : render settings g = .ok text) :
    ∃ nodes, items settings g = .ok nodes ∧ text = schemaText settings g nodes := by
  cases hd : document settings g with
  | error f => simp [render, hd, Except.map] at h
  | ok doc =>
    obtain ⟨nodes, hi, rfl⟩ := document_eq_ok hd
    refine ⟨nodes, hi, ?_⟩
    rw [← render_schemaNode]
    simpa [render, hd, Except.map] using h.symm

theorem render_of_items {nodes : List Node} (h : items settings g = .ok nodes) :
    render settings g = .ok (schemaText settings g nodes) := by
  rw [← render_schemaNode]
  simp [render, document, h, Except.map, title?, schemaNode]

theorem render_pruned (hg : g.WellLinked) {text : String}
    (h : render (settings.pruning false) g = .ok text) :
    ∃ (all kept : List (StructureId × Node)) (roots : List Node),
      text = schemaText settings g (all.map (·.2) ++ roots) ∧
      render (settings.pruning true) g =
        .ok (schemaText settings g (kept.map (·.2) ++ roots)) ∧
      all.map (·.1) = g.ofKind .dataType ++ g.ofKind .element ∧
      (∀ d ∈ all, IsType settings g d.1 d.2) ∧
      List.Forall₂ (IsRoot settings g) g.rootElements roots ∧
      g.Pruned g.rootElements all kept := by
  obtain ⟨nodes, hn, rfl⟩ := render_eq_ok h
  obtain ⟨nodes', hn'⟩ := exists_items_pruned hg hn
  obtain ⟨parts⟩ := items_eq_ok hn
  obtain ⟨parts'⟩ := items_eq_ok hn'
  have hall : List.Forall₂ (IsType settings g) (g.ofKind .dataType ++ g.ofKind .element)
      (parts.types ++ parts.elementTypes) := by
    simpa only [Reach.filter_unpruned] using parts.isType
  have hunique (id : StructureId) (a b : Node) :
      IsType settings g id a → IsType settings g id b → a = b := IsType.unique
  obtain ⟨all, kept, hids, hnodes, hnodes', htypes, hpruned⟩ :=
    Graph.exists_pruned hg.linksValid hunique g.rootElements hall parts'.isType
  refine ⟨all, kept, parts.roots, ?_, ?_, hids, htypes, parts.rootElements, hpruned⟩
  · rw [hnodes, ← parts.split]
    rfl
  · rw [hnodes', parts.roots_eq parts', ← parts'.split]
    exact render_of_items hn'

end Pruned

end XmlSchema

namespace JsonSchema

variable {settings : Settings} {g : Graph}

theorem written_unpruned (settings : Settings) (g : Graph) :
    written (settings.pruning false) g = g.ids := Reach.filter_unpruned g g.rootObjects g.ids

def frame (settings : Settings) (g : Graph) : List (String × Json) :=
  [("$schema", .string "https://json-schema.org/draft/2020-12/schema")]
    ++ Json.optional "$id" (settings.schemaId.map .string)
    ++ Json.optional "title" ((settings.titleFor g.formatName).map .string)
    ++ rootFields g g.rootObjects

def schemaText (settings : Settings) (g : Graph) (defs : List (String × Json)) : String :=
  (Json.object (frame settings g ++ [("$defs", .object defs)])).text ++ "\n"

theorem render_eq (settings : Settings) (g : Graph) :
    render settings g =
      (definitions settings g [] (written settings g)).map (schemaText settings g) := by
  unfold render document
  change Except.map _ (definitions settings g [] (written settings g) >>= _) = _
  cases definitions settings g [] (written settings g) with
  | error f => rfl
  | ok defs => rfl

theorem render_outcome (settings : Settings) (hg : g.WellLinked) :
    Outcome (render settings g)
      (fun text => ∃ defs, text = schemaText settings g defs ∧
        List.Forall₂ (IsDefinition settings g) (defined settings g) defs ∧
        ∀ id ∈ written settings g, DistinctProperties g id)
      (Collision settings g) := by
  rw [render_eq]
  exact (definitions_outcome hg (List.nil_append _) (by simp) (by simp)).map
    fun defs hdefs => ⟨defs, rfl, hdefs⟩

theorem IsDefinition.unique {id : StructureId} {a b : String × Json}
    (ha : IsDefinition settings g id a) (hb : IsDefinition settings g id b) : a = b := by
  obtain ⟨hka, hda⟩ := ha
  obtain ⟨hkb, hdb⟩ := hb
  rw [hda] at hdb
  simp only [Except.ok.injEq, Option.some.injEq] at hdb
  exact Prod.ext (hka.trans hkb.symm) hdb

theorem defined_pruning (settings : Settings) (g : Graph) (prune : Bool) :
    defined (settings.pruning prune) g =
      (g.ids.filter fun id => definable.contains (g.get id).kind).filter
        (Reach.ofRoots g g.rootObjects prune).contains :=
  List.filter_comm _ _ _

theorem render_pruned (hg : g.WellLinked) {text : String}
    (h : render (settings.pruning false) g = .ok text) :
    ∃ all kept : List (StructureId × (String × Json)),
      text = schemaText settings g (all.map (·.2)) ∧
      render (settings.pruning true) g = .ok (schemaText settings g (kept.map (·.2))) ∧
      all.map (·.1) = (g.ids.filter fun id => definable.contains (g.get id).kind) ∧
      (∀ d ∈ all, IsDefinition settings g d.1 d.2) ∧ g.Pruned g.rootObjects all kept := by
  have hout := render_outcome (settings.pruning false) hg
  rw [h] at hout
  obtain ⟨defs, rfl, hdefs, hdistinct⟩ := hout
  have hout' := render_outcome (settings.pruning true) hg
  cases hr : render (settings.pruning true) g with
  | error f =>
    -- an object that cannot be written is refused by the whole document, too
    rw [hr] at hout'
    obtain ⟨id, hid, root, slots, order, hb, hn⟩ := not_distinctProperties_of_collision hout'
    have hw : id ∈ written (settings.pruning false) g := by
      rw [written_unpruned]
      exact (List.mem_filter.mp hid).1
    exact absurd (hdistinct id hw root slots order hb) hn
  | ok text' =>
    rw [hr] at hout'
    obtain ⟨defs', rfl, hdefs', -⟩ := hout'
    have hall : List.Forall₂ (IsDefinition settings g)
        (g.ids.filter fun id => definable.contains (g.get id).kind) defs := by
      rwa [defined_pruning, Reach.filter_unpruned] at hdefs
    rw [defined_pruning] at hdefs'
    have hunique (id : StructureId) (a b : String × Json) :
        IsDefinition settings g id a → IsDefinition settings g id b → a = b := IsDefinition.unique
    obtain ⟨all, kept, hids, rfl, rfl, hd, hpruned⟩ :=
      Graph.exists_pruned hg.linksValid hunique g.rootObjects hall hdefs'
    exact ⟨all, kept, rfl, rfl, hids, hd, hpruned⟩

end JsonSchema

/-- If a document can be written with all structures, it can be written without those that no root
reaches. Of the items of an XML Schema, the types of what the root elements reach and all global
elements stay as they are; of the definitions of a JSON Schema, those of what the root objects
reach. The text around them is the same. -/
theorem pruning_keeps_reached {source : String} {c : Compiled} (hc : compile source = .ok c)
    (settings : Settings) :
    (∀ text, XmlSchema.render (settings.pruning false) c.graph = .ok text →
      ∃ (all kept : List (StructureId × Node)) (roots : List Node),
        text = XmlSchema.schemaText settings c.graph (all.map (·.2) ++ roots) ∧
        XmlSchema.render (settings.pruning true) c.graph =
          .ok (XmlSchema.schemaText settings c.graph (kept.map (·.2) ++ roots)) ∧
        all.map (·.1) = c.graph.ofKind .dataType ++ c.graph.ofKind .element ∧
        (∀ d ∈ all, XmlSchema.IsType settings c.graph d.1 d.2) ∧
        List.Forall₂ (XmlSchema.IsRoot settings c.graph) c.graph.rootElements roots ∧
        c.graph.Pruned c.graph.rootElements all kept) ∧
    ∀ text, JsonSchema.render (settings.pruning false) c.graph = .ok text →
      ∃ all kept : List (StructureId × (String × Json)),
        text = JsonSchema.schemaText settings c.graph (all.map (·.2)) ∧
        JsonSchema.render (settings.pruning true) c.graph =
          .ok (JsonSchema.schemaText settings c.graph (kept.map (·.2))) ∧
        all.map (·.1) =
          (c.graph.ids.filter fun id => JsonSchema.definable.contains (c.graph.get id).kind) ∧
        (∀ d ∈ all, JsonSchema.IsDefinition settings c.graph d.1 d.2) ∧
        c.graph.Pruned c.graph.rootObjects all kept := by
  have hg := compile_wellLinked hc
  exact ⟨fun _ => XmlSchema.render_pruned hg, fun _ => JsonSchema.render_pruned hg⟩

/-- Roots on both sides, beside an element that only itself refers to and an object that nothing
refers to. -/
def twoSidedSource : String :=
  "root element a \x7ballowedContent: w;\x7d element c \x7ballowedContent: [c];\x7d
  root object o \x7b\x7d object q \x7b\x7d dataType w \x7b\x7d"

set_option maxRecDepth 4000 in
theorem pruning_keeps_reached_twoSided :
    ∃ c text value, compile twoSidedSource = .ok c ∧
      XmlSchema.render (Settings.default.pruning false) c.graph = .ok text ∧
      JsonSchema.render (Settings.default.pruning false) c.graph = .ok value ∧
      (∃ (all kept : List (StructureId × Node)) (roots : List Node),
        XmlSchema.render (Settings.default.pruning true) c.graph =
          .ok (XmlSchema.schemaText .default c.graph (kept.map (·.2) ++ roots)) ∧
        c.graph.Pruned c.graph.rootElements all kept) ∧
      ∃ all kept : List (StructureId × (String × Json)),
        JsonSchema.render (Settings.default.pruning true) c.graph =
          .ok (JsonSchema.schemaText .default c.graph (kept.map (·.2))) ∧
        c.graph.Pruned c.graph.rootObjects all kept := by
  obtain ⟨c, hc, ht⟩ := exists_compiled (String.toList_ofList : twoSidedSource.toList = _)
    (fun c => (XmlSchema.render (Settings.default.pruning false) c.graph).toOption.isSome &&
      (JsonSchema.render (Settings.default.pruning false) c.graph).toOption.isSome) (by decide)
  rw [Bool.and_eq_true, Option.isSome_iff_exists, Option.isSome_iff_exists] at ht
  obtain ⟨⟨text, hx⟩, value, hj⟩ := ht
  rw [toOption_eq_some] at hx hj
  obtain ⟨hxml, hjson⟩ := pruning_keeps_reached hc .default
  obtain ⟨all, kept, roots, -, hr, -, -, -, hp⟩ := hxml text hx
  obtain ⟨all', kept', -, hr', -, -, hp'⟩ := hjson value hj
  exact ⟨c, text, value, hc, hx, hj, ⟨all, kept, roots, hr, hp⟩, all', kept', hr', hp'⟩

end DocSchema
