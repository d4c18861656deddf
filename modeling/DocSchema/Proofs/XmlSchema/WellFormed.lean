import DocSchema.Proofs.Xml.Nesting
import DocSchema.Proofs.XmlSchema.RoundTrip

/-!
# XML Schemas as well-formed documents

The tags of a schema are proper and every text in them is escaped, so nothing but the comment can
keep a schema from being a well-formed document. The comment holds the title as it is given.
-/
namespace DocSchema.XmlSchema

open Xml (Node Attribute)
open Xml.Grammar (Document WellFormed HasHyphens ProperTag)

theorem isName_of_mem_vocabulary :
    ∀ name ∈ vocabulary, Xml.Grammar.isName name.toList = true := by
  decide

theorem keys_occurrenceAttributes (c : Cardinality) :
    ((occurrenceAttributes c).map (·.1)).Sublist ["minOccurs", "maxOccurs"] := by
  unfold occurrenceAttributes
  cases c.max with
  | none => by_cases hmin : c.min = 1 <;> simp [hmin]
  | some max => by_cases hmin : c.min = 1 <;> by_cases hmax : max = 1 <;> simp [hmin, hmax]

theorem StartTag.proper {settings : Settings} {g : Graph} {tag : String}
    {attributes : List Attribute} (h : StartTag settings g tag attributes) :
    ProperTag tag attributes := by
  refine ⟨isName_of_mem_vocabulary _ h.mem_vocabulary.1,
    fun a ha => isName_of_mem_vocabulary _ (h.mem_vocabulary.2 a ha), ?_⟩
  cases h with
  | element c _ _ =>
    have hs : (["name", "type"] ++ (occurrenceAttributes c).map (·.1)).Sublist
        ["name", "type", "minOccurs", "maxOccurs"] :=
      (List.Sublist.refl _).append (keys_occurrenceAttributes c)
    have hd : ["name", "type", "minOccurs", "maxOccurs"].Nodup := by decide
    simpa using hd.sublist hs
  | attributeUse required default _ _ =>
    cases required <;> cases default <;> simp [attributeFields]
  | complexType mixed _ => cases mixed <;> simp
  | _ => simp

theorem document_of_render {source : String} {c : Compiled} {settings : Settings} {text : String}
    (hc : compile source = .ok c) (hr : render settings c.graph = .ok text) :
    Document ((title? settings c.graph).map fun remark => ' ' :: remark.toList ++ [' '])
      text.toList := by
  cases hd : document settings c.graph with
  | error failure => simp [render, hd, Except.map] at hr
  | ok doc =>
    obtain rfl : doc.render settings.indent = text := by
      simpa [render, hd, Except.map] using hr
    obtain ⟨nodes, hi, rfl⟩ := document_eq_ok hd
    obtain ⟨parts⟩ := items_eq_ok hi
    have hroot : ProperTag "xs:schema" [("xmlns:xs", "http://www.w3.org/2001/XMLSchema"),
        ("elementFormDefault", "qualified")] := by
      refine ⟨isName_of_mem_vocabulary _ (by simp [vocabulary]), fun a ha => ?_, by simp⟩
      have hk : a.1 ∈ vocabulary := by
        simp only [List.mem_cons, List.not_mem_nil, or_false] at ha
        rcases ha with rfl | rfl <;> simp [vocabulary]
      exact isName_of_mem_vocabulary _ hk
    have hbelow := items_tagged (compile_wellLinked hc) parts
    exact Xml.Grammar.document_render settings.indent
      ⟨hroot, Node.AllOf.imp (fun _ _ => StartTag.proper) nodes hbelow⟩

/-- The name or the version in the title has two hyphens in a row. -/
def Hyphenated (settings : Settings) (g : Graph) : Prop :=
  ∃ name, settings.formatName.or g.formatName = some name ∧
    (HasHyphens name.toList ∨ ∃ version, settings.version = some version ∧
      HasHyphens version.toList)

section Titles

open Xml.Grammar

theorem hasHyphens_remark (title : String) :
    HasHyphens (' ' :: s!"An XSD file for {title}.".toList ++ [' ']) ↔
      HasHyphens title.toList := by
  have hc : ' ' :: s!"An XSD file for {title}.".toList ++ [' '] =
      " An XSD file for".toList ++ ' ' :: (title.toList ++ '.' :: [' ']) := by
    simp [String.toList_append, toString]
  have hb : ¬HasHyphens " An XSD file for".toList := not_hasHyphens_of_not_mem (by simp)
  have he : ¬HasHyphens [' '] := not_hasHyphens_of_not_mem (by simp)
  rw [hc, hasHyphens_split (by decide), hasHyphens_split (by decide)]
  simp only [hb, he, false_or, or_false]

theorem getLast?_spaced (cs : List Char) : (' ' :: cs ++ [' ']).getLast? ≠ some '-' := by
  rw [List.getLast?_concat]
  decide

theorem hasHyphens_versioned (name version : String) :
    HasHyphens (s!"{name} ({version})").toList ↔
      HasHyphens name.toList ∨ HasHyphens version.toList := by
  have hc : (s!"{name} ({version})").toList =
      name.toList ++ ' ' :: ([] ++ '(' :: (version.toList ++ ')' :: [])) := by
    simp [String.toList_append, toString]
  rw [hc, hasHyphens_split (by decide), hasHyphens_split (by decide),
    hasHyphens_split (by decide)]
  simp [not_hasHyphens_nil]

theorem hyphenated_iff {settings : Settings} {g : Graph} {title : String}
    (h : settings.titleFor g.formatName = some title) :
    Hyphenated settings g ↔ HasHyphens title.toList := by
  unfold Settings.titleFor at h
  unfold Hyphenated
  cases hn : settings.formatName.or g.formatName with
  | none => simp [hn] at h
  | some name =>
    cases hv : settings.version with
    | none =>
      obtain rfl : name = title := by simpa [hn, hv] using h
      simp
    | some version =>
      obtain rfl : s!"{name} ({version})" = title := by simpa [hn, hv] using h
      simp only [Option.some.injEq, exists_eq_left', hasHyphens_versioned]

end Titles

/-- A written schema is a declaration, a comment that says the title and one element with proper
tags and escaped text. It is well-formed exactly if the name and the version in the title have no
two hyphens in a row. -/
theorem render_wellFormed_iff {source : String} {c : Compiled} {settings : Settings}
    {text : String} (hc : compile source = .ok c) (hr : render settings c.graph = .ok text) :
    Document ((title? settings c.graph).map fun remark => ' ' :: remark.toList ++ [' '])
        text.toList ∧
      (WellFormed text.toList ↔ ¬Hyphenated settings c.graph) := by
  have hdoc := document_of_render hc hr
  refine ⟨hdoc, ?_⟩
  cases ht : settings.titleFor c.graph.formatName with
  | none =>
    have hn : ¬Hyphenated settings c.graph := by
      rintro ⟨name, hname, -⟩
      unfold Settings.titleFor at ht
      cases hv : settings.version <;> simp [hname, hv] at ht
    simp only [title?, ht, Option.map_none] at hdoc
    exact iff_of_true ⟨none, hdoc, by simp⟩ hn
  | some title =>
    simp only [title?, ht, Option.map_some] at hdoc
    rw [hdoc.wellFormed_iff (getLast?_spaced _), hasHyphens_remark, hyphenated_iff ht]

/-- A schema with markup in its name, in a description and in a default. -/
def markedSource : String :=
  "/* Format Name: <a> - \"b\" & c */
  root element a \x7b /* Description: a < b & c */ attributes: x (n < 2);\x7d
  attribute x \x7bdefaultValue: \"<&>--\";\x7d"

def draftSettings : Settings := { Settings.default with version := some "1 - draft" }

set_option maxRecDepth 4000 in
theorem render_wellFormed_iff_marked :
    ∃ c text, compile markedSource = .ok c ∧ render draftSettings c.graph = .ok text ∧
      c.graph.formatName = some "<a> - \"b\" & c" ∧ WellFormed text.toList := by
  obtain ⟨c, hc, ht⟩ := exists_compiled (String.toList_ofList : markedSource.toList = _)
    (fun c => (render draftSettings c.graph).toOption.isSome &&
      c.graph.formatName == some "<a> - \"b\" & c") (by decide)
  simp only [Bool.and_eq_true, beq_iff_eq] at ht
  cases hr : render draftSettings c.graph with
  | error failure => simp [hr, Except.toOption] at ht
  | ok text =>
    have hh : ¬Hyphenated draftSettings c.graph := by
      rw [hyphenated_iff (by rw [ht.2]; rfl)]
      decide
    exact ⟨c, text, hc, hr, ht.2, (render_wellFormed_iff hc hr).2.mpr hh⟩

/-- A schema whose name has two hyphens in a row. -/
def hyphenatedSource : String := "/* Format Name: a--b */\nroot element r \x7b\x7d\n"

set_option maxRecDepth 4000 in
/-- Such a name ends the comment before its time. -/
theorem render_not_wellFormed_hyphenated :
    ∃ c text, compile hyphenatedSource = .ok c ∧ render .default c.graph = .ok text ∧
      ¬WellFormed text.toList := by
  obtain ⟨c, hc, ht⟩ := exists_compiled (String.toList_ofList : hyphenatedSource.toList = _)
    (fun c => (render .default c.graph).toOption.isSome &&
      c.graph.formatName == some "a--b") (by decide)
  simp only [Bool.and_eq_true, beq_iff_eq] at ht
  cases hr : render .default c.graph with
  | error failure => simp [hr, Except.toOption] at ht
  | ok text =>
    have htitle : Settings.default.titleFor c.graph.formatName = some "a--b" := by
      rw [ht.2]
      rfl
    have hdoc := document_of_render hc hr
    simp only [title?, htitle, Option.map_some] at hdoc
    refine ⟨c, text, hc, hr, ?_⟩
    rw [hdoc.wellFormed_iff (getLast?_spaced _), hasHyphens_remark]
    decide

end DocSchema.XmlSchema
