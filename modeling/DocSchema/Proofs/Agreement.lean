import DocSchema.Proofs.JsonSchema.Values
import DocSchema.Proofs.Pattern.Complete
import DocSchema.Proofs.XmlSchema.Values

/-!
# One data type in two documents

A data type that is written to both documents is held to the same constraints on the way along its
chain of bases, layer by layer. On texts the two agree. On integers they agree except for patterns:
XML Schema holds the decimal text to them, and JSON Schema has patterns for strings only.
-/
namespace DocSchema

open XmlSchema (Datum AtMost)
open Xml (Node)

namespace Constraints

/-- A text passes the constraints of one data type. -/
def AllowsText (Matches : String → String → Prop) (k : Constraints) (text : String) : Prop :=
  (∀ p ∈ k.pattern, Matches p text) ∧ (k.values ≠ [] → text ∈ k.values)

/-- A number passes the constraints of one data type, patterns apart. -/
def AllowsInteger (k : Constraints) (n : Int) : Prop :=
  (k.values ≠ [] → ∃ v ∈ k.values, Number.signed? v.toList = some n) ∧
    (∀ m ∈ k.minimum, m ≤ n) ∧ ∀ m ∈ k.maximum, n ≤ m

section Layers

variable {k : Constraints} {X J : String → String → Prop}

theorem meets_text_iff (hk : k.Fits .string) (text : String) :
    XmlSchema.Meets X "xs:string" (Node.elements (XmlSchema.facets k)) text ↔
      k.AllowsText X text := by
  obtain ⟨hmin, hmax⟩ := hk.bounds rfl
  rw [XmlSchema.meets_facets_iff, hmin, hmax]
  simp [AllowsText, Datum.read?]

theorem holds_text_iff (hk : k.Fits .string)
    (hXJ : ∀ p text, J ("^(?:" ++ p ++ ")$") text ↔ X p text) (text : String) :
    (∀ f ∈ JsonSchema.keywords .string k, JsonSchema.Holds J (.string text) f) ↔
      k.AllowsText X text := by
  obtain ⟨hmin, hmax⟩ := hk.bounds rfl
  rw [JsonSchema.holds_keywords_iff, hmin, hmax]
  simp [AllowsText, JsonSchema.literal, hXJ]

theorem read?_integer (n : Int) : Datum.read? "xs:integer" (toString n) = some (.integer n) := by
  rw [Datum.read?, if_neg (by decide), if_pos rfl, Number.signed?_toString, Option.map_some]

theorem meets_integer_iff (n : Int) :
    XmlSchema.Meets X "xs:integer" (Node.elements (XmlSchema.facets k)) (toString n) ↔
      (∀ p ∈ k.pattern, X p (toString n)) ∧ k.AllowsInteger n := by
  rw [XmlSchema.meets_facets_iff]
  simp only [read?_integer, AtMost, Option.some.injEq, Datum.integer.injEq, AllowsInteger]
  have hread (v : String) : Datum.read? "xs:integer" v = some (.integer n) ↔
      Number.signed? v.toList = some n := by
    simp [Datum.read?]
  simp [hread]

/-- All listed values are numbers, so none of them stays text. -/
theorem integer_mem_literals_iff (hk : k.Fits .integer) (n : Int) :
    Json.integer n ∈ k.values.map (JsonSchema.literal .integer) ↔
      ∃ v ∈ k.values, Number.signed? v.toList = some n := by
  rw [List.mem_map]
  refine exists_congr fun v => and_congr_right fun hv => ?_
  obtain ⟨m, hm⟩ := Option.isSome_iff_exists.mp (hk.values v hv)
  simp [JsonSchema.literal, hm, Number.signed?_of_readInteger? hm]

theorem holds_integer_iff (hk : k.Fits .integer) (n : Int) :
    (∀ f ∈ JsonSchema.keywords .integer k, JsonSchema.Holds J (.integer n) f) ↔
      k.AllowsInteger n := by
  rw [JsonSchema.holds_keywords_iff, integer_mem_literals_iff hk]
  simp [AllowsInteger]

end Layers

end Constraints

section Documents

variable {source : String} {c : Compiled} {settings : Settings} {schema : Xml.Document} {doc : Json}
  {id : StructureId} {ks : List Constraints}

theorem xml_valid_text_iff (hc : compile source = .ok c)
    (hx : XmlSchema.document settings c.graph = .ok schema)
    (hw : id ∈ XmlSchema.written settings c.graph)
    (hs : c.graph.Chain .string (.declared id) ks) (X : String → String → Prop) (text : String) :
    XmlSchema.Valid X schema (settings.typePrefix ++ "d__" ++ (c.graph.get id).reference) text ↔
      ∀ k ∈ ks, k.AllowsText X text := by
  have hfit := compile_constraints_fit hc hs
  rw [XmlSchema.valid_iff (compile_wellLinked hc) hx hw hs]
  refine (and_iff_right rfl).trans (forall₂_congr fun k hk => ?_)
  exact Constraints.meets_text_iff (hfit k hk) text

theorem json_valid_text_iff (hc : compile source = .ok c)
    (hj : JsonSchema.document settings c.graph = .ok doc)
    (hw : id ∈ JsonSchema.written settings c.graph)
    (hs : c.graph.Chain .string (.declared id) ks) {X J : String → String → Prop}
    (hXJ : ∀ p text, J ("^(?:" ++ p ++ ")$") text ↔ X p text) (text : String) :
    JsonSchema.Valid J doc ("dataType." ++ (c.graph.get id).reference) (.string text) ↔
      ∀ k ∈ ks, k.AllowsText X text := by
  have hfit := compile_constraints_fit hc hs
  rw [JsonSchema.valid_iff (compile_wellLinked hc) hj hw hs]
  refine (and_iff_right rfl).trans (forall₂_congr fun k hk => ?_)
  exact Constraints.holds_text_iff (hfit k hk) hXJ text

theorem xml_valid_integer_iff (hc : compile source = .ok c)
    (hx : XmlSchema.document settings c.graph = .ok schema)
    (hw : id ∈ XmlSchema.written settings c.graph)
    (hs : c.graph.Chain .integer (.declared id) ks) (X : String → String → Prop) (n : Int) :
    XmlSchema.Valid X schema (settings.typePrefix ++ "d__" ++ (c.graph.get id).reference)
        (toString n) ↔
      ∀ k ∈ ks, (∀ p ∈ k.pattern, X p (toString n)) ∧ k.AllowsInteger n := by
  rw [XmlSchema.valid_iff (compile_wellLinked hc) hx hw hs]
  refine (and_iff_right ?_).trans (forall₂_congr fun k _ => Constraints.meets_integer_iff n)
  simp only [XmlSchema.primitiveName, Constraints.read?_integer, Option.isSome_some]

theorem json_valid_integer_iff (hc : compile source = .ok c)
    (hj : JsonSchema.document settings c.graph = .ok doc)
    (hw : id ∈ JsonSchema.written settings c.graph)
    (hs : c.graph.Chain .integer (.declared id) ks) (J : String → String → Prop) (n : Int) :
    JsonSchema.Valid J doc ("dataType." ++ (c.graph.get id).reference) (.integer n) ↔
      ∀ k ∈ ks, k.AllowsInteger n := by
  have hfit := compile_constraints_fit hc hs
  rw [JsonSchema.valid_iff (compile_wellLinked hc) hj hw hs]
  refine (and_iff_right rfl).trans (forall₂_congr fun k hk => ?_)
  exact Constraints.holds_integer_iff (hfit k hk) n

end Documents

/-- Compiles a text and writes both documents, with a graph that passes a test. -/
theorem exists_documents {source : String} {chars : List Char} (hs : source.toList = chars)
    (test : Graph → Bool)
    (h : (compileScan (Token.scan chars)).toOption.any (fun c =>
      (XmlSchema.document .default c.graph).toOption.isSome &&
        (JsonSchema.document .default c.graph).toOption.isSome && test c.graph) = true) :
    ∃ c schema doc, compile source = .ok c ∧ XmlSchema.document .default c.graph = .ok schema ∧
      JsonSchema.document .default c.graph = .ok doc ∧ test c.graph = true := by
  obtain ⟨c, hc, ht⟩ := exists_compiled hs _ h
  simp only [Bool.and_eq_true] at ht
  obtain ⟨⟨hx, hj⟩, ht⟩ := ht
  cases hx' : XmlSchema.document .default c.graph with
  | error f => simp [hx', Except.toOption] at hx
  | ok schema =>
    cases hj' : JsonSchema.document .default c.graph with
    | error f => simp [hj', Except.toOption] at hj
    | ok doc => exact ⟨c, schema, doc, hc, hx', hj', ht⟩

def Graph.isLayer (g : Graph) (id : StructureId) (base : TypeRef) (k : Constraints) : Bool :=
  match (g.get id).body with
  | .dataType base' k' => base' == base && k' == k
  | _ => false

theorem Graph.body_of_isLayer {g : Graph} {id : StructureId} {base : TypeRef} {k : Constraints}
    (h : g.isLayer id base k = true) : (g.get id).body = .dataType base k := by
  unfold Graph.isLayer at h
  split at h
  · next hb =>
    obtain ⟨rfl, rfl⟩ : _ = base ∧ _ = k := by simpa using h
    exact hb
  · cases h

/-- Both documents hold a text to the constraints along the chain, and so they accept the same
texts, if one reading of patterns is behind both of their pattern languages. -/
theorem text_validity_agrees {source : String} {c : Compiled} (hc : compile source = .ok c)
    {xs js : Settings} {schema : Xml.Document} {doc : Json}
    (hx : XmlSchema.document xs c.graph = .ok schema)
    (hj : JsonSchema.document js c.graph = .ok doc) {id : StructureId}
    (hxw : id ∈ XmlSchema.written xs c.graph) (hjw : id ∈ JsonSchema.written js c.graph)
    {ks : List Constraints} (hs : c.graph.Chain .string (.declared id) ks)
    (X J : String → String → Prop)
    (hXJ : ∀ p text, J ("^(?:" ++ p ++ ")$") text ↔ X p text) (text : String) :
    (XmlSchema.Valid X schema (xs.typePrefix ++ "d__" ++ (c.graph.get id).reference) text ↔
      JsonSchema.Valid J doc ("dataType." ++ (c.graph.get id).reference) (.string text)) ∧
    (XmlSchema.Valid X schema (xs.typePrefix ++ "d__" ++ (c.graph.get id).reference) text ↔
      ∀ k ∈ ks, k.AllowsText X text) := by
  have hxml := xml_valid_text_iff hc hx hxw hs X text
  have hjson := json_valid_text_iff hc hj hjw hs hXJ text
  exact ⟨hxml.trans hjson.symm, hxml⟩

def twoLayerSource : String :=
  "root element a \x7ballowedContent: w;\x7d root object o \x7bproperties: p;\x7d
  property p \x7bvalueType: w;\x7d dataType w \x7bbaseType: v; allowedValues: ['ab', 'b1'];\x7d
  dataType v \x7ballowedPattern: '[a-z]+';\x7d"

set_option maxRecDepth 4000 in
theorem text_validity_agrees_twoLayer :
    ∃ c schema doc, compile twoLayerSource = .ok c ∧
      XmlSchema.document .default c.graph = .ok schema ∧
      JsonSchema.document .default c.graph = .ok doc ∧
      (XmlSchema.Valid Pattern.Whole schema "__type__d__w" "ab" ∧
        JsonSchema.Valid Pattern.Found doc "dataType.w" (.string "ab")) ∧
      ¬XmlSchema.Valid Pattern.Whole schema "__type__d__w" "b1" ∧
        ¬JsonSchema.Valid Pattern.Found doc "dataType.w" (.string "b1") := by
  obtain ⟨c, schema, doc, hc, hx, hj, ht⟩ := exists_documents
    (String.toList_ofList : twoLayerSource.toList = _)
    (fun g => (XmlSchema.written .default g).contains 3
      && (JsonSchema.written .default g).contains 3
      && g.isLayer 3 (.declared 4) ⟨none, ["ab", "b1"], none, none⟩
      && g.isLayer 4 (.primitive .string) ⟨some "[a-z]+", [], none, none⟩
      && (g.get 3).reference == "w") (by decide +kernel)
  simp only [Bool.and_eq_true, List.contains_iff_mem, beq_iff_eq] at ht
  obtain ⟨⟨⟨⟨hxw, hjw⟩, hw⟩, hv⟩, hn⟩ := ht
  have hs := Graph.Chain.declared (Graph.body_of_isLayer hw)
    (.declared (Graph.body_of_isLayer hv) .primitive)
  have hagree := text_validity_agrees hc hx hj hxw hjw hs Pattern.Whole Pattern.Found
    fun _ _ => Iff.rfl
  rw [hn] at hagree
  have hwhole : Pattern.Whole "[a-z]+" "ab" := by decide +kernel
  have hpart : ¬Pattern.Whole "[a-z]+" "b1" := by decide +kernel
  have hab := (hagree "ab").2.mpr (by simpa [Constraints.AllowsText] using hwhole)
  have hb1 := mt (hagree "b1").2.mp (by simpa [Constraints.AllowsText] using hpart)
  exact ⟨c, schema, doc, hc, hx, hj, ⟨hab, (hagree "ab").1.mp hab⟩, hb1,
    mt (hagree "b1").1.mpr hb1⟩

/-- A number is accepted in XML Schema exactly if it is accepted in JSON Schema and its decimal text
matches every pattern along the chain. -/
theorem integer_validity_agrees_beside_patterns {source : String} {c : Compiled}
    (hc : compile source = .ok c) {xs js : Settings} {schema : Xml.Document} {doc : Json}
    (hx : XmlSchema.document xs c.graph = .ok schema)
    (hj : JsonSchema.document js c.graph = .ok doc) {id : StructureId}
    (hxw : id ∈ XmlSchema.written xs c.graph) (hjw : id ∈ JsonSchema.written js c.graph)
    {ks : List Constraints} (hs : c.graph.Chain .integer (.declared id) ks)
    (X J : String → String → Prop) (n : Int) :
    (XmlSchema.Valid X schema (xs.typePrefix ++ "d__" ++ (c.graph.get id).reference)
        (toString n) ↔
      JsonSchema.Valid J doc ("dataType." ++ (c.graph.get id).reference) (.integer n) ∧
        ∀ k ∈ ks, ∀ p ∈ k.pattern, X p (toString n)) ∧
    (JsonSchema.Valid J doc ("dataType." ++ (c.graph.get id).reference) (.integer n) ↔
      ∀ k ∈ ks, k.AllowsInteger n) := by
  have hjson := json_valid_integer_iff hc hj hjw hs J n
  refine ⟨?_, hjson⟩
  rw [xml_valid_integer_iff hc hx hxw hs X n, hjson, forall₂_and, and_comm]

def digitSource : String :=
  "root element a \x7ballowedContent: w;\x7d root object o \x7bproperties: p;\x7d
  property p \x7bvalueType: w;\x7d dataType w \x7bbaseType: integer; allowedPattern: '[0-9]';\x7d"

set_option maxRecDepth 4000 in
theorem exists_digit_documents :
    ∃ c schema doc, compile digitSource = .ok c ∧
      XmlSchema.document .default c.graph = .ok schema ∧
      JsonSchema.document .default c.graph = .ok doc ∧
      3 ∈ XmlSchema.written .default c.graph ∧ 3 ∈ JsonSchema.written .default c.graph ∧
      (c.graph.get 3).reference = "w" ∧
      c.graph.Chain .integer (.declared 3) [⟨some "[0-9]", [], none, none⟩] := by
  obtain ⟨c, schema, doc, hc, hx, hj, ht⟩ := exists_documents
    (String.toList_ofList : digitSource.toList = _)
    (fun g => (XmlSchema.written .default g).contains 3
      && (JsonSchema.written .default g).contains 3
      && g.isLayer 3 (.primitive .integer) ⟨some "[0-9]", [], none, none⟩
      && (g.get 3).reference == "w") (by decide +kernel)
  simp only [Bool.and_eq_true, List.contains_iff_mem, beq_iff_eq] at ht
  obtain ⟨⟨⟨hxw, hjw⟩, hw⟩, hn⟩ := ht
  exact ⟨c, schema, doc, hc, hx, hj, hxw, hjw, hn, .declared (Graph.body_of_isLayer hw) .primitive⟩

theorem integer_validity_agrees_beside_patterns_digit :
    ∃ c schema doc, compile digitSource = .ok c ∧
      XmlSchema.document .default c.graph = .ok schema ∧
      JsonSchema.document .default c.graph = .ok doc ∧
      XmlSchema.Valid Pattern.Whole schema "__type__d__w" "7" ∧
      JsonSchema.Valid Pattern.Found doc "dataType.w" (.integer 7) := by
  obtain ⟨c, schema, doc, hc, hx, hj, hxw, hjw, hn, hs⟩ := exists_digit_documents
  obtain ⟨hxml, hjson⟩ :=
    integer_validity_agrees_beside_patterns hc hx hj hxw hjw hs Pattern.Whole Pattern.Found 7
  rw [hn] at hxml hjson
  have hvalid := hjson.mpr (by simp [Constraints.AllowsInteger])
  have hwhole : Pattern.Whole "[0-9]" (toString (7 : Int)) := by decide +kernel
  exact ⟨c, schema, doc, hc, hx, hj, hxml.mpr ⟨hvalid, by simpa using hwhole⟩, hvalid⟩

/-- Twelve has two digits: the pattern keeps it out of XML documents but not out of JSON values. -/
theorem integer_validity_differs_on_pattern :
    ∃ c schema doc, compile digitSource = .ok c ∧
      XmlSchema.document .default c.graph = .ok schema ∧
      JsonSchema.document .default c.graph = .ok doc ∧
      3 ∈ XmlSchema.written .default c.graph ∧ 3 ∈ JsonSchema.written .default c.graph ∧
      (c.graph.get 3).reference = "w" ∧
      c.graph.Chain .integer (.declared 3) [⟨some "[0-9]", [], none, none⟩] ∧
      ¬XmlSchema.Valid Pattern.Whole schema "__type__d__w" "12" ∧
      JsonSchema.Valid Pattern.Found doc "dataType.w" (.integer 12) := by
  obtain ⟨c, schema, doc, hc, hx, hj, hxw, hjw, hn, hs⟩ := exists_digit_documents
  have hxml := xml_valid_integer_iff hc hx hxw hs Pattern.Whole 12
  have hjson := json_valid_integer_iff hc hj hjw hs Pattern.Found 12
  rw [hn] at hxml hjson
  have hpart : ¬Pattern.Whole "[0-9]" (toString (12 : Int)) := by decide +kernel
  have hinvalid := mt hxml.mp fun h => hpart ((h _ List.mem_cons_self).1 _ rfl)
  exact ⟨c, schema, doc, hc, hx, hj, hxw, hjw, hn, hs, hinvalid,
    hjson.mpr (by simp [Constraints.AllowsInteger])⟩

end DocSchema
