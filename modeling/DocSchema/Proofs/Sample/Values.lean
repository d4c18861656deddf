import DocSchema.Proofs.BaseCycles
import DocSchema.Proofs.Pattern.Complete
import DocSchema.Proofs.Sample.Children

/-!
# Values in sample documents

Every value that a sample document shows was chosen for its owner and is matched by every pattern on
the chain of its type, except that the default of an attribute without an example is written as it
is. A sample fails only where a value was chosen that a pattern on its chain does not match, and the
failure names the data type with the pattern.
-/
namespace DocSchema

namespace Graph

variable {g : Graph}

/-- A data type is on the chain of bases that starts at a type. -/
inductive OnChain (g : Graph) : TypeRef → StructureId → Prop
  | head {id : StructureId} {base : TypeRef} {k : Constraints} :
      (g.get id).body = .dataType base k → OnChain g (.declared id) id
  | tail {id d : StructureId} {base : TypeRef} {k : Constraints} :
      (g.get id).body = .dataType base k → OnChain g base d → OnChain g (.declared id) d

theorem onChain_declared_iff {id d : StructureId} {base : TypeRef} {k : Constraints}
    (hb : (g.get id).body = .dataType base k) :
    g.OnChain (.declared id) d ↔ d = id ∨ g.OnChain base d := by
  constructor
  · intro h
    cases h with
    | head => exact .inl rfl
    | tail hb' h =>
      rw [hb] at hb'
      cases hb'
      exact .inr h
  · rintro (rfl | h)
    · exact .head hb
    · exact .tail hb h

theorem Chain.mem_baseChainAux_iff {p : Primitive} {t : TypeRef} {ks : List Constraints}
    (h : g.Chain p t ks) {fuel : Nat} (hf : ks.length ≤ fuel) {d : StructureId} :
    d ∈ g.baseChainAux fuel t ↔ g.OnChain t d := by
  induction h generalizing fuel with
  | primitive =>
    have hempty : g.baseChainAux fuel (.primitive p) = [] := by cases fuel <;> rfl
    rw [hempty]
    exact ⟨fun hd => (List.not_mem_nil hd).elim, fun hd => nomatch hd⟩
  | declared hb _ ih =>
    cases fuel with
    | zero => simp at hf
    | succ fuel =>
      rw [List.length_cons] at hf
      simp only [baseChainAux, base?, hb, List.mem_cons, onChain_declared_iff hb]
      rw [ih (by omega)]

theorem Chain.mem_baseChain_iff {p : Primitive} {t : TypeRef} {ks : List Constraints}
    (h : g.Chain p t ks) {d : StructureId} : d ∈ g.baseChain t ↔ g.OnChain t d :=
  h.mem_baseChainAux_iff h.length_le

/-- What values need of a graph: links that fit, chains of bases that end, and patterns that
compile. -/
structure TypesSound (g : Graph) : Prop where
  wellLinked : g.WellLinked
  ends : ∀ t, g.Admits .baseType t → ∃ p ks, g.Chain p t ks
  patterns : ∀ id, ∀ pattern ∈ (Sample.constraintsOf (g.get id)).pattern,
    ∃ r, Pattern.compile pattern = .ok r

end Graph

namespace Link

theorem exists_compile_of_dataTypeProblems {definitions : List Definition} {g : Graph}
    {id : StructureId} {d : Definition} {base : TypeRef} {k : Constraints}
    (hb : (structureOf definitions d).value.body = .dataType base k)
    (h : ∀ problem ∈ dataTypeProblems g id d, problem.isError = false) {pattern : String}
    (hp : k.pattern = some pattern) : ∃ r, Pattern.compile pattern = .ok r := by
  have hb : (body definitions d.name.value d.body).value = .dataType base k := hb
  cases hd : d.body with
  | dataType type given values minimum maximum =>
    simp only [hd, body, Checked.value_bind, Checked.value_pure, Body.dataType.injEq] at hb
    obtain ⟨-, rfl⟩ := hb
    obtain ⟨located, rfl, rfl⟩ := Option.map_eq_some_iff.mp hp
    cases hc : Pattern.compile located.value with
    | ok r => exact ⟨r, rfl⟩
    | error fault =>
      have hm : Problem.invalidPattern d.name.value located.span fault ∈
          dataTypeProblems g id d := by
        simp only [dataTypeProblems, hd]
        exact List.mem_append_left _ (by simp [patternProblems, hc])
      exact absurd (h _ hm) (by simp [Problem.isError])
  | _ => simp [hd, body] at hb

end Link

theorem compile_typesSound {source : String} {c : Compiled} (hc : compile source = .ok c) :
    c.graph.TypesSound := by
  refine ⟨compile_wellLinked hc, fun t => compile_chain_ends hc, fun id pattern hp => ?_⟩
  unfold Sample.constraintsOf at hp
  split at hp
  next base k hb =>
    obtain ⟨definitions, d, -, hbody, hchecked⟩ := compile_dataType_checked hc hb
    exact Link.exists_compile_of_dataTypeProblems hbody hchecked hp
  · simp [Constraints.none] at hp

namespace Sample

open Artifact (Failure)

/-- The pattern of a data type matches the whole value, if it has one. -/
def Matches (s : Structure) (v : String) : Prop :=
  ∀ pattern ∈ (constraintsOf s).pattern, Pattern.Whole pattern v

/-- The failure that names a data type whose pattern does not match the value. -/
def Refuses (s : Structure) (v : String) (failure : Failure) : Prop :=
  ∃ pattern ∈ (constraintsOf s).pattern, ¬Pattern.Whole pattern v ∧
    failure = .noSampleValue s.reference (.mismatch v pattern)

theorem checkPattern_outcome {s : Structure} (v : String)
    (hs : ∀ pattern ∈ (constraintsOf s).pattern, ∃ r, Pattern.compile pattern = .ok r) :
    Outcome (checkPattern v s) (fun _ => Matches s v) (Refuses s v) := by
  unfold checkPattern
  cases hp : (constraintsOf s).pattern with
  | none => simp [Outcome, Matches, hp]
  | some pattern =>
    obtain ⟨r, hr⟩ := hs pattern hp
    simp only [hr]
    split_ifs with hm
    · intro other ho
      rw [hp] at ho
      cases ho
      exact (Pattern.whole_iff hr).2 hm
    · exact ⟨pattern, hp, mt (Pattern.whole_iff hr).1 hm, rfl⟩

theorem checkPatterns_outcome {chain : List Structure} (v : String)
    (hs : ∀ s ∈ chain, ∀ pattern ∈ (constraintsOf s).pattern,
      ∃ r, Pattern.compile pattern = .ok r) :
    Outcome (checkPatterns v chain) (fun _ => ∀ s ∈ chain, Matches s v)
      (fun failure => ∃ s ∈ chain, Refuses s v failure) := by
  induction chain with
  | nil => simp [checkPatterns, Outcome]
  | cons s chain ih =>
    rw [List.forall_mem_cons] at hs
    have hfirst : Outcome (checkPattern v s) (fun _ => Matches s v)
        (fun failure => ∃ t ∈ s :: chain, Refuses t v failure) :=
      (checkPattern_outcome v hs.1).explain fun failure hf => ⟨s, List.mem_cons_self, hf⟩
    rw [checkPatterns]
    refine hfirst.bind fun _ hmatch => ?_
    have hrest : Outcome (checkPatterns v chain) (fun _ => ∀ t ∈ s :: chain, Matches t v) _ :=
      (ih hs.2).weaken fun _ hm => List.forall_mem_cons.2 ⟨hmatch, hm⟩
    refine hrest.explain ?_
    rintro failure ⟨t, ht, hf⟩
    exact ⟨t, List.mem_cons_of_mem s ht, hf⟩

def Chosen (g : Graph) (owner : Structure) (type : TypeRef) (v : String) : Prop :=
  ∃ p, g.basePrimitive type = some p ∧ v = choose owner ((g.baseChain type).map g.get) p

/-- A chosen value that every pattern on the chain of its type matches. -/
def Fitting (g : Graph) (owner : Structure) (type : TypeRef) (v : String) : Prop :=
  Chosen g owner type v ∧ ∀ d, g.OnChain type d → Matches (g.get d) v

/-- The failure that names a data type on the chain whose pattern does not match the chosen
value. -/
def Refused (g : Graph) (owner : Structure) (type : TypeRef) (failure : Failure) : Prop :=
  ∃ v, Chosen g owner type v ∧ ∃ d, g.OnChain type d ∧ Refuses (g.get d) v failure

variable {g : Graph}

theorem value_outcome (hg : g.TypesSound) (owner : Structure) {type : TypeRef}
    (ht : g.Admits .baseType type) :
    Outcome (value g owner type) (Fitting g owner type) (Refused g owner type) := by
  obtain ⟨p, ks, hchain⟩ := hg.ends type ht
  have hp := hchain.basePrimitive_eq
  have hcompile : ∀ s ∈ (g.baseChain type).map g.get, ∀ pattern ∈ (constraintsOf s).pattern,
      ∃ r, Pattern.compile pattern = .ok r := by
    intro s hs
    obtain ⟨d, -, rfl⟩ := List.mem_map.1 hs
    exact hg.patterns d
  simp only [value, hp]
  refine ((checkPatterns_outcome _ hcompile).explain ?_).bind fun _ hm => ?_
  · rintro failure ⟨s, hs, hf⟩
    obtain ⟨d, hd, rfl⟩ := List.mem_map.1 hs
    exact ⟨_, ⟨p, hp, rfl⟩, d, hchain.mem_baseChain_iff.1 hd, hf⟩
  · exact ⟨⟨p, hp, rfl⟩, fun d hd => hm _ (List.mem_map_of_mem (hchain.mem_baseChain_iff.2 hd))⟩

/-- The default of an attribute is not used where there is none, or where the attribute has an
example. -/
def IsSampled (s : Structure) (default : Option String) : Prop :=
  default = none ∨ s.remarks.exampleValue ≠ none

/-- How the attribute of a slot is written: by a fitting value, or by its default as it is. -/
inductive AttributeShown (g : Graph) (slot : Slot) : Xml.Attribute → Prop
  | sampled {type : TypeRef} {default : Option String} {v : String} :
      (g.get slot.target).body = .attribute type default →
      IsSampled (g.get slot.target) default → Fitting g (g.get slot.target) type v →
      AttributeShown g slot ((g.get slot.target).tag, v)
  | default {type : TypeRef} {v : String} :
      (g.get slot.target).body = .attribute type (some v) →
      (g.get slot.target).remarks.exampleValue = none →
      AttributeShown g slot ((g.get slot.target).tag, v)

def AttributeRefused (g : Graph) (slot : Slot) (failure : Failure) : Prop :=
  ∃ type default, (g.get slot.target).body = .attribute type default ∧
    IsSampled (g.get slot.target) default ∧ Refused g (g.get slot.target) type failure

theorem exists_attribute_body {s : Structure} (h : s.kind = .attribute) :
    ∃ type default, s.body = .attribute type default := by
  cases hb : s.body <;> simp [Structure.kind, Body.kind, hb] at h ⊢

theorem attributeValue_outcome (hg : g.TypesSound) {slot : Slot}
    (hs : g.Admits .attributeSlot slot.type) :
    Outcome (attributeValue g (g.get slot.target))
      (fun v => AttributeShown g slot ((g.get slot.target).tag, v)) (AttributeRefused g slot) := by
  obtain ⟨hid, hk⟩ := hs
  obtain ⟨type, default, hb⟩ := exists_attribute_body (by simpa [Place.kinds] using hk)
  have hadmits : g.Admits .attributeType type :=
    hg.wellLinked.admits _ (Graph.get_mem hid) (.attributeType, type)
      (by simp [hb, Body.references])
  have htype : g.Admits .baseType type := by cases type <;> exact hadmits
  have hsampled (h : IsSampled (g.get slot.target) default) :
      Outcome (value g (g.get slot.target) type)
        (fun v => AttributeShown g slot ((g.get slot.target).tag, v)) (AttributeRefused g slot) :=
    ((value_outcome hg _ htype).weaken fun v hv => .sampled hb h hv).explain
      fun failure hf => ⟨type, default, hb, h, hf⟩
  simp only [attributeValue, hb]
  cases hd : default with
  | none => exact hsampled (.inl hd)
  | some given =>
    cases he : (g.get slot.target).remarks.exampleValue with
    | none => exact .default (hd ▸ hb) he
    | some other => exact hsampled (.inr (by simp [he]))

theorem attributes_outcome (hg : g.TypesSound) {slots : List Slot}
    (hs : ∀ slot ∈ slots, g.Admits .attributeSlot slot.type) :
    Outcome (attributes g slots) (List.Forall₂ (AttributeShown g) slots)
      (fun failure => ∃ slot ∈ slots, AttributeRefused g slot failure) := by
  induction slots with
  | nil => exact .nil
  | cons slot slots ih =>
    rw [List.forall_mem_cons] at hs
    rw [attributes]
    refine ((attributeValue_outcome hg hs.1).explain fun failure hf => ?_).bind fun v hv => ?_
    · exact ⟨slot, List.mem_cons_self, hf⟩
    refine ((ih hs.2).explain fun failure hf => ?_).bind fun shown hshown => .cons hv hshown
    obtain ⟨other, ho, hf⟩ := hf
    exact ⟨other, List.mem_cons_of_mem slot ho, hf⟩

/-- The failure of an element: that of an attribute, or of its own value. -/
def OwnRefused (g : Graph) (e : StructureId) (failure : Failure) : Prop :=
  ∃ isRoot slots content, (g.get e).body = .element isRoot slots content ∧
    ((∃ slot ∈ slots, AttributeRefused g slot failure) ∨
      ∃ type, content = .value type ∧ Refused g (g.get e) type failure)

/-- The failure of an element that is held at some depth. -/
def RefusedBelow (g : Graph) (id : StructureId) (failure : Failure) : Prop :=
  ∃ e, Relation.ReflTransGen (Holds g) id e ∧ OwnRefused g e failure

theorem copies_outcome {n : Nat} {once : Unit → Except Failure (List Instance)}
    {M : Instance → Prop} {R : Failure → Prop} (h : Outcome (once ()) (∀ i ∈ ·, M i) R) :
    Outcome (copies n once) (∀ i ∈ ·, M i) R := by
  unfold copies
  split_ifs with hn
  · simp [Outcome]
  · refine h.map fun shown hs i hi => ?_
    obtain ⟨part, hp, hi⟩ := List.mem_flatten.1 hi
    exact hs i (List.eq_of_mem_replicate hp ▸ hi)

theorem attributeSlots_admitted (hw : g.WellLinked) {id : StructureId} (hid : id < g.size)
    {isRoot : Bool} {slots : List Slot} {content : Content}
    (hb : (g.get id).body = .element isRoot slots content) :
    (∀ slot ∈ slots, g.Admits .attributeSlot slot.type) ∧
      ∀ type, content = .value type → g.Admits .baseType type := by
  have hadmits := hw.admits _ (Graph.get_mem hid)
  rw [hb] at hadmits
  refine ⟨fun slot hs => ?_, ?_⟩
  · exact hadmits (.attributeSlot, slot.type) (List.mem_append_left _ (List.mem_map_of_mem hs))
  · rintro type rfl
    have htype := hadmits (.valueContent, type)
      (List.mem_append_right _ (by simp [Content.references]))
    cases type <;> exact htype

theorem element_outcome (hg : g.TypesSound) {fuel : Nat} {opened : List StructureId}
    {id : StructureId} (hid : id < g.size) (hk : (g.get id).kind = .element) :
    Outcome (element g fuel opened id) (fun _ => True) (RefusedBelow g id) := by
  induction fuel generalizing opened id with
  | zero => trivial
  | succ fuel ih =>
    obtain ⟨isRoot, slots, content, hb⟩ := exists_element_body hk
    obtain ⟨hslots, htype⟩ := attributeSlots_admitted hg.wellLinked hid hb
    simp only [element, hb]
    refine ((attributes_outcome hg hslots).explain fun failure hf => ?_).bind fun given _ => ?_
    · exact ⟨id, .refl, isRoot, slots, content, hb, .inl hf⟩
    cases content with
    | empty => trivial
    | text => trivial
    | value type =>
      refine ((value_outcome hg (g.get id) (htype type rfl)).explain fun failure hf => ?_).bind
        fun _ _ => trivial
      exact ⟨id, .refl, isRoot, slots, .value type, hb, .inr ⟨type, rfl, hf⟩⟩
    | children inner =>
      dsimp only
      rw [group_eq_particle]
      refine Outcome.bind (P := (∀ i ∈ ·, True)) ?_ fun _ _ => trivial
      refine particle_outcome _ fun s hs _ => copies_outcome ?_
      have hs : s ∈ (g.get id).content.slots := by
        rw [Structure.content_eq hb]
        rwa [Group.slots_particle] at hs
      obtain ⟨hlt, hkind⟩ := child_admitted hg.wellLinked hid hs
      refine ((ih hlt hkind).weaken fun _ _ _ _ => trivial).explain ?_
      rintro failure ⟨e, hreach, hf⟩
      exact ⟨e, .head ⟨s, hs, rfl⟩ hreach, hf⟩

/-- The values of an instance: its attributes are shown slot by slot, and a typed value is a fitting
one. -/
def ValuesShown (g : Graph) (i : Instance) : Prop :=
  ∃ isRoot slots content, (g.get i.id).body = .element isRoot slots content ∧
    List.Forall₂ (AttributeShown g) slots i.attributes ∧
    ∀ type, content = .value type →
      ∃ v, i = .text i.id i.attributes v ∧ Fitting g (g.get i.id) type v

theorem Made.valuesShown (hg : g.TypesSound) {opened : List StructureId} {i : Instance}
    (h : Made g opened i) : ValuesShown g i := by
  obtain ⟨isRoot, slots, content, hb⟩ := exists_element_body h.isElement
  obtain ⟨hslots, htype⟩ := attributeSlots_admitted hg.wellLinked h.bound hb
  obtain ⟨hattributes, -, -, hvalue⟩ := h.filled hb
  refine ⟨isRoot, slots, content, hb, ?_, fun type hc => ?_⟩
  · have ho := attributes_outcome hg hslots
    rwa [hattributes] at ho
  · obtain ⟨v, hv, hi⟩ := hvalue type hc
    have ho := value_outcome hg (g.get i.id) (htype type hc)
    rw [hv] at ho
    exact ⟨v, hi, ho⟩

/-- A sample of a root element shows only values that every pattern on the chains of their types
matches, besides defaults of attributes without an example; otherwise it fails, and the failure
names a data type on the chain of a value that is needed below the root, whose pattern does not
match what was chosen. -/
theorem render_values_match_or_default {source : String} {c : Compiled}
    (hc : compile source = .ok c) (settings : Settings) {name : Option String} {r : StructureId}
    (hr : root c.graph name = .ok r) :
    Outcome (render settings c.graph name)
      (fun text => ∃ root : Instance, root.id = r ∧
        text = Xml.Document.render settings.indent ⟨none, root.node c.graph⟩ ∧
        ∀ above i, root.Within above i → ValuesShown c.graph i)
      (RefusedBelow c.graph r) := by
  have hg := compile_typesSound hc
  obtain ⟨hid, hk⟩ := root_isElement hr
  have hroot : Outcome (element c.graph (c.graph.size + 1) [] r) (fun _ => True)
      (RefusedBelow c.graph r) := element_outcome hg hid hk
  cases h : render settings c.graph name with
  | ok text =>
    obtain ⟨i, hi, -, hm, ht⟩ := render_eq_ok h
    rw [hr] at hi
    cases hi
    exact ⟨i, rfl, ht, fun above j hj => (hm.within hg.wellLinked hj).valuesShown hg⟩
  | error failure =>
    cases he : element c.graph (c.graph.size + 1) [] r with
    | error other =>
      simp only [render, instances, hr, ok_bind, he] at h
      cases h
      rwa [he] at hroot
    | ok shown =>
      obtain ⟨i, rfl, -, -⟩ := made_of_element .nil List.not_mem_nil hid hk he
      simp only [render, instances, hr, ok_bind, he] at h
      cases h

/-- Values of `w` are held to the patterns of two layers; of the values of `u` none is allowed. -/
def layeredSource : String :=
  "root element a \x7battributes: [id]; allowedContent: w;\x7d attribute id \x7bvalueType: w;\x7d
  root element b \x7ballowedContent: u;\x7d dataType u \x7bbaseType: v; allowedValues: ['ab'];\x7d
  dataType w \x7bbaseType: v; allowedPattern: '[a-z]+'; allowedValues: ['bc'];\x7d
  dataType v \x7ballowedPattern: '[b-y]+';\x7d"

set_option maxRecDepth 4000 in
theorem render_values_match_or_default_layered :
    ∃ c, compile layeredSource = .ok c ∧ root c.graph none = .ok 0 ∧
      root c.graph (some "b") = .ok 2 ∧
      (∃ text, render .default c.graph none = .ok text ∧ ∃ root : Instance, root.id = 0 ∧
        text = Xml.Document.render 4 ⟨none, root.node c.graph⟩ ∧ ValuesShown c.graph root) ∧
      RefusedBelow c.graph 2 (.noSampleValue "v" (.mismatch "ab" "[b-y]+")) := by
  obtain ⟨c, hc, ht⟩ := exists_compiled (String.toList_ofList : layeredSource.toList = _)
    (fun c => (root c.graph none).toOption == some 0 && (root c.graph (some "b")).toOption == some 2
      && (render .default c.graph none).toOption.isSome
      && failsWith (render .default c.graph (some "b"))
        (.noSampleValue "v" (.mismatch "ab" "[b-y]+"))) (by decide +kernel)
  simp only [Bool.and_eq_true, beq_iff_eq, failsWith_iff, Option.isSome_iff_exists,
    toOption_eq_some] at ht
  obtain ⟨⟨⟨ha, hb⟩, text, hshown⟩, hrefused⟩ := ht
  have hfits := render_values_match_or_default hc .default ha
  rw [hshown] at hfits
  obtain ⟨root, hid, htext, hvalues⟩ := hfits
  have hfails := render_values_match_or_default hc .default hb
  rw [hrefused] at hfails
  exact ⟨c, hc, ha, hb, ⟨text, hshown, root, hid, htext, hvalues [] root .root⟩, hfails⟩

def unfitDefaultSource : String :=
  "root element a \x7battributes: [id (optional)];\x7d
  attribute id \x7bvalueType: w; defaultValue: 'x';\x7d
  dataType w \x7ballowedPattern: '[0-9]+';\x7d"

set_option maxRecDepth 4000 in
/-- A default that the pattern of its type does not match is written all the same. -/
theorem render_shows_unfit_default :
    ∃ c, compile unfitDefaultSource = .ok c ∧
      render .default c.graph none =
        .ok "<?xml version=\"1.0\" encoding=\"UTF-8\"?>\n<a id=\"x\"/>\n" ∧
      (c.graph.get 1).reference = "id" ∧
      (c.graph.get 1).body.references = [(.attributeType, .declared 2)] ∧
      c.graph.OnChain (.declared 2) 2 ∧ ¬Matches (c.graph.get 2) "x" := by
  obtain ⟨c, hc, ht⟩ := exists_compiled (String.toList_ofList : unfitDefaultSource.toList = _)
    (fun c => (render .default c.graph none).toOption ==
        some "<?xml version=\"1.0\" encoding=\"UTF-8\"?>\n<a id=\"x\"/>\n"
      && (c.graph.get 1).reference == "id"
      && (c.graph.get 1).body.references == [(.attributeType, .declared 2)]
      && (c.graph.base? 2).isSome && (constraintsOf (c.graph.get 2)).pattern == some "[0-9]+")
    (by decide +kernel)
  simp only [Bool.and_eq_true, beq_iff_eq, toOption_eq_some] at ht
  obtain ⟨⟨⟨⟨htext, hid⟩, htype⟩, hbase⟩, hpattern⟩ := ht
  have hunfit : ¬Pattern.Whole "[0-9]+" "x" := by decide +kernel
  refine ⟨c, hc, htext, hid, htype, ?_, fun hm => hunfit (hm _ hpattern)⟩
  unfold Graph.base? at hbase
  split at hbase
  next hb => exact .head hb
  · cases hbase

end Sample

end DocSchema
