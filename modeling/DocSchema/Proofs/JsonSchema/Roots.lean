import DocSchema.Proofs.BaseCycles
import DocSchema.Proofs.JsonSchema.Verdict
import DocSchema.Proofs.Pattern.Complete

/-!
# Documents with several roots

The document of a compiled graph gives a verdict on every value: references between objects and
arrays lead into parts of the value, and chains of bases end. With two root objects or more it
accepts the values that exactly one of them accepts, so what two roots accept is rejected.
-/
namespace DocSchema.JsonSchema

variable {Matches : String → String → Bool} {settings : Settings} {g : Graph} {doc v : Json}

def entry (doc : Json) (g : Graph) (id : StructureId) : Json :=
  resolve doc ("#/$defs/" ++ key (g.get id))

section Calls

variable {fields : List (String × Json)}

theorem calls_description {s : Structure} {type : Option TypeRef} {f : String × Json}
    (hf : f ∈ description g s type) : calls doc fields v f = [] := by
  refine calls_eq_nil ?_
  rcases key_of_mem_description hf with hk | hk <;> simp [hk, callingKeys]

theorem calls_constraintFields {id : StructureId} {k : Constraints} {f : String × Json}
    (hf : f ∈ constraintFields g id k) : calls doc fields v f = [] := by
  have hk := key_of_mem_constraintFields hf
  simp only [List.mem_cons, List.not_mem_nil, or_false] at hk
  refine calls_eq_nil ?_
  rcases hk with hk | hk | hk | hk <;> simp [hk, callingKeys]

theorem exists_of_mem_calls_typeFields {t : TypeRef} {f : String × Json} (hf : f ∈ typeFields g t)
    {c : Json × Json} (hc : c ∈ calls doc fields v f) :
    ∃ id ∈ t.target?, c = (entry doc g id, v) := by
  cases t with
  | primitive p =>
    rw [typeFields, List.mem_singleton] at hf
    subst hf
    simp [calls_eq_nil, callingKeys] at hc
  | declared id =>
    rw [typeFields, List.mem_singleton] at hf
    subst hf
    refine ⟨id, rfl, ?_⟩
    simpa [calls_ref, reference, entry, toString] using hc

end Calls

def TypeDecided (Matches : String → String → Bool) (doc : Json) (g : Graph) (t : TypeRef)
    (v : Json) : Prop :=
  ∀ id ∈ t.target?, Decided Matches doc (entry doc g id) v

theorem decided_typed {t : TypeRef} {rest : List (String × Json)}
    (ht : TypeDecided Matches doc g t v)
    (hrest : ∀ fields, ∀ f ∈ rest, calls doc fields v f = []) :
    Decided Matches doc (.object (typeFields g t ++ rest)) v := by
  refine decided_object fun f hf c hc => ?_
  rcases List.mem_append.mp hf with hf | hf
  · obtain ⟨id, hid, rfl⟩ := exists_of_mem_calls_typeFields hf hc
    exact ht id hid
  · simp [hrest _ f hf] at hc

theorem decided_dataType {id : StructureId} {base : TypeRef} {k : Constraints}
    (ht : TypeDecided Matches doc g base v) : Decided Matches doc (dataType g id base k) v := by
  rw [dataType, List.append_assoc]
  refine decided_typed ht fun fields f hf => ?_
  rcases List.mem_append.mp hf with hf | hf
  · exact calls_constraintFields hf
  · exact calls_description hf

section Members

theorem eq_of_valueFields {owner : Structure} {t : TypeRef} {fields : List (String × Json)}
    (h : valueFields g owner t = .ok fields) : fields = typeFields g t := by
  unfold valueFields at h
  split at h
  · exact (Except.ok.inj h).symm
  · dsimp only at h
    split at h
    · exact (Except.ok.inj h).symm
    · exact (Except.ok.inj h).symm
    · exact (Except.ok.inj h).symm
    · cases h

theorem property_eq_ok {owner : Structure} {slot : Slot} {f : String × Json}
    (h : property g owner slot = .ok f) :
    ∃ t, (g.get slot.target).body = .property t ∧
      f.2 = .object (typeFields g t ++ description g (g.get slot.target) (some t)) := by
  unfold property at h
  dsimp only at h
  split at h
  next t hb =>
    obtain ⟨fields, hfields, heq⟩ := bind_eq_ok.1 h
    cases heq
    exact ⟨t, hb, by rw [eq_of_valueFields hfields]⟩
  next => cases h

theorem exists_slot_of_mem_properties {owner : Structure} {seen slots : List Slot}
    {fields : List (String × Json)} (h : properties g owner seen slots = .ok fields)
    {f : String × Json} (hf : f ∈ fields) : ∃ slot ∈ slots, property g owner slot = .ok f := by
  induction slots generalizing seen fields with
  | nil =>
    cases h
    simp at hf
  | cons slot slots ih =>
    rw [properties] at h
    obtain ⟨first, hfirst, h⟩ := bind_eq_ok.1 h
    dsimp only at h
    split at h
    · cases h
    · obtain ⟨later, hlater, heq⟩ := bind_eq_ok.1 h
      cases heq
      rcases List.mem_cons.1 hf with rfl | hf
      · exact ⟨slot, by simp, hfirst⟩
      · obtain ⟨other, hother, hp⟩ := ih hlater hf
        exact ⟨other, by simp [hother], hp⟩

theorem decided_bool (b : Bool) : Decided Matches doc (.bool b) v := ⟨1, b, rfl⟩

theorem decided_object_definition {s : Structure} {slots : List Slot} {value : Json}
    (h : object settings g s slots = .ok value)
    (ht : ∀ slot ∈ slots, ∀ t, (g.get slot.target).body = .property t →
      ∀ fields, members? v = some fields → ∀ m ∈ fields, TypeDecided Matches doc g t m.2) :
    Decided Matches doc value v := by
  obtain ⟨inner, hinner, heq⟩ := bind_eq_ok.1 h
  cases heq
  refine decided_object fun f hf c hc => ?_
  simp only [List.mem_append, List.mem_cons, List.not_mem_nil, or_false, Json.mem_optional] at hf
  rcases hf with (((rfl | rfl) | ⟨names, -, rfl⟩) | rfl) | hf
  · simp [calls_eq_nil, callingKeys] at hc
  · -- A property is called on the member with its tag.
    simp only [calls_properties, List.mem_filterMap, Option.map_eq_some_iff] at hc
    obtain ⟨m, hm, schema, hschema, rfl⟩ := hc
    cases hfields : members? v with
    | none => simp [hfields] at hm
    | some fields =>
      rw [hfields, Option.getD_some] at hm
      obtain ⟨before, after, hlist, -⟩ := List.lookup_eq_some_iff.1 hschema
      obtain ⟨slot, hslot, hproperty⟩ :=
        exists_slot_of_mem_properties hinner (f := (m.1, schema)) (by simp [hlist])
      obtain ⟨t, hb, rfl⟩ := property_eq_ok hproperty
      exact decided_typed (ht slot hslot t hb fields hfields m hm) fun _ _ => calls_description
  · simp [calls_eq_nil, callingKeys] at hc
  · simp only [calls_additionalProperties, List.mem_map] at hc
    obtain ⟨m, -, rfl⟩ := hc
    exact decided_bool _
  · simp [calls_description hf] at hc

theorem decided_array_definition {s : Structure} {t : TypeRef} {items : Cardinality} {value : Json}
    (h : array g s t items = .ok value)
    (ht : ∀ elements, items? v = some elements → ∀ w ∈ elements, TypeDecided Matches doc g t w) :
    Decided Matches doc value v := by
  obtain ⟨fields, hfields, heq⟩ := bind_eq_ok.1 h
  cases heq
  rw [eq_of_valueFields hfields]
  refine decided_object fun f hf c hc => ?_
  simp only [List.mem_append, List.mem_cons, List.not_mem_nil, or_false, Json.mem_optional] at hf
  rcases hf with (((rfl | rfl) | hf) | ⟨max, -, rfl⟩) | hf
  · simp [calls_eq_nil, callingKeys] at hc
  · simp only [calls_items, List.mem_map] at hc
    obtain ⟨w, hw, rfl⟩ := hc
    cases helements : items? v with
    | none => simp [helements] at hw
    | some elements =>
      rw [helements, Option.getD_some] at hw
      rw [← List.append_nil (typeFields g t)]
      exact decided_typed (ht elements helements w hw) (by simp)
  · split_ifs at hf
    · rw [List.mem_singleton.1 hf] at hc
      simp [calls_eq_nil, callingKeys] at hc
    · simp at hf
  · simp [calls_eq_nil, callingKeys] at hc
  · simp [calls_description hf] at hc

end Members

section Documents

theorem sizeOf_member_lt {fields : List (String × Json)} (h : members? v = some fields)
    {m : String × Json} (hm : m ∈ fields) : sizeOf m.2 < sizeOf v := by
  cases v with
  | object inner =>
    cases h
    have hlt := List.sizeOf_lt_of_mem hm
    obtain ⟨name, w⟩ := m
    simp only [Prod.mk.sizeOf_spec, Json.object.sizeOf_spec] at hlt ⊢
    omega
  | _ => cases h

theorem sizeOf_item_lt {elements : List Json} (h : items? v = some elements) {w : Json}
    (hw : w ∈ elements) : sizeOf w < sizeOf v := by
  cases v with
  | array inner =>
    cases h
    have hlt := List.sizeOf_lt_of_mem hw
    simp only [Json.array.sizeOf_spec]
    omega
  | _ => cases h

theorem typeDecided_of_chain (hg : g.WellLinked) (hdoc : document settings g = .ok doc)
    {p : Primitive} {t : TypeRef} {ks : List Constraints} (hchain : g.Chain p t ks)
    (ht : TypeDefined settings g t) : TypeDecided Matches doc g t v := by
  induction hchain with
  | primitive => simp [TypeDecided, TypeRef.target?]
  | @declared id base k ks hb _ ih =>
    rintro target ⟨⟩
    have hw := (mem_defined.mp (ht id rfl)).1
    rw [entry, resolve_of_written hg hdoc hw hb]
    refine decided_dataType (ih ?_)
    exact typeDefined_of_reference hg hw .baseType (by simp [Place.kinds, definable])
      (by rw [hb]; simp [Body.references])

variable {source : String} {c : Compiled}

/-- Every definition has a verdict on every value. -/
theorem decided_entry (hc : compile source = .ok c) (hdoc : document settings c.graph = .ok doc)
    (v : Json) {id : StructureId} (hid : id ∈ defined settings c.graph) :
    Decided Matches doc (entry doc c.graph id) v := by
  have hg := compile_wellLinked hc
  -- The induction is on the value: objects and arrays hand on parts of it only.
  induction hn : sizeOf v using Nat.strong_induction_on generalizing v id with
  | _ n ih =>
    subst hn
    have hpart : ∀ {t : TypeRef} {w : Json}, sizeOf w < sizeOf v →
        TypeDefined settings c.graph t → TypeDecided Matches doc c.graph t w :=
      fun hw ht target htarget => ih _ hw _ (ht target htarget) rfl
    obtain ⟨value, hdef, hfield⟩ := exists_field?_of_defined hg hdoc hid
    have hentry := resolve_of_field? hfield
    obtain ⟨hw, hk⟩ := mem_defined.mp hid
    cases hb : (c.graph.get id).body with
    | dataType base k =>
      have hbase : (.baseType, base) ∈ (c.graph.get id).body.references := by
        rw [hb]
        simp [Body.references]
      obtain ⟨p, ks, hchain⟩ :=
        compile_chain_ends hc (hg.admits _ (Graph.get_mem (Graph.lt_size_of_mem_kept hw)) _ hbase)
      exact typeDecided_of_chain hg hdoc (.declared hb hchain)
        (fun target htarget => by cases htarget; exact hid) id rfl
    | object root slots order =>
      rw [entry, hentry]
      simp only [definition, hb] at hdef
      obtain ⟨_, hobject, heq⟩ := map_eq_ok.1 hdef
      cases heq
      refine decided_object_definition hobject fun slot hslot t ht fields hfields m hm => ?_
      have hslot : (.propertySlot, slot.type) ∈ (c.graph.get id).body.references := by
        rw [hb]
        exact List.mem_map_of_mem hslot
      refine hpart (sizeOf_member_lt hfields hm) ?_
      exact typeDefined_of_reference hg (reference_mem_written hg hw hslot rfl) .propertyType
        (fun _ hm => hm) (by rw [ht]; simp [Body.references])
    | array t items =>
      rw [entry, hentry]
      simp only [definition, hb] at hdef
      obtain ⟨_, harray, heq⟩ := map_eq_ok.1 hdef
      cases heq
      refine decided_array_definition harray fun elements helements w hmem => ?_
      refine hpart (sizeOf_item_lt helements hmem) ?_
      exact typeDefined_of_reference hg hw .itemType (fun _ hm => hm)
        (by rw [hb]; simp [Body.references])
    | _ => simp [Structure.kind, hb, Body.kind, definable] at hk

theorem rootFields_of_two_le {roots : List StructureId} (h : 2 ≤ roots.length) :
    rootFields g roots =
      [("oneOf", .array (roots.map fun root => .object (typeFields g (.declared root))))] := by
  obtain ⟨first, second, rest, rfl⟩ : ∃ first second rest, roots = first :: second :: rest := by
    obtain _ | ⟨first, _ | ⟨second, rest⟩⟩ := roots
    · simp at h
    · simp at h
    · exact ⟨first, second, rest, rfl⟩
  rfl

theorem admits_reference_iff {id : StructureId} (h : Decided Matches doc (entry doc g id) v) :
    Admits Matches doc (.object (typeFields g (.declared id))) v ↔
      Admits Matches doc (entry doc g id) v := by
  have hcalls : calls doc (typeFields g (.declared id)) v ("$ref", reference (g.get id)) =
      [(entry doc g id, v)] := by
    simp [calls_ref, reference, entry, toString]
  rw [admits_object_iff]
  · simp only [typeFields, List.forall_mem_cons, List.not_mem_nil, false_imp_iff, implies_true,
      and_true, Meets] at hcalls ⊢
    rw [hcalls]
    simp [combine, asks_eq_true, askingKeys]
  · intro f hf c hc
    obtain ⟨target, htarget, rfl⟩ := exists_of_mem_calls_typeFields hf hc
    cases htarget
    exact h

theorem combine_oneOf_iff {α : Type} {as : List α} (has : as.Nodup) {p : α → Bool} :
    combine "oneOf" (as.map p) = true ↔ ∃! a, a ∈ as ∧ p a = true := by
  have hcount : (as.map p).count true = (as.filter p).length := by
    rw [List.count, List.countP_map, List.countP_eq_length_filter]
    congr 2
    funext a
    simp
  rw [combine, if_pos rfl, hcount, beq_iff_eq, List.length_eq_one_iff]
  constructor
  · rintro ⟨a, ha⟩
    refine ⟨a, List.mem_filter.1 (by simp [ha]), fun b hb => ?_⟩
    simpa [ha] using List.mem_filter.2 hb
  · rintro ⟨a, ha, hunique⟩
    refine ⟨a, List.perm_singleton.1 ?_⟩
    refine (List.perm_ext_iff_of_nodup (has.filter p) (List.nodup_singleton a)).2 fun b => ?_
    rw [List.mem_filter, List.mem_singleton]
    exact ⟨hunique b, fun hb => hb ▸ ha⟩

def options (g : Graph) : List Json :=
  g.rootObjects.map fun root => .object (typeFields g (.declared root))

theorem exists_fields (hdoc : document settings g = .ok doc) (hroots : 2 ≤ g.rootObjects.length)
    (Matches : String → String → Bool) (v : Json) :
    ∃ fields, doc = .object fields ∧ ("oneOf", .array (options g)) ∈ fields ∧
      ∀ f ∈ fields, f = ("oneOf", .array (options g)) ∨
        f.1 ≠ "oneOf" ∧ calls doc fields v f = [] ∧ asks Matches v f = true := by
  have hquiet : ∀ {f : String × Json} {fields : List (String × Json)}, f.1 ∉ callingKeys →
      f.1 ∉ askingKeys → f.1 ≠ "oneOf" ∧ calls doc fields v f = [] ∧ asks Matches v f = true := by
    intro f fields hcalls hasks
    refine ⟨?_, calls_eq_nil hcalls, asks_eq_true hasks⟩
    intro hkey
    simp [hkey, callingKeys] at hcalls
  obtain ⟨defs, -, heq⟩ := bind_eq_ok.1 hdoc
  rw [rootFields_of_two_le hroots] at heq
  refine ⟨_, (Except.ok.inj heq).symm, by simp [options], fun f hf => ?_⟩
  simp only [List.mem_append, List.mem_singleton, Json.mem_optional] at hf
  rcases hf with (((rfl | ⟨_, -, rfl⟩) | ⟨_, -, rfl⟩) | rfl) | rfl
  · exact .inr (hquiet (by simp [callingKeys]) (by simp [askingKeys]))
  · exact .inr (hquiet (by simp [callingKeys]) (by simp [askingKeys]))
  · exact .inr (hquiet (by simp [callingKeys]) (by simp [askingKeys]))
  · exact .inl rfl
  · exact .inr (hquiet (by simp [callingKeys]) (by simp [askingKeys]))

theorem key_of_root {id : StructureId} (h : id ∈ g.rootObjects) :
    key (g.get id) = "object." ++ (g.get id).reference := by
  have hk : (g.get id).kind = .object := by simpa using (List.mem_filter.mp h).2
  simp [key, hk, Kind.keyword, toString]

theorem nodup_rootObjects : g.rootObjects.Nodup :=
  (List.nodup_range.filter _).filter _

open Classical in
theorem meets_options_iff (fields : List (String × Json))
    (h : ∀ id ∈ g.rootObjects, Decided Matches doc (entry doc g id) v) :
    Meets Matches doc fields v ("oneOf", .array (options g)) ↔
      ∃! id, id ∈ g.rootObjects ∧ Admits Matches doc (entry doc g id) v := by
  have hcalls : (calls doc fields v ("oneOf", .array (options g))).map
      (fun c => decide (Admits Matches doc c.1 c.2)) =
      g.rootObjects.map fun id => decide (Admits Matches doc (entry doc g id) v) := by
    simp only [calls_oneOf, options, List.map_map]
    refine List.map_congr_left fun id hid => ?_
    exact decide_eq_decide.2 (admits_reference_iff (h id hid))
  rw [Meets, hcalls, combine_oneOf_iff nodup_rootObjects]
  simp [asks_eq_true, askingKeys]

theorem decided_reference {id : StructureId} (h : Decided Matches doc (entry doc g id) v) :
    Decided Matches doc (.object (typeFields g (.declared id))) v := by
  rw [← List.append_nil (typeFields g _)]
  exact decided_typed (fun target htarget => by cases htarget; exact h) (by simp)

/-- With several root objects, a document accepts the values that exactly one of them accepts and
rejects all others, those that two roots accept among them. -/
theorem admits_document_iff_one_root {source : String} {c : Compiled}
    (hc : compile source = .ok c) {settings : Settings} {doc : Json}
    (hdoc : document settings c.graph = .ok doc) (hroots : 2 ≤ c.graph.rootObjects.length)
    (Matches : String → String → Bool) (v : Json) :
    (∀ id ∈ c.graph.rootObjects, (doc.field? "$defs").bind
      (·.field? ("object." ++ (c.graph.get id).reference)) = some (entry doc c.graph id)) ∧
    (Admits Matches doc doc v ↔
      ∃! id, id ∈ c.graph.rootObjects ∧ Admits Matches doc (entry doc c.graph id) v) ∧
    (Refuses Matches doc doc v ↔
      ¬∃! id, id ∈ c.graph.rootObjects ∧ Admits Matches doc (entry doc c.graph id) v) := by
  have hg := compile_wellLinked hc
  have hentry : ∀ id ∈ c.graph.rootObjects, Decided Matches doc (entry doc c.graph id) v :=
    fun id hid => decided_entry hc hdoc v (root_mem_defined hg hid)
  obtain ⟨fields, hfields, hoptions, hother⟩ := exists_fields hdoc hroots Matches v
  have hcalls : ∀ f ∈ fields, ∀ called ∈ calls doc fields v f,
      Decided Matches doc called.1 called.2 := by
    intro f hf called hcalled
    rcases hother f hf with rfl | ⟨-, hnone, -⟩
    · simp only [calls_oneOf, options, List.map_map, List.mem_map] at hcalled
      obtain ⟨id, hid, rfl⟩ := hcalled
      exact decided_reference (hentry id hid)
    · simp [hnone] at hcalled
  have hdecided : Decided Matches doc (.object fields) v := decided_object hcalls
  have hadmits : Admits Matches doc (.object fields) v ↔
      ∃! id, id ∈ c.graph.rootObjects ∧ Admits Matches doc (entry doc c.graph id) v := by
    rw [← meets_options_iff fields hentry, admits_object_iff hcalls]
    refine ⟨fun h => h _ hoptions, fun h f hf => ?_⟩
    rcases hother f hf with rfl | ⟨hne, hnone, hasks⟩
    · exact h
    · exact ⟨by simp [hnone, combine, hne], hasks⟩
  rw [← hfields] at hdecided hadmits
  refine ⟨fun id hid => ?_, hadmits, by rw [refuses_iff hdecided, hadmits]⟩
  obtain ⟨value, -, hvalue⟩ := exists_field?_of_defined hg hdoc (root_mem_defined hg hid)
  rw [key_of_root hid] at hvalue
  rw [hvalue, entry, key_of_root hid, resolve_of_field? hvalue]

end Documents

section Overlaps

theorem exists_document {source : String} {text : List Char} (hs : source.toList = text)
    (test : Graph → Json → Bool)
    (h : (compileScan (Token.scan text)).toOption.any (fun c =>
      (document .default c.graph).toOption.any (test c.graph)) = true) :
    ∃ c doc, compile source = .ok c ∧ document .default c.graph = .ok doc ∧
      test c.graph doc = true := by
  obtain ⟨c, hc, ht⟩ := exists_compiled hs _ h
  cases hdoc : document .default c.graph with
  | error f => simp [hdoc, Except.toOption] at ht
  | ok doc => exact ⟨c, doc, hc, hdoc, by simpa [hdoc, Except.toOption] using ht⟩

def rootVerdicts (g : Graph) (doc v : Json) : List (StructureId × Option Bool) :=
  g.rootObjects.map fun id => (id, verdict? Pattern.found doc 4 (entry doc g id) v)

/-- Both roots have a property `p`; only one can have a `q` beside it. -/
def overlapSource : String :=
  "root object a \x7bproperties: p;\x7d root object b \x7bproperties: [p, q (optional)];\x7d
  property p \x7b\x7d property q \x7b\x7d"

def plainMember : Json := .object [("p", .string "x")]

def bothMembers : Json := .object [("p", .string "x"), ("q", .string "y")]

set_option maxRecDepth 4000 in
theorem admits_document_iff_one_root_overlap :
    ∃ c doc, compile overlapSource = .ok c ∧ document .default c.graph = .ok doc ∧
      c.graph.rootObjects = [0, 1] ∧ Admits Pattern.found doc doc bothMembers ∧
      Refuses Pattern.found doc doc plainMember := by
  obtain ⟨c, doc, hc, hdoc, ht⟩ := exists_document (String.toList_ofList : overlapSource.toList = _)
    (fun g doc => rootVerdicts g doc plainMember == [(0, some true), (1, some true)] &&
      rootVerdicts g doc bothMembers == [(0, some false), (1, some true)] &&
      g.rootObjects == [0, 1]) (by decide)
  simp only [Bool.and_eq_true, beq_iff_eq] at ht
  obtain ⟨⟨hplain, hboth⟩, hroots⟩ := ht
  have htwo : 2 ≤ c.graph.rootObjects.length := by simp [hroots]
  simp only [rootVerdicts, hroots, List.map_cons, List.map_nil, List.cons.injEq, Prod.mk.injEq,
    true_and, and_true] at hplain hboth
  obtain ⟨-, haccepts, -⟩ := admits_document_iff_one_root hc hdoc htwo Pattern.found bothMembers
  obtain ⟨-, -, hrejects⟩ := admits_document_iff_one_root hc hdoc htwo Pattern.found plainMember
  refine ⟨c, doc, hc, hdoc, hroots, haccepts.2 ⟨1, ⟨by simp [hroots], 4, hboth.2⟩, ?_⟩,
    hrejects.2 ?_⟩
  · rintro id ⟨hid, n, hn⟩
    rw [hroots] at hid
    simp only [List.mem_cons, List.not_mem_nil, or_false] at hid
    rcases hid with rfl | rfl
    · cases verdict?_unique hn hboth.1
    · rfl
  · rintro ⟨id, -, hunique⟩
    have hzero := hunique 0 ⟨by simp [hroots], 4, hplain.1⟩
    have hone := hunique 1 ⟨by simp [hroots], 4, hplain.2⟩
    exact absurd (hzero.trans hone.symm) (by decide)

def emptyRootsSource : String := "root object a \x7b\x7d root object b \x7b\x7d"

set_option maxRecDepth 4000 in
/-- The empty object is a value of both roots, and the document rejects it. -/
theorem refuses_value_of_both_roots :
    ∃ c doc, compile emptyRootsSource = .ok c ∧ document .default c.graph = .ok doc ∧
      c.graph.rootObjects = [0, 1] ∧
      (∀ id ∈ c.graph.rootObjects, Admits Pattern.found doc (entry doc c.graph id) (.object [])) ∧
      Refuses Pattern.found doc doc (.object []) ∧ ¬Admits Pattern.found doc doc (.object []) := by
  obtain ⟨c, doc, hc, hdoc, ht⟩ :=
    exists_document (String.toList_ofList : emptyRootsSource.toList = _)
    (fun g doc => rootVerdicts g doc (.object []) == [(0, some true), (1, some true)] &&
      verdict? Pattern.found doc 4 doc (.object []) == some false &&
      g.rootObjects == [0, 1]) (by decide)
  simp only [Bool.and_eq_true, beq_iff_eq] at ht
  obtain ⟨⟨hentries, hwhole⟩, hroots⟩ := ht
  simp only [rootVerdicts, hroots, List.map_cons, List.map_nil, List.cons.injEq, Prod.mk.injEq,
    true_and, and_true] at hentries
  refine ⟨c, doc, hc, hdoc, hroots, ?_, ⟨4, hwhole⟩, ?_⟩
  · rw [hroots, List.forall_mem_cons, List.forall_mem_singleton]
    exact ⟨⟨4, hentries.1⟩, 4, hentries.2⟩
  · rintro ⟨n, hn⟩
    cases verdict?_unique hn hwhole

end Overlaps

end DocSchema.JsonSchema
