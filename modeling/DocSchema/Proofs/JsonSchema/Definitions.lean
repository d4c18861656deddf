import DocSchema.JsonSchema
import DocSchema.Proofs.Json
import DocSchema.Proofs.Reach

/-!
# The definitions of a JSON Schema

A document defines every written data type, object and array once, in declaration order, and refers
to nothing else. Properties are written into their objects, so the way from an object to the type
of a property leads over a structure without a definition. Two properties of one object with the
same tag are all that can go wrong.
-/
namespace DocSchema.JsonSchema

open Artifact (Failure)

/-- The structures that a document describes. -/
def written (settings : Settings) (g : Graph) : List StructureId :=
  g.kept g.rootObjects settings.pruneUnreachable

def definable : List Kind := [.dataType, .object, .array]

/-- The structures with definitions of their own, in the order of the definitions. -/
def defined (settings : Settings) (g : Graph) : List StructureId :=
  (written settings g).filter fun id => definable.contains (g.get id).kind

def tags (g : Graph) (slots : List Slot) : List String :=
  slots.map fun slot => (g.get slot.target).tag

def DistinctProperties (g : Graph) (id : StructureId) : Prop :=
  ∀ root slots order, (g.get id).body = .object root slots order → (tags g slots).Nodup

/-- A failure that names two slots of a written object with the same tag, the earlier one first. -/
def Collision (settings : Settings) (g : Graph) (f : Failure) : Prop :=
  ∃ id ∈ written settings g, ∃ root slots order, (g.get id).body = .object root slots order ∧
    ∃ first second, [first, second].Sublist slots ∧
      (g.get first.target).tag = (g.get second.target).tag ∧
      f = .nameCollision (g.get first.target).reference (g.get second.target).reference
        (g.get second.target).tag (.properties (g.get id).reference)

def Refers (settings : Settings) (g : Graph) (f : String × Json) : Prop :=
  ∀ s, f = ("$ref", .string s) ∨ s ∈ f.2.stringsAt "$ref" →
    ∃ id ∈ defined settings g, s = "#/$defs/" ++ key (g.get id)

variable {settings : Settings} {g : Graph}

theorem reference_mem_written (hg : g.WellLinked) {id : StructureId} (h : id ∈ written settings g)
    {place : Place} {t : TypeRef} (ht : (place, t) ∈ (g.get id).body.references)
    {target : StructureId} (hm : target ∈ t.target?) : target ∈ written settings g :=
  hg.reference_mem_kept h ht hm

theorem mem_defined {id : StructureId} :
    id ∈ defined settings g ↔ id ∈ written settings g ∧ (g.get id).kind ∈ definable := by
  simp [defined]

def TypeDefined (settings : Settings) (g : Graph) (t : TypeRef) : Prop :=
  ∀ target ∈ t.target?, target ∈ defined settings g

theorem typeDefined_of_reference (hg : g.WellLinked) {id : StructureId}
    (h : id ∈ written settings g) (place : Place) (hp : place.kinds ⊆ definable) {t : TypeRef}
    (ht : (place, t) ∈ (g.get id).body.references) : TypeDefined settings g t := by
  intro target hm
  have ha := hg.admits _ (Graph.get_mem (Graph.lt_size_of_mem_kept h)) _ ht
  cases t with
  | primitive p => simp [TypeRef.target?] at hm
  | declared other =>
    obtain rfl : other = target := by simpa [TypeRef.target?] using hm
    exact mem_defined.mpr ⟨reference_mem_written hg h ht rfl, hp ha.2⟩

section Fields

theorem refers_of_scalar {name : String} {value : Json} (hn : name ≠ "$ref")
    (hv : value.isScalar = true) : Refers settings g (name, value) := by
  rintro s (he | hs)
  · exact absurd (congrArg Prod.fst he) hn
  · simp [Json.stringsAt_of_isScalar hv] at hs

theorem refers_of_scalars {name : String} {items : List Json}
    (h : ∀ v ∈ items, v.isScalar = true) : Refers settings g (name, .array items) := by
  rintro s (he | hs)
  · simp at he
  · obtain ⟨v, hv, hs⟩ := Json.mem_stringsAt_array.mp hs
    simp [Json.stringsAt_of_isScalar (h v hv)] at hs

theorem refers_object {name : String} {fields : List (String × Json)}
    (h : ∀ f ∈ fields, Refers settings g f) : Refers settings g (name, .object fields) := by
  rintro s (he | hs)
  · simp at he
  · obtain ⟨f, hf, hs⟩ := Json.mem_stringsAt_object.mp hs
    exact h f hf s hs

theorem isScalar_literal (p : Primitive) (text : String) : (literal p text).isScalar = true := by
  cases p with
  | string => rfl
  | integer => cases h : Number.readInteger? text.toList <;> simp [literal, h, Json.isScalar]
  | decimal => cases h : Number.Binary64.read? text.toList <;> simp [literal, h, Json.isScalar]
  | boolean => cases h : Primitive.readBoolean? text <;> simp [literal, h, Json.isScalar]

theorem refers_literals (name : String) (p : Primitive) (texts : List String) :
    Refers settings g (name, .array (texts.map (literal p))) := by
  refine refers_of_scalars fun v hv => ?_
  obtain ⟨text, -, rfl⟩ := List.mem_map.mp hv
  exact isScalar_literal p text

theorem description_refers (s : Structure) (type : Option TypeRef) :
    ∀ f ∈ description g s type, Refers settings g f := by
  intro f hf
  rcases List.mem_append.mp hf with hf | hf
  · obtain ⟨v, hv, rfl⟩ := Json.mem_optional.mp hf
    obtain ⟨text, -, rfl⟩ := Option.map_eq_some_iff.mp hv
    exact refers_of_scalar (by decide) rfl
  · split at hf
    · next shown type _ _ =>
      rw [List.mem_singleton.mp hf]
      exact refers_literals "examples" (literalType g type) [shown]
    · simp at hf

theorem constraintFields_refers (id : StructureId) (c : Constraints) :
    ∀ f ∈ constraintFields g id c, Refers settings g f := by
  intro f hf
  simp only [constraintFields, List.mem_append, Json.mem_optional] at hf
  rcases hf with ((⟨v, hv, rfl⟩ | ⟨v, hv, rfl⟩) | ⟨v, hv, rfl⟩) | ⟨v, hv, rfl⟩
  · obtain ⟨pattern, -, rfl⟩ := Option.map_eq_some_iff.mp hv
    exact refers_of_scalar (by decide) rfl
  · split_ifs at hv
    obtain rfl := Option.some.inj hv
    exact refers_literals _ _ _
  all_goals
    obtain ⟨bound, -, rfl⟩ := Option.map_eq_some_iff.mp hv
    exact refers_of_scalar (by decide) rfl

theorem typeFields_refers {t : TypeRef} (ht : TypeDefined settings g t) :
    ∀ f ∈ typeFields g t, Refers settings g f := by
  intro f hf
  cases t with
  | primitive p =>
    rw [typeFields, List.mem_singleton] at hf
    rw [hf]
    exact refers_of_scalar (by decide) rfl
  | declared id =>
    rw [typeFields, List.mem_singleton] at hf
    subst hf
    rintro s (he | hs)
    · refine ⟨id, ht id rfl, ?_⟩
      simpa [reference, toString] using he.symm
    · simp [reference, Json.stringsAt] at hs

theorem dataType_refers {base : TypeRef} (hb : TypeDefined settings g base) (id : StructureId)
    (c : Constraints) (name : String) : Refers settings g (name, dataType g id base c) := by
  refine refers_object fun f hf => ?_
  simp only [List.mem_append] at hf
  rcases hf with (hf | hf) | hf
  · exact typeFields_refers hb f hf
  · exact constraintFields_refers id c f hf
  · exact description_refers _ _ f hf

end Fields

section Steps

theorem valueFields_eq {t : TypeRef} (ht : TypeDefined settings g t) (owner : Structure) :
    valueFields g owner t = .ok (typeFields g t) := by
  cases t with
  | primitive p => rfl
  | declared id =>
    have hk := (mem_defined.mp (ht id rfl)).2
    simp only [definable, List.mem_cons, List.not_mem_nil, or_false] at hk
    rcases hk with hk | hk | hk <;> simp [valueFields, hk]

section Object

variable {id : StructureId} {root : Bool} {slots : List Slot} {order : MemberOrder}

theorem property_of_slot (hg : g.WellLinked) (h : id ∈ written settings g)
    (hb : (g.get id).body = .object root slots order) {slot : Slot} (hs : slot ∈ slots) :
    ∃ schema, property g (g.get id) slot = .ok ((g.get slot.target).tag, schema) ∧
      ∀ name, Refers settings g (name, schema) := by
  have hr : (.propertySlot, slot.type) ∈ (g.get id).body.references := by
    rw [hb]
    exact List.mem_map_of_mem hs
  have hw : slot.target ∈ written settings g := reference_mem_written hg h hr rfl
  have ha := hg.admits _ (Graph.get_mem (Graph.lt_size_of_mem_kept h)) _ hr
  have hk : (g.get slot.target).kind = .property := by simpa [Place.kinds] using ha.2
  rcases hv : (g.get slot.target).body with _ | _ | _ | _ | ⟨valueType⟩ | _ <;>
    simp [Structure.kind, hv, Body.kind] at hk
  have ht : TypeDefined settings g valueType :=
    typeDefined_of_reference hg hw .propertyType (fun _ hm => hm)
      (by rw [hv]; simp [Body.references])
  refine ⟨.object (typeFields g valueType ++ description g (g.get slot.target) (some valueType)),
    by simp [property, hv, valueFields_eq ht], fun name => refers_object fun f hf => ?_⟩
  rcases List.mem_append.mp hf with hf | hf
  · exact typeFields_refers ht f hf
  · exact description_refers _ _ f hf

theorem properties_outcome (hg : g.WellLinked) (h : id ∈ written settings g)
    (hb : (g.get id).body = .object root slots order) {seen rest : List Slot}
    (hs : seen ++ rest = slots) (hd : (tags g seen).Nodup) :
    Outcome (properties g (g.get id) seen rest)
      (fun fields => (∀ f ∈ fields, Refers settings g f) ∧ (tags g slots).Nodup)
      (Collision settings g) := by
  -- the induction is on what is left; the tags of what has been seen are distinct throughout
  induction rest generalizing seen with
  | nil =>
    rw [List.append_nil] at hs
    exact ⟨by simp, hs ▸ hd⟩
  | cons slot rest ih =>
    obtain ⟨schema, hp, hr⟩ := property_of_slot hg h hb (by simp [← hs] : slot ∈ slots)
    rw [properties, hp]
    dsimp only [ok_bind]
    cases hf : seen.find? fun other => (g.get other.target).tag == (g.get slot.target).tag with
    | some other =>
      have hm : other ∈ seen := List.mem_of_find?_eq_some hf
      have ht : (g.get other.target).tag = (g.get slot.target).tag := by
        simpa using List.find?_some hf
      have hsub : [other, slot].Sublist slots := by
        rw [← hs]
        exact (List.singleton_sublist.mpr hm).append (by simp)
      exact ⟨id, h, root, slots, order, hb, other, slot, hsub, ht, rfl⟩
    | none =>
      have hn : (g.get slot.target).tag ∉ tags g seen := by
        intro hm
        obtain ⟨other, ho, he⟩ := List.mem_map.mp hm
        simpa [he] using List.find?_eq_none.mp hf other ho
      have hd' : (tags g (seen ++ [slot])).Nodup := by
        simpa [tags, List.nodup_append] using ⟨hd, by simpa [tags] using hn⟩
      refine (ih (by simp [← hs]) hd').bind fun fields ⟨hfields, hall⟩ => ⟨?_, hall⟩
      exact List.forall_mem_cons.mpr ⟨hr _, hfields⟩

theorem object_outcome (hg : g.WellLinked) (h : id ∈ written settings g)
    (hb : (g.get id).body = .object root slots order) (name : String) :
    Outcome (object settings g (g.get id) slots)
      (fun value => Refers settings g (name, value) ∧ (tags g slots).Nodup)
      (Collision settings g) := by
  refine (properties_outcome hg h hb rfl (by simp [tags])).bind fun inner ⟨hinner, hd⟩ =>
    ⟨refers_object fun f hf => ?_, hd⟩
  simp only [List.mem_append, Json.mem_optional, List.mem_cons, List.not_mem_nil, or_false] at hf
  rcases hf with (((rfl | rfl) | ⟨v, hv, rfl⟩) | rfl) | hf
  · exact refers_of_scalar (by decide) rfl
  · exact refers_object hinner
  · split_ifs at hv
    obtain rfl := Option.some.inj hv
    refine refers_of_scalars fun v hv => ?_
    obtain ⟨tag, -, rfl⟩ := List.mem_map.mp hv
    rfl
  · exact refers_of_scalar (by decide) rfl
  · exact description_refers _ _ f hf

end Object

theorem array_outcome {itemType : TypeRef} (ht : TypeDefined settings g itemType) (s : Structure)
    (items : Cardinality) (name : String) :
    Outcome (array g s itemType items) (fun value => Refers settings g (name, value))
      (Collision settings g) := by
  rw [array, valueFields_eq ht]
  refine refers_object fun f hf => ?_
  simp only [List.mem_append, Json.mem_optional, List.mem_cons, List.not_mem_nil, or_false] at hf
  rcases hf with (((rfl | rfl) | hf) | ⟨v, hv, rfl⟩) | hf
  · exact refers_of_scalar (by decide) rfl
  · exact refers_object (typeFields_refers ht)
  · split_ifs at hf
    · rw [List.mem_singleton.mp hf]
      exact refers_of_scalar (by decide) rfl
    · simp at hf
  · obtain ⟨max, -, rfl⟩ := Option.map_eq_some_iff.mp hv
    exact refers_of_scalar (by decide) rfl
  · exact description_refers _ _ f hf

theorem definition_outcome (hg : g.WellLinked) {id : StructureId} (h : id ∈ written settings g)
    (name : String) :
    Outcome (definition settings g id)
      (fun value? => (value?.isSome = true ↔ (g.get id).kind ∈ definable) ∧
        (∀ value ∈ value?, Refers settings g (name, value)) ∧ DistinctProperties g id)
      (Collision settings g) := by
  -- one case per kind: those of `definable` have definitions, the others have none
  rcases hb : (g.get id).body with _ | _ | ⟨base, c⟩ | ⟨root, slots, order⟩ | _ |
    ⟨itemType, items⟩ <;> simp only [definition, hb]
  case object =>
    refine (object_outcome hg h hb name).map fun value ⟨hr, hd⟩ =>
      ⟨by simp [Structure.kind, hb, Body.kind, definable], by simpa using hr, ?_⟩
    intro root' slots' order' hb'
    rw [hb] at hb'
    cases hb'
    exact hd
  case array =>
    have ht := typeDefined_of_reference hg h .itemType (fun _ hm => hm)
      (by rw [hb]; simp [Body.references] : (_, itemType) ∈ _)
    exact (array_outcome ht (g.get id) items name).map fun value hr =>
      ⟨by simp [Structure.kind, hb, Body.kind, definable], by simpa using hr,
        by simp [DistinctProperties, hb]⟩
  case dataType =>
    have ht := typeDefined_of_reference hg h .baseType (by simp [Place.kinds, definable])
      (by rw [hb]; simp [Body.references] : (_, base) ∈ _)
    exact ⟨by simp [Structure.kind, hb, Body.kind, definable],
      by simpa using dataType_refers ht id c name, by simp [DistinctProperties, hb]⟩
  all_goals
    exact ⟨by simp [Structure.kind, hb, Body.kind, definable], by simp,
      by simp [DistinctProperties, hb]⟩

/-- No keyword has a dot in it, so the name is what follows the first one. -/
theorem reference_eq_of_key {s t : Structure} (h : key s = key t) : s.reference = t.reference := by
  have hdot (kind : Kind) (name : List Char) :
      (kind.keyword.toList ++ '.' :: name).dropWhile (· != '.') = '.' :: name := by
    cases kind <;> rfl
  have hl : s.kind.keyword.toList ++ '.' :: s.reference.toList =
      t.kind.keyword.toList ++ '.' :: t.reference.toList := by
    simpa [key, toString] using congrArg String.toList h
  have hd := congrArg (List.dropWhile (· != '.')) hl
  rw [hdot, hdot, List.cons.injEq] at hd
  exact String.toList_inj.mp hd.2

theorem nodup_keys (hg : g.WellLinked) {ids : List StructureId}
    (hs : ids.Sublist (written settings g)) : (ids.map fun id => key (g.get id)).Nodup := by
  have hlt : ∀ id ∈ ids, id < g.size := fun id hid => Graph.lt_size_of_mem_kept (hs.subset hid)
  have hids : ids.Nodup := (List.nodup_range.filter _).sublist hs
  refine hids.map_on fun a ha b hb h => ?_
  exact Graph.eq_of_reference_eq hg.distinct (hlt a ha) (hlt b hb) (reference_eq_of_key h)

/-- The definition of a structure is among the definitions as `f`. -/
def IsDefinition (settings : Settings) (g : Graph) (id : StructureId) (f : String × Json) : Prop :=
  f.1 = key (g.get id) ∧ definition settings g id = .ok (some f.2)

theorem keys_eq_of_forall₂ {ids : List StructureId} {defs : List (String × Json)}
    (h : List.Forall₂ (IsDefinition settings g) ids defs) :
    defs.map (·.1) = ids.map fun id => key (g.get id) := by
  induction h with
  | nil => rfl
  | cons hd _ ih => rw [List.map_cons, List.map_cons, hd.1, ih]

theorem key_not_mem_before (hg : g.WellLinked) {seen : List StructureId} {id : StructureId}
    (hs : (seen ++ [id]).Sublist (written settings g)) {before : List (String × Json)}
    (hb : List.Forall₂ (IsDefinition settings g)
      (seen.filter fun id => definable.contains (g.get id).kind) before) :
    key (g.get id) ∉ before.map (·.1) := by
  -- the definitions before are those of other structures
  have hkeys := nodup_keys hg hs
  rw [List.map_append, List.nodup_append] at hkeys
  rw [keys_eq_of_forall₂ hb]
  intro hm
  obtain ⟨other, ho, he⟩ := List.mem_map.mp hm
  exact hkeys.2.2 _ (List.mem_map_of_mem (List.mem_filter.mp ho).1) _ (by simp) he

theorem definitions_outcome (hg : g.WellLinked) {seen ids : List StructureId}
    (hs : seen ++ ids = written settings g) {before : List (String × Json)}
    (hb : List.Forall₂ (IsDefinition settings g)
      (seen.filter fun id => definable.contains (g.get id).kind) before)
    (hd : ∀ id ∈ seen, DistinctProperties g id) :
    Outcome (definitions settings g before ids)
      (fun defs => List.Forall₂ (IsDefinition settings g) (defined settings g) defs ∧
        ∀ id ∈ written settings g, DistinctProperties g id)
      (Collision settings g) := by
  -- the invariant: `before` holds exactly the definitions of `seen`, which are fit to be written
  induction ids generalizing seen before with
  | nil =>
    rw [List.append_nil] at hs
    subst hs
    exact ⟨hb, hd⟩
  | cons id ids ih =>
    have hw : id ∈ written settings g := by simp [← hs]
    have hs' : (seen ++ [id]) ++ ids = written settings g := by simp [← hs]
    have hdef := definition_outcome hg hw (key (g.get id))
    rw [definitions]
    cases hv : definition settings g id with
    | error f => simpa [hv, Outcome] using hdef
    | ok value? =>
      obtain ⟨hsome, -, hid⟩ : _ ∧ _ ∧ DistinctProperties g id := by simpa [hv, Outcome] using hdef
      have hd' : ∀ other ∈ seen ++ [id], DistinctProperties g other := by
        simpa [or_imp, forall_and] using ⟨hd, hid⟩
      cases value? with
      | none =>
        have hk : (g.get id).kind ∉ definable := by simpa using hsome
        exact ih hs' (by simpa [hk] using hb) hd'
      | some value =>
        have hk : (g.get id).kind ∈ definable := by simpa using hsome
        have hsub : (seen ++ [id]).Sublist (written settings g) := by
          rw [← hs']
          exact List.sublist_append_left _ _
        dsimp only [ok_bind]
        rw [Json.put_of_not_mem (key_not_mem_before hg hsub hb)]
        refine ih hs' ?_ hd'
        rw [List.filter_append]
        exact List.rel_append hb (by simpa [hk] using ⟨rfl, hv⟩)

theorem root_mem_defined (hg : g.WellLinked) {id : StructureId} (h : id ∈ g.rootObjects) :
    id ∈ defined settings g := by
  have hk : (g.get id).kind = .object := by simpa using (List.mem_filter.mp h).2
  refine mem_defined.mpr ⟨hg.root_mem_kept (List.filter_subset_self _) h, ?_⟩
  rw [hk]
  decide

theorem rootFields_refers {roots : List StructureId} (hr : ∀ id ∈ roots, id ∈ defined settings g) :
    ∀ f ∈ rootFields g roots, Refers settings g f := by
  have root (id : StructureId) (h : id ∈ roots) :
      ∀ f ∈ typeFields g (.declared id), Refers settings g f :=
    typeFields_refers fun target hm => by
      obtain rfl : id = target := by simpa [TypeRef.target?] using hm
      exact hr id h
  intro f hf
  rcases roots with _ | ⟨first, _ | ⟨second, rest⟩⟩
  · simp [rootFields] at hf
  · exact root first (by simp) f hf
  · obtain rfl := List.mem_singleton.mp (show f ∈ [("oneOf", _)] from hf)
    rintro s (he | hs)
    · simp at he
    · obtain ⟨v, hv, hs⟩ := Json.mem_stringsAt_array.mp hs
      obtain ⟨id, hid, rfl⟩ := List.mem_map.mp hv
      obtain ⟨f, hf, hs⟩ := Json.mem_stringsAt_object.mp hs
      exact root id hid f hf s hs

structure Closed (settings : Settings) (g : Graph) (doc : Json) (defs : List (String × Json)) :
    Prop where
  field : doc.field? "$defs" = some (.object defs)
  definitions : List.Forall₂ (IsDefinition settings g) (defined settings g) defs
  refers : ∀ name, Refers settings g (name, doc)

theorem document_outcome (settings : Settings) (hg : g.WellLinked) :
    Outcome (document settings g)
      (fun doc => (∃ defs, Closed settings g doc defs) ∧
        ∀ id ∈ written settings g, DistinctProperties g id)
      (Collision settings g) := by
  refine (definitions_outcome hg (List.nil_append _) (by simp) (by simp)).bind
    fun defs ⟨hdefs, hd⟩ => ⟨⟨defs, ?_, hdefs, fun name => refers_object fun f hf => ?_⟩, hd⟩
  · rcases h : g.rootObjects with _ | ⟨first, _ | ⟨second, rest⟩⟩ <;>
      cases settings.schemaId <;> cases settings.titleFor g.formatName <;>
      simp [Json.field?, Json.optional, rootFields]
  · simp only [List.mem_append, List.mem_singleton, Json.mem_optional] at hf
    rcases hf with (((rfl | ⟨v, hv, rfl⟩) | ⟨v, hv, rfl⟩) | hf) | rfl
    · exact refers_of_scalar (by decide) rfl
    · obtain ⟨id, -, rfl⟩ := Option.map_eq_some_iff.mp hv
      exact refers_of_scalar (by decide) rfl
    · obtain ⟨title, -, rfl⟩ := Option.map_eq_some_iff.mp hv
      exact refers_of_scalar (by decide) rfl
    · exact rootFields_refers (fun _ hr => root_mem_defined hg hr) f hf
    · refine refers_object fun f hf => ?_
      obtain ⟨id, hid, -, hv⟩ := exists_of_mem_right hdefs hf
      have hdef := definition_outcome hg (mem_defined.mp hid).1 f.1
      rw [hv] at hdef
      exact hdef.2.1 f.2 rfl

end Steps

theorem not_distinctProperties_of_collision {f : Failure} (h : Collision settings g f) :
    ∃ id ∈ written settings g, ∃ root slots order,
      (g.get id).body = .object root slots order ∧ ¬(tags g slots).Nodup := by
  obtain ⟨id, hid, root, slots, order, hb, first, second, hsub, ht, -⟩ := h
  refine ⟨id, hid, root, slots, order, hb, fun hd => ?_⟩
  have hpair := hd.sublist (hsub.map fun slot : Slot => (g.get slot.target).tag)
  simp [ht] at hpair

/-- A compiled schema has a JSON Schema unless two properties of a written object share a tag. The
definitions are those of the written data types, objects and arrays, and every reference in the
document is to one of them. -/
theorem document_ok_and_references_defined {source : String} {c : Compiled}
    (hc : compile source = .ok c) (settings : Settings) :
    ((∃ f, document settings c.graph = .error f) ↔
      ∃ id ∈ written settings c.graph, ∃ root slots order,
        (c.graph.get id).body = .object root slots order ∧ ¬(tags c.graph slots).Nodup) ∧
    (∀ f, document settings c.graph = .error f → Collision settings c.graph f) ∧
    ∀ doc, document settings c.graph = .ok doc →
      ∃ defs, doc.field? "$defs" = some (.object defs) ∧
        (defs.map (·.1)).Nodup ∧
        defs.map (·.1) = (defined settings c.graph).map (fun id =>
          (c.graph.get id).kind.keyword ++ "." ++ (c.graph.get id).reference) ∧
        ∀ s ∈ doc.stringsAt "$ref", ∃ k ∈ defs.map (·.1), s = "#/$defs/" ++ k := by
  have hg := compile_wellLinked hc
  have hout := document_outcome settings hg
  cases hdoc : document settings c.graph with
  | error f =>
    rw [hdoc] at hout
    refine ⟨⟨fun _ => not_distinctProperties_of_collision hout, fun _ => ⟨f, rfl⟩⟩, ?_, by simp⟩
    rintro _ ⟨⟩
    exact hout
  | ok doc =>
    rw [hdoc] at hout
    obtain ⟨⟨defs, hclosed⟩, hd⟩ := hout
    refine ⟨⟨by simp, ?_⟩, by simp, ?_⟩
    · rintro ⟨id, hid, root, slots, order, hb, hn⟩
      exact absurd (hd id hid root slots order hb) hn
    rintro _ ⟨⟩
    have hkeys := keys_eq_of_forall₂ hclosed.definitions
    have hnodup : (defs.map (·.1)).Nodup := by
      rw [hkeys]
      exact nodup_keys hg List.filter_sublist
    refine ⟨defs, hclosed.field, hnodup, by simpa [key, toString] using hkeys, fun s hs => ?_⟩
    obtain ⟨id, hid, rfl⟩ := hclosed.refers "" s (.inr hs)
    refine ⟨key (c.graph.get id), ?_, rfl⟩
    rw [hkeys]
    exact List.mem_map_of_mem hid

def listSource : String :=
  "root object o \x7bproperties: [p, q];\x7d property p \x7bvalueType: l;\x7d
  property q \x7bvalueType: v;\x7d array l \x7bitemType: o;\x7d
  dataType v \x7bbaseType: w;\x7d dataType w \x7b\x7d"

def doubleSource : String :=
  "root object o \x7bproperties: [p, q];\x7d property p \x7bvalueType: o;\x7d
  property q \x7btagName: 'p';\x7d"

set_option maxRecDepth 2000 in
theorem document_ok_and_references_defined_list :
    (∃ c doc, compile listSource = .ok c ∧ document .default c.graph = .ok doc ∧
      ∃ defs, doc.field? "$defs" = some (.object defs) ∧
        defs.map (·.1) = ["object.o", "array.l", "dataType.v", "dataType.w"] ∧
        ∀ s ∈ doc.stringsAt "$ref", ∃ k ∈ defs.map (·.1), s = "#/$defs/" ++ k) ∧
    ∃ c, compile doubleSource = .ok c ∧
      document .default c.graph = .error (.nameCollision "p" "q" "p" (.properties "o")) ∧
      Collision .default c.graph (.nameCollision "p" "q" "p" (.properties "o")) := by
  constructor
  · obtain ⟨c, hc, ht⟩ := exists_compiled (String.toList_ofList : listSource.toList = _)
      (fun c => (document .default c.graph).toOption.isSome &&
        (defined .default c.graph).map (fun id =>
            (c.graph.get id).kind.keyword ++ "." ++ (c.graph.get id).reference)
          == ["object.o", "array.l", "dataType.v", "dataType.w"]) (by decide +kernel)
    rw [Bool.and_eq_true, beq_iff_eq] at ht
    cases hdoc : document .default c.graph with
    | error f => simp [hdoc, Except.toOption] at ht
    | ok doc =>
      obtain ⟨-, -, hok⟩ := document_ok_and_references_defined hc .default
      obtain ⟨defs, hfield, -, hkeys, hrefs⟩ := hok doc hdoc
      refine ⟨c, doc, hc, hdoc, defs, hfield, ?_, hrefs⟩
      rw [hkeys]
      exact ht.2
  · obtain ⟨c, hc, ht⟩ := exists_compiled (String.toList_ofList : doubleSource.toList = _)
      (fun c => failsWith (document .default c.graph)
        (.nameCollision "p" "q" "p" (.properties "o"))) (by decide +kernel)
    have hdoc := failsWith_iff.mp ht
    exact ⟨c, hc, hdoc, (document_ok_and_references_defined hc .default).2.1 _ hdoc⟩

end DocSchema.JsonSchema
