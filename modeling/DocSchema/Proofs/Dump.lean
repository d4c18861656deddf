import DocSchema.Graph.Dump
import DocSchema.Proofs.Result

/-!
# What a dump keeps

Every part of a graph is read back from the JSON value it is dumped as. The fields of a body stand
beside those of its structure in one object, so each reader has to find its own keys among the
others, and what is left out has to mean what its absence is read as.
-/
namespace DocSchema

namespace Json

theorem field?_cons (k : String) (v : Json) (fields : List (String × Json)) (key : String) :
    (object ((k, v) :: fields)).field? key =
      if k = key then some v else (object fields).field? key := by
  by_cases hk : k = key <;> simp [field?, hk]

theorem field?_optional_append (k : String) (value? : Option Json)
    (fields : List (String × Json)) (key : String) :
    (object (optional k value? ++ fields)).field? key =
      if k = key then value?.or ((object fields).field? key) else (object fields).field? key := by
  cases value? with
  | none => simp [optional]
  | some v => simp [optional, field?_cons]

theorem field?_nil (key : String) : (object []).field? key = none := rfl

theorem field?_optional (k : String) (value? : Option Json) (key : String) :
    (object (optional k value?)).field? key = if k = key then value? else none := by
  have h := field?_optional_append k value? [] key
  simpa [field?_nil] using h

end Json
namespace Dump

variable {α : Type}

theorem readNat?_integer (n : Nat) : readNat? (.integer n) = some n := rfl

theorem field?_of_map {read : Json → Option α} (write : α → Json) {v : Json} {key : String}
    {x? : Option α} (hv : v.field? key = x?.map write) (hread : ∀ x ∈ x?, read (write x) = some x)
    (hnull : ∀ x ∈ x?, write x ≠ .null) : field? read v key = some x? := by
  unfold field?
  cases x? with
  | none => simp [hv]
  | some x =>
    rw [hv, Option.map_some]
    have hx := hread x rfl
    split
    · simp_all
    · next h => exact absurd (Option.some.inj h) (hnull x rfl)
    · next inner h => simp_all

theorem field?_string {v : Json} {key : String} {s? : Option String}
    (hv : v.field? key = s?.map .string) : field? readString? v key = some s? :=
  field?_of_map _ hv (fun _ _ => rfl) (by simp)

theorem field?_integer {v : Json} {key : String} {n? : Option Int}
    (hv : v.field? key = n?.map .integer) : field? readInteger? v key = some n? :=
  field?_of_map _ hv (fun _ _ => rfl) (by simp)

theorem readList?_map {read : Json → Option α} {write : α → Json}
    (h : ∀ x, read (write x) = some x) (xs : List α) :
    readList? read (.array (xs.map write)) = some xs := by
  rw [readList?, List.mapM_map]
  exact mapM_eq_some_iff.mpr (List.forall₂_same.mpr fun x _ => h x)

theorem readCardinality?_cardinality (c : Cardinality) :
    readCardinality? (cardinality c) = some c := by
  have hrange := c.range?_min_max
  cases hm : c.max with
  | none =>
    rw [hm] at hrange
    simp [readCardinality?, cardinality, Json.field?_cons, readNat?_integer, readMax?, hm, hrange]
  | some m =>
    rw [hm] at hrange
    simp [readCardinality?, cardinality, Json.field?_cons, readNat?_integer, readMax?, hm, hrange]

theorem readSlot?_slot (s : Slot) : readSlot? (slot s) = some s := by
  simp [readSlot?, slot, Json.field?_cons, readNat?_integer, readCardinality?_cardinality]

theorem readTypeRef?_typeRef (t : TypeRef) : readTypeRef? (typeRef t) = some t := by
  cases t with
  | primitive p =>
    simp [readTypeRef?, typeRef, Json.field?_cons, readString?, Primitive.ofName?_name]
  | declared id => simp [readTypeRef?, typeRef, Json.field?_cons, Json.field?_nil, readNat?_integer]

theorem readCompositor?_name (c : Compositor) : readCompositor? (.string c.name) = some c := by
  cases c <;> decide

theorem readOrder?_name (o : MemberOrder) : readOrder? (.string o.name) = some o := by
  cases o <;> decide

mutual

theorem readParticle?_particle : (p : Particle) → readParticle? (particle p) = some p
  | .element s => by simp [particle, readParticle?, readSlot?_slot]
  | .group compositor ps mixed => by
    have hps := readParticles?_particles ps
    simp [particle, readParticle?, Json.field?_cons, readCompositor?_name, readBool?, readMembers?,
      hps]

theorem readParticles?_particles : (ps : List Particle) → readParticles? (particles ps) = some ps
  | [] => by simp [particles, readParticles?]
  | p :: ps => by
    have hp := readParticle?_particle p
    have hps := readParticles?_particles ps
    simp [particles, readParticles?, hp, hps]

end

theorem readGroup?_group (g : Group) : readGroup? (group g) = some g := by
  obtain ⟨compositor, ps, mixed⟩ := g
  have hp := readParticle?_particle (.group compositor ps mixed)
  rw [particle] at hp
  simp [readGroup?, group, hp]

theorem readContent?_content (c : Content) : readContent? (content c) = some c := by
  cases c with
  | empty => simp [readContent?, content, Json.field?_cons, readString?]
  | text => simp [readContent?, content, Json.field?_cons, readString?]
  | value t => simp [readContent?, content, Json.field?_cons, readString?, readTypeRef?_typeRef]
  | children g => simp [readContent?, content, Json.field?_cons, readString?, readGroup?_group]

theorem readStrings?_map (values : List String) :
    readList? readString? (.array (values.map .string)) = some values := by
  have hread (s : String) : readString? (.string s) = some s := rfl
  exact readList?_map hread values

theorem readConstraints?_constraints (c : Constraints) :
    readConstraints? (constraints c) = some c := by
  have hpattern : field? readString? (constraints c) "pattern" = some c.pattern :=
    field?_string (by simp [constraints, Json.field?_optional_append, Json.field?_optional])
  have hvalues : field? (readList? readString?) (constraints c) "values" =
      some (if c.values.isEmpty then none else some c.values) := by
    refine field?_of_map (fun values => .array (values.map .string)) ?_
      (fun values _ => readStrings?_map values) (by simp)
    by_cases he : c.values = [] <;>
      simp [constraints, Json.field?_optional_append, Json.field?_optional, he]
  have hminimum : field? readInteger? (constraints c) "minimum" = some c.minimum :=
    field?_integer (by simp [constraints, Json.field?_optional_append, Json.field?_optional])
  have hmaximum : field? readInteger? (constraints c) "maximum" = some c.maximum :=
    field?_integer (by simp [constraints, Json.field?_optional_append, Json.field?_optional])
  -- Without values there is no field for them, and no field means no values.
  have habsent : (if c.values.isEmpty then none else some c.values).getD [] = c.values := by
    by_cases he : c.values = [] <;> simp [he]
  simp only [readConstraints?, hpattern, hvalues, hminimum, hmaximum, Option.bind_eq_bind,
    Option.bind_some, Option.pure_def, habsent]

theorem readRemarks?_remarks (r : Remarks) : readRemarks? (remarks r) = some r := by
  have hdescription : field? readString? (remarks r) "description" = some r.description :=
    field?_string (by simp [remarks, Json.field?_optional_append, Json.field?_optional])
  have hexample : field? readString? (remarks r) "example_value" = some r.exampleValue :=
    field?_string (by simp [remarks, Json.field?_optional_append, Json.field?_optional])
  simp [readRemarks?, hdescription, hexample]

theorem readSlots?_map (slots : List Slot) :
    readList? readSlot? (.array (slots.map slot)) = some slots :=
  readList?_map readSlot?_slot slots

theorem readRoot?_bool {v : Json} {root : Bool} (h : v.field? "root" = some (.bool root)) :
    readRoot? v = some root := by
  simp [readRoot?, field?, h, readBool?]

def headKeys : List String := ["reference", "tag_name", "metadata", "kind"]

/-- A body is read from any value with the fields of the body, whatever stands under the keys of the
structure. -/
theorem readBody?_body {b : Body} {v : Json}
    (hv : ∀ key ∉ headKeys, v.field? key = (Json.object (body b)).field? key) :
    readBody? v b.kind = some b := by
  rcases b with ⟨root, attributes, inner⟩ | ⟨type, default⟩ | ⟨base, inner⟩ |
    ⟨root, properties, order⟩ | ⟨type⟩ | ⟨type, items⟩
  · have hroot : v.field? "root" = some (.bool root) := by
      simp [hv, headKeys, body, Json.field?_cons]
    have hattributes : v.field? "attributes" = some (.array (attributes.map slot)) := by
      simp [hv, headKeys, body, Json.field?_cons]
    have hcontent : v.field? "content" = some (content inner) := by
      simp [hv, headKeys, body, Json.field?_cons]
    simp [readBody?, Body.kind, readRoot?_bool hroot, hattributes, hcontent, readSlots?_map,
      readContent?_content]
  · have htype : v.field? "value_type" = some (typeRef type) := by
      simp [hv, headKeys, body, Json.field?_cons]
    have hdefault : field? readString? v "default_value" = some default :=
      field?_string (by simp [hv, headKeys, body, Json.field?_cons, Json.field?_optional])
    simp [readBody?, Body.kind, htype, hdefault, readTypeRef?_typeRef]
  · have hbase : v.field? "base_type" = some (typeRef base) := by
      simp [hv, headKeys, body, Json.field?_cons]
    have hinner : v.field? "constraints" = some (constraints inner) := by
      simp [hv, headKeys, body, Json.field?_cons]
    simp [readBody?, Body.kind, hbase, hinner, readTypeRef?_typeRef, readConstraints?_constraints]
  · have hroot : v.field? "root" = some (.bool root) := by
      simp [hv, headKeys, body, Json.field?_cons]
    have hproperties : v.field? "properties" = some (.array (properties.map slot)) := by
      simp [hv, headKeys, body, Json.field?_cons]
    have horder : v.field? "ordering" = some (.string order.name) := by
      simp [hv, headKeys, body, Json.field?_cons]
    simp [readBody?, Body.kind, readRoot?_bool hroot, hproperties, horder, readSlots?_map,
      readOrder?_name]
  · have htype : v.field? "value_type" = some (typeRef type) := by
      simp [hv, headKeys, body, Json.field?_cons]
    simp [readBody?, Body.kind, htype, readTypeRef?_typeRef]
  · have htype : v.field? "item_type" = some (typeRef type) := by
      simp [hv, headKeys, body, Json.field?_cons]
    have hitems : v.field? "items" = some (cardinality items) := by
      simp [hv, headKeys, body, Json.field?_cons]
    simp [readBody?, Body.kind, htype, hitems, readTypeRef?_typeRef,
      readCardinality?_cardinality]

theorem ofKeyword?_keyword (k : Kind) : Kind.ofKeyword? k.keyword = some k := by
  cases k <;> decide

theorem field?_body_of_mem_headKeys (b : Body) (key : String) (h : key ∈ headKeys) :
    (Json.object (body b)).field? key = none := by
  simp only [headKeys, List.mem_cons, List.not_mem_nil, or_false] at h
  rcases h with rfl | rfl | rfl | rfl <;>
    cases b <;> simp [body, Json.field?_cons, Json.field?_optional, Json.field?_nil]

theorem readStructure?_structureValue (s : Structure) :
    readStructure? (structureValue s) = some s := by
  have hreference : (structureValue s).field? "reference" = some (.string s.reference) := by
    simp [structureValue, Json.field?_cons]
  have htag : field? readString? (structureValue s) "tag_name" = some s.tagName :=
    field?_string (by
      have hnone := field?_body_of_mem_headKeys s.body "tag_name" (by simp [headKeys])
      simp [structureValue, Json.field?_cons, Json.field?_optional_append, hnone])
  have hremarks : field? readRemarks? (structureValue s) "metadata" =
      some (if s.remarks.isEmpty then none else some s.remarks) := by
    refine field?_of_map remarks ?_ (fun r _ => readRemarks?_remarks r)
      (by simp [remarks])
    have hnone := field?_body_of_mem_headKeys s.body "metadata" (by simp [headKeys])
    by_cases he : s.remarks.isEmpty = true <;>
      simp [structureValue, Json.field?_cons, Json.field?_optional_append, hnone, he]
  have hkind : (structureValue s).field? "kind" = some (.string s.kind.keyword) := by
    simp [structureValue, Json.field?_cons, Json.field?_optional_append]
  have hbody : readBody? (structureValue s) s.kind = some s.body := by
    refine readBody?_body fun key hkey => ?_
    simp only [headKeys, List.mem_cons, List.not_mem_nil, or_false, not_or] at hkey
    obtain ⟨h₁, h₂, h₃, h₄⟩ := hkey
    simp [structureValue, Json.field?_cons, Json.field?_optional_append, Ne.symm h₁, Ne.symm h₂,
      Ne.symm h₃, Ne.symm h₄]
  -- Empty remarks have no field, and no field means empty remarks.
  have habsent : (if s.remarks.isEmpty then none else some s.remarks).getD .none = s.remarks := by
    obtain ⟨_, _, ⟨_ | _, _ | _⟩, _⟩ := s <;> simp [Remarks.isEmpty, Remarks.none]
  simp [readStructure?, hreference, htag, hremarks, hkind, hbody, readString?, ofKeyword?_keyword,
    habsent]

end Dump

namespace Graph

theorem ofJson?_toJson (g : Graph) : ofJson? g.toJson = some g := by
  have hstructures : (g.toJson.field? "structures").bind (Dump.readList? Dump.readStructure?) =
      some g.structures := by
    simp only [toJson, Json.field?_cons, Json.field?_optional_append]
    simpa using Dump.readList?_map Dump.readStructure?_structureValue g.structures
  have hname : Dump.field? Dump.readString? g.toJson "format_name" = some g.formatName :=
    Dump.field?_string
      (by simp [toJson, Json.field?_cons, Json.field?_optional_append, Json.field?_nil])
  simp [ofJson?, hstructures, hname]

theorem readRoots?_toJson (g : Graph) :
    (g.toJson.field? "roots").bind (Dump.readList? Dump.readNat?) = some g.roots := by
  simp only [toJson, Json.field?_cons, Json.field?_optional_append]
  simpa using Dump.readList?_map Dump.readNat?_integer g.roots

/-- Reading a dump gives the graph again, with the roots that the dump lists. So two graphs never
have the same dump. -/
theorem dump_determines_graph (g : Graph) :
    ofJson? g.toJson = some g ∧
    (g.toJson.field? "roots").bind (Dump.readList? Dump.readNat?) =
      (ofJson? g.toJson).map roots ∧
    ∀ h : Graph, h ≠ g → h.toJson ≠ g.toJson := by
  have hread := ofJson?_toJson g
  refine ⟨hread, by rw [readRoots?_toJson, hread, Option.map_some], ?_⟩
  intro h hne heq
  have hsame : some h = some g := by rw [← ofJson?_toJson h, heq, hread]
  exact hne (Option.some.inj hsame)

/-- A graph with every kind of structure, nested groups and fields that are there or not. -/
def manifold : Graph where
  formatName := some "f"
  structures := [
    ⟨"e", some "t", ⟨none, some ""⟩, .element true [⟨1, .optional⟩, ⟨1, .atLeast 2⟩]
      (.children ⟨.unordered, [.element ⟨0, .atLeast 0⟩,
        .group .choice [.group .sequence [] false, .element ⟨6, .one⟩] true], false⟩)⟩,
    ⟨"a", none, .none, .attribute (.declared 2) (some "")⟩,
    ⟨"d", none, ⟨some "x", none⟩,
      .dataType (.primitive .integer) ⟨none, ["1", "2"], some (-3), none⟩⟩,
    ⟨"o", none, .none, .object true [⟨4, .one⟩] .unordered⟩,
    ⟨"p", none, .none, .property (.declared 5)⟩,
    ⟨"l", some "", .none, .array (.primitive .boolean) ⟨3, some 4, by simp⟩⟩,
    ⟨"v", none, .none, .element false [] (.value (.primitive .decimal))⟩]

theorem dump_determines_graph_manifold :
    ofJson? manifold.toJson = some manifold ∧ manifold.roots = [0, 3] ∧
      (⟨none, manifold.structures⟩ : Graph).toJson ≠ manifold.toJson := by
  obtain ⟨hread, -, hother⟩ := dump_determines_graph manifold
  refine ⟨hread, by decide, hother _ fun heq => ?_⟩
  cases congrArg formatName heq

end Graph

end DocSchema
