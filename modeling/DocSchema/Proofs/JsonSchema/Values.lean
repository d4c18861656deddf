import DocSchema.Proofs.BaseChain
import DocSchema.Proofs.JsonSchema.Definitions

/-!
# The values of definitions

Which values a schema of a document accepts: every keyword beside a reference is about the value
too, and no keyword applies to values of another type than its own. For a data type these are the
keywords along its chain of bases.
-/
namespace DocSchema.JsonSchema

def hasType : String → Json → Bool
  | "string", .string _ => true
  | "integer", .integer _ => true
  | "number", .integer _ | "number", .double _ => true
  | "boolean", .bool _ => true
  | "null", .null => true
  | "array", .array _ => true
  | "object", .object _ => true
  | _, _ => false

/-- What a keyword asks of a string or an integer. Patterns are for strings only and bounds for
numbers only, and keywords for members of objects and arrays ask nothing of either. -/
def Holds (Matches : String → String → Prop) (v : Json) : String × Json → Prop
  | ("type", .string type) => hasType type v = true
  | ("pattern", .string p) => ∀ text, v = .string text → Matches p text
  | ("enum", .array values) => v ∈ values
  | ("minimum", .integer m) => ∀ n, v = .integer n → m ≤ n
  | ("maximum", .integer m) => ∀ n, v = .integer n → n ≤ m
  | _ => True

/-- The definition that a reference leads to; without one nothing is accepted. -/
def resolve (doc : Json) (target : String) : Json :=
  match doc.field? "$defs" with
  | some (.object defs) =>
    ((defs.find? ("#/$defs/" ++ ·.1 == target)).map (·.2)).getD (.bool false)
  | _ => .bool false

/-- A schema accepts a value: its own keywords do and the schema that it refers to does. -/
inductive Accepts (Matches : String → String → Prop) (doc v : Json) : Json → Prop
  | any : Accepts Matches doc v (.bool true)
  | object {fields : List (String × Json)} : (∀ f ∈ fields, Holds Matches v f) →
      (∀ target, ("$ref", .string target) ∈ fields → Accepts Matches doc v (resolve doc target)) →
      Accepts Matches doc v (.object fields)

def Valid (Matches : String → String → Prop) (doc : Json) (key : String) (v : Json) : Prop :=
  Accepts Matches doc v (resolve doc ("#/$defs/" ++ key))

/-- A type at its place accepts a value: a built-in type stands there by its name, a declared one by
reference. -/
def AcceptsType (Matches : String → String → Prop) (doc : Json) (g : Graph) (v : Json) :
    TypeRef → Prop
  | .primitive p => hasType (primitiveType p) v = true
  | .declared id => Valid Matches doc (key (g.get id)) v

def keywords (p : Primitive) (k : Constraints) : List (String × Json) :=
  Json.optional "pattern" (k.pattern.map fun pattern => .string ("^(?:" ++ pattern ++ ")$"))
    ++ Json.optional "enum" (if k.values.isEmpty then none
      else some (.array (k.values.map (literal p))))
    ++ Json.optional "minimum" (k.minimum.map .integer)
    ++ Json.optional "maximum" (k.maximum.map .integer)

variable {Matches : String → String → Prop} {v : Json}

section Keywords

theorem key_of_mem_description {g : Graph} {s : Structure} {type : Option TypeRef}
    {f : String × Json} (hf : f ∈ description g s type) :
    f.1 = "description" ∨ f.1 = "examples" := by
  rcases List.mem_append.mp hf with hf | hf
  · obtain ⟨_, -, rfl⟩ := Json.mem_optional.mp hf
    exact .inl rfl
  · split at hf
    · rw [List.mem_singleton.mp hf]
      exact .inr rfl
    · simp at hf

theorem holds_description {g : Graph} {s : Structure} {type : Option TypeRef} :
    ∀ f ∈ description g s type, Holds Matches v f := by
  rintro ⟨name, value⟩ hf
  rcases key_of_mem_description hf with hk | hk <;> simp only at hk <;> subst hk <;> simp [Holds]

theorem key_of_mem_constraintFields {g : Graph} {id : StructureId} {k : Constraints}
    {f : String × Json} (hf : f ∈ constraintFields g id k) :
    f.1 ∈ ["pattern", "enum", "minimum", "maximum"] := by
  simp only [constraintFields, List.mem_append, Json.mem_optional] at hf
  rcases hf with ((⟨_, -, rfl⟩ | ⟨_, -, rfl⟩) | ⟨_, -, rfl⟩) | ⟨_, -, rfl⟩ <;> simp

theorem holds_keywords_iff {p : Primitive} {k : Constraints} :
    (∀ f ∈ keywords p k, Holds Matches v f) ↔
      (∀ q ∈ k.pattern, ∀ text, v = .string text → Matches ("^(?:" ++ q ++ ")$") text) ∧
      (k.values ≠ [] → v ∈ k.values.map (literal p)) ∧
      (∀ m ∈ k.minimum, ∀ n, v = .integer n → m ≤ n) ∧
      ∀ m ∈ k.maximum, ∀ n, v = .integer n → n ≤ m := by
  have hlisted : (∀ values ∈ (if k.values.isEmpty then none
      else some (Json.array (k.values.map (literal p)))), Holds Matches v ("enum", values)) ↔
        (k.values ≠ [] → v ∈ k.values.map (literal p)) := by
    split_ifs with he
    · simp_all
    · simp_all [Holds]
  simp only [keywords, List.forall_mem_append, Json.forall_mem_optional, hlisted, and_assoc,
    Option.mem_map, forall_exists_index, and_imp, forall_apply_eq_imp_iff₂]
  rfl

theorem constraintFields_eq {g : Graph} {id : StructureId} {p : Primitive} {k : Constraints}
    {ks : List Constraints} (hc : g.Chain p (.declared id) (k :: ks)) :
    constraintFields g id k = keywords p k := by
  simp [constraintFields, keywords, literalType, hc.basePrimitive_eq, toString]

end Keywords

section Lookup

variable {settings : Settings} {g : Graph} {doc : Json}

theorem accepts_object_iff {fields : List (String × Json)} :
    Accepts Matches doc v (.object fields) ↔ (∀ f ∈ fields, Holds Matches v f) ∧
      ∀ target, ("$ref", .string target) ∈ fields → Accepts Matches doc v (resolve doc target) := by
  constructor
  · intro h
    cases h with
    | object hf hr => exact ⟨hf, hr⟩
  · rintro ⟨hf, hr⟩
    exact .object hf hr

theorem accepts_dataType_iff {id : StructureId} {base : TypeRef} {k : Constraints} :
    Accepts Matches doc v (dataType g id base k) ↔
      AcceptsType Matches doc g v base ∧ ∀ f ∈ constraintFields g id k, Holds Matches v f := by
  have href (target : String) : ("$ref", .string target) ∉
      constraintFields g id k ++ description g (g.get id) (some (.declared id)) := by
    intro hm
    rcases List.mem_append.mp hm with hm | hm
    · simpa using key_of_mem_constraintFields hm
    · simpa using key_of_mem_description hm
  rw [dataType, List.append_assoc, accepts_object_iff, List.forall_mem_append,
    List.forall_mem_append, and_iff_left holds_description]
  cases base with
  | primitive p => simp [typeFields, Holds, href, AcceptsType]
  | declared id => simp [typeFields, Holds, href, AcceptsType, Valid, reference, toString, and_comm]

theorem resolve_of_field? {name : String} {value : Json}
    (h : (doc.field? "$defs").bind (·.field? name) = some value) :
    resolve doc ("#/$defs/" ++ name) = value := by
  obtain ⟨defs, hdefs, hvalue⟩ := Option.bind_eq_some_iff.1 h
  cases defs with
  | object fields =>
    have htest : (fun f : String × Json => "#/$defs/" ++ f.1 == "#/$defs/" ++ name) =
        fun f => f.1 == name := by
      funext f
      rw [Bool.eq_iff_iff, beq_iff_eq, beq_iff_eq, String.append_right_inj]
    simp only [Json.field?] at hvalue
    simp only [resolve, hdefs, htest, hvalue, Option.getD_some]
  | _ => cases hvalue

theorem exists_field?_of_defined (hg : g.WellLinked) (hdoc : document settings g = .ok doc)
    {id : StructureId} (hid : id ∈ defined settings g) :
    ∃ value, definition settings g id = .ok (some value) ∧
      (doc.field? "$defs").bind (·.field? (key (g.get id))) = some value := by
  have hout := document_outcome settings hg
  rw [hdoc] at hout
  obtain ⟨⟨defs, hclosed⟩, -⟩ := hout
  obtain ⟨f, hf, hkey, hdef⟩ := exists_of_mem_left hclosed.definitions hid
  have hnodup : (defs.map (·.1)).Nodup := by
    rw [keys_eq_of_forall₂ hclosed.definitions]
    exact nodup_keys hg List.filter_sublist
  have hfind := find?_eq_some_of_nodup hnodup hf
  exact ⟨f.2, hdef, by rw [hclosed.field, Option.bind_some, Json.field?, ← hkey, hfind]; rfl⟩

theorem resolve_of_written (hg : g.WellLinked) (hdoc : document settings g = .ok doc)
    {id : StructureId} (hid : id ∈ written settings g) {base : TypeRef} {k : Constraints}
    (hb : (g.get id).body = .dataType base k) :
    resolve doc ("#/$defs/" ++ key (g.get id)) = dataType g id base k := by
  have hdefined : id ∈ defined settings g :=
    mem_defined.mpr ⟨hid, by simp [Structure.kind, hb, Body.kind, definable]⟩
  obtain ⟨value, hdef, hfield⟩ := exists_field?_of_defined hg hdoc hdefined
  have hvalue : value = dataType g id base k := by simpa [definition, hb, eq_comm] using hdef
  rw [resolve_of_field? hfield, hvalue]

end Lookup

theorem acceptsType_iff {settings : Settings} {g : Graph} {doc : Json} (hg : g.WellLinked)
    (hdoc : document settings g = .ok doc) {p : Primitive} {t : TypeRef} {ks : List Constraints}
    (hc : g.Chain p t ks) (hw : ∀ id ∈ t.target?, id ∈ written settings g) :
    AcceptsType Matches doc g v t ↔
      hasType (primitiveType p) v = true ∧
        ∀ k ∈ ks, ∀ f ∈ keywords p k, Holds Matches v f := by
  -- a reference leads to the definition of the base, whose chain is one layer shorter
  induction hc with
  | primitive => simp [AcceptsType]
  | @declared id base k ks hb htail ih =>
    have hid : id ∈ written settings g := hw id rfl
    have hbase : ∀ target ∈ base.target?, target ∈ written settings g := fun target hm =>
      reference_mem_written hg hid (by rw [hb]; simp [Body.references] : (.baseType, base) ∈ _) hm
    rw [AcceptsType, Valid, resolve_of_written hg hdoc hid hb, accepts_dataType_iff, ih hbase,
      constraintFields_eq (.declared hb htail), List.forall_mem_cons, and_right_comm, and_assoc]

theorem key_of_dataType {s : Structure} {base : TypeRef} {k : Constraints}
    (h : s.body = .dataType base k) : key s = "dataType." ++ s.reference := by
  simp [key, Structure.kind, h, Body.kind, Kind.keyword, toString]

theorem valid_iff {settings : Settings} {g : Graph} {doc : Json} (hg : g.WellLinked)
    (hdoc : document settings g = .ok doc) {id : StructureId} (hid : id ∈ written settings g)
    {p : Primitive} {ks : List Constraints} (hc : g.Chain p (.declared id) ks)
    (Matches : String → String → Prop) (v : Json) :
    Valid Matches doc ("dataType." ++ (g.get id).reference) v ↔
      hasType (primitiveType p) v = true ∧
        ∀ k ∈ ks, ∀ f ∈ keywords p k, Holds Matches v f := by
  have hkey : key (g.get id) = "dataType." ++ (g.get id).reference := by
    cases hc with
    | declared hb _ => exact key_of_dataType hb
  have hw : ∀ target ∈ (TypeRef.declared id).target?, target ∈ written settings g := by
    rintro _ ⟨⟩
    exact hid
  rw [← hkey]
  exact acceptsType_iff hg hdoc hc hw

end DocSchema.JsonSchema
