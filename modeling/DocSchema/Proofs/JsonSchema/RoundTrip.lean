import DocSchema.Proofs.Dump
import DocSchema.Proofs.JsonSchema.Roots

/-!
# Reading definitions back

What a definition of a document says, read from the definition alone except for what references
stand for. Beside it stands what the graph says about the structure that the definition is for. The
two agree: nothing of a type, of a range or of a list of values is lost, and every listed value has
the JSON type of the built-in type at the end of the chain.
-/
namespace DocSchema

theorem Json.field?_append (as bs : List (String × Json)) (key : String) :
    (object (as ++ bs)).field? key = ((object as).field? key).or ((object bs).field? key) := by
  simp [field?, List.find?_append, Option.map_or]

namespace JsonSchema

open Dump (readNat? readInteger? readString? readList?)

/-- What a definition says. -/
inductive Reading where
  | array (itemType : TypeRef) (items : Cardinality)
  | object (properties : List (String × TypeRef)) (required : List String)
  | dataType (base : TypeRef) (pattern : Option String) (values : List Json)
      (minimum maximum : Option Int)

section Reader

def keyword? {α : Type} (read : Json → Option α) (schema : Json) (name : String) :
    Option (Option α) :=
  match schema.field? name with
  | some value => (read value).map some
  | none => some none

/-- A list that is left out when it has no members. -/
def listed? {α : Type} (read : Json → Option (List α)) (schema : Json) (name : String) :
    Option (List α) :=
  (keyword? read schema name).map (·.getD [])

def target? (g : Graph) (text : String) : Option StructureId :=
  g.ids.find? fun id => "#/$defs/" ++ key (g.get id) == text

def type? (g : Graph) (schema : Json) : Option TypeRef :=
  match schema.field? "$ref", schema.field? "type" with
  | some (.string text), none => (target? g text).map .declared
  | none, some (.string name) => (Primitive.all.find? (primitiveType · == name)).map .primitive
  | _, _ => none

/-- The pattern that stands between the marks for the whole text. -/
def pattern? : Json → Option String
  | .string text =>
    let inner := (text.toList.drop 4).dropLast.dropLast
    if text = "^(?:" ++ String.ofList inner ++ ")$" then some (String.ofList inner) else none
  | _ => none

/-- A list of values with a member at least. -/
def values? : Json → Option (List Json)
  | .array (first :: others) => some (first :: others)
  | _ => none

/-- No items at least and any number at most, where nothing is said. -/
def array? (g : Graph) (schema : Json) : Option Reading := do
  let itemType ← type? g (← schema.field? "items")
  let min ← keyword? readNat? schema "minItems"
  let max ← keyword? readNat? schema "maxItems"
  return .array itemType (← Cardinality.range? (min.getD 0) max)

def object? (g : Graph) (schema : Json) : Option Reading := do
  let members ← members? (← schema.field? "properties")
  let properties ← members.mapM fun m => (type? g m.2).map (m.1, ·)
  let required ← listed? (readList? readString?) schema "required"
  return .object properties required

def dataType? (g : Graph) (schema : Json) : Option Reading := do
  let base ← type? g schema
  let pattern ← keyword? pattern? schema "pattern"
  let values ← listed? values? schema "enum"
  let minimum ← keyword? readInteger? schema "minimum"
  let maximum ← keyword? readInteger? schema "maximum"
  return .dataType base pattern values minimum maximum

/-- Objects and arrays say what they are, and what says neither is a data type. -/
def read? (g : Graph) (schema : Json) : Option Reading :=
  match schema.field? "type" with
  | some (.string "array") => array? g schema
  | some (.string "object") => object? g schema
  | _ => dataType? g schema

end Reader

/-- A JSON value that a literal of a built-in type stands for, of the JSON type that goes with the
built-in type. -/
inductive Denotes : Primitive → String → Json → Prop
  | string (text : String) : Denotes .string text (.string text)
  | integer {text : String} {n : Int} (value : Number.readInteger? text.toList = some n) :
      Denotes .integer text (.integer n)
  | decimal {text : String} {x : Number.Binary64}
      (value : Number.Binary64.read? text.toList = some x) : Denotes .decimal text (.double x)
  | boolean {text : String} {b : Bool} (value : Primitive.readBoolean? text = some b) :
      Denotes .boolean text (.bool b)

/-- The tag and the type that a slot of an object stands for. -/
def IsPropertyOf (g : Graph) (slot : Slot) (p : String × TypeRef) : Prop :=
  p.1 = (g.get slot.target).tag ∧ (g.get slot.target).body = .property p.2

/-- What a graph says about a structure that has a definition. -/
inductive Describes (g : Graph) (id : StructureId) : Reading → Prop
  | array {itemType : TypeRef} {items : Cardinality}
      (body : (g.get id).body = .array itemType items) : Describes g id (.array itemType items)
  | object {root : Bool} {slots : List Slot} {order : MemberOrder}
      {properties : List (String × TypeRef)} (body : (g.get id).body = .object root slots order)
      (listed : List.Forall₂ (IsPropertyOf g) slots properties) :
      Describes g id (.object properties
        (tags g (slots.filter fun slot => 1 ≤ slot.cardinality.min)))
  | dataType {base : TypeRef} {k : Constraints} {p : Primitive} {ks : List Constraints}
      {values : List Json} (body : (g.get id).body = .dataType base k)
      (chain : g.Chain p (.declared id) (k :: ks))
      (listed : List.Forall₂ (Denotes p) k.values values) :
      Describes g id (.dataType base k.pattern values k.minimum k.maximum)

section Keywords

variable {α : Type} {schema : Json}

theorem keyword?_of_map {read : Json → Option α} {name : String} {x? : Option α}
    (write : α → Json) (hv : schema.field? name = x?.map write)
    (hread : ∀ x ∈ x?, read (write x) = some x) : keyword? read schema name = some x? := by
  unfold keyword?
  cases x? with
  | none => simp [hv]
  | some x => simp [hv, hread x rfl]

theorem listed?_of_isEmpty {read : Json → Option (List α)} {name : String} {xs : List α}
    (write : List α → Json)
    (hv : schema.field? name = if xs.isEmpty then none else some (write xs))
    (hread : xs ≠ [] → read (write xs) = some xs) : listed? read schema name = some xs := by
  cases xs with
  | nil => simp [listed?, keyword?, hv]
  | cons x xs => simp [listed?, keyword?, hv, hread]

theorem pattern?_anchored (pattern : String) :
    pattern? (.string ("^(?:" ++ pattern ++ ")$")) = some pattern := by
  simp [pattern?]

end Keywords

section Definitions

variable {settings : Settings} {g : Graph} {id : StructureId}

theorem field?_description {s : Structure} {type : Option TypeRef} {name : String}
    (hd : name ≠ "description") (he : name ≠ "examples") :
    (Json.object (description g s type)).field? name = none := by
  rw [Json.field?, List.find?_eq_none.mpr, Option.map_none]
  intro f hf hname
  have hname : f.1 = name := by simpa using hname
  rcases key_of_mem_description hf with hk | hk
  · exact hd (hname.symm.trans hk)
  · exact he (hname.symm.trans hk)

/-- Keys are distinct, so a reference finds the structure it was made for. -/
theorem target?_key (hg : g.WellLinked) (hid : id < g.size) :
    target? g ("#/$defs/" ++ key (g.get id)) = some id := by
  have hinj (a : StructureId) (ha : a ∈ g.ids) (b : StructureId) (hb : b ∈ g.ids)
      (h : "#/$defs/" ++ key (g.get a) = "#/$defs/" ++ key (g.get b)) : a = b :=
    Graph.eq_of_reference_eq hg.distinct (Graph.mem_ids.mp ha) (Graph.mem_ids.mp hb)
      (reference_eq_of_key ((String.append_right_inj _).mp h))
  have hnodup : (g.ids.map fun id => "#/$defs/" ++ key (g.get id)).Nodup :=
    List.nodup_range.map_on hinj
  exact find?_eq_some_of_nodup hnodup (Graph.mem_ids.mpr hid)

theorem field?_typeFields {t : TypeRef} {name : String} (hr : name ≠ "$ref") (ht : name ≠ "type") :
    (Json.object (typeFields g t)).field? name = none := by
  cases t with
  | primitive p => simp [typeFields, Json.field?_cons, Json.field?_nil, ht.symm]
  | declared id => simp [typeFields, Json.field?_cons, Json.field?_nil, hr.symm]

theorem type?_typeFields (hg : g.WellLinked) {t : TypeRef} (ht : TypeDefined settings g t)
    {rest : List (String × Json)} (href : (Json.object rest).field? "$ref" = none)
    (htype : (Json.object rest).field? "type" = none) :
    type? g (.object (typeFields g t ++ rest)) = some t := by
  unfold type?
  rw [Json.field?_append, Json.field?_append, href, htype]
  cases t with
  | primitive p =>
    have hp : Primitive.all.find? (primitiveType · == primitiveType p) = some p := by
      cases p <;> decide
    simp [typeFields, Json.field?_cons, Json.field?_nil, hp]
  | declared id =>
    have hid : id < g.size := Graph.lt_size_of_mem_kept (mem_defined.mp (ht id rfl)).1
    have htext : reference (g.get id) = .string ("#/$defs/" ++ key (g.get id)) := by
      simp [reference, toString]
    simp [typeFields, Json.field?_cons, Json.field?_nil, htext, target?_key hg hid]

theorem array_read (hg : g.WellLinked) {s : Structure} {itemType : TypeRef} {items : Cardinality}
    (ht : TypeDefined settings g itemType) {value : Json}
    (h : array g s itemType items = .ok value) :
    read? g value = some (.array itemType items) := by
  obtain ⟨fields, hfields, heq⟩ := bind_eq_ok.1 h
  have hvalue := Except.ok.inj heq
  rw [eq_of_valueFields hfields] at hvalue
  have htype : value.field? "type" = some (.string "array") := by
    simp [← hvalue, Json.field?_cons]
  have hitems : value.field? "items" = some (.object (typeFields g itemType)) := by
    simp [← hvalue, Json.field?_cons]
  have hmin : keyword? readNat? value "minItems" =
      some (if 0 < items.min then some items.min else none) := by
    refine keyword?_of_map (fun n => .integer (n : Nat)) ?_ fun n _ => Dump.readNat?_integer n
    by_cases hpos : 0 < items.min <;>
      simp [← hvalue, Json.field?_append, Json.field?_cons, Json.field?_optional,
        field?_description, hpos]
  have hmax : keyword? readNat? value "maxItems" = some items.max := by
    refine keyword?_of_map (fun n => .integer (n : Nat)) ?_ fun n _ => Dump.readNat?_integer n
    by_cases hpos : 0 < items.min <;>
      simp [← hvalue, Json.field?_append, Json.field?_cons, Json.field?_optional,
        field?_description, hpos]
  have hitem : type? g (.object (typeFields g itemType ++ [])) = some itemType :=
    type?_typeFields hg ht rfl rfl
  rw [List.append_nil] at hitem
  -- a minimum that is left out is none
  have habsent : (if 0 < items.min then some items.min else none).getD 0 = items.min := by
    split_ifs with hpos
    · rfl
    · exact (Nat.eq_zero_of_not_pos hpos).symm
  simp [read?, htype, array?, hitems, hitem, hmin, hmax, habsent]

theorem tag_of_property {owner : Structure} {slot : Slot} {f : String × Json}
    (h : property g owner slot = .ok f) : f.1 = (g.get slot.target).tag := by
  unfold property at h
  dsimp only at h
  split at h
  · obtain ⟨fields, -, heq⟩ := bind_eq_ok.1 h
    cases heq
    rfl
  · cases h

theorem property_read (hg : g.WellLinked) (hid : id ∈ written settings g) {root : Bool}
    {slots : List Slot} {order : MemberOrder} (hb : (g.get id).body = .object root slots order)
    {slot : Slot} (hs : slot ∈ slots) {f : String × Json}
    (h : property g (g.get id) slot = .ok f) :
    ∃ t, IsPropertyOf g slot (f.1, t) ∧ type? g f.2 = some t := by
  obtain ⟨t, hbody, hvalue⟩ := property_eq_ok h
  have hslot : (.propertySlot, slot.type) ∈ (g.get id).body.references := by
    rw [hb]
    exact List.mem_map_of_mem hs
  have hw : slot.target ∈ written settings g := reference_mem_written hg hid hslot rfl
  have ht : TypeDefined settings g t := typeDefined_of_reference hg hw .propertyType
    (fun _ hm => hm) (by rw [hbody]; simp [Body.references])
  refine ⟨t, ⟨tag_of_property h, hbody⟩, ?_⟩
  rw [hvalue]
  exact type?_typeFields hg ht (field?_description (by decide) (by decide))
    (field?_description (by decide) (by decide))

theorem properties_read {owner : Structure} {seen slots : List Slot}
    {fields : List (String × Json)} (h : properties g owner seen slots = .ok fields)
    (hread : ∀ slot ∈ slots, ∀ f, property g owner slot = .ok f →
      ∃ t, IsPropertyOf g slot (f.1, t) ∧ type? g f.2 = some t) :
    ∃ ps, List.Forall₂ (IsPropertyOf g) slots ps ∧
      fields.mapM (fun m => (type? g m.2).map (m.1, ·)) = some ps := by
  induction slots generalizing seen fields with
  | nil =>
    cases h
    exact ⟨[], .nil, rfl⟩
  | cons slot slots ih =>
    rw [properties] at h
    obtain ⟨first, hfirst, h⟩ := bind_eq_ok.1 h
    dsimp only at h
    split at h
    · cases h
    · obtain ⟨later, hlater, heq⟩ := bind_eq_ok.1 h
      cases heq
      obtain ⟨t, ht, htype⟩ := hread slot List.mem_cons_self first hfirst
      obtain ⟨ps, hps, hlist⟩ := ih hlater fun s hs => hread s (List.mem_cons_of_mem _ hs)
      exact ⟨(first.1, t) :: ps, .cons ht hps, by simp [List.mapM_cons, htype, hlist]⟩

theorem required_eq (slots : List Slot) :
    required g slots = tags g (slots.filter fun slot => 1 ≤ slot.cardinality.min) := rfl

theorem object_read (hg : g.WellLinked) (hid : id ∈ written settings g) {root : Bool}
    {slots : List Slot} {order : MemberOrder} (hb : (g.get id).body = .object root slots order)
    {value : Json} (h : object settings g (g.get id) slots = .ok value) :
    ∃ ps, List.Forall₂ (IsPropertyOf g) slots ps ∧ read? g value = some (.object ps
      (tags g (slots.filter fun slot => 1 ≤ slot.cardinality.min))) := by
  obtain ⟨inner, hinner, heq⟩ := bind_eq_ok.1 h
  have hvalue := Except.ok.inj heq
  obtain ⟨ps, hps, hlist⟩ := properties_read hinner fun slot hs f => property_read hg hid hb hs
  have htype : value.field? "type" = some (.string "object") := by
    simp [← hvalue, Json.field?_cons]
  have hproperties : value.field? "properties" = some (.object inner) := by
    simp [← hvalue, Json.field?_cons]
  have hrequired : listed? (readList? readString?) value "required" = some (required g slots) := by
    refine listed?_of_isEmpty (fun names => .array (names.map .string)) ?_
      fun _ => Dump.readStrings?_map _
    simp [← hvalue, Json.field?_append, Json.field?_cons, Json.field?_optional,
      field?_description]
  refine ⟨ps, hps, ?_⟩
  simp [read?, htype, object?, hproperties, members?, hlist, hrequired, required_eq]

/-- A value of the built-in type is written as what it stands for, never as text in its place. -/
theorem denotes_literal {p : Primitive} {text : String} (h : p.accepts text = true) :
    Denotes p text (literal p text) := by
  cases p with
  | string => exact .string text
  | integer =>
    obtain ⟨n, hn⟩ := Option.isSome_iff_exists.mp h
    simpa [literal, hn] using Denotes.integer hn
  | decimal =>
    obtain ⟨x, hx⟩ := Option.isSome_iff_exists.mp h
    simpa [literal, hx] using Denotes.decimal hx
  | boolean =>
    obtain ⟨b, hb⟩ := Option.isSome_iff_exists.mp h
    simpa [literal, hb] using Denotes.boolean hb

theorem read?_eq_dataType? {base : TypeRef} {schema : Json}
    (h : schema.field? "type" = (Json.object (typeFields g base)).field? "type") :
    read? g schema = dataType? g schema := by
  rw [read?, h]
  cases base with
  | primitive p => cases p <;> rfl
  | declared id => rfl

theorem dataType_read (hg : g.WellLinked) {base : TypeRef} (ht : TypeDefined settings g base)
    {p : Primitive} {k : Constraints} {ks : List Constraints}
    (hc : g.Chain p (.declared id) (k :: ks)) :
    read? g (dataType g id base k) =
      some (.dataType base k.pattern (k.values.map (literal p)) k.minimum k.maximum) := by
  have hvalue : dataType g id base k = .object (typeFields g base ++
      (keywords p k ++ description g (g.get id) (some (.declared id)))) := by
    rw [dataType, constraintFields_eq hc, List.append_assoc]
  have hbase : type? g (dataType g id base k) = some base := by
    rw [hvalue]
    refine type?_typeFields hg ht ?_ ?_ <;>
      simp [keywords, Json.field?_append, Json.field?_optional, field?_description]
  have hpattern : keyword? pattern? (dataType g id base k) "pattern" = some k.pattern := by
    refine keyword?_of_map (fun q => .string ("^(?:" ++ q ++ ")$")) ?_
      fun q _ => pattern?_anchored q
    simp [hvalue, keywords, Json.field?_append, Json.field?_optional, field?_description,
      field?_typeFields]
  have hminimum : keyword? readInteger? (dataType g id base k) "minimum" = some k.minimum := by
    refine keyword?_of_map .integer ?_ fun n _ => rfl
    simp [hvalue, keywords, Json.field?_append, Json.field?_optional, field?_description,
      field?_typeFields]
  have hmaximum : keyword? readInteger? (dataType g id base k) "maximum" = some k.maximum := by
    refine keyword?_of_map .integer ?_ fun n _ => rfl
    simp [hvalue, keywords, Json.field?_append, Json.field?_optional, field?_description,
      field?_typeFields]
  have hvalues : listed? values? (dataType g id base k) "enum" =
      some (k.values.map (literal p)) := by
    refine listed?_of_isEmpty .array ?_ fun hne => ?_
    · simp [hvalue, keywords, Json.field?_append, Json.field?_optional, field?_description,
        field?_typeFields]
    · obtain ⟨v, vs, hvs⟩ := List.exists_cons_of_ne_nil hne
      rw [hvs]
      rfl
  have hkind : (dataType g id base k).field? "type" =
      (Json.object (typeFields g base)).field? "type" := by
    simp [hvalue, keywords, Json.field?_append, Json.field?_optional, field?_description]
  rw [read?_eq_dataType? hkind]
  simp [dataType?, hbase, hpattern, hvalues, hminimum, hmaximum]

theorem definition_read {source : String} {c : Compiled} (hc : compile source = .ok c)
    (hid : id ∈ defined settings c.graph) {value : Json}
    (h : definition settings c.graph id = .ok (some value)) :
    ∃ r, read? c.graph value = some r ∧ Describes c.graph id r := by
  have hg := compile_wellLinked hc
  obtain ⟨hw, hk⟩ := mem_defined.mp hid
  cases hb : (c.graph.get id).body with
  | array itemType items =>
    have ht : TypeDefined settings c.graph itemType := typeDefined_of_reference hg hw .itemType
      (fun _ hm => hm) (by rw [hb]; simp [Body.references])
    simp only [definition, hb] at h
    obtain ⟨schema, harray, heq⟩ := map_eq_ok.mp h
    cases heq
    exact ⟨_, array_read hg ht harray, .array hb⟩
  | object root slots order =>
    simp only [definition, hb] at h
    obtain ⟨schema, hobject, heq⟩ := map_eq_ok.mp h
    cases heq
    obtain ⟨ps, hps, hread⟩ := object_read hg hw hb hobject
    exact ⟨_, hread, .object hb hps⟩
  | dataType base k =>
    have hbase : (.baseType, base) ∈ (c.graph.get id).body.references := by
      rw [hb]
      simp [Body.references]
    have ht : TypeDefined settings c.graph base := typeDefined_of_reference hg hw .baseType
      (by simp [Place.kinds, definable]) hbase
    have hadmits := hg.admits _ (Graph.get_mem (Graph.lt_size_of_mem_kept hw)) _ hbase
    obtain ⟨p, ks, htail⟩ := compile_chain_ends hc hadmits
    have hchain : c.graph.Chain p (.declared id) (k :: ks) := .declared hb htail
    have hfits : k.Fits p := compile_constraints_fit hc hchain k List.mem_cons_self
    obtain rfl : dataType c.graph id base k = value := by simpa [definition, hb] using h
    refine ⟨_, dataType_read hg ht hchain, .dataType hb hchain ?_⟩
    rw [List.forall₂_map_right_iff, List.forall₂_same]
    exact fun text hm => denotes_literal (hfits.values text hm)
  | _ => simp [Structure.kind, Body.kind, hb, definable] at hk

end Definitions

/-- Every definition of a document can be read back: it gives the type and the range of the items of
an array; the tags and the types of the properties of an object in order, with the tags of those
that have to be there; and the base, the pattern, the bounds and the values of a data type, each
value as one of the built-in type at the end of the chain. -/
theorem definitions_read_back {source : String} {c : Compiled} (hc : compile source = .ok c)
    {settings : Settings} {doc : Json} (hd : document settings c.graph = .ok doc) :
    ∃ defs, doc.field? "$defs" = some (.object defs) ∧
      List.Forall₂ (fun id f => f.1 = key (c.graph.get id) ∧
        ∃ r, read? c.graph f.2 = some r ∧ Describes c.graph id r)
        (defined settings c.graph) defs := by
  have hout := document_outcome settings (compile_wellLinked hc)
  rw [hd] at hout
  obtain ⟨⟨defs, hclosed⟩, -⟩ := hout
  refine ⟨defs, hclosed.field, forall₂_imp_of_mem hclosed.definitions ?_⟩
  rintro id hid f ⟨hkey, hdef⟩
  exact ⟨hkey, definition_read hc hid hdef⟩

def shelfSource : String :=
  "root object o \x7bproperties: [p, q (optional)];\x7d property p \x7bvalueType: l;\x7d
  property q \x7bvalueType: w;\x7d array l \x7bitemType: w (n >= 2);\x7d
  dataType v \x7bbaseType: integer; minimumValue: -1;\x7d
  dataType w \x7bbaseType: v; allowedValues: ['0', '7'];\x7d"

set_option maxRecDepth 4000 in
theorem definitions_read_back_shelf : ∃ c doc defs, compile shelfSource = .ok c ∧
    document .default c.graph = .ok doc ∧ doc.field? "$defs" = some (.object defs) ∧
    defined .default c.graph = [0, 3, 4, 5] ∧
    List.Forall₂ (fun id f => f.1 = key (c.graph.get id) ∧
      ∃ r, read? c.graph f.2 = some r ∧ Describes c.graph id r) [0, 3, 4, 5] defs := by
  obtain ⟨c, hc, ht⟩ := exists_compiled (String.toList_ofList : shelfSource.toList = _)
    (fun c => (document .default c.graph).toOption.isSome &&
      defined .default c.graph == [0, 3, 4, 5]) (by decide)
  rw [Bool.and_eq_true, beq_iff_eq] at ht
  obtain ⟨doc, hdoc⟩ := Option.isSome_iff_exists.mp ht.1
  have hdoc := toOption_eq_some.mp hdoc
  obtain ⟨defs, hfield, hread⟩ := definitions_read_back hc hdoc
  rw [ht.2] at hread
  exact ⟨c, doc, defs, hc, hdoc, hfield, ht.2, hread⟩

end JsonSchema

end DocSchema
