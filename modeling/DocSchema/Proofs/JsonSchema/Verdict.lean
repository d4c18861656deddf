import DocSchema.Proofs.JsonSchema.Values

/-!
# Verdicts on values

A schema gives a verdict on a value. A keyword asks something of the value itself, or it hands the
value or parts of it on to other schemas and combines their verdicts. References can lead back to
where they started, so a verdict is looked for within a number of steps; one that is found stays the
same with more of them.
-/
namespace DocSchema

def Number.Binary64.toRat (x : Number.Binary64) : ℚ :=
  (if x.negative then -1 else 1) * x.significand * 2 ^ x.exponent

namespace JsonSchema

def number? : Json → Option ℚ
  | .integer n => some n
  | .double x => some x.toRat
  | _ => none

def members? : Json → Option (List (String × Json))
  | .object fields => some fields
  | _ => none

def items? : Json → Option (List Json)
  | .array items => some items
  | _ => none

/-- An integer is a number without a fraction, however it is written. -/
def isOfType (type : String) (v : Json) : Bool :=
  if type = "integer" then (number? v).any (·.isInt) else hasType type v

/-- Whether a value is a listed one. Numbers are compared by what they stand for, and lists never
hold arrays or objects. -/
def isListed : Json → Json → Bool
  | .string a, .string b => a == b
  | .bool a, .bool b => a == b
  | v, listed => (number? v).isSome && number? v == number? listed

/-- What a keyword asks of the value itself. Keywords for values of another type ask nothing. -/
def asks (Matches : String → String → Bool) (v : Json) : String × Json → Bool
  | ("type", .string type) => isOfType type v
  | ("pattern", .string p) => v.string?.all (Matches p)
  | ("enum", .array listed) => listed.any (isListed v)
  | ("minimum", .integer m) => (number? v).all fun x => decide ((m : ℚ) ≤ x)
  | ("maximum", .integer m) => (number? v).all fun x => decide (x ≤ (m : ℚ))
  | ("required", .array names) =>
    (members? v).all fun fields =>
      names.all fun name => fields.any fun f => name.string? == some f.1
  | ("minItems", .integer n) => (items? v).all fun items => decide (n ≤ items.length)
  | ("maxItems", .integer n) => (items? v).all fun items => decide (items.length ≤ n)
  | _ => true

/-- The names of the properties that stand beside a keyword. -/
def listedNames (fields : List (String × Json)) : List String :=
  ((((Json.object fields).field? "properties").bind members?).getD []).map (·.1)

/-- The schemas that a keyword calls, each with the value it is called on. -/
def calls (doc : Json) (fields : List (String × Json)) (v : Json) :
    String × Json → List (Json × Json)
  | ("$ref", .string target) => [(resolve doc target, v)]
  | ("oneOf", .array options) => options.map fun option => (option, v)
  | ("properties", .object schemas) =>
    ((members? v).getD []).filterMap fun m => (schemas.lookup m.1).map fun schema => (schema, m.2)
  | ("additionalProperties", schema) =>
    (((members? v).getD []).filter fun m => !(listedNames fields).contains m.1).map
      fun m => (schema, m.2)
  | ("items", schema) => ((items? v).getD []).map fun item => (schema, item)
  | _ => []

def askingKeys : List String :=
  ["type", "pattern", "enum", "minimum", "maximum", "required", "minItems", "maxItems"]

def callingKeys : List String := ["$ref", "oneOf", "properties", "additionalProperties", "items"]

section Keywords

variable {Matches : String → String → Bool} {doc v schema : Json} {fields : List (String × Json)}
  {f : String × Json}

theorem asks_eq_true (h : f.1 ∉ askingKeys) : asks Matches v f = true := by
  unfold asks
  split
  case h_9 => rfl
  all_goals exact absurd (by simp [askingKeys]) h

theorem calls_eq_nil (h : f.1 ∉ callingKeys) : calls doc fields v f = [] := by
  unfold calls
  split
  case h_6 => rfl
  all_goals exact absurd (by simp [callingKeys]) h

theorem calls_ref (target : String) :
    calls doc fields v ("$ref", .string target) = [(resolve doc target, v)] := rfl

theorem calls_oneOf (options : List Json) :
    calls doc fields v ("oneOf", .array options) = options.map (·, v) := rfl

theorem calls_properties (schemas : List (String × Json)) :
    calls doc fields v ("properties", .object schemas) =
      ((members? v).getD []).filterMap fun m =>
        (schemas.lookup m.1).map fun schema => (schema, m.2) := rfl

theorem calls_additionalProperties :
    calls doc fields v ("additionalProperties", schema) =
      (((members? v).getD []).filter fun m => !(listedNames fields).contains m.1).map
        fun m => (schema, m.2) := rfl

theorem calls_items :
    calls doc fields v ("items", schema) = ((items? v).getD []).map (schema, ·) := rfl

end Keywords

/-- Of options exactly one has to accept; all other keywords need every verdict. -/
def combine (key : String) (verdicts : List Bool) : Bool :=
  if key = "oneOf" then verdicts.count true == 1 else verdicts.all id

/-- The verdict of a schema on a value, if it is found within a number of steps. -/
def verdict? (Matches : String → String → Bool) (doc : Json) : Nat → Json → Json → Option Bool
  | 0, _, _ => none
  | _ + 1, .bool b, _ => some b
  | steps + 1, .object fields, v =>
    (fields.mapM fun f =>
      ((calls doc fields v f).mapM fun c => verdict? Matches doc steps c.1 c.2).map
        fun verdicts => combine f.1 verdicts && asks Matches v f).map fun verdicts =>
          verdicts.all id
  | _ + 1, _, _ => some false

def Admits (Matches : String → String → Bool) (doc schema v : Json) : Prop :=
  ∃ steps, verdict? Matches doc steps schema v = some true

def Refuses (Matches : String → String → Bool) (doc schema v : Json) : Prop :=
  ∃ steps, verdict? Matches doc steps schema v = some false

def Decided (Matches : String → String → Bool) (doc schema v : Json) : Prop :=
  ∃ steps verdict, verdict? Matches doc steps schema v = some verdict

variable {Matches : String → String → Bool} {doc schema v : Json}

section Steps

theorem verdict?_succ {steps : Nat} {verdict : Bool}
    (h : verdict? Matches doc steps schema v = some verdict) :
    verdict? Matches doc (steps + 1) schema v = some verdict := by
  induction steps generalizing schema v verdict with
  | zero => cases h
  | succ steps ih =>
    cases schema with
    | object fields =>
      rw [verdict?] at h ⊢
      obtain ⟨verdicts, hverdicts, rfl⟩ := Option.map_eq_some_iff.1 h
      -- Each call had its verdict with one step less.
      refine Option.map_eq_some_iff.2 ⟨verdicts, mapM_imp (fun f b hb => ?_) hverdicts, rfl⟩
      obtain ⟨called, hcalled, rfl⟩ := Option.map_eq_some_iff.1 hb
      exact Option.map_eq_some_iff.2 ⟨called, mapM_imp (fun c b hc => ih hc) hcalled, rfl⟩
    | _ => exact h

theorem verdict?_mono {m n : Nat} (hmn : m ≤ n) {verdict : Bool}
    (h : verdict? Matches doc m schema v = some verdict) :
    verdict? Matches doc n schema v = some verdict := by
  induction hmn with
  | refl => exact h
  | step _ ih => exact verdict?_succ ih

theorem verdict?_unique {m n : Nat} {a b : Bool} (ha : verdict? Matches doc m schema v = some a)
    (hb : verdict? Matches doc n schema v = some b) : a = b := by
  have ha' := verdict?_mono (Nat.le_max_left m n) ha
  have hb' := verdict?_mono (Nat.le_max_right m n) hb
  exact Option.some.inj (ha'.symm.trans hb')

theorem refuses_iff (h : Decided Matches doc schema v) :
    Refuses Matches doc schema v ↔ ¬Admits Matches doc schema v := by
  constructor
  · rintro ⟨m, hm⟩ ⟨n, hn⟩
    cases verdict?_unique hm hn
  · intro hno
    obtain ⟨steps, verdict, hv⟩ := h
    cases verdict with
    | false => exact ⟨steps, hv⟩
    | true => exact absurd ⟨steps, hv⟩ hno

end Steps

section Objects

open Classical in
theorem verdict?_eq_decide {steps : Nat} {verdict : Bool}
    (h : verdict? Matches doc steps schema v = some verdict) :
    verdict? Matches doc steps schema v = some (decide (Admits Matches doc schema v)) := by
  rw [h, Option.some.injEq]
  cases verdict with
  | true => exact (decide_eq_true ⟨steps, h⟩).symm
  | false =>
    refine (decide_eq_false ?_).symm
    rintro ⟨n, hn⟩
    cases verdict?_unique h hn

open Classical in
theorem exists_steps {called : List (Json × Json)}
    (h : ∀ c ∈ called, Decided Matches doc c.1 c.2) :
    ∃ steps, ∀ c ∈ called,
      verdict? Matches doc steps c.1 c.2 = some (decide (Admits Matches doc c.1 c.2)) := by
  induction called with
  | nil => exact ⟨0, by simp⟩
  | cons c called ih =>
    obtain ⟨⟨m, verdict, hm⟩, hrest⟩ := List.forall_mem_cons.1 h
    obtain ⟨n, hn⟩ := ih hrest
    refine ⟨max m n, List.forall_mem_cons.2 ⟨?_, fun c hc => ?_⟩⟩
    · exact verdict?_mono (Nat.le_max_left m n) (verdict?_eq_decide hm)
    · exact verdict?_mono (Nat.le_max_right m n) (hn c hc)

open Classical in
/-- The verdicts of the calls are what the keyword needs, and so is the value. -/
def Meets (Matches : String → String → Bool) (doc : Json) (fields : List (String × Json))
    (v : Json) (f : String × Json) : Prop :=
  combine f.1 ((calls doc fields v f).map fun c => decide (Admits Matches doc c.1 c.2)) = true ∧
    asks Matches v f = true

variable {fields : List (String × Json)}

open Classical in
theorem exists_verdict (h : ∀ f ∈ fields, ∀ c ∈ calls doc fields v f, Decided Matches doc c.1 c.2) :
    ∃ steps, verdict? Matches doc steps (.object fields) v =
      some (decide (∀ f ∈ fields, Meets Matches doc fields v f)) := by
  have hall : ∀ c ∈ fields.flatMap (calls doc fields v), Decided Matches doc c.1 c.2 := by
    intro c hc
    obtain ⟨f, hf, hc⟩ := List.mem_flatMap.1 hc
    exact h f hf c hc
  obtain ⟨steps, hsteps⟩ := exists_steps hall
  refine ⟨steps + 1, ?_⟩
  have hfield : ∀ f ∈ fields, (((calls doc fields v f).mapM fun c =>
      verdict? Matches doc steps c.1 c.2).map fun verdicts =>
        combine f.1 verdicts && asks Matches v f) =
          some (decide (Meets Matches doc fields v f)) := by
    intro f hf
    have hcalls := mapM_eq_map fun c (hc : c ∈ calls doc fields v f) =>
      hsteps c (List.mem_flatMap.2 ⟨f, hf, hc⟩)
    rw [hcalls, Option.map_some, Option.some.injEq, Bool.eq_iff_iff, decide_eq_true_iff,
      Bool.and_eq_true]
    exact Iff.rfl
  rw [verdict?, mapM_eq_map hfield, Option.map_some, Option.some.injEq]
  simp [List.all_eq]

theorem decided_object
    (h : ∀ f ∈ fields, ∀ c ∈ calls doc fields v f, Decided Matches doc c.1 c.2) :
    Decided Matches doc (.object fields) v := by
  obtain ⟨steps, hsteps⟩ := exists_verdict h
  exact ⟨steps, _, hsteps⟩

theorem admits_object_iff
    (h : ∀ f ∈ fields, ∀ c ∈ calls doc fields v f, Decided Matches doc c.1 c.2) :
    Admits Matches doc (.object fields) v ↔ ∀ f ∈ fields, Meets Matches doc fields v f := by
  classical
  obtain ⟨steps, hsteps⟩ := exists_verdict h
  constructor
  · rintro ⟨n, hn⟩
    exact of_decide_eq_true (verdict?_unique hsteps hn)
  · intro hmeets
    exact ⟨steps, by rw [hsteps, decide_eq_true hmeets]⟩

end Objects

end JsonSchema

end DocSchema
