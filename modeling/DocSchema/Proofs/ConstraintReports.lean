import DocSchema.Proofs.CycleReports

/-!
# Reports of constraints

Once names are linked, chains of bases end and patterns are accepted, the only thing left that can
withhold a graph is a data type that asks for something its built-in type does not have. Whether one
does is said here of the definitions alone: the built-in type is found by following the names of
base types, and the constraints are those that the data type gives itself. Every such data type is
reported, and no other.
-/
namespace DocSchema

namespace Definition

/-- The constraints that a data type gives itself, each with its place. -/
structure Restrictions where
  pattern : Option (Located String)
  values : List (Located String)
  minimum : Option (Located Int)
  maximum : Option (Located Int)

/-- What a definition gives; only data types give anything. -/
def restrictions (d : Definition) : Restrictions :=
  match d.body with
  | .dataType _ pattern values minimum maximum => ⟨pattern, values, minimum, maximum⟩
  | _ => ⟨none, [], none, none⟩

namespace Restrictions

/-- What is asked for makes sense for a built-in type: the bounds are in order, only numbers have
bounds, and the listed values are values of the type. -/
structure SoundOver (k : Restrictions) (p : Primitive) : Prop where
  ordered : ∀ lo ∈ k.minimum, ∀ hi ∈ k.maximum, lo.value ≤ hi.value
  numeric : k.minimum.isSome ∨ k.maximum.isSome → p = .integer ∨ p = .decimal
  accepted : ∀ v ∈ k.values, p.accepts v.value = true

def spans (k : Restrictions) : List Span :=
  (k.minimum.toList ++ k.maximum.toList).map (·.span) ++ k.values.map (·.span)

/-- A pattern, if there is one, compiles and means the same in XML Schema. -/
def PatternAccepted (k : Restrictions) : Prop :=
  ∀ pattern ∈ k.pattern, (∃ regex, Pattern.compile pattern.value = .ok regex) ∧
    Pattern.dialectIssue? pattern.value = none

end Restrictions

end Definition

theorem Graph.base?_eq_some_iff {g : Graph} {id : StructureId} {t : TypeRef} :
    g.base? id = some t ↔ ∃ k, (g.get id).body = .dataType t k := by
  unfold base?
  cases (g.get id).body <;> simp

theorem Graph.Chain.exists_base {g : Graph} {p : Primitive} {id : StructureId} {k : Constraints}
    {ks : List Constraints} (h : g.Chain p (.declared id) (k :: ks)) :
    ∃ base, (g.get id).body = .dataType base k ∧ g.Chain p base ks := by
  cases h with
  | declared hb hrest => exact ⟨_, hb, hrest⟩

namespace Link

variable {definitions : List Definition} {id : StructureId} {d : Definition} {p : Primitive}

/-- The built-in type that a data type leads to by the names of base types. A data type that names
none is a string. -/
inductive LeadsTo (definitions : List Definition) : StructureId → Primitive → Prop
  | unnamed {id : StructureId} {d : Definition} (listed : definitions[id]? = some d)
      (kind : d.kind = .dataType) (base : d.baseName? = none) : LeadsTo definitions id .string
  | builtIn {id : StructureId} {d : Definition} {name : Located String} {p : Primitive}
      (listed : definitions[id]? = some d) (base : d.baseName? = some name)
      (named : Primitive.ofName? name.value = some p) : LeadsTo definitions id p
  | declared {id b : StructureId} {p : Primitive} (base : IsBase definitions id b)
      (rest : LeadsTo definitions b p) : LeadsTo definitions id p

theorem lookup_eq_primitive {owner : String} {usage : Usage} (hu : usage.acceptsPrimitive = true)
    {name : Located String} :
    (lookup definitions owner usage name).value = some (.primitive p) ↔
      Primitive.ofName? name.value = some p := by
  unfold lookup
  cases Primitive.ofName? name.value with
  | some q => simp [hu]
  | none =>
    cases find? definitions name.value with
    | none => simp
    | some found =>
      by_cases ha : usage.accepts found.2.kind = true <;> simp [ha]

theorem base?_graph_primitive (h : Passes (structures definitions definitions))
    (hd : definitions[id]? = some d) :
    (graph definitions).value.base? id = some (.primitive p) ↔
      (d.kind = .dataType ∧ d.baseName? = none ∧ p = .string) ∨
        ∃ name, d.baseName? = some name ∧ Primitive.ofName? name.value = some p := by
  have hbody : ((graph definitions).value.get id).body =
      (body definitions d.name.value d.body).value := by
    rw [get_graph hd]
    rfl
  have hpasses : Passes (body definitions d.name.value d.body) :=
    (structures_passes h d (List.mem_of_getElem? hd)).bind.1
  unfold Graph.base? Definition.kind Definition.baseName?
  rw [hbody]
  cases hb : d.body with
  | dataType base pattern values minimum maximum =>
    cases base with
    | none => simp [body, typeRef, TypeRef.default, Definition.Body.kind, eq_comm]
    | some name =>
      rw [hb] at hpasses
      obtain ⟨t, ht⟩ := Option.isSome_iff_exists.mp (lookup_isSome hpasses.bind.1.bind.1)
      have hnamed : (lookup definitions d.name.value .simpleType name).value =
          some (.primitive p) ↔ Primitive.ofName? name.value = some p := lookup_eq_primitive rfl
      rw [ht, Option.some_inj] at hnamed
      simpa [body, typeRef, ht] using hnamed
  | _ => simp [body, Definition.Body.kind]

/-- Following names and following the bases of the graph find the same built-in type. -/
theorem leadsTo_iff (h : Passes (structures definitions definitions)) :
    LeadsTo definitions id p ↔ ∃ ks, (graph definitions).value.Chain p (.declared id) ks := by
  have hextend {id : StructureId} {t : TypeRef} {p : Primitive} {ks : List Constraints}
      (hb : (graph definitions).value.base? id = some t)
      (hchain : (graph definitions).value.Chain p t ks) :
      ∃ ks, (graph definitions).value.Chain p (.declared id) ks := by
    obtain ⟨k, hbody⟩ := Graph.base?_eq_some_iff.mp hb
    exact ⟨k :: ks, .declared hbody hchain⟩
  constructor
  · intro hleads
    induction hleads with
    | unnamed listed kind base =>
      exact hextend ((base?_graph_primitive h listed).mpr (.inl ⟨kind, base, rfl⟩)) .primitive
    | builtIn listed base named =>
      exact hextend ((base?_graph_primitive h listed).mpr (.inr ⟨_, base, named⟩)) .primitive
    | declared base _ ih =>
      obtain ⟨ks, hchain⟩ := ih
      exact hextend ((isBase_iff h).mp base) hchain
  · rintro ⟨ks, hchain⟩
    -- the constraints on the way have no part in this, so the induction is on their number
    induction ks generalizing id with
    | nil => cases hchain
    | cons k ks ih =>
      obtain ⟨base, hbody, hrest⟩ := hchain.exists_base
      have hb := Graph.base?_eq_some_iff.mpr ⟨k, hbody⟩
      cases base with
      | declared b => exact .declared ((isBase_iff h).mpr hb) (ih hrest)
      | primitive q =>
        cases hrest
        have hlt : id < definitions.length := by
          have := Graph.lt_size_of_dataType hbody
          rwa [size_graph] at this
        have hd : definitions[id]? = some definitions[id] := List.getElem?_eq_getElem hlt
        obtain ⟨hkind, hnone, rfl⟩ | ⟨name, hname, hp⟩ := (base?_graph_primitive h hd).mp hb
        · exact .unnamed hd hkind hnone
        · exact .builtIn hd hname hp

theorem cycleProblems_graph_eq_nil_iff (h : Passes (structures definitions definitions)) :
    cycleProblems (graph definitions).value definitions = [] ↔
      ∀ id, ¬Relation.TransGen (IsBase definitions) id id := by
  have hbase : IsBase definitions = (graph definitions).value.BasedOn := by
    funext a b
    exact propext (isBase_iff h)
  rw [hbase]
  exact cycleProblems_eq_nil_iff

theorem existsUnique_leadsTo (h : Passes (structures definitions definitions))
    (hc : ∀ id, ¬Relation.TransGen (IsBase definitions) id id)
    (hd : definitions[id]? = some d) (hk : d.kind = .dataType) :
    ∃! p, LeadsTo definitions id p := by
  have hkind : ((graph definitions).value.get id).kind = .dataType := by
    rw [get_graph hd, structureOf_kind, hk]
  obtain ⟨p, ks, hchain⟩ | hend := Graph.chain_or_endless (basesFit definitions) hkind
  · refine ⟨p, (leadsTo_iff h).mpr ⟨ks, hchain⟩, fun q hq => ?_⟩
    obtain ⟨qs, hother⟩ := (leadsTo_iff h).mp hq
    have he := hother.basePrimitive_eq
    rw [hchain.basePrimitive_eq] at he
    exact (Option.some.inj he).symm
  · obtain ⟨first, others, hin⟩ := exists_cyclicBase hend definitions
    rw [(cycleProblems_graph_eq_nil_iff h).mpr hc] at hin
    cases hin

theorem boundsProblems_eq_nil_iff (owner : String) (minimum maximum : Option (Located Int)) :
    boundsProblems owner minimum maximum = [] ↔
      ∀ lo ∈ minimum, ∀ hi ∈ maximum, lo.value ≤ hi.value := by
  cases minimum with
  | none => simp [boundsProblems]
  | some lo =>
    cases maximum with
    | none => simp [boundsProblems]
    | some hi => simp [boundsProblems]

theorem constraintProblems_eq_nil_iff (owner : String) (k : Definition.Restrictions) :
    constraintProblems owner p k.values k.minimum k.maximum = [] ↔ k.SoundOver p := by
  have hnumeric : ((if p.isNumeric then []
      else (k.minimum.toList ++ k.maximum.toList).map (Problem.boundOfNoNumber owner p)) = []) ↔
        (k.minimum.isSome ∨ k.maximum.isSome → p = .integer ∨ p = .decimal) := by
    cases p <;> cases k.minimum <;> cases k.maximum <;> simp [Primitive.isNumeric]
  have hvalues : (k.values.filter (!p.accepts ·.value)).map (Problem.notAValue owner p) = [] ↔
      ∀ v ∈ k.values, p.accepts v.value = true := by
    simp [List.filter_eq_nil_iff]
  rw [constraintProblems, List.append_eq_nil_iff, List.append_eq_nil_iff,
    boundsProblems_eq_nil_iff, hnumeric, hvalues]
  constructor
  · rintro ⟨⟨hordered, hnumbers⟩, haccepted⟩
    exact ⟨hordered, hnumbers, haccepted⟩
  · intro hsound
    exact ⟨⟨hsound.ordered, hsound.numeric⟩, hsound.accepted⟩

theorem patternProblems_eq_nil (owner : String) {k : Definition.Restrictions}
    (h : k.PatternAccepted) : k.pattern.toList.flatMap (patternProblems owner) = [] := by
  refine List.flatMap_eq_nil_iff.mpr fun pattern hm => ?_
  obtain ⟨⟨regex, hcompiles⟩, hportable⟩ := h pattern (Option.mem_toList.mp hm)
  simp [patternProblems, hcompiles, hportable]

theorem dataTypeProblems_eq {g : Graph} (hk : d.kind = .dataType)
    (hpattern : d.restrictions.PatternAccepted) (hp : g.basePrimitive (.declared id) = some p) :
    dataTypeProblems g id d = constraintProblems d.name.value p d.restrictions.values
      d.restrictions.minimum d.restrictions.maximum := by
  have hnone := patternProblems_eq_nil d.name.value hpattern
  unfold Definition.restrictions at hnone ⊢
  cases hb : d.body with
  | dataType base pattern values minimum maximum =>
    rw [hb] at hnone
    simp only [dataTypeProblems, hb, hp]
    rw [hnone, List.nil_append]
  | _ => simp [Definition.kind, Definition.Body.kind, hb] at hk

theorem dataTypeProblems_eq_nil {g : Graph} (hk : d.kind ≠ .dataType) :
    dataTypeProblems g id d = [] := by
  unfold dataTypeProblems
  split
  next hb => exact absurd (by simp [Definition.kind, Definition.Body.kind, hb]) hk
  · rfl

/-- A data type that asks for something its built-in type does not have. -/
def Offends (definitions : List Definition) (id : StructureId) : Prop :=
  ∃ d p, definitions[id]? = some d ∧ LeadsTo definitions id p ∧ ¬d.restrictions.SoundOver p

def constraintReports (ps : List Problem) : List Diagnostic :=
  (ps.map (·.diagnostic)).filter fun r => r.code.map (·.name) == some "E305"

/-- A report about a definition: an error that has its name and marks bounds or values of it. -/
structure Reports (d : Definition) (r : Diagnostic) : Prop where
  severity : r.severity = .error
  named : ∃ before after, r.message = before ++ "`" ++ d.name.value ++ "`" ++ after
  marked : r.labels ≠ []
  places : ∀ label ∈ r.labels, label.span ∈ d.restrictions.spans

theorem mem_constraintProblems {owner : String} {values : List (Located String)}
    {minimum maximum : Option (Located Int)} {problem : Problem}
    (h : problem ∈ constraintProblems owner p values minimum maximum) :
    (∃ lo ∈ minimum, ∃ hi ∈ maximum, problem = .invertedBounds owner lo hi) ∨
      (∃ bound ∈ minimum.toList ++ maximum.toList, problem = .boundOfNoNumber owner p bound) ∨
      ∃ v ∈ values, problem = .notAValue owner p v := by
  rcases List.mem_append.mp h with h | h
  · rcases List.mem_append.mp h with h | h
    · left
      cases minimum with
      | none => cases h
      | some lo =>
        cases maximum with
        | none => cases h
        | some hi =>
          rw [boundsProblems] at h
          split_ifs at h with hlt
          · exact ⟨lo, rfl, hi, rfl, List.mem_singleton.mp h⟩
          · cases h
    · split_ifs at h with hp
      · cases h
      · obtain ⟨bound, hm, rfl⟩ := List.mem_map.mp h
        exact .inr (.inl ⟨bound, hm, rfl⟩)
  · obtain ⟨v, hm, rfl⟩ := List.mem_map.mp h
    exact .inr (.inr ⟨v, (List.mem_filter.mp hm).1, rfl⟩)

theorem reports_of_constraintProblems {problem : Problem}
    (h : problem ∈ constraintProblems d.name.value p d.restrictions.values d.restrictions.minimum
      d.restrictions.maximum) :
    problem.diagnostic.code = some .invalidConstraint ∧ Reports d problem.diagnostic := by
  have hbound {bound : Located Int}
      (hm : bound ∈ d.restrictions.minimum.toList ++ d.restrictions.maximum.toList) :
      bound.span ∈ d.restrictions.spans :=
    List.mem_append_left _ (List.mem_map_of_mem hm)
  obtain ⟨lo, hlo, hi, hhi, rfl⟩ | ⟨bound, hm, rfl⟩ | ⟨v, hm, rfl⟩ := mem_constraintProblems h
  · refine ⟨rfl, rfl, ⟨"", s!" has minimum {lo.value} above maximum {hi.value}", ?_⟩,
      List.cons_ne_nil _ _, ?_⟩
    · have hcut : "` has minimum " = "`" ++ " has minimum " := rfl
      simp [Problem.diagnostic, Diagnostic.error, hcut, String.append_assoc, toString,
        -String.reduceAppend]
    · have hlo : lo.span ∈ d.restrictions.spans :=
        hbound (List.mem_append_left _ (Option.mem_toList.mpr hlo))
      have hhi : hi.span ∈ d.restrictions.spans :=
        hbound (List.mem_append_right _ (Option.mem_toList.mpr hhi))
      simp [Problem.diagnostic, Diagnostic.error, Label.main, Label.related, hlo, hhi]
  · refine ⟨rfl, rfl, ⟨"", s!" has numeric bounds but its values are {p.name}s", ?_⟩,
      List.cons_ne_nil _ _, ?_⟩
    · have hcut : "` has numeric bounds but its values are " =
          "`" ++ " has numeric bounds but its values are " := rfl
      simp [Problem.diagnostic, Diagnostic.error, hcut, String.append_assoc, toString,
        -String.reduceAppend]
    · simp [Problem.diagnostic, Diagnostic.error, Label.main, hbound hm]
  · refine ⟨rfl, rfl, ⟨s!"allowed value `{v.value}` of ", s!" is not a valid {p.name}", ?_⟩,
      List.cons_ne_nil _ _, ?_⟩
    · have hbefore : "` of `" = "` of " ++ "`" := rfl
      have hafter : "` is not a valid " = "`" ++ " is not a valid " := rfl
      simp [Problem.diagnostic, Diagnostic.error, hbefore, hafter, String.append_assoc, toString,
        -String.reduceAppend]
    · have hspan : v.span ∈ d.restrictions.spans :=
        List.mem_append_right _ (List.mem_map_of_mem hm)
      simp [Problem.diagnostic, Diagnostic.error, Label.main, hspan]

def owned (definitions : List Definition) : List (StructureId × Problem) :=
  definitions.zipIdx.flatMap fun (d, id) =>
    (dataTypeProblems (graph definitions).value id d).map (id, ·)

theorem mem_owned {problem : Problem} :
    (id, problem) ∈ owned definitions ↔ ∃ d, definitions[id]? = some d ∧
      problem ∈ dataTypeProblems (graph definitions).value id d := by
  unfold owned
  constructor
  · intro h
    obtain ⟨⟨d, i⟩, hd, hm⟩ := List.mem_flatMap.mp h
    obtain ⟨q, hq, he⟩ := List.mem_map.mp hm
    obtain ⟨rfl, rfl⟩ := Prod.mk.inj he
    exact ⟨d, List.mk_mem_zipIdx_iff_getElem?.mp hd, hq⟩
  · rintro ⟨d, hd, hm⟩
    exact List.mem_flatMap.mpr
      ⟨(d, id), List.mk_mem_zipIdx_iff_getElem?.mpr hd, List.mem_map_of_mem hm⟩

section Linked

variable (hn : Passes (names definitions))
  (hc : ∀ id, ¬Relation.TransGen (IsBase definitions) id id)

include hn hc

theorem problems_graph : (graph definitions).problems =
    (names definitions).problems ++ (owned definitions).map (·.2) := by
  have hno : (names definitions).problems.any (·.isError) = false := passes_iff.mp hn
  have howned : allDataTypeProblems (graph definitions).value definitions =
      (owned definitions).map (·.2) := by
    rw [allDataTypeProblems, (cycleProblems_graph_eq_nil_iff hn.bind.2).mpr hc, List.nil_append,
      owned, List.map_flatMap]
    simp
  rw [← howned, value_graph]
  simp [graph, hno]

variable (hp : ∀ d ∈ definitions, d.restrictions.PatternAccepted)

include hp

theorem constraintProblems_of_mem_owned {problem : Problem}
    (h : (id, problem) ∈ owned definitions) :
    ∃ d p, definitions[id]? = some d ∧ LeadsTo definitions id p ∧
      problem ∈ constraintProblems d.name.value p d.restrictions.values d.restrictions.minimum
        d.restrictions.maximum := by
  obtain ⟨d, hd, hm⟩ := mem_owned.mp h
  have hk : d.kind = .dataType := by
    by_contra hk
    rw [dataTypeProblems_eq_nil hk] at hm
    cases hm
  obtain ⟨p, hleads, -⟩ := existsUnique_leadsTo hn.bind.2 hc hd hk
  obtain ⟨ks, hchain⟩ := (leadsTo_iff hn.bind.2).mp hleads
  rw [dataTypeProblems_eq hk (hp d (List.mem_of_getElem? hd)) hchain.basePrimitive_eq] at hm
  exact ⟨d, p, hd, hleads, hm⟩

theorem exists_mem_owned_iff : (∃ problem, (id, problem) ∈ owned definitions) ↔
    Offends definitions id := by
  constructor
  · rintro ⟨problem, h⟩
    obtain ⟨d, p, hd, hleads, hm⟩ := constraintProblems_of_mem_owned hn hc hp h
    refine ⟨d, p, hd, hleads, fun hsound => ?_⟩
    rw [(constraintProblems_eq_nil_iff d.name.value d.restrictions).mpr hsound] at hm
    cases hm
  · rintro ⟨d, p, hd, hleads, hunsound⟩
    obtain ⟨ks, hchain⟩ := (leadsTo_iff hn.bind.2).mp hleads
    have hk : d.kind = .dataType := by
      have hbase : ((graph definitions).value.get id).kind = .dataType := by
        cases hchain with
        | declared hb _ =>
          rw [Structure.kind, hb]
          rfl
      rwa [get_graph hd, structureOf_kind] at hbase
    have heq := dataTypeProblems_eq hk (hp d (List.mem_of_getElem? hd)) hchain.basePrimitive_eq
    have hsome : dataTypeProblems (graph definitions).value id d ≠ [] := by
      intro hnil
      rw [heq] at hnil
      exact hunsound ((constraintProblems_eq_nil_iff d.name.value d.restrictions).mp hnil)
    obtain ⟨problem, hm⟩ := List.exists_mem_of_ne_nil _ hsome
    exact ⟨problem, mem_owned.mpr ⟨d, hd, hm⟩⟩

theorem constraintReports_graph : constraintReports (graph definitions).problems =
    (owned definitions).map (·.2.diagnostic) := by
  have hwarnings : constraintReports (names definitions).problems = [] := by
    refine List.filter_eq_nil_iff.mpr fun r hr => ?_
    obtain ⟨problem, hm, rfl⟩ := List.mem_map.mp hr
    have herror := hn problem hm
    cases problem with
    | unusedDefault owner use default => exact Bool.false_ne_true
    | _ => cases herror
  have hall : constraintReports ((owned definitions).map (·.2)) =
      (owned definitions).map (·.2.diagnostic) := by
    rw [constraintReports, List.map_map]
    refine List.filter_eq_self.mpr fun r hr => ?_
    obtain ⟨⟨id, problem⟩, hm, rfl⟩ := List.mem_map.mp hr
    obtain ⟨d, p, -, -, hproblem⟩ := constraintProblems_of_mem_owned hn hc hp hm
    have hcode := (reports_of_constraintProblems hproblem).1
    simp [hcode, Code.name]
  rw [problems_graph hn hc, constraintReports, List.map_append, List.filter_append,
    ← constraintReports, ← constraintReports, hwarnings, hall, List.nil_append]

theorem graph?_eq_some_iff : (∃ g, graph? definitions = some g) ↔ owned definitions = [] := by
  have hany : (graph definitions).problems.any (·.isError) = false ↔ owned definitions = [] := by
    rw [problems_graph hn hc, List.any_append, Bool.or_eq_false_iff]
    constructor
    · rintro ⟨-, hno⟩
      refine List.eq_nil_iff_forall_not_mem.mpr fun x hx => ?_
      obtain ⟨d, p, -, -, hproblem⟩ := constraintProblems_of_mem_owned hn hc hp hx
      have herror : x.2.diagnostic.isError = true := by
        simp [Diagnostic.isError, (reports_of_constraintProblems hproblem).2.severity]
      rw [Problem.isError_diagnostic] at herror
      have hnone := List.any_eq_false.mp hno x.2 (List.mem_map_of_mem hx)
      exact hnone herror
    · intro hnil
      refine ⟨List.any_eq_false.mpr fun problem hm => ?_, by rw [hnil]; rfl⟩
      simp [hn problem hm]
  rw [← hany, graph?]
  cases (graph definitions).problems.any (·.isError) <;> simp

/-- For definitions whose names are linked, whose base types do not return and whose patterns are
accepted: every data type leads to one built-in type; there is a graph exactly if each asks for
nothing that this type does not have; and otherwise the data types that do are reported, each at
least once, by errors with the code of constraints, which are about no other definition. -/
theorem constraints_reported :
    (∀ id d, definitions[id]? = some d → d.kind = .dataType →
      ∃! p, LeadsTo definitions id p) ∧
    ((∃ g, graph? definitions = some g) ↔ ∀ id d p, definitions[id]? = some d →
      LeadsTo definitions id p → d.restrictions.SoundOver p) ∧
    ∃ blamed : List StructureId,
      List.Forall₂ (fun id r => ∃ d, definitions[id]? = some d ∧ Reports d r) blamed
        (constraintReports (graph definitions).problems) ∧
      ∀ id, id ∈ blamed ↔ Offends definitions id := by
  have hblamed (id : StructureId) : id ∈ (owned definitions).map (·.1) ↔
      Offends definitions id := by
    rw [← exists_mem_owned_iff hn hc hp]
    simp
  refine ⟨fun id d hd hk => existsUnique_leadsTo hn.bind.2 hc hd hk, ?_,
    (owned definitions).map (·.1), ?_, hblamed⟩
  · rw [graph?_eq_some_iff hn hc hp]
    constructor
    · intro hnil id d p hd hleads
      by_contra hunsound
      have hm := (hblamed id).mpr ⟨d, p, hd, hleads, hunsound⟩
      rw [hnil] at hm
      cases hm
    · intro hsound
      refine List.eq_nil_iff_forall_not_mem.mpr fun x hx => ?_
      obtain ⟨d, p, hd, hleads, hunsound⟩ := (hblamed x.1).mp (List.mem_map_of_mem hx)
      exact hunsound (hsound x.1 d p hd hleads)
  · rw [constraintReports_graph hn hc hp, List.forall₂_map_left_iff, List.forall₂_map_right_iff,
      List.forall₂_same]
    intro x hx
    obtain ⟨d, p, hd, -, hproblem⟩ := constraintProblems_of_mem_owned hn hc hp hx
    exact ⟨d, hd, (reports_of_constraintProblems hproblem).2⟩

end Linked

def restrictedAt (place : Nat) (name : String) (base pattern : Option String)
    (values : List String) (minimum maximum : Option Int) : Definition :=
  let here {α : Type} (a : α) : Located α := ⟨a, .point place⟩
  ⟨here name, none, .none, .dataType (base.map here) (pattern.map here) (values.map here)
    (minimum.map here) (maximum.map here)⟩

/-- Two data types that make sense, and three that do not: bounds in the wrong order, a value that
is no integer, and a bound for strings. -/
def measuredTypes : List Definition :=
  [restrictedAt 0 "size" (some "integer") none [] (some 1) (some 10),
   restrictedAt 1 "small" (some "size") none [] (some 5) (some 2),
   restrictedAt 2 "level" (some "size") none ["3", "x"] none none,
   restrictedAt 3 "word" none (some "a") [] none (some 4),
   restrictedAt 4 "code" none (some "a") ["a"] none none]

theorem constraints_reported_measured :
    Passes (names measuredTypes) ∧
      (∀ id, ¬Relation.TransGen (IsBase measuredTypes) id id) ∧
      (∀ d ∈ measuredTypes, d.restrictions.PatternAccepted) ∧
      ¬(∃ g, graph? measuredTypes = some g) ∧
      ∃ blamed : List StructureId, 1 ∈ blamed ∧ 3 ∈ blamed ∧ 0 ∉ blamed ∧
        List.Forall₂ (fun id r => ∃ d, measuredTypes[id]? = some d ∧ Reports d r) blamed
          (constraintReports (graph measuredTypes).problems) := by
  have hlinks : (names measuredTypes).problems = [] := List.isEmpty_iff.mp (by decide)
  have hn : Passes (names measuredTypes) := by simp [Passes, hlinks]
  have hc : ∀ id, ¬Relation.TransGen (IsBase measuredTypes) id id :=
    (cycleProblems_graph_eq_nil_iff hn.bind.2).mp (List.isEmpty_iff.mp (by decide))
  have hp : ∀ d ∈ measuredTypes, d.restrictions.PatternAccepted := by
    have hcompiles : (Pattern.compile "a").toOption.isSome = true := by cbv
    have hportable : Pattern.dialectIssue? "a" = none := by cbv
    obtain ⟨regex, hregex⟩ := Option.isSome_iff_exists.mp hcompiles
    have hall : ∀ d ∈ measuredTypes, ∀ pattern ∈ d.restrictions.pattern, pattern.value = "a" := by
      decide
    intro d hd pattern hm
    rw [hall d hd pattern hm]
    exact ⟨⟨regex, toOption_eq_some.mp hregex⟩, hportable⟩
  obtain ⟨hunique, hgraph, blamed, hreports, hblamed⟩ := constraints_reported hn hc hp
  have hsize : LeadsTo measuredTypes 0 .integer := .builtIn rfl rfl rfl
  have hsmall : Offends measuredTypes 1 := by
    refine ⟨_, .integer, rfl, .declared ⟨_, _, _, rfl, rfl, rfl⟩ hsize, fun hsound => ?_⟩
    exact absurd (hsound.ordered _ rfl _ rfl) (by decide)
  have hword : Offends measuredTypes 3 := by
    refine ⟨_, .string, rfl, .unnamed rfl rfl rfl, fun hsound => ?_⟩
    exact absurd (hsound.numeric (.inr rfl)) (by decide)
  have hinnocent : ¬Offends measuredTypes 0 := by
    rintro ⟨d, p, hd, hleads, hunsound⟩
    cases hd
    obtain rfl := (hunique 0 _ rfl rfl).unique hsize hleads
    exact hunsound ((constraintProblems_eq_nil_iff "size" _).mp (List.isEmpty_iff.mp (by decide)))
  refine ⟨hn, hc, hp, fun hsome => ?_, blamed, (hblamed 1).mpr hsmall, (hblamed 3).mpr hword,
    fun hm => hinnocent ((hblamed 0).mp hm), hreports⟩
  obtain ⟨d, p, hd, hleads, hunsound⟩ := hsmall
  exact hunsound (hgraph.mp hsome 1 d p hd hleads)

end Link

end DocSchema
