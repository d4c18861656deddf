import DocSchema.Proofs.Phases
import DocSchema.Proofs.Populated

/-!
# Reports of cyclic bases

The base types that data types name form chains, and some of them return. Each cycle is reported
once, from the member that is declared first and in the order of the chain. A data type whose chain
only runs into a cycle is not named. The search needs no bound: it ends from every start.
-/
namespace DocSchema

open Function (minimalPeriod periodicPts periodicOrbit)

/-- A cycle of a relation: no member stands twice, and each is followed by one that it is related
to. -/
structure IsCycleOf (R : StructureId → StructureId → Prop) (s : Cycle StructureId) : Prop where
  ne_nil : s ≠ Cycle.nil
  nodup : s.Nodup
  chain : s.Chain R

namespace Graph

variable {g : Graph} {id : StructureId}

theorem exists_iterate_of_transGen {a b : StructureId} (h : Relation.TransGen g.BasedOn a b) :
    ∃ n, g.next^[n + 1] a = b := by
  induction h with
  | single hb => exact ⟨0, hb.next_eq⟩
  | tail _ hb ih =>
    obtain ⟨n, hn⟩ := ih
    refine ⟨n + 1, ?_⟩
    rw [Function.iterate_succ_apply', hn, hb.next_eq]

theorem OnCycle.mem_periodicPts (h : g.OnCycle id) : id ∈ periodicPts g.next := by
  obtain ⟨n, hn⟩ := exists_iterate_of_transGen h
  exact Function.mk_mem_periodicPts (Nat.succ_pos n) hn

theorem OnCycle.isCycleOf (h : g.OnCycle id) : IsCycleOf g.BasedOn (periodicOrbit g.next id) where
  ne_nil := fun hnil =>
    Function.periodicOrbit_eq_nil_iff_not_periodic_pt.mp hnil h.mem_periodicPts
  nodup := Function.nodup_periodicOrbit
  chain := (Function.periodicOrbit_chain' g.BasedOn h.mem_periodicPts).mpr h.endless

theorem eq_map_of_isChain {a : StructureId} {l : List StructureId}
    (h : List.IsChain g.BasedOn (a :: l)) :
    a :: l = (List.range (l.length + 1)).map (g.next^[·] a) := by
  induction l generalizing a with
  | nil => rfl
  | cons b l ih =>
    obtain ⟨hb, hrest⟩ := List.isChain_cons_cons.mp h
    rw [List.length_cons, List.range_succ_eq_map, List.map_cons, List.map_map, ih hrest,
      ← hb.next_eq]
    rfl

theorem lt_size_of_basedOn {a b : StructureId} (h : g.BasedOn a b) : a < g.size := by
  unfold BasedOn base? at h
  split at h
  next hbody => exact lt_size_of_dataType hbody
  · cases h

theorem Endless.basePrimitiveAux_eq_none (h : g.Endless id) (fuel : Nat) :
    g.basePrimitiveAux fuel (.declared id) = none := by
  induction fuel generalizing id with
  | zero => rfl
  | succ fuel ih =>
    have hbase : g.base? id = some (.declared (g.next id)) := h 0
    rw [basePrimitiveAux, hbase]
    exact ih (h.iterate 1)

theorem transGen_of_isChain {R : StructureId → StructureId → Prop} {a b : StructureId}
    {l : List StructureId} (h : List.IsChain R (a :: (l ++ [b]))) : Relation.TransGen R a b := by
  induction l generalizing a with
  | nil => exact .single (List.isChain_pair.mp h)
  | cons c l ih =>
    obtain ⟨hc, hrest⟩ := List.isChain_cons_cons.mp h
    exact .head hc (ih hrest)

end Graph

theorem exists_mem_of_ne_nil {s : Cycle StructureId} (h : s ≠ Cycle.nil) : ∃ a, a ∈ s := by
  induction s using Quotient.inductionOn' with
  | h l =>
    cases l with
    | nil => exact absurd rfl h
    | cons a l => exact ⟨a, Cycle.mem_coe_iff.mpr List.mem_cons_self⟩

theorem exists_coe_cons {s : Cycle StructureId} {a : StructureId} (h : a ∈ s) :
    ∃ l : List StructureId, s = ((a :: l : List StructureId) : Cycle StructureId) := by
  induction s using Quotient.inductionOn' with
  | h l =>
    obtain ⟨before, after, rfl⟩ := List.append_of_mem (Cycle.mem_coe_iff.mp h)
    exact ⟨after ++ before, Cycle.coe_eq_coe.mpr List.isRotated_append⟩

namespace Graph

variable {g : Graph} {id : StructureId}

theorem eq_periodicOrbit {s : Cycle StructureId} (h : IsCycleOf g.BasedOn s) (hm : id ∈ s) :
    g.OnCycle id ∧ s = periodicOrbit g.next id := by
  obtain ⟨l, rfl⟩ := exists_coe_cons hm
  have hchain : List.IsChain g.BasedOn (id :: (l ++ [id])) :=
    (Cycle.chain_coe_cons _ _ _).mp h.chain
  have hpath := eq_map_of_isChain hchain
  have hlength : (l ++ [id]).length + 1 = (l.length + 1) + 1 := by simp
  rw [hlength, List.range_succ, List.map_append, ← List.cons_append] at hpath
  obtain ⟨hmembers, hlast⟩ := List.append_inj hpath (by simp)
  have hback : Function.IsPeriodicPt g.next (l.length + 1) id := by
    have := (List.cons.inj hlast).1
    exact this.symm
  -- a shorter period would list the start twice
  have hperiod : minimalPeriod g.next id = l.length + 1 := by
    have hle := hback.minimalPeriod_le (Nat.succ_pos _)
    have hpos := hback.minimalPeriod_pos (Nat.succ_pos _)
    by_contra hne
    have hnodup := Cycle.nodup_coe_iff.mp h.nodup
    rw [hmembers] at hnodup
    have hinj := (List.nodup_map_iff_inj_on List.nodup_range).mp hnodup
    have heq := hinj (minimalPeriod g.next id) (List.mem_range.mpr (by omega)) 0
      (List.mem_range.mpr (by omega)) (by simp)
    omega
  refine ⟨transGen_of_isChain hchain, ?_⟩
  rw [hmembers, ← hperiod]
  rfl

end Graph

namespace Link

variable {g : Graph} {definitions : List Definition}

theorem baseCycle?_eq_some_iff {id : StructureId} {cycle : List StructureId} :
    baseCycle? g id = some cycle ↔
      g.OnCycle id ∧ cycle = cycleFrom g id (minimalPeriod g.next id) := by
  have hfound (h : g.OnCycle id) := baseCycle_eq h.endless h.mem_periodicPts
  constructor
  · intro h
    obtain ⟨-, -, -, hon⟩ := baseCycle?_eq_some h
    rw [hfound hon] at h
    exact ⟨hon, (Option.some.inj h).symm⟩
  · rintro ⟨hon, rfl⟩
    exact hfound hon

/-- The cycles that are reported, each as it is found from its first declared member. -/
def reportedCycles (g : Graph) : List (List StructureId) :=
  (g.ofKind .dataType).filterMap fun id => (baseCycle? g id).filter (isFirstOf id)

theorem filter_baseCycle?_eq_some {id : StructureId} {cycle : List StructureId} :
    (baseCycle? g id).filter (isFirstOf id) = some cycle ↔
      g.OnCycle id ∧ cycle = cycleFrom g id (minimalPeriod g.next id) ∧ ∀ m ∈ cycle, id ≤ m := by
  rw [Option.filter_eq_some_iff, baseCycle?_eq_some_iff, and_assoc]
  simp [isFirstOf]

theorem mem_cycleFrom {id m : StructureId} :
    m ∈ cycleFrom g id (minimalPeriod g.next id) ↔ m ∈ periodicOrbit g.next id :=
  Iff.rfl

theorem mem_reportedCycles_iff {s : Cycle StructureId} :
    s ∈ (reportedCycles g).map Cycle.ofList ↔ IsCycleOf g.BasedOn s := by
  constructor
  · intro h
    obtain ⟨cycle, hc, rfl⟩ := List.mem_map.mp h
    obtain ⟨id, -, hid⟩ := List.mem_filterMap.mp hc
    obtain ⟨hon, rfl, -⟩ := filter_baseCycle?_eq_some.mp hid
    exact hon.isCycleOf
  · intro h
    -- the search from the least member finds the cycle and reports it
    have hmem : sInf {m | m ∈ s} ∈ s := Nat.sInf_mem (exists_mem_of_ne_nil h.ne_nil)
    have hleast : ∀ m ∈ s, sInf {m | m ∈ s} ≤ m := fun m hm => Nat.sInf_le hm
    generalize sInf {m | m ∈ s} = first at hmem hleast
    obtain ⟨hon, hs⟩ := Graph.eq_periodicOrbit h hmem
    have hlisted : first ∈ g.ofKind .dataType := hon.endless.mem_ofKind 0
    have hfound : (baseCycle? g first).filter (isFirstOf first) =
        some (cycleFrom g first (minimalPeriod g.next first)) := by
      refine filter_baseCycle?_eq_some.mpr ⟨hon, rfl, fun m hm => hleast m ?_⟩
      rw [hs]
      exact mem_cycleFrom.mp hm
    rw [hs]
    exact List.mem_map_of_mem (List.mem_filterMap.mpr ⟨first, hlisted, hfound⟩)

theorem reportedCycles_first {cycle : List StructureId} (h : cycle ∈ reportedCycles g) :
    ∃ first others, cycle = first :: others ∧ ∀ m ∈ others, first < m := by
  obtain ⟨id, -, hid⟩ := List.mem_filterMap.mp h
  obtain ⟨hon, hc, hleast⟩ := filter_baseCycle?_eq_some.mp hid
  obtain ⟨others, hcons, -⟩ := baseCycle?_eq_some (baseCycle?_eq_some_iff.mpr ⟨hon, hc⟩)
  refine ⟨id, others, hcons, fun m hm => ?_⟩
  have hnodup : cycle.Nodup := by
    rw [hc]
    exact Cycle.nodup_coe_iff.mp hon.isCycleOf.nodup
  rw [hcons, List.nodup_cons] at hnodup
  have hle : id ≤ m := hleast m (by simp [hcons, hm])
  have hne : id ≠ m := fun he => hnodup.1 (he ▸ hm)
  exact Nat.lt_of_le_of_ne hle hne

theorem nodup_reportedCycles (g : Graph) : ((reportedCycles g).map Cycle.ofList).Nodup := by
  rw [List.Nodup, List.pairwise_map]
  have hdistinct : (g.ofKind .dataType).Pairwise (· ≠ ·) := List.nodup_range.filter _
  refine hdistinct.filterMap _ ?_
  intro id id' hne cycle hc cycle' hc' he
  obtain ⟨hon, hcycle, hleast⟩ := filter_baseCycle?_eq_some.mp hc
  obtain ⟨hon', hcycle', hleast'⟩ := filter_baseCycle?_eq_some.mp hc'
  have hmem : id ∈ cycle := by
    rw [hcycle]
    exact mem_cycleFrom.mpr (Function.self_mem_periodicOrbit hon.mem_periodicPts)
  have hmem' : id' ∈ cycle' := by
    rw [hcycle']
    exact mem_cycleFrom.mpr (Function.self_mem_periodicOrbit hon'.mem_periodicPts)
  have hsame (m : StructureId) : m ∈ cycle ↔ m ∈ cycle' := (Cycle.coe_eq_coe.mp he).mem_iff
  have hle : id ≤ id' := hleast id' ((hsame id').mpr hmem')
  have hge : id' ≤ id := hleast' id ((hsame id).mp hmem)
  exact hne (Nat.le_antisymm hle hge)

theorem exists_reportedCycle_iff {id : StructureId} :
    (∃ cycle ∈ reportedCycles g, id ∈ cycle) ↔ g.OnCycle id := by
  constructor
  · rintro ⟨cycle, hc, hm⟩
    have hcycle := mem_reportedCycles_iff.mp (List.mem_map_of_mem hc)
    exact (Graph.eq_periodicOrbit hcycle (Cycle.mem_coe_iff.mpr hm)).1
  · intro hon
    obtain ⟨cycle, hc, he⟩ := List.mem_map.mp (mem_reportedCycles_iff.mpr hon.isCycleOf)
    refine ⟨cycle, hc, Cycle.mem_coe_iff.mp ?_⟩
    have hself := Function.self_mem_periodicOrbit hon.mem_periodicPts
    rwa [← he] at hself

/-- The search for a cycle, as it goes on from the last member of a chain: the chain ends, it
returns to its start, it runs into a cycle further down, or it gets longer. -/
inductive Search (g : Graph) (start : StructureId) :
    List StructureId → StructureId → Option (List StructureId) → Prop
  | ends {chain : List StructureId} {current : StructureId}
      (h : ∀ next, ¬g.BasedOn current next) : Search g start chain current none
  | returns {chain : List StructureId} {current : StructureId} (h : g.BasedOn current start) :
      Search g start chain current (some chain)
  | runsIn {chain : List StructureId} {current next : StructureId} (h : g.BasedOn current next)
      (hs : next ≠ start) (hc : next ∈ chain) : Search g start chain current none
  | goesOn {chain : List StructureId} {current next : StructureId}
      {result : Option (List StructureId)} (h : g.BasedOn current next) (hs : next ≠ start)
      (hc : next ∉ chain) (rest : Search g start (chain ++ [next]) next result) :
      Search g start chain current result

/-- A chain without repetitions is not longer than the graph, so the bound is not reached. -/
theorem search_baseCycleAux (hb : g.BasesFit) {start current : StructureId} {fuel : Nat}
    {chain : List StructureId} (hn : chain.Nodup) (hlt : ∀ m ∈ chain, m < g.size)
    (hf : g.size < fuel + chain.length) :
    Search g start chain current (baseCycleAux g start fuel chain current) := by
  induction fuel generalizing chain current with
  | zero =>
    have hsub : chain ⊆ List.range g.size := fun m hm => List.mem_range.mpr (hlt m hm)
    have hle := (hn.subperm hsub).length_le
    rw [List.length_range] at hle
    omega
  | succ fuel ih =>
    rw [baseCycleAux]
    split
    next next hbase =>
      have hbase : g.BasedOn current next := hbase
      split_ifs with hs hc
      · rw [beq_iff_eq] at hs
        subst hs
        exact .returns hbase
      · exact .runsIn hbase (by simpa using hs) (by simpa using hc)
      · have hnew : next ∉ chain := by simpa using hc
        have hsize : next < g.size := Graph.lt_size_of_kind (hb current next hbase)
        refine .goesOn hbase (by simpa using hs) hnew (ih ?_ ?_ ?_)
        · rw [List.nodup_append]
          refine ⟨hn, List.nodup_singleton _, fun a ha b hm he => ?_⟩
          rw [he, List.mem_singleton.mp hm] at ha
          exact hnew ha
        · intro m hm
          rcases List.mem_append.mp hm with hm | hm
          · exact hlt m hm
          · rwa [List.mem_singleton.mp hm]
        · rw [List.length_append, List.length_singleton]
          omega
    next hnone => exact .ends fun next hbase => hnone next hbase

theorem search_baseCycle? (hb : g.BasesFit) {start : StructureId} (h : start < g.size) :
    Search g start [start] start (baseCycle? g start) := by
  refine search_baseCycleAux hb (List.nodup_singleton _) ?_ (by simp)
  simpa using h

def cycleReports (ps : List Problem) : List Diagnostic :=
  (ps.map (·.diagnostic)).filter (·.code == some .cyclicBase)

theorem cycleReports_append (ps qs : List Problem) :
    cycleReports (ps ++ qs) = cycleReports ps ++ cycleReports qs := by
  simp [cycleReports]

/-- What a report says of a cycle: it names the members in order and the first one again, and marks
where each is declared. -/
structure Names (definitions : List Definition) (cycle : List StructureId) (d : Diagnostic) :
    Prop where
  severity : d.severity = .error
  code : d.code = some .cyclicBase
  message : d.message = "cyclic base type `" ++
    " -> ".intercalate ((cycle ++ cycle.take 1).map fun id => (nameAt definitions id).value) ++ "`"
  labels : d.labels.map (·.span) = cycle.map fun id => (nameAt definitions id).span

theorem names_cyclicBase (definitions : List Definition) (first : StructureId)
    (others : List StructureId) :
    Names definitions (first :: others)
      (Problem.cyclicBase (nameAt definitions first)
        (others.map (nameAt definitions))).diagnostic where
  severity := rfl
  code := rfl
  message := by
    simp [Problem.diagnostic, Diagnostic.error, Function.comp_def, toString]
  labels := by
    simp [Problem.diagnostic, Diagnostic.error, Label.main, Label.related, Function.comp_def]

theorem cycleProblems_names (g : Graph) (definitions : List Definition) :
    List.Forall₂ (Names definitions) (reportedCycles g)
      ((cycleProblems g definitions).map (·.diagnostic)) := by
  unfold reportedCycles cycleProblems
  induction g.ofKind .dataType with
  | nil => exact .nil
  | cons id ids ih =>
    rw [List.filterMap_cons, List.filterMap_cons]
    cases hc : baseCycle? g id with
    | none => exact ih
    | some cycle =>
      by_cases hfirst : isFirstOf id cycle = true
      · obtain ⟨others, rfl, -⟩ := baseCycle?_eq_some hc
        simp only [Option.filter_some, hfirst, if_true, List.map_cons, List.tail_cons]
        exact .cons (names_cyclicBase definitions id others) ih
      · simpa only [Option.filter_some, hfirst, Bool.false_eq_true, if_false] using ih

theorem Problem.code_eq_cyclicBase_iff {p : Problem} :
    p.diagnostic.code = some .cyclicBase ↔ ∃ first others, p = .cyclicBase first others := by
  cases p <;> simp [Problem.diagnostic, Diagnostic.error, Diagnostic.warning]

theorem cycleReports_eq_nil {ps : List Problem}
    (h : ∀ p ∈ ps, ∀ first others, p ≠ .cyclicBase first others) : cycleReports ps = [] := by
  refine List.filter_eq_nil_iff.mpr fun d hd hcode => ?_
  obtain ⟨p, hp, rfl⟩ := List.mem_map.mp hd
  obtain ⟨first, others, rfl⟩ := Problem.code_eq_cyclicBase_iff.mp (by simpa using hcode)
  exact h _ hp first others rfl

theorem cycleReports_flatMap {α : Type} {as : List α} {f : α → List Problem}
    (h : ∀ a ∈ as, ∀ p ∈ f a, ∀ first others, p ≠ .cyclicBase first others) :
    cycleReports (as.flatMap f) = [] := by
  refine cycleReports_eq_nil fun p hp => ?_
  obtain ⟨a, ha, hp⟩ := List.mem_flatMap.mp hp
  exact h a ha p hp

theorem dataTypeProblems_ne_cyclicBase {id : StructureId} {d : Definition} {p : Problem}
    (h : p ∈ dataTypeProblems g id d) (first : Located String) (others : List (Located String)) :
    p ≠ .cyclicBase first others := by
  rintro rfl
  unfold dataTypeProblems at h
  split at h
  next base pattern values minimum maximum hbody =>
    rcases List.mem_append.mp h with h | h
    · obtain ⟨text, -, h⟩ := List.mem_flatMap.mp h
      unfold patternProblems at h
      split at h
      · simp at h
      · split at h <;> simp at h
    · split at h
      · rcases List.mem_append.mp h with h | h
        · rcases List.mem_append.mp h with h | h
          · unfold boundsProblems at h
            split at h
            · split_ifs at h <;> simp at h
            · simp at h
          · split_ifs at h <;> simp at h
        · simp at h
      · simp at h
  · simp at h

/-- The reports of cyclic bases from the check of the data types. -/
def baseReports (definitions : List Definition) : List Diagnostic :=
  cycleReports (allDataTypeProblems (graph definitions).value definitions)

theorem baseReports_eq (definitions : List Definition) :
    baseReports definitions =
      (cycleProblems (graph definitions).value definitions).map (·.diagnostic) := by
  have hcycles : cycleReports (cycleProblems (graph definitions).value definitions) =
      (cycleProblems (graph definitions).value definitions).map (·.diagnostic) := by
    refine List.filter_eq_self.mpr fun d hd => ?_
    obtain ⟨cycle, -, hnames⟩ :=
      exists_of_mem_right (cycleProblems_names (graph definitions).value definitions) hd
    simpa using hnames.code
  rw [baseReports, allDataTypeProblems, cycleReports_append, hcycles, cycleReports_flatMap,
    List.append_nil]
  rintro ⟨d, id⟩ - p hp
  exact dataTypeProblems_ne_cyclicBase hp

theorem nameProblems_ne_cyclicBase (seen : List (Located String)) (ds : List Definition) :
    ∀ p ∈ nameProblems seen ds, ∀ first others, p ≠ .cyclicBase first others := by
  fun_induction nameProblems seen ds with
  | case1 => simp
  | case2 seen d ds hr ih => simpa using ih
  | case3 seen d ds hr first hf ih => simpa using ih
  | case4 seen d ds hr hf ih => exact ih

/-- Data types are checked, and cyclic bases reported, exactly if the names are distinct and not
reserved. -/
theorem cycleReports_graph (h : Passes (structures definitions definitions)) :
    (nameProblems [] definitions = [] →
        cycleReports (graph definitions).problems = baseReports definitions) ∧
      (nameProblems [] definitions ≠ [] → cycleReports (graph definitions).problems = []) := by
  have hlinks : cycleReports (structures definitions definitions).problems = [] := by
    refine cycleReports_eq_nil fun p hp first others he => ?_
    have := h p hp
    rw [he] at this
    cases this
  have hnames : cycleReports (names definitions).problems = [] := by
    rw [names, Checked.problems_bind, Checked.problems_note, cycleReports_append, hlinks,
      cycleReports_eq_nil (nameProblems_ne_cyclicBase [] definitions), List.append_nil]
  constructor
  · intro hclean
    have hno : (names definitions).problems.any (·.isError) = false := by
      rw [names, Checked.problems_bind, Checked.problems_note, hclean, List.nil_append,
        List.any_eq_false]
      intro p hp
      simp [h p hp]
    have hproblems : (graph definitions).problems = (names definitions).problems ++
        allDataTypeProblems (graph definitions).value definitions := by
      rw [value_graph]
      simp [graph, hno]
    rw [hproblems, cycleReports_append, hnames, List.nil_append, baseReports]
  · intro hsome
    obtain ⟨p, hp⟩ := List.exists_mem_of_ne_nil _ hsome
    have hany : (names definitions).problems.any (·.isError) = true := by
      rw [names, Checked.problems_bind, Checked.problems_note]
      exact List.any_eq_true.mpr
        ⟨p, List.mem_append_left _ hp, nameProblems_isError [] definitions p hp⟩
    have hproblems : (graph definitions).problems = (names definitions).problems := by
      simp [graph, hany]
    rw [hproblems, hnames]

end Link

def Definition.baseName? (d : Definition) : Option (Located String) :=
  match d.body with
  | .dataType base _ _ _ _ => base
  | _ => none

namespace Link

variable {definitions : List Definition}

/-- The first is a data type, and the second the definition that its base type names. -/
def IsBase (definitions : List Definition) (a b : StructureId) : Prop :=
  ∃ d name e, definitions[a]? = some d ∧ d.baseName? = some name ∧
    find? definitions name.value = some (b, e)

theorem get_graph {id : StructureId} {d : Definition} (h : definitions[id]? = some d) :
    (graph definitions).value.get id = (structureOf definitions d).value := by
  simp [Graph.get, value_graph, Graph.ofStructures, names_value, h]

theorem base?_graph {id b : StructureId} {d : Definition} (h : definitions[id]? = some d) :
    (graph definitions).value.BasedOn id b ↔ ∃ name, d.baseName? = some name ∧
      (lookup definitions d.name.value .simpleType name).value = some (.declared b) := by
  have hbody : ((graph definitions).value.get id).body =
      (body definitions d.name.value d.body).value := by
    rw [get_graph h]
    rfl
  unfold Graph.BasedOn Graph.base? Definition.baseName?
  rw [hbody]
  cases d.body with
  | dataType base pattern values minimum maximum =>
    cases base with
    | none => simp [body, typeRef, TypeRef.default]
    | some name =>
      simp only [body, typeRef, Checked.value_bind, Checked.value_pure, Option.some.injEq,
        exists_eq_left']
      cases (lookup definitions d.name.value .simpleType name).value with
      | none => simp [TypeRef.default]
      | some t => simp
  | _ => simp [body]

theorem isBase_iff (h : Passes (structures definitions definitions)) {a b : StructureId} :
    IsBase definitions a b ↔ (graph definitions).value.BasedOn a b := by
  constructor
  · rintro ⟨d, name, e, hd, hname, hfind⟩
    refine (base?_graph hd).mpr ⟨name, hname, lookup_eq_declared.mpr ⟨e, hfind, ?_⟩⟩
    have hpasses : Passes (lookup definitions d.name.value .simpleType name) := by
      have hbody : Passes (body definitions d.name.value d.body) :=
        (structures_passes h d (List.mem_of_getElem? hd)).bind.1
      unfold Definition.baseName? at hname
      split at hname
      next base pattern values minimum maximum heq =>
        subst hname
        rw [heq] at hbody
        exact hbody.bind.1.bind.1
      · cases hname
    have hp : Primitive.ofName? name.value = none := by
      by_contra hsome
      rw [find?, if_pos (by simpa [Option.isSome_iff_ne_none] using hsome)] at hfind
      cases hfind
    -- a definition of another kind would have been refused
    by_contra hkind
    simp [Passes, lookup, hp, hfind, hkind, Problem.isError] at hpasses
  · intro hb
    have hlt : a < definitions.length := by
      have := Graph.lt_size_of_basedOn hb
      rwa [size_graph] at this
    have hd : definitions[a]? = some definitions[a] := List.getElem?_eq_getElem hlt
    obtain ⟨name, hname, hlookup⟩ := (base?_graph hd).mp hb
    obtain ⟨e, hfind, -⟩ := lookup_eq_declared.mp hlookup
    exact ⟨definitions[a], name, e, hd, hname, hfind⟩

theorem baseReports_eq_nil_iff (definitions : List Definition) :
    baseReports definitions = [] ↔ ∀ id ∈ (graph definitions).value.ofKind .dataType,
      ∃ p, (graph definitions).value.basePrimitive (.declared id) = some p := by
  rw [baseReports_eq, List.map_eq_nil_iff]
  constructor
  · intro hnone id hid
    have hkind : ((graph definitions).value.get id).kind = .dataType := by
      simpa using (List.mem_filter.mp hid).2
    obtain ⟨p, ks, hchain⟩ | hend := Graph.chain_or_endless (basesFit definitions) hkind
    · exact ⟨p, hchain.basePrimitive_eq⟩
    · obtain ⟨first, others, hp⟩ := exists_cyclicBase hend definitions
      rw [hnone] at hp
      cases hp
  · intro hall
    refine cycleProblems_eq_nil_iff.mpr fun id hon => ?_
    obtain ⟨p, hp⟩ := hall id (hon.endless.mem_ofKind 0)
    rw [Graph.basePrimitive, hon.endless.basePrimitiveAux_eq_none] at hp
    cases hp

/-- Where every name is linked, the reports of cyclic bases are one for each cycle among the data
types that name each other as base types. A report names the members of its cycle, from the first
declared one on, and so no data type that is on no cycle. The search ends from every start, and
there are no reports exactly if every data type leads to a built-in type. These are the reports of
linking unless a name is reserved or declared twice, when data types are not checked. -/
theorem baseCycles_reported_once {definitions : List Definition}
    (h : Passes (structures definitions definitions)) :
    (∃ cycles : List (List StructureId),
      List.Forall₂ (Names definitions) cycles (baseReports definitions) ∧
      (cycles.map Cycle.ofList).Nodup ∧
      (∀ s, s ∈ cycles.map Cycle.ofList ↔ IsCycleOf (IsBase definitions) s) ∧
      (∀ cycle ∈ cycles, ∃ first others, cycle = first :: others ∧ ∀ m ∈ others, first < m) ∧
      ∀ id, (∃ cycle ∈ cycles, id ∈ cycle) ↔ Relation.TransGen (IsBase definitions) id id) ∧
    (∀ start < definitions.length, Search (graph definitions).value start [start] start
      (baseCycle? (graph definitions).value start)) ∧
    (baseReports definitions = [] ↔ ∀ id ∈ (graph definitions).value.ofKind .dataType,
      ∃ p, (graph definitions).value.basePrimitive (.declared id) = some p) ∧
    (nameProblems [] definitions = [] →
      cycleReports (graph definitions).problems = baseReports definitions) ∧
    (nameProblems [] definitions ≠ [] → cycleReports (graph definitions).problems = []) := by
  have hbase : IsBase definitions = (graph definitions).value.BasedOn := by
    funext a b
    exact propext (isBase_iff h)
  obtain ⟨hchecked, hunchecked⟩ := cycleReports_graph h
  refine ⟨⟨reportedCycles (graph definitions).value, ?_, nodup_reportedCycles _, ?_, ?_, ?_⟩, ?_,
    baseReports_eq_nil_iff definitions, hchecked, hunchecked⟩
  · rw [baseReports_eq]
    exact cycleProblems_names _ _
  · intro s
    rw [hbase]
    exact mem_reportedCycles_iff
  · exact fun cycle hc => reportedCycles_first hc
  · intro id
    rw [hbase]
    exact exists_reportedCycle_iff
  · intro start hs
    refine search_baseCycle? (basesFit definitions) ?_
    rwa [size_graph]

def dataTypeAt (place : Nat) (name : String) (base : Option String) : Definition :=
  ⟨⟨name, .point place⟩, none, .none,
    .dataType (base.map fun n => ⟨n, .point place⟩) none [] none none⟩

/-- Two cycles, a data type that runs into the first one, and one that leads to a built-in type. -/
def tangledTypes : List Definition :=
  [dataTypeAt 0 "tail" (some "b"), dataTypeAt 1 "a" (some "b"), dataTypeAt 2 "loop" (some "loop"),
   dataTypeAt 3 "b" (some "c"), dataTypeAt 4 "c" (some "a"), dataTypeAt 5 "end" none]

theorem baseCycles_reported_once_tangled :
    Passes (structures tangledTypes tangledTypes) ∧
      cycleReports (graph tangledTypes).problems = baseReports tangledTypes ∧
      ∃ cycles : List (List StructureId), cycles.length = 2 ∧
        List.Forall₂ (Names tangledTypes) cycles (baseReports tangledTypes) ∧
        (∀ s, s ∈ cycles.map Cycle.ofList ↔ IsCycleOf (IsBase tangledTypes) s) ∧
        ∀ cycle ∈ cycles, ∃ first others, cycle = first :: others ∧ ∀ m ∈ others, first < m := by
  have hlinks : (structures tangledTypes tangledTypes).problems = [] :=
    List.isEmpty_iff.mp (by decide)
  have hnames : nameProblems [] tangledTypes = [] := List.isEmpty_iff.mp (by decide)
  have hcount : (baseReports tangledTypes).length = 2 := by decide
  have hpasses : Passes (structures tangledTypes tangledTypes) := by simp [Passes, hlinks]
  obtain ⟨⟨cycles, hreports, -, hcycles, hfirst, -⟩, -, -, hchecked, -⟩ :=
    baseCycles_reported_once hpasses
  refine ⟨hpasses, hchecked hnames, cycles, ?_, hreports, hcycles, hfirst⟩
  rw [hreports.length_eq, hcount]

end Link

end DocSchema
