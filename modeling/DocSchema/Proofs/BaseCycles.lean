import DocSchema.Proofs.BaseChain

/-!
# Bases that return

A chain of bases in a linked graph that does not end runs into a cycle, and the search from the
member declared first finds the whole cycle. So in a compiled graph every chain ends.
-/
namespace DocSchema

open Function (minimalPeriod periodicPts)

namespace Graph

/-- The data type that a data type is based on; any other structure stays where it is. -/
def next (g : Graph) (id : StructureId) : StructureId :=
  match g.base? id with
  | some (.declared base) => base
  | _ => id

/-- The first structure is a data type, and the second its base. -/
def BasedOn (g : Graph) (a b : StructureId) : Prop := g.base? a = some (.declared b)

def OnCycle (g : Graph) (id : StructureId) : Prop := Relation.TransGen g.BasedOn id id

/-- Bases can be followed for ever. -/
def Endless (g : Graph) (id : StructureId) : Prop :=
  ∀ n, g.base? (g.next^[n] id) = some (.declared (g.next^[n + 1] id))

variable {g : Graph} {id : StructureId}

theorem BasedOn.next_eq {a b : StructureId} (h : g.BasedOn a b) : g.next a = b := by
  unfold BasedOn at h
  simp [next, h]

theorem OnCycle.endless (h : g.OnCycle id) : g.Endless id := by
  -- whatever the chain reaches still leads back to its start
  have hback : ∀ n, Relation.TransGen g.BasedOn (g.next^[n] id) id := by
    intro n
    induction n with
    | zero => exact h
    | succ n ih =>
      rw [Function.iterate_succ_apply']
      obtain ⟨b, hb, hrest⟩ := Relation.TransGen.head'_iff.mp ih
      rw [hb.next_eq]
      obtain heq | hlater := Relation.reflTransGen_iff_eq_or_transGen.mp hrest
      · rw [← heq]
        exact h
      · exact hlater
  intro n
  obtain ⟨b, hb, -⟩ := Relation.TransGen.head'_iff.mp (hback n)
  rw [Function.iterate_succ_apply', hb.next_eq]
  exact hb

theorem Endless.iterate (h : g.Endless id) (k : Nat) : g.Endless (g.next^[k] id) := by
  intro n
  rw [← Function.iterate_add_apply, ← Function.iterate_add_apply, Nat.add_right_comm]
  exact h (n + k)

theorem Endless.mem_ofKind (h : g.Endless id) (n : Nat) : g.next^[n] id ∈ g.ofKind .dataType := by
  have hb := h n
  unfold base? at hb
  split at hb
  next hbody =>
    have hlt := lt_size_of_dataType hbody
    simp [ofKind, ids, hlt, Structure.kind, Body.kind, hbody]
  · cases hb

theorem Endless.lt_size (h : g.Endless id) (n : Nat) : g.next^[n] id < g.size := by
  have hm := h.mem_ofKind n
  simp only [ofKind, ids, List.mem_filter, List.mem_range] at hm
  exact hm.1

def BasesFit (g : Graph) : Prop := ∀ a b, g.BasedOn a b → (g.get b).kind = .dataType

theorem lt_size_of_kind (h : (g.get id).kind = .dataType) : id < g.size := by
  by_contra hid
  have hblank : g.get id = .blank := List.getD_eq_default _ _ (Nat.le_of_not_lt hid)
  rw [hblank] at h
  cases h

theorem WellLinked.basesFit (hw : g.WellLinked) : g.BasesFit := by
  intro a b h
  unfold BasedOn base? at h
  split at h
  next base k hbody =>
    cases h
    have hadmits : g.Admits .baseType (.declared b) :=
      hw.admits _ (get_mem (lt_size_of_dataType hbody)) (.baseType, .declared b)
        (by simp [hbody, Body.references])
    simpa [Place.kinds] using hadmits.2
  · cases h

theorem base_of_not_chain (hb : g.BasesFit) (hk : (g.get id).kind = .dataType)
    (hn : ¬∃ p ks, g.Chain p (.declared id) ks) :
    g.base? id = some (.declared (g.next id)) ∧ (g.get (g.next id)).kind = .dataType ∧
      ¬∃ p ks, g.Chain p (.declared (g.next id)) ks := by
  cases hbody : (g.get id).body with
  | dataType base k =>
    cases base with
    | primitive p => exact absurd ⟨p, [k], .declared hbody .primitive⟩ hn
    | declared b =>
      have hbase : g.base? id = some (.declared b) := by simp [base?, hbody]
      have hnext : g.next id = b := by simp [next, hbase]
      rw [hnext]
      refine ⟨hbase, hb id b hbase, ?_⟩
      rintro ⟨p, ks, hchain⟩
      exact hn ⟨p, k :: ks, .declared hbody hchain⟩
  | _ => simp [Structure.kind, Body.kind, hbody] at hk

theorem chain_or_endless (hb : g.BasesFit) (hk : (g.get id).kind = .dataType) :
    (∃ p ks, g.Chain p (.declared id) ks) ∨ g.Endless id := by
  by_cases hchain : ∃ p ks, g.Chain p (.declared id) ks
  · exact .inl hchain
  · have hnone : ∀ n, (g.get (g.next^[n] id)).kind = .dataType ∧
        ¬∃ p ks, g.Chain p (.declared (g.next^[n] id)) ks := by
      intro n
      induction n with
      | zero => exact ⟨hk, hchain⟩
      | succ n ih =>
        rw [Function.iterate_succ_apply']
        exact (base_of_not_chain hb ih.1 ih.2).2
    right
    intro n
    obtain ⟨hkind, hn⟩ := hnone n
    rw [Function.iterate_succ_apply']
    exact (base_of_not_chain hb hkind hn).1

/-- An endless chain runs into a cycle, which has a least member. -/
theorem Endless.exists_periodic (h : g.Endless id) :
    ∃ m, g.Endless m ∧ m ∈ periodicPts g.next ∧ ∀ n, m ≤ g.next^[n] m := by
  obtain ⟨i, j, hij, heq⟩ : ∃ i j, i < j ∧ g.next^[i] id = g.next^[j] id := by
    obtain ⟨i, j, hne, heq⟩ := Finite.exists_ne_map_eq_of_infinite
      fun n => (⟨g.next^[n] id, h.lt_size n⟩ : Fin g.size)
    have heq : g.next^[i] id = g.next^[j] id := congrArg Fin.val heq
    obtain hlt | hlt := Nat.lt_or_gt_of_ne hne
    exacts [⟨i, j, hlt, heq⟩, ⟨j, i, hlt, heq.symm⟩]
  have hperiodic : Function.IsPeriodicPt g.next (j - i) (g.next^[i] id) := by
    rw [Function.IsPeriodicPt, Function.IsFixedPt, ← Function.iterate_add_apply,
      Nat.sub_add_cancel hij.le, heq]
  -- The least member is taken among all that follow; on a cycle those are its members.
  have hendless := h.iterate i
  generalize g.next^[i] id = a at hperiodic hendless
  have hne : (Set.range fun n => g.next^[n] a).Nonempty := ⟨a, 0, rfl⟩
  obtain ⟨k, hk⟩ : ∃ k, g.next^[k] a = sInf (Set.range fun n => g.next^[n] a) := Nat.sInf_mem hne
  refine ⟨g.next^[k] a, hendless.iterate k,
    Function.mk_mem_periodicPts (by omega) (hperiodic.apply_iterate k), fun n => ?_⟩
  rw [← Function.iterate_add_apply, hk]
  exact Nat.sInf_le ⟨n + k, rfl⟩

theorem Endless.minimalPeriod_le (h : g.Endless id) : minimalPeriod g.next id ≤ g.size := by
  have hinj : Function.Injective fun n : Fin (minimalPeriod g.next id) =>
      (⟨g.next^[n] id, h.lt_size n⟩ : Fin g.size) := by
    intro m n heq
    exact Fin.ext (Function.iterate_injOn_Iio_minimalPeriod m.isLt n.isLt (congrArg Fin.val heq))
  simpa using Fintype.card_le_of_injective _ hinj

end Graph

namespace Link

def cycleFrom (g : Graph) (m : StructureId) (n : Nat) : List StructureId :=
  (List.range n).map (g.next^[·] m)

theorem baseCycleAux_eq {g : Graph} {m : StructureId} (h : g.Endless m) {fuel i : Nat}
    (hi : i < minimalPeriod g.next m)
    (hfuel : minimalPeriod g.next m ≤ i + fuel) :
    baseCycleAux g m fuel (cycleFrom g m (i + 1)) (g.next^[i] m) =
      some (cycleFrom g m (minimalPeriod g.next m)) := by
  induction fuel generalizing i with
  | zero => omega
  | succ fuel ih =>
    have hdistinct : ∀ k, k < minimalPeriod g.next m → i + 1 < minimalPeriod g.next m →
        g.next^[i + 1] m = g.next^[k] m → i + 1 = k := fun k hk hlt heq =>
      Function.iterate_injOn_Iio_minimalPeriod hlt hk heq
    simp only [baseCycleAux, h i]
    by_cases hlast : i + 1 = minimalPeriod g.next m
    · rw [hlast, Function.iterate_minimalPeriod]
      simp
    · have hlt : i + 1 < minimalPeriod g.next m := by omega
      have hstart : g.next^[i + 1] m ≠ m := by
        intro heq
        have := hdistinct 0 (by omega) hlt heq
        omega
      have hnew : g.next^[i + 1] m ∉ cycleFrom g m (i + 1) := by
        intro hmem
        obtain ⟨k, hk, heq⟩ := List.mem_map.1 hmem
        have := hdistinct k (by have := List.mem_range.1 hk; omega) hlt heq.symm
        have := List.mem_range.1 hk
        omega
      have hchain : cycleFrom g m (i + 1) ++ [g.next^[i + 1] m] = cycleFrom g m (i + 1 + 1) := by
        simp [cycleFrom, List.range_succ]
      rw [if_neg (by simpa using hstart), if_neg (by simpa using hnew), hchain]
      exact ih hlt (by omega)

theorem baseCycle_eq {g : Graph} {m : StructureId} (h : g.Endless m)
    (hp : m ∈ periodicPts g.next) :
    baseCycle? g m = some (cycleFrom g m (minimalPeriod g.next m)) := by
  have hle := h.minimalPeriod_le
  exact baseCycleAux_eq h (Function.minimalPeriod_pos_of_mem_periodicPts hp) (by omega)

theorem cycleProblems_of_graph {definitions : List Definition}
    (h : (graph definitions).problems.any (·.isError) = false) :
    ∀ problem ∈ cycleProblems (graph definitions).value definitions, problem.isError = false := by
  intro problem hm
  have hn := names_problems_of_graph h
  rw [value_graph] at hm
  simp only [graph, hn, Bool.false_eq_true, if_false, List.any_eq_false] at h
  have hin : problem ∈ allDataTypeProblems (.ofStructures (names definitions).value) definitions :=
    List.mem_append_left _ hm
  simpa using h problem (List.mem_append_right _ hin)

/-- An endless chain is reported, from the member of its cycle that is declared first. -/
theorem exists_cyclicBase {g : Graph} {id : StructureId} (h : g.Endless id)
    (definitions : List Definition) :
    ∃ first others, .cyclicBase first others ∈ cycleProblems g definitions := by
  obtain ⟨m, hm, hp, hleast⟩ := h.exists_periodic
  have hfirst : isFirstOf m (cycleFrom g m (minimalPeriod g.next m)) = true := by
    simp only [isFirstOf, cycleFrom, List.all_map, List.all_eq_true, Function.comp_apply,
      decide_eq_true_eq]
    exact fun n _ => hleast n
  have hkind : m ∈ g.ofKind .dataType := hm.mem_ofKind 0
  have hproblem : .cyclicBase (nameAt definitions m)
      ((cycleFrom g m (minimalPeriod g.next m)).tail.map (nameAt definitions)) ∈
        cycleProblems g definitions :=
    List.mem_filterMap.2 ⟨m, hkind, by simp [baseCycle_eq hm hp, hfirst]⟩
  exact ⟨_, _, hproblem⟩

theorem baseCycleAux_eq_some {g : Graph} {start current : StructureId} {fuel : Nat}
    {chain cycle : List StructureId} (h : baseCycleAux g start fuel chain current = some cycle) :
    ∃ others, cycle = chain ++ others ∧ (∀ b ∈ others, ∃ id, g.BasedOn id b) ∧
      Relation.TransGen g.BasedOn current start := by
  induction fuel generalizing chain current with
  | zero => cases h
  | succ fuel ih =>
    simp only [baseCycleAux] at h
    split at h
    next next hbase =>
      split_ifs at h with hstart hseen
      · cases h
        rw [beq_iff_eq.mp hstart] at hbase
        exact ⟨[], by simp, by simp, .single hbase⟩
      · obtain ⟨others, rfl, hothers, hback⟩ := ih h
        refine ⟨next :: others, by simp, ?_, .head hbase hback⟩
        exact List.forall_mem_cons.mpr ⟨⟨current, hbase⟩, hothers⟩
    · cases h

theorem baseCycle?_eq_some {g : Graph} {start : StructureId} {cycle : List StructureId}
    (h : baseCycle? g start = some cycle) :
    ∃ others, cycle = start :: others ∧ (∀ b ∈ others, ∃ id, g.BasedOn id b) ∧ g.OnCycle start :=
  baseCycleAux_eq_some h

theorem cycleProblems_eq_nil_iff {g : Graph} {definitions : List Definition} :
    cycleProblems g definitions = [] ↔ ∀ id, ¬g.OnCycle id := by
  constructor
  · intro h id hc
    obtain ⟨first, others, hp⟩ := exists_cyclicBase hc.endless definitions
    simp [h] at hp
  · intro h
    refine List.filterMap_eq_nil_iff.mpr fun id _ => ?_
    cases hc : baseCycle? g id with
    | none => rfl
    | some cycle =>
      obtain ⟨-, -, -, hon⟩ := baseCycle?_eq_some hc
      exact absurd hon (h id)

theorem not_endless {definitions : List Definition}
    (h : (graph definitions).problems.any (·.isError) = false) (id : StructureId) :
    ¬(graph definitions).value.Endless id := by
  intro hend
  obtain ⟨first, others, hproblem⟩ := exists_cyclicBase hend definitions
  exact absurd (cycleProblems_of_graph h _ hproblem) (by simp [Problem.isError])

end Link

/-- In a compiled graph every chain of bases ends in a built-in type. -/
theorem compile_chain_ends {source : String} {c : Compiled} (hc : compile source = .ok c)
    {t : TypeRef} (ht : c.graph.Admits .baseType t) : ∃ p ks, c.graph.Chain p t ks := by
  cases t with
  | primitive p => exact ⟨p, [], .primitive⟩
  | declared id =>
    have hkind : (c.graph.get id).kind = .dataType := by simpa [Place.kinds] using ht.2
    obtain hchain | hend := Graph.chain_or_endless (compile_wellLinked hc).basesFit hkind
    · exact hchain
    · obtain ⟨lexed, declarations, -, -, hd⟩ := compile_ok hc
      obtain ⟨-, hl, hg, -⟩ := compileDeclarations_ok hd
      rw [hg] at hend
      exact absurd hend (Link.not_endless hl id)

end DocSchema
