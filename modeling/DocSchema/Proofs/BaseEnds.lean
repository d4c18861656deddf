import DocSchema.Proofs.BaseChain
import DocSchema.Proofs.BreadthFirst

/-!
# Where bases lead

Following bases from a type ends in a built-in type, meets a structure that has no base, or goes on
for ever. This holds of every graph whose indices are its own, also of one that no schema describes,
and the bounded search tells the first case from the others.
-/
namespace DocSchema

namespace Graph

/-- One step from a data type of the graph to its base. -/
inductive BaseStep (g : Graph) : TypeRef → TypeRef → Prop
  | base {id : StructureId} {s : Structure} {type : TypeRef} {k : Constraints} :
      g.structures[id]? = some s → s.body = .dataType type k → BaseStep g (.declared id) type

/-- A type that is reached from another by following bases. -/
def BasesReach (g : Graph) : TypeRef → TypeRef → Prop := Relation.ReflTransGen g.BaseStep

variable {g : Graph} {t u : TypeRef} {p : Primitive}

/-! ### Steps -/

theorem get_of_getElem? {id : StructureId} {s : Structure} (h : g.structures[id]? = some s) :
    g.get id = s := by
  simp [get, h]

theorem baseStep_iff {id : StructureId} :
    g.BaseStep (.declared id) u ↔ ∃ k, (g.get id).body = .dataType u k := by
  constructor
  · rintro ⟨hs, hbody⟩
    rw [get_of_getElem? hs]
    exact ⟨_, hbody⟩
  · rintro ⟨k, hbody⟩
    exact .base (getElem?_structures (lt_size_of_dataType hbody)) hbody

theorem baseStep_rightUnique (g : Graph) : Relator.RightUnique g.BaseStep := by
  rintro _ u v ⟨hs, hu⟩ ⟨hs', hv⟩
  obtain rfl := Option.some.inj (hs.symm.trans hs')
  rw [hu] at hv
  cases hv
  rfl

theorem BaseStep.target_lt (hg : g.LinksValid) (h : g.BaseStep t u) :
    ∀ id ∈ u.target?, id < g.size := by
  intro id hid
  cases t with
  | primitive p => cases h
  | declared start =>
    obtain ⟨k, hbody⟩ := baseStep_iff.mp h
    refine hg start (lt_size_of_dataType hbody) id ?_
    simpa [Structure.links, Body.links, hbody] using hid

theorem BasesReach.target_lt (hg : g.LinksValid) (ht : ∀ id ∈ t.target?, id < g.size)
    (h : g.BasesReach t u) : ∀ id ∈ u.target?, id < g.size := by
  cases h with
  | refl => exact ht
  | tail _ hlast => exact hlast.target_lt hg

/-! ### Ends -/

theorem basesReach_primitive_iff : g.BasesReach t (.primitive p) ↔ ∃ ks, g.Chain p t ks := by
  constructor
  · intro h
    induction h using Relation.ReflTransGen.head_induction_on with
    | refl => exact ⟨[], .primitive⟩
    | @head t u hstep _ ih =>
      obtain ⟨ks, hks⟩ := ih
      cases t with
      | primitive q => cases hstep
      | declared id =>
        obtain ⟨k, hbody⟩ := baseStep_iff.mp hstep
        exact ⟨k :: ks, .declared hbody hks⟩
  · rintro ⟨ks, h⟩
    induction h with
    | primitive => exact .refl
    | declared hbody _ ih => exact .head (baseStep_iff.mpr ⟨_, hbody⟩) ih

/-- The search finds the end of a chain that has no more steps than it may take. -/
theorem basePrimitiveAux_eq_some_iff {bound : Nat} :
    g.basePrimitiveAux bound t = some p ↔ ∃ ks, g.Chain p t ks ∧ ks.length ≤ bound := by
  constructor
  · intro h
    induction bound generalizing t with
    | zero =>
      cases t with
      | primitive q =>
        cases h
        exact ⟨[], .primitive, le_rfl⟩
      | declared id => cases h
    | succ bound ih =>
      cases t with
      | primitive q =>
        cases h
        exact ⟨[], .primitive, Nat.zero_le _⟩
      | declared id =>
        cases hbody : (g.get id).body with
        | dataType base k =>
          simp only [basePrimitiveAux, base?, hbody] at h
          obtain ⟨ks, hks, hle⟩ := ih h
          exact ⟨k :: ks, .declared hbody hks, Nat.succ_le_succ hle⟩
        | _ => simp [basePrimitiveAux, base?, hbody] at h
  · rintro ⟨ks, hks, hle⟩
    exact hks.basePrimitiveAux_eq hle

/-- As many steps as there are structures are enough. -/
theorem basePrimitiveAux_eq_some_iff_basesReach {bound : Nat} (hb : g.size ≤ bound) :
    g.basePrimitiveAux bound t = some p ↔ g.BasesReach t (.primitive p) := by
  rw [basePrimitiveAux_eq_some_iff, basesReach_primitive_iff]
  exact exists_congr fun ks => and_iff_left_of_imp fun hks => hks.length_le.trans hb

theorem BasesReach.kind_eq {id : StructureId} (h : g.BasesReach (.declared id) (.primitive p)) :
    (g.get id).kind = .dataType := by
  obtain ⟨_, _ | ⟨hbody, -⟩⟩ := basesReach_primitive_iff.mp h
  rw [Structure.kind, hbody, Body.kind]

theorem BasesReach.kind_eq_of_between {id : StructureId} (h : g.BasesReach t (.primitive p))
    (hid : g.BasesReach t (.declared id)) : (g.get id).kind = .dataType := by
  rcases Relation.ReflTransGen.total_of_right_unique (baseStep_rightUnique g) h hid with hpast | hon
  · obtain heq | ⟨_, hstep, -⟩ := Relation.ReflTransGen.cases_head hpast
    · cases heq
    · cases hstep
  · exact BasesReach.kind_eq hon

theorem BasesReach.not_endless (h : g.BasesReach t (.primitive p)) (chain : ℕ → TypeRef)
    (hzero : chain 0 = t) : ¬∀ n, g.BaseStep (chain n) (chain (n + 1)) := by
  induction h using Relation.ReflTransGen.head_induction_on generalizing chain with
  | refl =>
    intro hchain
    have hstep := hchain 0
    rw [hzero] at hstep
    cases hstep
  | head hstep _ ih =>
    intro hchain
    have hnext := hchain 0
    rw [hzero] at hnext
    have hone := baseStep_rightUnique g hnext hstep
    exact ih (fun n => chain (n + 1)) hone fun n => hchain (n + 1)

theorem exists_endless (h : ∀ u, g.BasesReach t u → ∃ v, g.BaseStep u v) :
    ∃ chain : ℕ → TypeRef, chain 0 = t ∧ ∀ n, g.BaseStep (chain n) (chain (n + 1)) := by
  choose base hbase using fun u : {u // g.BasesReach t u} => h u.1 u.2
  let next : {u // g.BasesReach t u} → {u // g.BasesReach t u} :=
    fun u => ⟨base u, u.2.tail (hbase u)⟩
  let start : {u // g.BasesReach t u} := ⟨t, .refl⟩
  refine ⟨fun n => (next^[n] start).1, rfl, fun n => ?_⟩
  have hsucc : next^[n + 1] start = next (next^[n] start) := Function.iterate_succ_apply' ..
  change g.BaseStep _ (next^[n + 1] start).1
  rw [hsucc]
  exact hbase _

/-- Following bases ends in a built-in type, meets a structure without a base, or never ends. -/
theorem basesReach_or_endless (hg : g.LinksValid) (ht : ∀ id ∈ t.target?, id < g.size) :
    (∃ p, g.BasesReach t (.primitive p)) ∨
    (∃ id s, g.BasesReach t (.declared id) ∧ g.structures[id]? = some s ∧ s.kind ≠ .dataType) ∨
    ∃ chain : ℕ → TypeRef, chain 0 = t ∧ ∀ n, g.BaseStep (chain n) (chain (n + 1)) := by
  by_cases hend : ∃ p, g.BasesReach t (.primitive p)
  · exact .inl hend
  by_cases hmeets : ∃ id s, g.BasesReach t (.declared id) ∧ g.structures[id]? = some s ∧
      s.kind ≠ .dataType
  · exact .inr (.inl hmeets)
  refine .inr (.inr (exists_endless fun u hu => ?_))
  cases u with
  | primitive p => exact absurd ⟨p, hu⟩ hend
  | declared id =>
    have hid : id < g.size := BasesReach.target_lt hg ht hu id rfl
    cases hbody : (g.get id).body with
    | dataType base k => exact ⟨base, baseStep_iff.mpr ⟨k, hbody⟩⟩
    | _ =>
      refine absurd ⟨id, g.get id, hu, getElem?_structures hid, ?_⟩ hmeets
      simp [Structure.kind, hbody, Body.kind]

/-- The search gives a built-in type exactly if following bases through data types ends there, after
however many steps: as many steps as there are structures, and so a look at one type more, are
always enough, and no larger bound finds more. It gives nothing exactly if following bases meets a
structure that is no data type or never ends. -/
theorem basePrimitive_iff_basesReach (g : Graph) (hg : g.LinksValid) (t : TypeRef)
    (ht : ∀ id ∈ t.target?, id < g.size) :
    (∀ p, g.basePrimitive t = some p ↔ g.BasesReach t (.primitive p)) ∧
    (∀ bound, g.size ≤ bound → g.basePrimitiveAux bound t = g.basePrimitive t) ∧
    (g.basePrimitive t = none ↔
      (∃ id s, g.BasesReach t (.declared id) ∧ g.structures[id]? = some s ∧ s.kind ≠ .dataType) ∨
      ∃ chain : ℕ → TypeRef, chain 0 = t ∧ ∀ n, g.BaseStep (chain n) (chain (n + 1))) := by
  have hsome (p : Primitive) : g.basePrimitive t = some p ↔ g.BasesReach t (.primitive p) :=
    basePrimitiveAux_eq_some_iff_basesReach le_rfl
  refine ⟨hsome, fun bound hb => Option.ext fun p => ?_, fun hnone => ?_, fun h => ?_⟩
  · exact (basePrimitiveAux_eq_some_iff_basesReach hb).trans (hsome p).symm
  · refine (basesReach_or_endless hg ht).resolve_left ?_
    rintro ⟨p, hp⟩
    rw [← hsome, hnone] at hp
    cases hp
  · rw [Option.eq_none_iff_forall_ne_some]
    intro p hp
    have hreach := (hsome p).mp hp
    rcases h with ⟨id, s, hid, hs, hkind⟩ | ⟨chain, hzero, hchain⟩
    · rw [← get_of_getElem? hs] at hkind
      exact hkind (hreach.kind_eq_of_between hid)
    · exact hreach.not_endless chain hzero hchain

def derived (name : String) (base : TypeRef) : Structure :=
  ⟨name, none, .none, .dataType base .none⟩

def straightTypes : Graph := .ofStructures [
  derived "a" (.declared 2), derived "b" (.primitive .integer), derived "c" (.declared 1)]

/-- Two data types based on each other, one that leads to them, and one based on an element. -/
def strayTypes : Graph := .ofStructures [
  derived "a" (.declared 1), derived "b" (.declared 0), derived "c" (.declared 1), .blank,
  derived "d" (.declared 3)]

theorem basePrimitive_iff_basesReach_stray :
    straightTypes.LinksValid ∧ strayTypes.LinksValid ∧
      straightTypes.BasesReach (.declared 0) (.primitive .integer) ∧
      straightTypes.basePrimitiveAux 2 (.declared 0) = none ∧
      straightTypes.basePrimitiveAux 3 (.declared 0) = straightTypes.basePrimitive (.declared 0) ∧
      strayTypes.basePrimitive (.declared 2) = none ∧
      strayTypes.basePrimitive (.declared 4) = none := by
  have hstraight : straightTypes.LinksValid := by
    unfold LinksValid
    decide
  have hstray : strayTypes.LinksValid := by
    unfold LinksValid
    decide
  obtain ⟨hsome, hbound, -⟩ := basePrimitive_iff_basesReach straightTypes hstraight (.declared 0)
    (by decide)
  obtain ⟨-, -, hcycle⟩ := basePrimitive_iff_basesReach strayTypes hstray (.declared 2) (by decide)
  obtain ⟨-, -, hkind⟩ := basePrimitive_iff_basesReach strayTypes hstray (.declared 4) (by decide)
  have hback (n : Nat) : strayTypes.BaseStep (.declared (n % 2)) (.declared ((n + 1) % 2)) := by
    rcases Nat.mod_two_eq_zero_or_one n with h | h
    · rw [h, show (n + 1) % 2 = 1 by omega]
      exact baseStep_iff.mpr ⟨.none, rfl⟩
    · rw [h, show (n + 1) % 2 = 0 by omega]
      exact baseStep_iff.mpr ⟨.none, rfl⟩
  refine ⟨hstraight, hstray, (hsome .integer).mp (by decide), by decide, hbound 3 (by decide),
    hcycle.mpr (.inr ⟨fun n => .declared (if n = 0 then 2 else n % 2), rfl, fun n => ?_⟩),
    hkind.mpr (.inl ⟨3, .blank, .single (baseStep_iff.mpr ⟨.none, rfl⟩), rfl, by decide⟩)⟩
  cases n with
  | zero => exact baseStep_iff.mpr ⟨.none, rfl⟩
  | succ n => exact hback (n + 1)

end Graph

end DocSchema
