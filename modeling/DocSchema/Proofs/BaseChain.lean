import DocSchema.Proofs.WellLinked

/-!
# Chains of bases

A chain of bases that ends is no longer than the graph, so following as many bases as there are
structures finds its end. The constraints along a chain of a compiled graph fit the built-in type
there: every listed value is a value of it, and only numbers have bounds.
-/
namespace DocSchema

namespace Graph

/-- A chain of bases from a type to a built-in type, with the constraints on the way. -/
inductive Chain (g : Graph) (p : Primitive) : TypeRef → List Constraints → Prop
  | primitive : Chain g p (.primitive p) []
  | declared {id : StructureId} {base : TypeRef} {k : Constraints} {ks : List Constraints} :
      (g.get id).body = .dataType base k → Chain g p base ks → Chain g p (.declared id) (k :: ks)

theorem lt_size_of_dataType {g : Graph} {id : StructureId} {base : TypeRef} {k : Constraints}
    (h : (g.get id).body = .dataType base k) : id < g.size := by
  by_contra hid
  have hblank : g.get id = .blank := List.getD_eq_default _ _ (Nat.le_of_not_lt hid)
  rw [hblank] at h
  cases h

namespace Chain

variable {g : Graph} {p : Primitive} {t : TypeRef} {ks : List Constraints}

theorem unique (h : g.Chain p t ks) {ks' : List Constraints} (h' : g.Chain p t ks') :
    ks = ks' := by
  induction h generalizing ks' with
  | primitive =>
    cases h'
    rfl
  | declared hb _ ih =>
    cases h' with
    | declared hb' htail =>
      rw [hb] at hb'
      cases hb'
      rw [ih htail]

theorem exists_suffix (h : g.Chain p t ks) {n : Nat} (hn : n < ks.length) :
    ∃ id < g.size, ∃ ks', g.Chain p (.declared id) ks' ∧ ks'.length = n + 1 := by
  induction h with
  | primitive => simp at hn
  | @declared id base k ks hb htail ih =>
    by_cases he : n = ks.length
    · exact ⟨id, lt_size_of_dataType hb, k :: ks, .declared hb htail, by simp [he]⟩
    · rw [List.length_cons] at hn
      exact ih (by omega)

theorem length_le (h : g.Chain p t ks) : ks.length ≤ g.size := by
  -- the member with a given length left is determined by it, so the members are distinct
  choose member hlt layers hchain hlen using fun n : Fin ks.length => h.exists_suffix n.isLt
  have hinj : Function.Injective fun n => (⟨member n, hlt n⟩ : Fin g.size) := by
    intro m n he
    have hm : member m = member n := congrArg Fin.val he
    have hl : layers m = layers n := (hm ▸ hchain m : g.Chain p (.declared (member n)) _).unique
      (hchain n)
    have hleft := hlen m
    rw [hl, hlen n] at hleft
    omega
  simpa using Fintype.card_le_of_injective _ hinj

theorem basePrimitiveAux_eq (h : g.Chain p t ks) {fuel : Nat} (hf : ks.length ≤ fuel) :
    g.basePrimitiveAux fuel t = some p := by
  induction h generalizing fuel with
  | primitive => cases fuel <;> rfl
  | declared hb _ ih =>
    cases fuel with
    | zero => simp at hf
    | succ fuel =>
      rw [List.length_cons] at hf
      simp only [basePrimitiveAux, base?, hb]
      exact ih (by omega)

theorem basePrimitive_eq (h : g.Chain p t ks) : g.basePrimitive t = some p :=
  h.basePrimitiveAux_eq h.length_le

theorem congr {g' : Graph} (hs : g'.structures = g.structures) (h : g.Chain p t ks) :
    g'.Chain p t ks := by
  induction h with
  | primitive => exact .primitive
  | @declared id base k ks hb _ ih =>
    refine .declared ?_ ih
    simpa only [get, hs] using hb

end Chain

end Graph

/-- The values are values of the built-in type, and what is no number has no bounds. -/
structure Constraints.Fits (k : Constraints) (p : Primitive) : Prop where
  values : ∀ v ∈ k.values, p.accepts v = true
  bounds : p.isNumeric = false → k.minimum = .none ∧ k.maximum = .none

namespace Link

theorem fits_of_constraintProblems (owner : String) {p : Primitive} {pattern : Option String}
    {values : List (Located String)} {minimum maximum : Option (Located Int)}
    (h : ∀ problem ∈ constraintProblems owner p values minimum maximum, problem.isError = false) :
    Constraints.Fits ⟨pattern, values.map (·.value), minimum.map (·.value),
      maximum.map (·.value)⟩ p := by
  constructor
  · intro v hv
    obtain ⟨value, hm, rfl⟩ := List.mem_map.mp hv
    by_contra hn
    have hp : Problem.notAValue owner p value ∈
        constraintProblems owner p values minimum maximum :=
      List.mem_append_right _ (List.mem_map_of_mem (List.mem_filter.mpr ⟨hm, by simpa using hn⟩))
    exact absurd (h _ hp) (by simp [Problem.isError])
  · intro hp
    have hbound (bound : Located Int) (hm : bound ∈ minimum.toList ++ maximum.toList) : False := by
      have hin : Problem.boundOfNoNumber owner p bound ∈
          constraintProblems owner p values minimum maximum := by
        refine List.mem_append_left _ (List.mem_append_right _ ?_)
        rw [if_neg (by simp [hp])]
        exact List.mem_map_of_mem hm
      exact absurd (h _ hin) (by simp [Problem.isError])
    constructor
    · cases minimum with
      | none => rfl
      | some bound => exact (hbound bound (by simp)).elim
    · cases maximum with
      | none => rfl
      | some bound => exact (hbound bound (by simp)).elim

theorem fits_of_dataTypeProblems {definitions : List Definition} {g : Graph} {id : StructureId}
    {d : Definition} {base : TypeRef} {k : Constraints} {p : Primitive}
    (hb : (structureOf definitions d).value.body = .dataType base k)
    (hp : g.basePrimitive (.declared id) = some p)
    (h : ∀ problem ∈ dataTypeProblems g id d, problem.isError = false) : k.Fits p := by
  have hb : (body definitions d.name.value d.body).value = .dataType base k := hb
  cases hd : d.body with
  | dataType type pattern values minimum maximum =>
    simp only [hd, body, Checked.value_bind, Checked.value_pure, Body.dataType.injEq] at hb
    obtain ⟨-, rfl⟩ := hb
    refine fits_of_constraintProblems d.name.value fun problem hm => h problem ?_
    simp only [dataTypeProblems, hd, hp]
    exact List.mem_append_right _ hm
  | _ => simp [hd, body] at hb

theorem dataTypeProblems_of_graph {definitions : List Definition}
    (h : (graph definitions).problems.any (·.isError) = false) {id : StructureId} {d : Definition}
    (hd : definitions[id]? = some d) :
    ∀ problem ∈ dataTypeProblems (graph definitions).value id d, problem.isError = false := by
  intro problem hm
  have hn := names_problems_of_graph h
  rw [value_graph] at hm
  simp only [graph, hn, Bool.false_eq_true, if_false, List.any_eq_false] at h
  have hin : problem ∈ allDataTypeProblems (.ofStructures (names definitions).value) definitions :=
    List.mem_append_right _
      (List.mem_flatMap.mpr ⟨(d, id), List.mk_mem_zipIdx_iff_getElem?.mpr hd, hm⟩)
  simpa using h problem (List.mem_append_right _ hin)

end Link

theorem compile_dataType_checked {source : String} {c : Compiled} (hc : compile source = .ok c)
    {id : StructureId} {base : TypeRef} {k : Constraints}
    (hb : (c.graph.get id).body = .dataType base k) :
    ∃ definitions d, c.graph.structures = (Link.graph definitions).value.structures ∧
      (Link.structureOf definitions d).value.body = .dataType base k ∧
      ∀ problem ∈ Link.dataTypeProblems (Link.graph definitions).value id d,
        problem.isError = false := by
  obtain ⟨lexed, declarations, -, -, hd⟩ := compile_ok hc
  obtain ⟨-, hl, hg, -⟩ := compileDeclarations_ok hd
  set definitions := (Definition.ofDeclarations lexed.comments declarations).value
  have hs : c.graph.structures = (Link.graph definitions).value.structures := by rw [hg]
  have hid := Graph.getElem?_structures (Graph.lt_size_of_dataType hb)
  rw [hs, Link.value_graph] at hid
  simp only [Graph.ofStructures, Link.names_value, List.getElem?_map,
    Option.map_eq_some_iff] at hid
  obtain ⟨d, hdef, hstructure⟩ := hid
  exact ⟨definitions, d, hs, hstructure ▸ hb, Link.dataTypeProblems_of_graph hl hdef⟩

/-- All constraints on a chain of a compiled graph fit the built-in type at its end. -/
theorem compile_constraints_fit {source : String} {c : Compiled} (hc : compile source = .ok c)
    {p : Primitive} {t : TypeRef} {ks : List Constraints} (h : c.graph.Chain p t ks) :
    ∀ k ∈ ks, k.Fits p := by
  induction h with
  | primitive => simp
  | @declared id base k ks hb htail ih =>
    obtain ⟨definitions, d, hs, hbody, hchecked⟩ := compile_dataType_checked hc hb
    have hchain : (Link.graph definitions).value.Chain p (.declared id) (k :: ks) :=
      (Graph.Chain.declared hb htail).congr hs.symm
    have hfirst : k.Fits p :=
      Link.fits_of_dataTypeProblems hbody hchain.basePrimitive_eq hchecked
    exact List.forall_mem_cons.mpr ⟨hfirst, ih⟩

end DocSchema
