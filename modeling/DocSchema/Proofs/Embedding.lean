import DocSchema.Proofs.Populated
import DocSchema.Proofs.Renumber

/-!
# Definitions among others

Linking a definition looks at the names that it uses and at nothing else. Definitions that link
without errors therefore do so among any others, as long as names stay distinct: each gives the same
structure with the indices moved, chains of bases lead to the same built-in types, and the checks of
data types find what they found before. Definitions that are made up of such parts link without
errors themselves.
-/
namespace DocSchema

namespace Graph

/-- The second graph has the structures of the first among its own, that of index `id` at `f id`. -/
def Embeds (f : StructureId → StructureId) (g g' : Graph) : Prop :=
  ∀ id < g.size, g'.get (f id) = (g.get id).rename f

theorem Chain.embed {f : StructureId → StructureId} {g g' : Graph} (h : g.Embeds f g')
    {p : Primitive} {t : TypeRef} {ks : List Constraints} (hc : g.Chain p t ks) :
    g'.Chain p (t.rename f) ks := by
  induction hc with
  | primitive => exact .primitive
  | @declared id base k ks hb _ ih =>
    refine .declared ?_ ih
    rw [h id (lt_size_of_dataType hb)]
    simp only [Structure.rename, hb, Body.rename]

theorem Chain.not_endless {g : Graph} {p : Primitive} {t : TypeRef} {ks : List Constraints}
    (h : g.Chain p t ks) : ∀ id, t = .declared id → ¬g.Endless id := by
  induction h with
  | primitive =>
    intro id ht
    cases ht
  | declared hb _ ih =>
    rintro id ht hend
    cases ht
    have hbase := hend 0
    simp only [base?, Function.iterate_zero, id_eq, hb, Option.some.injEq] at hbase
    exact ih _ hbase (hend.iterate 1)

end Graph

namespace Link

section Clean

theorem nameProblems_eq_nil_iff {seen : List (Located String)} {ds : List Definition} :
    nameProblems seen ds = [] ↔ (ds.map (·.name.value)).Nodup ∧
      ∀ d ∈ ds, Primitive.ofName? d.name.value = none ∧ ∀ n ∈ seen, n.value ≠ d.name.value := by
  refine ⟨nameProblems_eq_nil, ?_⟩
  fun_induction nameProblems seen ds with
  | case1 => simp
  | case2 seen d ds hr ih =>
    rintro ⟨-, hs⟩
    simp [(hs d (by simp)).1] at hr
  | case3 seen d ds hr first hf ih =>
    rintro ⟨-, hs⟩
    have hsame : first.value = d.name.value := by simpa using List.find?_some hf
    exact absurd hsame ((hs d (by simp)).2 first (List.mem_of_find?_eq_some hf))
  | case4 seen d ds hr hf ih =>
    rintro ⟨hd, hs⟩
    rw [List.map_cons, List.nodup_cons] at hd
    refine ih ⟨hd.2, fun e he => ⟨(hs e (by simp [he])).1, ?_⟩⟩
    intro n hn heq
    rcases List.mem_append.mp hn with hn | hn
    · exact (hs e (by simp [he])).2 n hn heq
    · rw [List.mem_singleton.mp hn] at heq
      exact hd.1 (heq ▸ List.mem_map_of_mem he)

theorem structures_problems (definitions ds : List Definition) :
    (structures definitions ds).problems =
      ds.flatMap fun d => (structureOf definitions d).problems := by
  induction ds with
  | nil => rfl
  | cons d ds ih => simp [structures, ih]

theorem names_clean_iff {definitions : List Definition} :
    (names definitions).problems.any (·.isError) = false ↔
      (definitions.map (·.name.value)).Nodup ∧
      (∀ d ∈ definitions, Primitive.ofName? d.name.value = none) ∧
      ∀ d ∈ definitions, ∀ p ∈ (structureOf definitions d).problems, p.isError = false := by
  have hnames : (nameProblems [] definitions).any (·.isError) = false ↔
      nameProblems [] definitions = [] := by
    constructor
    · intro h
      refine List.eq_nil_iff_forall_not_mem.mpr fun p hp => ?_
      exact List.any_eq_false.mp h p hp (nameProblems_isError _ _ p hp)
    · intro h
      simp [h]
  simp only [names, Checked.problems_bind, Checked.problems_note, List.any_append,
    Bool.or_eq_false_iff, hnames, nameProblems_eq_nil_iff, structures_problems]
  simp [and_assoc]

theorem graph_clean_iff {definitions : List Definition} :
    (graph definitions).problems.any (·.isError) = false ↔
      (names definitions).problems.any (·.isError) = false ∧
      (∀ id, ¬(graph definitions).value.OnCycle id) ∧
      ∀ id d, definitions[id]? = some d →
        ∀ p ∈ dataTypeProblems (graph definitions).value id d, p.isError = false := by
  constructor
  · intro h
    refine ⟨names_problems_of_graph h, fun id hc => not_endless h id hc.endless, ?_⟩
    exact fun id d hd => dataTypeProblems_of_graph h hd
  · rintro ⟨hn, hcycle, hdata⟩
    rw [value_graph] at hcycle hdata
    have hnil : cycleProblems (.ofStructures (names definitions).value) definitions = [] :=
      cycleProblems_eq_nil_iff.mpr hcycle
    simp only [graph, hn, Bool.false_eq_true, if_false, allDataTypeProblems, hnil, List.nil_append,
      List.any_append, Bool.false_or, List.any_eq_false]
    intro p hp
    obtain ⟨⟨d, id⟩, hm, hp⟩ := List.mem_flatMap.mp hp
    simp [hdata id d (List.mk_mem_zipIdx_iff_getElem?.mp hm) p hp]

end Clean

section Find

theorem exists_findFrom {name : String} {ds : List Definition} {d : Definition} (hd : d ∈ ds)
    (hn : d.name.value = name) (index : StructureId) :
    ∃ found, findFrom name index ds = some found := by
  induction ds generalizing index with
  | nil => cases hd
  | cons e ds ih =>
    by_cases he : e.name.value = name
    · exact ⟨(index, e), by simp [findFrom, he]⟩
    · have hin : d ∈ ds := by
        rcases List.mem_cons.mp hd with rfl | hin
        · exact absurd hn he
        · exact hin
      obtain ⟨found, hf⟩ := ih hin (index + 1)
      exact ⟨found, by simp [findFrom, he, hf]⟩

theorem find?_of_getElem? {definitions : List Definition}
    (hd : (definitions.map (·.name.value)).Nodup) {name : String} {id : StructureId}
    {d : Definition} (hp : Primitive.ofName? name = none) (hid : definitions[id]? = some d)
    (hn : d.name.value = name) : find? definitions name = some (id, d) := by
  obtain ⟨⟨id', d'⟩, hf⟩ := exists_findFrom (List.mem_of_getElem? hid) hn 0
  have hfind : find? definitions name = some (id', d') := by simp [find?, hp, hf]
  obtain ⟨hid', hn'⟩ := find?_eq_some hfind
  have hsame : id' = id := by
    refine (List.getElem?_inj ?_ hd).mp ?_
    · simpa using (List.getElem?_eq_some_iff.mp hid').1
    · simp only [List.getElem?_map, hid', hid, Option.map_some, hn', hn]
  subst hsame
  rw [hid'] at hid
  rw [hfind, Option.some.inj hid]

end Find

section Extends

variable {α β γ δ : Type}

/-- Where the first step passes, so does the second, with the value that `f` gives for the first. -/
def Extends (f : α → β) (x : Checked Problem α) (y : Checked Problem β) : Prop :=
  Passes x → y.value = f x.value ∧ Passes y

namespace Extends

theorem pure (f : α → β) (a : α) : Extends f (Pure.pure a) (Pure.pure (f a)) :=
  fun h => ⟨rfl, h⟩

theorem report {f : α → β} {problem : Problem} (he : problem.isError = true) (a : α)
    (y : Checked Problem β) : Extends f (.report problem a) y := by
  intro h
  simp [Passes, he] at h

theorem bind {f : α → β} {g : γ → δ} {x : Checked Problem α} {y : Checked Problem β}
    {k : α → Checked Problem γ} {k' : β → Checked Problem δ} (hx : Extends f x y)
    (hk : Extends g (k x.value) (k' (f x.value))) : Extends g (x >>= k) (y >>= k') := by
  intro h
  obtain ⟨hv, hy⟩ := hx h.bind.1
  obtain ⟨hw, hz⟩ := hk h.bind.2
  rw [← hv] at hw hz
  exact ⟨hw, List.forall_mem_append.mpr ⟨hy, hz⟩⟩

theorem map {f : α → β} {g : γ → δ} {x : Checked Problem α} {y : Checked Problem β} {k : α → γ}
    {k' : β → δ} (hx : Extends f x y) (hk : ∀ a, k' (f a) = g (k a)) :
    Extends g (do return k (← x)) (do return k' (← y)) := by
  refine hx.bind ?_
  rw [hk]
  exact .pure g _

end Extends

end Extends

theorem unusedDefaults_passes (definitions : List Definition) (owner : String)
    (os : List Occurrence) : Passes (Checked.note (unusedDefaults definitions owner os)) := by
  intro p hp
  obtain ⟨o, -, ho⟩ := List.mem_filterMap.mp hp
  obtain ⟨default, -, rfl⟩ := Option.map_eq_some_iff.mp ho
  rfl

theorem kind_get {definitions : List Definition} {id : StructureId} {d : Definition}
    (hd : definitions[id]? = some d) : ((graph definitions).value.get id).kind = d.kind := by
  simp [Graph.get, Graph.ofStructures, names_value, hd]

/-- Definitions with distinct names, among which the first stand, that of index `id` at `f id`. -/
structure Embeds (f : StructureId → StructureId) (definitions definitions' : List Definition) :
    Prop where
  getElem? : ∀ id d, definitions[id]? = some d → definitions'[f id]? = some d
  distinct : (definitions'.map (·.name.value)).Nodup

namespace Embeds

variable {f : StructureId → StructureId} {definitions definitions' : List Definition}
  {id : StructureId} {d : Definition}

theorem find? (h : Embeds f definitions definitions') {name : String}
    (hp : Primitive.ofName? name = none) (hf : Link.find? definitions name = some (id, d)) :
    Link.find? definitions' name = some (f id, d) := by
  obtain ⟨hid, hn⟩ := find?_eq_some hf
  exact find?_of_getElem? h.distinct hp (h.getElem? id d hid) hn

theorem lookup (h : Embeds f definitions definitions') (owner : String) (usage : Usage)
    (name : Located String) :
    Extends (Option.map (TypeRef.rename f)) (Link.lookup definitions owner usage name)
      (Link.lookup definitions' owner usage name) := by
  unfold Link.lookup
  cases hp : Primitive.ofName? name.value with
  | some p =>
    dsimp only
    split_ifs
    · exact .pure _ _
    · exact .report rfl _ _
  | none =>
    dsimp only
    cases hf : Link.find? definitions name.value with
    | none => exact .report rfl _ _
    | some found =>
      obtain ⟨id, d⟩ := found
      rw [h.find? hp hf]
      dsimp only
      split_ifs
      · exact .pure _ _
      · exact .report rfl _ _

theorem typeRef (h : Embeds f definitions definitions') (owner : String) (usage : Usage)
    (name : Option (Located String)) :
    Extends (TypeRef.rename f) (Link.typeRef definitions owner usage name)
      (Link.typeRef definitions' owner usage name) := by
  cases name with
  | none => exact .pure _ _
  | some name =>
    refine (h.lookup owner usage name).map fun type => ?_
    cases type <;> rfl

theorem slot (h : Embeds f definitions definitions') (owner : String) (usage : Usage)
    (o : Occurrence) :
    Extends (Option.map (Slot.rename f)) (Link.slot definitions owner usage o)
      (Link.slot definitions' owner usage o) := by
  refine (h.lookup owner usage o.name).bind ?_
  cases (Link.lookup definitions owner usage o.name).value with
  | none => exact .pure _ _
  | some type => cases type <;> exact .pure _ _

theorem slots (h : Embeds f definitions definitions') (owner : String) (usage : Usage)
    (os : List Occurrence) :
    Extends (List.map (Slot.rename f)) (Link.slots definitions owner usage os)
      (Link.slots definitions' owner usage os) := by
  induction os with
  | nil => exact .pure _ _
  | cons o os ih =>
    refine (h.slot owner usage o).bind (ih.map fun ss => ?_)
    cases (Link.slot definitions owner usage o).value <;> rfl

mutual

theorem particle (h : Embeds f definitions definitions') (owner : String)
    (m : Definition.Member) :
    Extends (Particle.renameAll f) (Link.particle definitions owner m)
      (Link.particle definitions' owner m) :=
  match m with
  | .element o => by
    rw [Link.particle, Link.particle]
    refine (h.slot owner .child o).map fun s => ?_
    cases s <;> rfl
  | .group compositor members => by
    rw [Link.particle, Link.particle]
    exact (h.particles owner members).map fun _ => rfl

theorem particles (h : Embeds f definitions definitions') (owner : String)
    (ms : List Definition.Member) :
    Extends (Particle.renameAll f) (Link.particles definitions owner ms)
      (Link.particles definitions' owner ms) :=
  match ms with
  | [] => by
    rw [Link.particles, Link.particles]
    exact .pure _ _
  | m :: ms => by
    rw [Link.particles, Link.particles]
    refine (h.particle owner m).bind ((h.particles owner ms).map fun ps => ?_)
    rw [Particle.renameAll_append]

end

theorem content (h : Embeds f definitions definitions') (owner : String) (c : Definition.Content) :
    Extends (Content.rename f) (Link.content definitions owner c)
      (Link.content definitions' owner c) := by
  cases c with
  | empty => exact .pure _ _
  | text => exact .pure _ _
  | group compositor members mixed => exact (h.particles owner members).map fun _ => rfl
  | single target quantifier =>
    refine (h.lookup owner .content target.name).bind ?_
    cases hl : (Link.lookup definitions owner .content target.name).value with
    | none => exact .pure _ _
    | some type =>
      -- the definition that the type stands for decides between a child and a value
      have htarget : (type.rename f).target?.bind (definitions'[·]?) =
          type.target?.bind (definitions[·]?) := by
        cases type with
        | primitive p => rfl
        | declared id =>
          obtain ⟨d, hd, -⟩ := lookup_fits hl
          exact (h.getElem? id d hd).trans hd.symm
      dsimp only [Option.map_some]
      rw [htarget]
      split
      · cases type <;> exact .pure _ _
      · exact Extends.bind (f := id) (fun hp => ⟨rfl, hp⟩) (.pure _ _)

theorem body (h : Embeds f definitions definitions') (owner : String) (b : Definition.Body) :
    Extends (Body.rename f) (Link.body definitions owner b) (Link.body definitions' owner b) := by
  rcases b with ⟨root, attributes, inner⟩ | ⟨valueType, default⟩ |
    ⟨base, pattern, values, minimum, maximum⟩ | ⟨root, properties, order⟩ | ⟨valueType⟩ | ⟨itemType⟩
  · refine Extends.bind (f := id) (fun _ => ⟨rfl, unusedDefaults_passes _ _ _⟩) ?_
    refine (h.slots owner .attributes attributes).bind ?_
    exact (h.content owner inner).map fun _ => rfl
  · exact (h.typeRef owner .simpleType valueType).map fun _ => rfl
  · exact (h.typeRef owner .simpleType base).map fun _ => rfl
  · exact (h.slots owner .properties properties).map fun _ => rfl
  · exact (h.typeRef owner .jsonValue valueType).map fun _ => rfl
  · exact (h.typeRef owner .jsonValue (some itemType.name)).map fun _ => rfl

theorem structureOf (h : Embeds f definitions definitions') (d : Definition) :
    Extends (Structure.rename f) (Link.structureOf definitions d)
      (Link.structureOf definitions' d) :=
  (h.body d.name.value d.body).map fun _ => rfl

section Passing

variable (h : Embeds f definitions definitions')
  (hc : (Link.graph definitions).problems.any (·.isError) = false)
include h hc

theorem structureOf_passes (hd : d ∈ definitions) :
    (Link.structureOf definitions' d).value = (Link.structureOf definitions d).value.rename f ∧
      Passes (Link.structureOf definitions' d) := by
  obtain ⟨-, -, hlinked⟩ := names_clean_iff.mp (names_problems_of_graph hc)
  exact h.structureOf d (hlinked d hd)

theorem graph : (Link.graph definitions).value.Embeds f (Link.graph definitions').value := by
  intro id hid
  rw [size_graph] at hid
  have hd := List.getElem?_eq_getElem hid
  have hs := (h.structureOf_passes hc (List.getElem_mem hid)).1
  simp only [value_graph, Graph.get, Graph.ofStructures, names_value, List.getD_eq_getElem?_getD,
    List.getElem?_map, hd, h.getElem? _ _ hd, Option.map_some, Option.getD_some, hs]

theorem exists_chain (hk : ((Link.graph definitions).value.get id).kind = .dataType) :
    ∃ p ks, (Link.graph definitions).value.Chain p (.declared id) ks ∧
      (Link.graph definitions').value.Chain p (.declared (f id)) ks := by
  have hw : (Link.graph definitions).value.WellLinked :=
    wellLinked (by rw [value_graph]; rfl) (names_problems_of_graph hc)
  obtain ⟨p, ks, hchain⟩ | hend := Graph.chain_or_endless hw.basesFit hk
  · exact ⟨p, ks, hchain, hchain.embed (h.graph hc)⟩
  · exact absurd hend (not_endless hc id)

theorem dataTypeProblems (hd : definitions[id]? = some d) :
    Link.dataTypeProblems (Link.graph definitions').value (f id) d =
      Link.dataTypeProblems (Link.graph definitions).value id d := by
  have hkind := kind_get hd
  unfold Link.dataTypeProblems
  cases hb : d.body with
  | dataType base pattern values minimum maximum =>
    rw [Definition.kind, hb] at hkind
    obtain ⟨p, ks, hchain, hchain'⟩ := h.exists_chain hc hkind
    rw [hchain.basePrimitive_eq, hchain'.basePrimitive_eq]
  | _ => rfl

end Passing

end Embeds

/-- A definition of a part that links without errors, by its index among all. -/
def InPart (definitions : List Definition) (id : StructureId) (d : Definition) : Prop :=
  ∃ f part k, Embeds f part definitions ∧ (graph part).problems.any (·.isError) = false ∧
    part[k]? = some d ∧ f k = id

/-- Definitions that are made of parts that link without errors do so together. -/
theorem clean_of_parts {definitions : List Definition}
    (hdistinct : (definitions.map (·.name.value)).Nodup)
    (hparts : ∀ (id : Nat) d, definitions[id]? = some d → InPart definitions id d) :
    (graph definitions).problems.any (·.isError) = false := by
  have hin {d : Definition} (hd : d ∈ definitions) : ∃ id, InPart definitions id d := by
    obtain ⟨id, hid⟩ := List.mem_iff_getElem?.mp hd
    exact ⟨id, hparts id d hid⟩
  refine graph_clean_iff.mpr ⟨names_clean_iff.mpr ⟨hdistinct, ?_, ?_⟩, ?_, ?_⟩
  · intro d hd
    obtain ⟨-, f, part, k, -, hc, hk, -⟩ := hin hd
    obtain ⟨-, hunreserved, -⟩ := names_clean_iff.mp (names_problems_of_graph hc)
    exact hunreserved d (List.mem_of_getElem? hk)
  · intro d hd
    obtain ⟨-, f, part, k, he, hc, hk, -⟩ := hin hd
    exact (he.structureOf_passes hc (List.mem_of_getElem? hk)).2
  · intro id hon
    -- a data type of a part has a chain that ends
    have hend := hon.endless
    have hlt : id < definitions.length := size_graph definitions ▸ hend.lt_size 0
    have hd := List.getElem?_eq_getElem hlt
    obtain ⟨f, part, k, he, hc, hk, rfl⟩ := hparts id _ hd
    have hkind : ((graph part).value.get k).kind = .dataType := by
      rw [kind_get hk, ← kind_get hd]
      simpa [Graph.ofKind] using (List.mem_filter.mp (hend.mem_ofKind 0)).2
    obtain ⟨p, ks, -, hchain⟩ := he.exists_chain hc hkind
    exact hchain.not_endless _ rfl hend
  · intro id d hd
    obtain ⟨f, part, k, he, hc, hk, rfl⟩ := hparts id d hd
    rw [he.dataTypeProblems hc hk]
    exact (graph_clean_iff.mp hc).2.2 k d hk

end Link

end DocSchema
