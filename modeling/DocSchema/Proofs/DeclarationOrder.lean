import DocSchema.Proofs.Embedding

/-!
# The order of declarations

Declarations in another order compile to the same graph with other indices, or fail as well. The
table of names is complete before any name is linked, so a name finds the same definition wherever
it is declared: the definitions are a part of themselves in another order, with their indices moved.
-/
namespace DocSchema

section Reordered

variable {α β : Type}

/-- The second list has the members of the first in another order, that of index `id` at `σ id`. -/
structure Reordered (σ : Equiv.Perm Nat) (as bs : List α) : Prop where
  perm : as.Perm bs
  getElem? : ∀ id : Nat, bs[σ id]? = as[id]?

def shifted (σ : Equiv.Perm Nat) : Equiv.Perm Nat where
  toFun
    | 0 => 0
    | n + 1 => σ n + 1
  invFun
    | 0 => 0
    | n + 1 => σ.symm n + 1
  left_inv n := by cases n <;> simp
  right_inv n := by cases n <;> simp

theorem exists_reordered {as bs : List α} (h : as.Perm bs) : ∃ σ, Reordered σ as bs := by
  induction h with
  | nil => exact ⟨Equiv.refl _, .nil, fun _ => rfl⟩
  | cons x hp ih =>
    obtain ⟨σ, hσ⟩ := ih
    refine ⟨shifted σ, hp.cons x, fun id => ?_⟩
    cases id with
    | zero => rfl
    | succ n => simpa [shifted] using hσ.getElem? n
  | swap x y l =>
    refine ⟨Equiv.swap 0 1, .swap x y l, fun id => ?_⟩
    match id with
    | 0 => rfl
    | 1 => rfl
    | n + 2 =>
      rw [Equiv.swap_apply_of_ne_of_ne (by omega) (by omega)]
      rfl
  | trans hp hq ih ih' =>
    obtain ⟨σ, hσ⟩ := ih
    obtain ⟨τ, hτ⟩ := ih'
    refine ⟨σ.trans τ, hp.trans hq, fun id => ?_⟩
    exact (hτ.getElem? (σ id)).trans (hσ.getElem? id)

namespace Reordered

variable {σ : Equiv.Perm Nat} {as bs : List α}

theorem symm (h : Reordered σ as bs) : Reordered σ.symm bs as := by
  refine ⟨h.perm.symm, fun id => ?_⟩
  rw [← h.getElem?, σ.apply_symm_apply]

theorem map (h : Reordered σ as bs) (f : α → β) : Reordered σ (as.map f) (bs.map f) := by
  refine ⟨h.perm.map f, fun id => ?_⟩
  rw [List.getElem?_map, List.getElem?_map, h.getElem?]

theorem lt_length (h : Reordered σ as bs) (id : Nat) : σ id < bs.length ↔ id < as.length := by
  have hnone : bs[σ id]? = none ↔ as[id]? = none := by rw [h.getElem?]
  simp only [List.getElem?_eq_none_iff] at hnone
  omega

end Reordered

end Reordered

namespace Link

variable {σ : Equiv.Perm StructureId} {definitions definitions' : List Definition}

theorem embeds_of_reordered (h : Reordered σ definitions definitions')
    (hd : (definitions.map (·.name.value)).Nodup) : Embeds σ definitions definitions' := by
  refine ⟨fun id d hid => ?_, (h.perm.map _).nodup_iff.mp hd⟩
  rw [h.getElem?, hid]

theorem clean_of_reordered (h : Reordered σ definitions definitions')
    (hc : (graph definitions).problems.any (·.isError) = false) :
    (graph definitions').problems.any (·.isError) = false := by
  obtain ⟨hdistinct, -, -⟩ := names_clean_iff.mp (names_problems_of_graph hc)
  have he := embeds_of_reordered h hdistinct
  refine clean_of_parts he.distinct fun id d hd => ?_
  obtain ⟨id, rfl⟩ := σ.surjective id
  rw [h.getElem?] at hd
  exact ⟨σ, definitions, id, he, hc, hd, rfl⟩

/-- The graph of the definitions in another order is the graph of the definitions, renumbered. -/
theorem renumbered_of_reordered (h : Reordered σ definitions definitions')
    (hc : (graph definitions).problems.any (·.isError) = false) :
    (graph definitions).value.Renumbered σ (graph definitions').value := by
  obtain ⟨hdistinct, -, -⟩ := names_clean_iff.mp (names_problems_of_graph hc)
  refine ⟨by rw [size_graph, size_graph, h.perm.length_eq], fun id => ?_⟩
  by_cases hid : id < (graph definitions).value.size
  · exact (embeds_of_reordered h hdistinct).graph hc id hid
  · -- neither graph has a structure there
    have hid' : ¬σ id < (graph definitions').value.size := by
      rwa [size_graph, h.lt_length, ← size_graph]
    unfold Graph.get
    rw [List.getD_eq_default _ _ (Nat.le_of_not_lt hid),
      List.getD_eq_default _ _ (Nat.le_of_not_lt hid')]
    rfl

end Link

theorem compileDeclarations_of_reordered {σ : Equiv.Perm Nat} {comments : List (Located String)}
    {ds ds' : List Declaration} (h : Reordered σ ds ds')
    (hc : ∃ c, compileDeclarations comments ds = .ok c) :
    ∃ c, compileDeclarations comments ds' = .ok c := by
  rw [compileDeclarations_isOk_iff, Definition.problems_ofDeclarations,
    Definition.value_ofDeclarations] at hc ⊢
  refine ⟨?_, Link.clean_of_reordered (h.map _) hc.2⟩
  rw [← hc.1]
  exact (h.perm.flatMap_right _).symm.any_eq

theorem compileDeclarations_renumbered {σ : Equiv.Perm Nat} {comments : List (Located String)}
    {ds ds' : List Declaration} (h : Reordered σ ds ds') {c c' : Compiled}
    (hc : compileDeclarations comments ds = .ok c)
    (hc' : compileDeclarations comments ds' = .ok c') : c.graph.Renumbered σ c'.graph := by
  obtain ⟨-, hl, hg, -⟩ := compileDeclarations_ok hc
  obtain ⟨-, -, hg', -⟩ := compileDeclarations_ok hc'
  rw [Definition.value_ofDeclarations] at hl hg hg'
  have hr := Link.renumbered_of_reordered (h.map _) hl
  rw [hg, hg']
  exact ⟨hr.size, hr.get⟩

/-- Declarations in another order compile exactly if they compile in the first. Then the graphs are
the same up to the numbers: the structure of each name has the same names, remarks and body, with
every index moved as its declaration was, and the roots are those of the first graph. Only a header
comment, which stands before the first declaration, can tell the orders apart. -/
theorem compileDeclarations_perm {comments : List (Located String)} {ds ds' : List Declaration}
    (h : ds.Perm ds') :
    ((∃ c, compileDeclarations comments ds = .ok c) ↔
      ∃ c', compileDeclarations comments ds' = .ok c') ∧
    ∃ σ : Equiv.Perm StructureId, (∀ id : Nat, ds'[σ id]? = ds[id]?) ∧
      ∀ c c', compileDeclarations comments ds = .ok c →
        compileDeclarations comments ds' = .ok c' →
        c'.graph.size = c.graph.size ∧
        (∀ id, c'.graph.get (σ id) = (c.graph.get id).rename σ) ∧
        (∀ name, c'.graph.find? name = (c.graph.find? name).map σ) ∧
        (∀ id, σ id ∈ c'.graph.roots ↔ id ∈ c.graph.roots) ∧
        (comments = [] → c'.graph.formatName = c.graph.formatName) := by
  obtain ⟨σ, hσ⟩ := exists_reordered h
  refine ⟨⟨compileDeclarations_of_reordered hσ, compileDeclarations_of_reordered hσ.symm⟩,
    σ, hσ.getElem?, ?_⟩
  intro c c' hc hc'
  have hr := compileDeclarations_renumbered hσ hc hc'
  obtain ⟨-, -, hg, -⟩ := compileDeclarations_ok hc
  obtain ⟨-, -, hg', -⟩ := compileDeclarations_ok hc'
  have hsize : c.graph.size = ds.length := by
    rw [hg]
    exact (Link.size_graph _).trans (by simp [Definition.value_ofDeclarations])
  refine ⟨hr.size, hr.get, fun name => ?_, fun id => hr.mem_roots, ?_⟩
  · refine hr.find? (compileDeclarations_wellLinked hc).distinct
      (compileDeclarations_wellLinked hc').distinct (fun id => ?_) name
    rw [hr.size, hsize, h.length_eq, hσ.lt_length, h.length_eq]
  · rintro rfl
    rw [hg, hg']
    rfl

/-- A schema that uses every name before it is declared, with a recursive element and a chain of
data types. -/
def forwardSource : String :=
  "root element a \x7ballowedContent: [b, a (optional)];\x7d element b \x7ballowedContent: w;\x7d
  dataType w \x7bbaseType: v;\x7d dataType v \x7bbaseType: integer;\x7d"

set_option maxRecDepth 2000 in
theorem compileDeclarations_perm_reversed :
    ∃ lexed ds c c', tokenize forwardSource = .ok lexed ∧
      parseDeclarations lexed.tokens = .ok ds ∧ ds.Perm ds.reverse ∧
      compileDeclarations lexed.comments ds = .ok c ∧
      compileDeclarations lexed.comments ds.reverse = .ok c' ∧ c'.graph.size = 4 ∧
      ∃ σ : Equiv.Perm StructureId,
        (∀ id, c'.graph.get (σ id) = (c.graph.get id).rename σ) ∧
        ∀ id, σ id ∈ c'.graph.roots ↔ id ∈ c.graph.roots := by
  obtain ⟨c, hc, hn⟩ := exists_compiled (String.toList_ofList : forwardSource.toList = _)
    (fun c => c.graph.size == 4) (by decide +kernel)
  obtain ⟨lexed, ds, ht, hp, hd⟩ := compile_ok hc
  have hperm : ds.Perm ds.reverse := ds.reverse_perm.symm
  obtain ⟨hok, σ, -, hσ⟩ := compileDeclarations_perm hperm
  obtain ⟨c', hd'⟩ := hok.mp ⟨c, hd⟩
  obtain ⟨hsize, hget, -, hroots, -⟩ := hσ c c' hd hd'
  have hfour : c.graph.size = 4 := by simpa using hn
  exact ⟨lexed, ds, c, c', ht, hp, hperm, hd, hd', hsize.trans hfour, σ, hget, hroots⟩

end DocSchema
