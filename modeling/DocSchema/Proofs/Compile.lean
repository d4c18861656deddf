import DocSchema.Compile
import DocSchema.Proofs.Result

/-!
# What a compiled text has passed

The stages behind a successful compilation. Later modules open a compilation only through
`compile_ok` and `compileDeclarations_ok`.
-/
namespace DocSchema

/-- Linking gives the same graph whether or not data types are checked. -/
@[simp] theorem Link.value_graph (definitions : List Definition) :
    (Link.graph definitions).value = Graph.ofStructures (Link.names definitions).value := by
  unfold Link.graph
  dsimp only
  split_ifs <;> rfl

theorem Link.names_problems_of_graph {definitions : List Definition}
    (h : (Link.graph definitions).problems.any (·.isError) = false) :
    (Link.names definitions).problems.any (·.isError) = false := by
  unfold Link.graph at h
  dsimp only at h
  split_ifs at h with hn
  · exact absurd h (by simp [hn])
  · simpa using hn

namespace Definition

variable (comments : List (Located String)) (declarations : List Declaration)

theorem value_ofDeclarations : (ofDeclarations comments declarations).value =
    declarations.map fun d => (ofDeclaration comments d).value := by
  induction declarations with
  | nil => rfl
  | cons d ds ih => simp [ofDeclarations, ih]

theorem problems_ofDeclarations : (ofDeclarations comments declarations).problems =
    declarations.flatMap fun d => (ofDeclaration comments d).problems := by
  induction declarations with
  | nil => rfl
  | cons d ds ih => simp [ofDeclarations, ih]

end Definition

theorem compileDeclarations_ok {comments : List (Located String)}
    {declarations : List Declaration} {c : Compiled}
    (h : compileDeclarations comments declarations = .ok c) :
    let defined := Definition.ofDeclarations comments declarations
    let linked := Link.graph defined.value
    defined.problems.any (·.diagnostic.isError) = false ∧
      linked.problems.any (·.isError) = false ∧
      c.graph = { linked.value with
        formatName := Comment.formatName? comments declarations } ∧
      c.warnings = defined.problems.map (·.diagnostic) ++ linked.problems.map (·.diagnostic) := by
  unfold compileDeclarations at h
  dsimp only at h ⊢
  split_ifs at h with hd hl
  cases h
  exact ⟨by simpa using hd, by simpa using hl, rfl, rfl⟩

theorem compileDeclarations_isOk_iff {comments : List (Located String)} {ds : List Declaration} :
    (∃ c, compileDeclarations comments ds = .ok c) ↔
      (Definition.ofDeclarations comments ds).problems.any (·.diagnostic.isError) = false ∧
      (Link.graph (Definition.ofDeclarations comments ds).value).problems.any (·.isError) =
        false := by
  constructor
  · rintro ⟨c, hc⟩
    obtain ⟨hd, hl, -⟩ := compileDeclarations_ok hc
    exact ⟨hd, hl⟩
  · rintro ⟨hd, hl⟩
    simp [compileDeclarations, hd, hl]

theorem compile_ok {source : String} {c : Compiled} (h : compile source = .ok c) :
    ∃ lexed declarations, tokenize source = .ok lexed ∧
      parseDeclarations lexed.tokens = .ok declarations ∧
      compileDeclarations lexed.comments declarations = .ok c := by
  unfold compile at h
  cases ht : tokenize source with
  | error faults => simp [ht] at h
  | ok lexed =>
    simp only [ht] at h
    cases hp : parseDeclarations lexed.tokens with
    | error e => simp [hp] at h
    | ok declarations =>
      simp only [hp] at h
      exact ⟨lexed, declarations, rfl, hp, h⟩

def compileScan (s : Token.Scan) : Except CompileError Compiled :=
  if s.faults.isEmpty then
    match parseDeclarations s.tokens with
    | .error e => .error (.syntactic s.tokens e)
    | .ok declarations => compileDeclarations s.comments declarations
  else .error (.lexical s.faults)

theorem compile_eq_compileScan (source : String) :
    compile source = compileScan (Token.scan source.toList) := by
  unfold compile tokenize compileScan
  dsimp only
  split_ifs <;> rfl

theorem compile_of_scan {source : String} {text : List Char} (hs : source.toList = text)
    {c : Compiled} (h : compileScan (Token.scan text) = .ok c) : compile source = .ok c := by
  rw [compile_eq_compileScan, hs, h]

/-- A text compiles if its characters do, with a graph that passes the same test. Characters can be
evaluated where the text itself would have to be decoded. -/
theorem exists_compiled {source : String} {text : List Char} (hs : source.toList = text)
    (test : Compiled → Bool) (h : (compileScan (Token.scan text)).toOption.any test = true) :
    ∃ c, compile source = .ok c ∧ test c = true := by
  rw [compile_eq_compileScan, hs]
  cases hc : compileScan (Token.scan text) with
  | error e => simp [hc, Except.toOption] at h
  | ok c => exact ⟨c, rfl, by simpa [hc, Except.toOption] using h⟩

end DocSchema
