import DocSchema.Proofs.BaseCycles
import DocSchema.Proofs.Grammar.Parser

/-!
# Phases of a compilation

A text compiles to one structure for each declaration, with warnings only, or one phase stops with
errors of its own. A failure shows in three ways: a problem drops its declaration, it withholds the
graph, and its diagnostic is an error. Where these disagreed, a graph could be withheld without a
reason, or the indices of structures could be shifted by a declaration that is missing.
-/
namespace DocSchema

/-- The phases of a compilation, in order. -/
inductive Phase where
  | tokens
  | declarations
  | definitions
  | links
  deriving DecidableEq, Repr

namespace Phase

def codes : Phase → List String
  | .tokens => ["E001", "E002", "E003", "E004", "E005"]
  | .declarations => ["E100", "E101"]
  | .definitions => ["E102", "E103", "E104", "E105", "E200", "E201"]
  | .links => ["E103", "E300", "E301", "E302", "E303", "E304", "E305"]

/-- A diagnostic that a phase may give: an error has a code of the phase. -/
def Gives (phase : Phase) (d : Diagnostic) : Prop :=
  d.severity = .error → ∃ code, d.code = some code ∧ code.name ∈ phase.codes

/-- What a phase stops with. Reading declarations stops at the first error. -/
structure StopsWith (phase : Phase) (ds : List Diagnostic) : Prop where
  error : ∃ d ∈ ds, d.severity = .error
  gives : ∀ d ∈ ds, phase.Gives d
  single : phase = .declarations → ds.length = 1

variable {phase : Phase}

theorem gives_error {code : Code} (h : code.name ∈ phase.codes) (message : String)
    (labels : List Label) (help : Option String) :
    phase.Gives (.error code message labels help) :=
  fun _ => ⟨code, rfl, h⟩

theorem gives_of_warning {d : Diagnostic} (h : d.severity = .warning) : phase.Gives d := by
  intro he
  rw [h] at he
  cases he

end Phase

def CompileError.phase : CompileError → Phase
  | .lexical _ => .tokens
  | .syntactic .. => .declarations
  | .definition _ => .definitions
  | .linking .. => .links

theorem Diagnostic.severity_of_isError {d : Diagnostic} (h : d.isError = true) :
    d.severity = .error := by
  simpa [isError] using h

theorem Diagnostic.severity_of_not_isError {d : Diagnostic} (h : d.isError = false) :
    d.severity = .warning := by
  cases hs : d.severity with
  | error => simp [isError, hs] at h
  | warning => rfl

section Diagnostics

variable {α : Type} {f : α → Diagnostic} {ps : List α}

theorem exists_error_of_any (h : ps.any (fun p => (f p).isError) = true) :
    ∃ d ∈ ps.map f, d.severity = .error := by
  obtain ⟨p, hm, he⟩ := List.any_eq_true.mp h
  exact ⟨f p, List.mem_map_of_mem hm, Diagnostic.severity_of_isError he⟩

theorem forall_warning_of_any (h : ps.any (fun p => (f p).isError) = false) :
    ∀ d ∈ ps.map f, d.severity = .warning := by
  intro d hd
  obtain ⟨p, hm, rfl⟩ := List.mem_map.mp hd
  exact Diagnostic.severity_of_not_isError (by simpa using List.any_eq_false.mp h p hm)

end Diagnostics

namespace Definition

theorem Problem.gives (p : Problem) : Phase.definitions.Gives p.diagnostic := by
  cases p with
  | repeatedMember owner r =>
    -- only a repetition with another range is an error
    by_cases hc : r.isConflict = true
    · simp only [Problem.diagnostic, hc, if_true]
      exact Phase.gives_error (by decide) _ _ _
    · simp only [Problem.diagnostic, hc]
      exact Phase.gives_of_warning rfl
  | _ => exact Phase.gives_error (by decide) _ _ _

/-- Whether a problem drops its declaration. A repeated member does not, even where its diagnostic
is an error. -/
def Problem.drops : Problem → Bool
  | .repeatedMember .. => false
  | _ => true

theorem Problem.isError_of_drops {p : Problem} (h : p.drops = true) :
    p.diagnostic.isError = true := by
  cases p with
  | repeatedMember owner r => cases h
  | _ => rfl

/-- The definition of a declaration that none of its problems drops. -/
def kept? (comments : List (Located String)) (d : Declaration) : Option Definition :=
  if (ofDeclaration comments d).problems.any (·.drops) then none
  else some (ofDeclaration comments d).value

def kept (comments : List (Located String)) (ds : List Declaration) : List Definition :=
  ds.filterMap (kept? comments)

theorem kept_eq {comments : List (Located String)} {ds : List Declaration}
    (h : (ofDeclarations comments ds).problems.any (·.diagnostic.isError) = false) :
    kept comments ds = (ofDeclarations comments ds).value := by
  have hkept : ∀ d ∈ ds, kept? comments d = some (ofDeclaration comments d).value := by
    intro d hd
    refine if_neg fun hdrops => ?_
    obtain ⟨p, hp, hdrop⟩ := List.any_eq_true.mp hdrops
    have hin : p ∈ (ofDeclarations comments ds).problems := by
      rw [problems_ofDeclarations]
      exact List.mem_flatMap.mpr ⟨d, hd, hp⟩
    exact List.any_eq_false.mp h p hin (Problem.isError_of_drops hdrop)
  rw [value_ofDeclarations, kept, List.filterMap_congr hkept]
  exact congrFun List.filterMap_eq_map ds

end Definition

namespace Link

theorem Problem.gives (p : Problem) : Phase.links.Gives p.diagnostic := by
  cases p with
  | unusedDefault owner use default => exact Phase.gives_of_warning rfl
  | _ => exact Phase.gives_error (by decide) _ _ _

theorem Problem.isError_diagnostic (p : Problem) : p.diagnostic.isError = p.isError := by
  cases p <;> rfl

theorem any_isError (ps : List Problem) :
    ps.any (fun p => p.diagnostic.isError) = ps.any (·.isError) := by
  simp only [Problem.isError_diagnostic]

/-- The graph of definitions, withheld where a problem fails linking. -/
def graph? (definitions : List Definition) : Option Graph :=
  if (graph definitions).problems.any (·.isError) then none else some (graph definitions).value

/-- The indices that linking reads from the definitions or from the graph: what a name stands for,
where the default of an attribute is looked up and where a lone name is linked; the position of each
definition; the bases that are followed; and the members of a cycle that is reported. -/
inductive Reads (definitions : List Definition) : StructureId → Prop
  | symbol {name : String} {id : StructureId} {d : Definition}
      (found : find? definitions name = some (id, d)) : Reads definitions id
  | target {owner : String} {usage : Usage} {name : Located String} {id : StructureId}
      (linked : (lookup definitions owner usage name).value = some (.declared id)) :
      Reads definitions id
  | position {d : Definition} {id : StructureId} (listed : (d, id) ∈ definitions.zipIdx) :
      Reads definitions id
  | base {id base : StructureId} (followed : (graph definitions).value.BasedOn id base) :
      Reads definitions base
  | member {start id : StructureId} {cycle : List StructureId}
      (listed : start ∈ (graph definitions).value.ofKind .dataType)
      (found : baseCycle? (graph definitions).value start = some cycle) (member : id ∈ cycle) :
      Reads definitions id

theorem basesFit (definitions : List Definition) : (graph definitions).value.BasesFit := by
  intro id base h
  have hs : (graph definitions).value.structures = (names definitions).value := by
    rw [value_graph]
    rfl
  unfold Graph.BasedOn Graph.base? at h
  split at h
  next type k hbody =>
    cases h
    have hid := Graph.getElem?_structures (Graph.lt_size_of_dataType hbody)
    rw [hs, names_value, List.getElem?_map, Option.map_eq_some_iff] at hid
    obtain ⟨d, -, hd⟩ := hid
    have hbase : (.baseType, .declared base) ∈
        (body definitions d.name.value d.body).value.references := by
      have hlinked : (body definitions d.name.value d.body).value = .dataType (.declared base) k :=
        (congrArg Structure.body hd).trans hbody
      simp [hlinked, Body.references]
    have hadmits : (graph definitions).value.Admits .baseType (.declared base) :=
      Admits.graph hs (body_admits d.body _ hbase)
    simpa [Place.kinds] using hadmits.2
  · cases h

theorem base_lt {definitions : List Definition} {id base : StructureId}
    (h : (graph definitions).value.BasedOn id base) : base < definitions.length := by
  have hlt := Graph.lt_size_of_kind (basesFit definitions id base h)
  rwa [size_graph] at hlt

theorem Reads.lt_length {definitions : List Definition} {id : StructureId}
    (h : Reads definitions id) : id < definitions.length := by
  cases h with
  | symbol found => exact (List.getElem?_eq_some_iff.mp (find?_eq_some found).1).1
  | target linked =>
    obtain ⟨d, hd, -⟩ := lookup_fits linked
    exact (List.getElem?_eq_some_iff.mp hd).1
  | position listed =>
    exact (List.getElem?_eq_some_iff.mp (List.mk_mem_zipIdx_iff_getElem?.mp listed)).1
  | base followed => exact base_lt followed
  | @member start _ _ listed found member =>
    obtain ⟨others, rfl, hothers, -⟩ := baseCycle?_eq_some found
    rcases List.mem_cons.mp member with rfl | hm
    · simp only [Graph.ofKind, List.mem_filter, Graph.mem_ids, size_graph] at listed
      exact listed.1
    · obtain ⟨before, hbase⟩ := hothers id hm
      exact base_lt hbase

end Link

/-- Answers with what was collected if it has an error, and with the graph otherwise. A graph that
is withheld then leaves nothing to tell. -/
def settle (collected : List Diagnostic) (graph? : Option Graph) :
    Except (List Diagnostic) Compiled :=
  if anyError collected then .error collected
  else
    match graph? with
    | some g => .ok ⟨g, collected⟩
    | none => .error []

/-- Checks and links declarations with the signs of failure apart: problems drop declarations and
withhold the graph, and the diagnostics decide the answer. -/
def compileApart (comments : List (Located String)) (ds : List Declaration) :
    Except (List Diagnostic) Compiled :=
  let noted := (Definition.ofDeclarations comments ds).problems.map (·.diagnostic)
  if anyError noted then settle noted none
  else
    let definitions := Definition.kept comments ds
    let found := (Link.graph definitions).problems.map (·.diagnostic)
    let named (g : Graph) : Graph := { g with formatName := Comment.formatName? comments ds }
    settle (noted ++ found) ((Link.graph? definitions).map named)

theorem compileApart_eq (comments : List (Located String)) (ds : List Declaration) :
    compileApart comments ds = (compileDeclarations comments ds).mapError (·.diagnostics) := by
  have hmap {α : Type} (f : α → Diagnostic) (ps : List α) :
      anyError (ps.map f) = ps.any (fun p => (f p).isError) := by
    simp [anyError, List.any_map, Function.comp_def]
  cases hd : (Definition.ofDeclarations comments ds).problems.any (·.diagnostic.isError) with
  | true => simp [compileApart, settle, compileDeclarations, hmap, hd, Except.mapError,
      CompileError.diagnostics]
  | false =>
    have happend (ps : List Link.Problem) :
        anyError ((Definition.ofDeclarations comments ds).problems.map (·.diagnostic)
          ++ ps.map (·.diagnostic)) = ps.any (·.isError) := by
      rw [anyError, List.any_append, ← anyError, ← anyError, hmap, hmap, hd, Link.any_isError,
        Bool.false_or]
    cases hl : (Link.graph (Definition.ofDeclarations comments ds).value).problems.any
        (·.isError) with
    | true => simp [compileApart, settle, compileDeclarations, hmap, hd, Definition.kept_eq hd,
        happend, hl, Except.mapError, CompileError.diagnostics]
    | false => simp [compileApart, settle, compileDeclarations, hmap, hd, Definition.kept_eq hd,
        happend, hl, Link.graph?, Except.mapError]

/-- A structure with the name, the kind and the root mark of a declaration. -/
structure Declaration.Becomes (d : Declaration) (s : Structure) : Prop where
  name : s.reference = d.name.value
  kind : s.kind = d.kind.value
  root : s.isRoot = d.isRoot

def Declaration.TakesRoot (d : Declaration) : Prop :=
  d.isRoot = true → d.kind.value = .element ∨ d.kind.value = .object

theorem Grammar.DerivesFile.takesRoot {ts : Tokens} {ds : List Declaration}
    (h : DerivesFile ts ds) : ∀ d ∈ ds, d.TakesRoot := by
  induction h with
  | nil => simp
  | cons first _ ih =>
    refine List.forall_mem_cons.mpr ⟨?_, ih⟩
    cases first with
    | plain => exact fun hroot => nomatch hroot
    | root _ _ _ _ _ _ _ takesRoot => exact fun _ => takesRoot

theorem Declaration.TakesRoot.becomes {d : Declaration} (h : d.TakesRoot)
    (comments : List (Located String)) (definitions : List Definition) :
    d.Becomes (Link.structureOf definitions (Definition.ofDeclaration comments d).value).value := by
  have hbody : ∀ b, (Definition.bodyOf d).value = b → b.kind = d.kind.value ∧
      (Link.body definitions d.name.value b).value.isRoot = d.isRoot := by
    rintro _ rfl
    unfold TakesRoot at h
    cases hk : d.kind.value with
    | object =>
      simp only [Definition.bodyOf, hk, Definition.objectBody, Checked.value_bind]
      split <;> exact ⟨rfl, rfl⟩
    | element =>
      simp only [Definition.bodyOf, hk]
      exact ⟨rfl, rfl⟩
    | _ =>
      have hroot : d.isRoot = false := by simpa [hk] using h
      simp only [Definition.bodyOf, hk, hroot]
      exact ⟨rfl, rfl⟩
  obtain ⟨hkind, hroot⟩ := hbody _ rfl
  exact ⟨rfl, (Link.structureOf_kind _).trans hkind, hroot⟩

theorem compileDeclarations_outcome {comments : List (Located String)} {ds : List Declaration}
    (h : ∀ d ∈ ds, d.TakesRoot) :
    Outcome (compileDeclarations comments ds)
      (fun c => (∀ w ∈ c.warnings, w.severity = .warning) ∧
        List.Forall₂ Declaration.Becomes ds c.graph.structures)
      fun e => e.phase.StopsWith e.diagnostics := by
  unfold compileDeclarations
  dsimp only
  split_ifs with hd hl
  · refine ⟨exists_error_of_any hd, ?_, nofun⟩
    intro d hm
    obtain ⟨p, -, rfl⟩ := List.mem_map.mp hm
    exact p.gives
  · rw [← Link.any_isError] at hl
    obtain ⟨d, hm, he⟩ := exists_error_of_any hl
    refine ⟨⟨d, List.mem_append_right _ hm, he⟩, ?_, nofun⟩
    intro d hm
    rcases List.mem_append.mp hm with hm | hm
    · exact Phase.gives_of_warning (forall_warning_of_any (by simpa using hd) d hm)
    · obtain ⟨p, -, rfl⟩ := List.mem_map.mp hm
      exact p.gives
  · rw [← Link.any_isError] at hl
    constructor
    · intro w hw
      rcases List.mem_append.mp hw with hw | hw
      · exact forall_warning_of_any (by simpa using hd) w hw
      · exact forall_warning_of_any (by simpa using hl) w hw
    · simp only [Link.value_graph, Graph.ofStructures, Link.names_value,
        Definition.value_ofDeclarations, List.map_map, List.forall₂_map_right_iff,
        Function.comp_apply, List.forall₂_same]
      exact fun d hm => (h d hm).becomes _ _

theorem tokenize_error {source : String} {faults : List (Located Token.Fault)}
    (h : tokenize source = .error faults) : faults ≠ [] := by
  unfold tokenize at h
  dsimp only at h
  split_ifs at h with hf
  cases h
  simpa using hf

theorem Token.Fault.diagnostic_gives (f : Located Token.Fault) :
    Phase.tokens.Gives (Token.Fault.diagnostic f) := by
  refine Phase.gives_error ?_ _ _ _
  cases f.value <;> decide

theorem SyntaxError.diagnostic_gives (e : SyntaxError) (tokens : List (Located Token)) :
    (e.diagnostic tokens).severity = .error ∧ Phase.declarations.Gives (e.diagnostic tokens) := by
  have hcode : e.code.name ∈ Phase.declarations.codes := by
    unfold code
    split_ifs <;> decide
  unfold diagnostic
  dsimp only
  split
  · exact ⟨rfl, Phase.gives_error hcode _ _ _⟩
  · exact ⟨rfl, Phase.gives_error hcode _ _ _⟩

theorem compile_outcome (source : String) :
    Outcome (compile source)
      (fun c => ∃ lexed ds, tokenize source = .ok lexed ∧
        parseDeclarations lexed.tokens = .ok ds ∧ (∀ w ∈ c.warnings, w.severity = .warning) ∧
        List.Forall₂ Declaration.Becomes ds c.graph.structures)
      fun e => e.phase.StopsWith e.diagnostics := by
  unfold compile
  cases ht : tokenize source with
  | error faults =>
    obtain ⟨f, fs, rfl⟩ := List.exists_cons_of_ne_nil (tokenize_error ht)
    refine ⟨⟨_, List.mem_cons_self, rfl⟩, ?_, nofun⟩
    intro d hm
    obtain ⟨fault, -, rfl⟩ := List.mem_map.mp hm
    exact Token.Fault.diagnostic_gives fault
  | ok lexed =>
    dsimp only
    cases hp : parseDeclarations lexed.tokens with
    | error e =>
      obtain ⟨hs, hg⟩ := e.diagnostic_gives lexed.tokens
      exact ⟨⟨_, List.mem_cons_self, hs⟩, List.forall_mem_singleton.mpr hg, fun _ => rfl⟩
    | ok ds =>
      have hroots := (Grammar.parseDeclarations_eq_ok_iff.mp hp).takesRoot
      exact (compileDeclarations_outcome hroots).weaken fun c hc => ⟨lexed, ds, rfl, hp, hc⟩

/-- Every text compiles to warnings and one structure for each declaration, in order and with its
name, kind and root mark, or it stops in one phase with errors of that phase, and not both. Keeping
the signs of failure apart gives the same answer and never an empty one, and no index that linking
reads is out of range. -/
theorem compile_stops_in_one_phase (source : String) :
    Xor
      (∃ c lexed ds, compile source = .ok c ∧ tokenize source = .ok lexed ∧
        parseDeclarations lexed.tokens = .ok ds ∧ (∀ w ∈ c.warnings, w.severity = .warning) ∧
        List.Forall₂ Declaration.Becomes ds c.graph.structures)
      (∃ e, compile source = .error e ∧ e.phase.StopsWith e.diagnostics) ∧
    ∀ lexed ds, tokenize source = .ok lexed → parseDeclarations lexed.tokens = .ok ds →
      compileApart lexed.comments ds = (compile source).mapError (·.diagnostics) ∧
      compileApart lexed.comments ds ≠ .error [] ∧
      (∀ id, Link.Reads (Definition.kept lexed.comments ds) id →
        id < (Definition.kept lexed.comments ds).length) ∧
      ∀ id cycle, Link.baseCycle? (Link.graph (Definition.kept lexed.comments ds)).value id =
        some cycle → cycle ≠ [] := by
  have houtcome := compile_outcome source
  constructor
  · cases hc : compile source with
    | ok c =>
      rw [hc] at houtcome
      obtain ⟨lexed, ds, hanswer⟩ := houtcome
      refine .inl ⟨⟨c, lexed, ds, rfl, hanswer⟩, ?_⟩
      rintro ⟨e, he, -⟩
      cases he
    | error e =>
      rw [hc] at houtcome
      refine .inr ⟨⟨e, rfl, houtcome⟩, ?_⟩
      rintro ⟨c, lexed, ds, hok, -⟩
      cases hok
  · intro lexed ds ht hp
    have hc : compile source = compileDeclarations lexed.comments ds := by
      simp [compile, ht, hp]
    have hapart := compileApart_eq lexed.comments ds
    rw [← hc] at hapart
    refine ⟨hapart, ?_, fun id => Link.Reads.lt_length, ?_⟩
    · intro hnone
      rw [hapart] at hnone
      cases hc : compile source with
      | ok c => simp [hc, Except.mapError] at hnone
      | error e =>
        rw [hc] at houtcome hnone
        obtain ⟨d, hd, -⟩ := Phase.StopsWith.error houtcome
        have hempty : e.diagnostics = [] := by simpa [Except.mapError] using hnone
        simp [hempty] at hd
    · intro id cycle hcycle hnil
      obtain ⟨others, hcons, -⟩ := Link.baseCycle?_eq_some hcycle
      rw [hnil] at hcons
      cases hcons

/-- A schema with two warnings: a child listed twice, and a default that is never used. -/
def warnedSource : String :=
  "root element a \x7battributes: x; allowedContent: \x7bb, b\x7d;\x7d element b \x7b\x7d
  attribute x \x7bdefaultValue: '1';\x7d"

set_option maxRecDepth 2000 in
theorem compile_stops_in_one_phase_warned :
    ∃ c lexed ds, compile warnedSource = .ok c ∧ c.warnings.length = 2 ∧
      tokenize warnedSource = .ok lexed ∧ parseDeclarations lexed.tokens = .ok ds ∧
      (∀ w ∈ c.warnings, w.severity = .warning) ∧
      List.Forall₂ Declaration.Becomes ds c.graph.structures ∧
      compileApart lexed.comments ds = .ok c := by
  obtain ⟨c, hc, hn⟩ : ∃ c, compile warnedSource = .ok c ∧ (c.warnings.length == 2) = true :=
    exists_compiled (String.toList_ofList : warnedSource.toList = _)
      (fun c => c.warnings.length == 2) (by decide +kernel)
  obtain ⟨hanswer, hapart⟩ := compile_stops_in_one_phase warnedSource
  obtain ⟨⟨c', lexed, ds, hc', ht, hp, hw, hs⟩, -⟩ | ⟨⟨e, he, -⟩, -⟩ := hanswer
  · rw [hc] at hc'
    cases hc'
    refine ⟨c, lexed, ds, hc, by simpa using hn, ht, hp, hw, hs, ?_⟩
    rw [(hapart lexed ds ht hp).1, hc]
    rfl
  · rw [hc] at he
    cases he

end DocSchema
