import DocSchema.Proofs.Compile
import DocSchema.Proofs.Places.Link
import DocSchema.Proofs.Token.Insertion

/-!
# Comments and meaning

A comment between tokens moves the tokens behind it and can name the format or describe a structure.
It changes nothing else: the text compiles to the same graph, or fails with the same messages.
-/
namespace DocSchema

def Label.bare (l : Label) : Label := { l with span := .point 0 }

def Diagnostic.bare (d : Diagnostic) : Diagnostic := { d with labels := d.labels.map Label.bare }

section Diagnostics

theorem Value.shape_bare (v : Value) : v.bare.shape = v.shape := by
  cases v with
  | list compositor entries span => cases compositor <;> rfl
  | _ => rfl

theorem Definition.Problem.diagnostic_bare (p : Definition.Problem) :
    p.bare.diagnostic.bare = p.diagnostic.bare := by
  cases p with
  | wrongShape owner property value expected =>
    simp only [bare, diagnostic, Value.shape_bare]
    rfl
  | repeatedMember owner r =>
    have hconflict : r.bare.isConflict = r.isConflict := rfl
    simp only [bare, diagnostic, hconflict]
    split_ifs <;> rfl
  | _ => rfl

theorem Link.Problem.diagnostic_bare (p : Link.Problem) :
    p.bare.diagnostic.bare = p.diagnostic.bare := by
  cases p with
  | cyclicBase first others =>
    have hnames : (first.bare :: others.map Located.bare ++ [first.bare]).map (·.value) =
        (first :: others ++ [first]).map (·.value) := by simp
    simp only [bare, diagnostic, Diagnostic.bare, Diagnostic.error, hnames, List.map_cons,
      List.map_map]
    rfl
  | _ => rfl

theorem Definition.diagnostics_bare (ps : List Definition.Problem) :
    ((ps.map Problem.bare).map (·.diagnostic)).map Diagnostic.bare =
      (ps.map (·.diagnostic)).map Diagnostic.bare := by
  rw [List.map_map, List.map_map, List.map_map]
  exact List.map_congr_left fun p _ => p.diagnostic_bare

theorem Link.diagnostics_bare (ps : List Link.Problem) :
    ((ps.map Problem.bare).map (·.diagnostic)).map Diagnostic.bare =
      (ps.map (·.diagnostic)).map Diagnostic.bare := by
  rw [List.map_map, List.map_map, List.map_map]
  exact List.map_congr_left fun p _ => p.diagnostic_bare

theorem SyntaxError.diagnostic_bare (tokens tokens' : List (Located Token)) (e : SyntaxError) :
    (e.bare.diagnostic tokens').bare = (e.diagnostic tokens).bare := by
  obtain ⟨expected, _ | ⟨t, rest⟩, _ | within⟩ := e <;> rfl

end Diagnostics

/-- What is left of a compilation without places and without what comments say. -/
def meaning : Except CompileError Compiled → Except (List Diagnostic) (Graph × List Diagnostic) :=
  bimapResult (·.diagnostics.map Diagnostic.bare) fun c =>
    (c.graph.bare, c.warnings.map Diagnostic.bare)

theorem compileDeclarations_bare (comments : List (Located String)) (ds : List Declaration) :
    meaning (compileDeclarations [] (ds.map Declaration.bare)) =
      meaning (compileDeclarations comments ds) := by
  have herror (ps : List Definition.Problem) :
      (ps.map Definition.Problem.bare).any (·.diagnostic.isError) =
        ps.any (·.diagnostic.isError) := by
    rw [List.any_map]
    refine congrArg ps.any (funext fun p => ?_)
    have hp := congrArg Diagnostic.isError p.diagnostic_bare
    exact hp
  have herror' (ps : List Link.Problem) :
      (ps.map Link.Problem.bare).any (·.isError) = ps.any (·.isError) := by
    rw [List.any_map]
    exact congrArg ps.any (funext Link.isError_bare)
  simp only [compileDeclarations, Definition.ofDeclarations_bare comments, Checked.bimap,
    Link.graph_bare, herror, herror']
  split_ifs
  · simp only [meaning, bimapResult, CompileError.diagnostics, Definition.diagnostics_bare]
  · simp only [meaning, bimapResult, CompileError.diagnostics, List.map_append,
      Definition.diagnostics_bare, Link.diagnostics_bare]
  · have hgraph (g : Graph) (name name' : Option String) :
        Graph.bare { g.bare with formatName := name } =
          Graph.bare { g with formatName := name' } := by
      simp only [Graph.bare, List.map_map]
      rfl
    simp only [meaning, bimapResult, List.map_append, Definition.diagnostics_bare,
      Link.diagnostics_bare]
    exact congrArg (fun g => Except.ok (g, _)) (hgraph _ _ _)

theorem compile_of_tokenize {source : String} {lexed : Lexed} (h : tokenize source = .ok lexed) :
    compile source = compileScan ⟨lexed.tokens, lexed.comments, []⟩ := by
  rw [compile, h]
  rfl

theorem meaning_compileScan (tokens : List (Located Token)) (comments : List (Located String)) :
    meaning (compileScan ⟨Parser.bareRest tokens, [], []⟩) =
      meaning (compileScan ⟨tokens, comments, []⟩) := by
  have hscan (tokens : List (Located Token)) (comments : List (Located String)) :
      compileScan ⟨tokens, comments, []⟩ =
        (parseDeclarations tokens).mapError (.syntactic tokens) >>=
          compileDeclarations comments := by
    unfold compileScan
    cases parseDeclarations tokens <;> rfl
  rw [hscan, hscan, parseDeclarations_bare]
  cases parseDeclarations tokens with
  | error e =>
    have he := e.diagnostic_bare tokens (Parser.bareRest tokens)
    exact congrArg (fun d => Except.error [d]) he
  | ok ds => exact compileDeclarations_bare comments ds

theorem meaning_of_tokens {source source' : String} {lexed lexed' : Lexed}
    (h : tokenize source = .ok lexed) (h' : tokenize source' = .ok lexed')
    (ht : lexed'.tokens.map (·.value) = lexed.tokens.map (·.value)) :
    meaning (compile source') = meaning (compile source) := by
  have hbare (ts : List (Located Token)) :
      Parser.bareRest ts = (ts.map (·.value)).map (⟨·, .point 0⟩) := by
    rw [List.map_map]
    rfl
  rw [compile_of_tokenize h, compile_of_tokenize h', ← meaning_compileScan lexed.tokens,
    ← meaning_compileScan lexed'.tokens, hbare, hbare, ht]

/-- A comment that is inserted between the tokens and comments of a text changes no token. The text
compiles with and without it, to the same graph up to remarks and the name of the format and with
the same warnings, or it fails with the same errors. Errors and warnings differ in their places
only. -/
theorem compile_insert_comment {before after body : String} {lexed : Lexed}
    (h : tokenize (before ++ after) = .ok lexed)
    (hp : lexed.Between (byteSize before.toList)) (hb : ¬['*', '/'] <:+: body.toList) :
    let inserted := before ++ "/*" ++ body ++ "*/" ++ after
    (∃ lexed', tokenize inserted = .ok lexed' ∧
      lexed'.tokens.map (·.value) = lexed.tokens.map (·.value)) ∧
    ((∃ e e', compile (before ++ after) = .error e ∧ compile inserted = .error e' ∧
        e'.diagnostics.map Diagnostic.bare = e.diagnostics.map Diagnostic.bare) ∨
      ∃ c c', compile (before ++ after) = .ok c ∧ compile inserted = .ok c' ∧
        c'.graph.bare = c.graph.bare ∧
        c'.warnings.map Diagnostic.bare = c.warnings.map Diagnostic.bare) := by
  intro inserted
  obtain ⟨lexed', h', ht⟩ := tokenize_insert h hp hb
  have hsame : meaning (compile inserted) = meaning (compile (before ++ after)) :=
    meaning_of_tokens h h' ht
  refine ⟨⟨lexed', h', ht⟩, ?_⟩
  cases hc : compile (before ++ after) with
  | error e =>
    cases hc' : compile inserted with
    | error e' =>
      rw [hc, hc'] at hsame
      exact .inl ⟨e, e', rfl, rfl, Except.error.inj hsame⟩
    | ok c' =>
      rw [hc, hc'] at hsame
      cases hsame
  | ok c =>
    cases hc' : compile inserted with
    | error e' =>
      rw [hc, hc'] at hsame
      cases hsame
    | ok c' =>
      rw [hc, hc'] at hsame
      obtain ⟨hg, hw⟩ := Prod.mk.inj (Except.ok.inj hsame)
      exact .inr ⟨c, c', rfl, rfl, hg, hw⟩

/-- A declaration up to a pattern, which a default value cannot be. -/
def beforePattern : String := "attribute w \x7bdefaultValue:"

def fromPattern : String := "/x/;\x7d"

set_option maxRecDepth 4000 in
theorem compile_insert_comment_beforePattern :
    ∃ lexed e e', tokenize (beforePattern ++ fromPattern) = .ok lexed ∧
      lexed.Between (byteSize beforePattern.toList) ∧ ¬['*', '/'] <:+: "/*".toList ∧
      compile (beforePattern ++ fromPattern) = .error e ∧
      compile (beforePattern ++ "/*" ++ "/*" ++ "*/" ++ fromPattern) = .error e' ∧
      e'.diagnostics.map Diagnostic.bare = e.diagnostics.map Diagnostic.bare := by
  have hbefore : beforePattern.toList = _ := String.toList_ofList
  have htext : (beforePattern ++ fromPattern).toList = _ :=
    String.toList_append.trans (congrArg₂ (· ++ ·) hbefore String.toList_ofList)
  obtain ⟨lexed, hlexed, hp⟩ : ∃ lexed, tokenize (beforePattern ++ fromPattern) = .ok lexed ∧
      lexed.Between (byteSize beforePattern.toList) := by
    refine ⟨_, tokenize_of_scan htext (by decide), ?_⟩
    rw [hbefore]
    decide
  have hb : ¬['*', '/'] <:+: "/*".toList := by decide
  have hfails : (compile (beforePattern ++ fromPattern)).toOption.isNone = true := by
    rw [compile_eq_compileScan, htext]
    decide
  obtain ⟨-, ⟨e, e', he, he', hsame⟩ | ⟨c, c', hc, -⟩⟩ := compile_insert_comment hlexed hp hb
  · exact ⟨lexed, e, e', hlexed, hp, hb, he, he', hsame⟩
  · rw [hc] at hfails
    cases hfails

end DocSchema
