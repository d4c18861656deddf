import DocSchema.Proofs.CommentInsertion
import DocSchema.Proofs.Embedding
import DocSchema.Proofs.Places.Shift
import DocSchema.Proofs.Remarks

/-!
# Files one behind the other

Two files with a line break between them are one file with the declarations of both. A comment of
either file stands outside of every declaration of the other, so declarations keep their remarks. If
both files compile and have no name in common, they compile together, to the structures of the first
followed by those of the second with their indices moved behind the first.
-/
namespace DocSchema

namespace Comment

variable {comments others : List (Located String)} {d : Declaration} {ds ds' : List Declaration}
  {n : Nat}

section Shift

theorem bodyStop_shift (n : Nat) (d : Declaration) : bodyStop (d.shift n) = bodyStop d + n := by
  unfold bodyStop Declaration.shift
  cases d.properties <;> rfl

theorem opens_shift (n : Nat) (d : Declaration) (c : Located String) :
    opens (d.shift n) (c.shift n) = opens d c := by
  rw [opens, opens, bodyStop_shift]
  simp [Declaration.shift, Located.shift, Span.shift]

theorem remarks_eq (comments : List (Located String)) (d : Declaration) :
    remarks comments d = ((comments.find? (opens d)).map (remarksOf ·.value)).getD .none := by
  unfold remarks
  cases comments.find? (opens d) <;> rfl

theorem remarks_shift (n : Nat) (comments : List (Located String)) (d : Declaration) :
    remarks (comments.map (Located.shift n)) (d.shift n) = remarks comments d := by
  have hopens : opens (d.shift n) ∘ Located.shift n = opens d := funext (opens_shift n d)
  rw [remarks_eq, remarks_eq, List.find?_map, hopens, Option.map_map]
  rfl

end Shift

theorem remarks_append_left (h : ∀ c ∈ others, opens d c = false) :
    remarks (comments ++ others) d = remarks comments d := by
  have hnone : others.find? (opens d) = none := List.find?_eq_none.mpr (by simpa using h)
  rw [remarks_eq, remarks_eq, List.find?_append, hnone, Option.or_none]

theorem remarks_append_right (h : ∀ c ∈ comments, opens d c = false) :
    remarks (comments ++ others) d = remarks others d := by
  have hnone : comments.find? (opens d) = none := List.find?_eq_none.mpr (by simpa using h)
  rw [remarks_eq, remarks_eq, List.find?_append, hnone, Option.none_or]

structure EndBefore (n : Nat) (comments : List (Located String)) (ds : List Declaration) :
    Prop where
  comments : ∀ c ∈ comments, c.span.start ≤ c.span.stop ∧ c.span.stop < n
  declarations : ∀ d ∈ ds, d.span.start ≤ d.span.stop ∧ d.span.stop < n
  within : ∀ d ∈ ds, ∀ c, opens d c = true → c.span.stop < d.span.stop

theorem endBefore_of_parse {source : String} {lexed : Lexed} (ht : tokenize source = .ok lexed)
    (hp : parseDeclarations lexed.tokens = .ok ds) :
    EndBefore (byteSize source.toList + 1) lexed.comments ds := by
  have hl := laid_of_parse ht hp
  obtain ⟨htokens, hcomments⟩ := tokenize_stop_le ht
  refine ⟨fun c hc => ?_, fun d hd => ?_, fun d hd c hc => (hl.within hd hc).2⟩
  · have hstop := hcomments c hc
    simp only [Token.Piece.span] at hstop
    exact ⟨(hl.clear c hc).start_le, by omega⟩
  · obtain ⟨-, -, -, hle⟩ := hl.exists_start hd
    obtain ⟨before, own, after, hown, hf⟩ := hl.frames d hd
    obtain ⟨t, hin, hstop⟩ := hf.stops
    have hlast := htokens t (by simp [hown, hin])
    exact ⟨hle, by omega⟩

namespace EndBefore

variable (h : EndBefore n comments ds)
include h

theorem remarks_left (hd : d ∈ ds) :
    remarks (comments ++ others.map (Located.shift n)) d = remarks comments d := by
  refine remarks_append_left fun c hc => Bool.eq_false_iff.mpr fun hopen => ?_
  obtain ⟨c, -, rfl⟩ := List.mem_map.mp hc
  have hin := h.within d hd _ hopen
  have hstop := (h.declarations d hd).2
  simp only [Located.shift, Span.shift] at hin
  omega

theorem remarks_right (d : Declaration) :
    remarks (comments ++ others.map (Located.shift n)) (d.shift n) = remarks others d := by
  rw [← remarks_shift n others]
  refine remarks_append_right fun c hc => Bool.eq_false_iff.mpr fun hopen => ?_
  have hstop := h.comments c hc
  simp only [opens, Bool.and_eq_true, decide_eq_true_eq] at hopen
  have hstart : d.opening.stop + n < c.span.start := hopen.1
  omega

theorem formatName?_append :
    formatName? (comments ++ others.map (Located.shift n)) (ds ++ ds'.map (Declaration.shift n)) =
      if comments.isEmpty && ds.isEmpty then formatName? others ds'
      else formatName? comments ds := by
  simp only [formatName?_eq]
  cases comments with
  | cons header comments =>
    -- the header ends before the second file starts
    have hstop := (h.comments header (by simp)).2
    cases ds with
    | cons d ds => rfl
    | nil =>
      have hbefore : ∀ d ∈ (ds'.map (Declaration.shift n)).head?,
          header.span.stop ≤ d.span.start := by
        intro d hd
        obtain ⟨e, -, rfl⟩ := List.mem_map.mp (List.mem_of_mem_head? hd)
        simp only [Declaration.shift, Span.shift]
        omega
      rw [List.nil_append, List.cons_append, List.head?_cons, Option.bind_some, if_pos hbefore]
      simp
  | nil =>
    cases ds with
    | nil =>
      cases others <;> cases ds' <;> simp [Located.shift, Declaration.shift, Span.shift]
    | cons d ds =>
      -- a comment of the second file stands behind the first declaration
      have hd := h.declarations d (by simp)
      cases others with
      | nil => rfl
      | cons header others =>
        have hbehind : ¬header.span.stop + n ≤ d.span.start := by omega
        simp [Located.shift, Span.shift, hbehind]

end EndBefore

end Comment

namespace Link

variable {definitions definitions' : List Definition}

theorem graph_append (hc : (graph definitions).problems.any (·.isError) = false)
    (hc' : (graph definitions').problems.any (·.isError) = false)
    (hn : ∀ d ∈ definitions, ∀ e ∈ definitions', d.name.value ≠ e.name.value) :
    (graph (definitions ++ definitions')).problems.any (·.isError) = false ∧
      (graph (definitions ++ definitions')).value.structures =
        (graph definitions).value.structures ++
          (graph definitions').value.structures.map
            (Structure.rename (· + definitions.length)) := by
  obtain ⟨hdistinct, -, -⟩ := names_clean_iff.mp (names_problems_of_graph hc)
  obtain ⟨hdistinct', -, -⟩ := names_clean_iff.mp (names_problems_of_graph hc')
  have hall : ((definitions ++ definitions').map (·.name.value)).Nodup := by
    rw [List.map_append, List.nodup_append]
    exact ⟨hdistinct, hdistinct', by simpa using hn⟩
  have hleft : Embeds id definitions (definitions ++ definitions') := by
    refine ⟨fun k d hd => ?_, hall⟩
    rw [id, List.getElem?_append_left (List.getElem?_eq_some_iff.mp hd).1, hd]
  have hright : Embeds (· + definitions.length) definitions' (definitions ++ definitions') := by
    refine ⟨fun k d hd => ?_, hall⟩
    rw [List.getElem?_append_right (Nat.le_add_left _ _), Nat.add_sub_cancel, hd]
  refine ⟨clean_of_parts hall fun k d hd => ?_, ?_⟩
  · by_cases hk : k < definitions.length
    · rw [List.getElem?_append_left hk] at hd
      exact ⟨id, definitions, k, hleft, hc, hd, rfl⟩
    · rw [List.getElem?_append_right (Nat.le_of_not_lt hk)] at hd
      exact ⟨_, definitions', k - definitions.length, hright, hc', hd,
        Nat.sub_add_cancel (Nat.le_of_not_lt hk)⟩
  · simp only [value_graph, Graph.ofStructures, names_value, List.map_append, List.map_map]
    refine congrArg₂ (· ++ ·) (List.map_congr_left fun d hd => ?_)
      (List.map_congr_left fun d hd => (hright.structureOf_passes hc' hd).1)
    rw [(hleft.structureOf_passes hc hd).1, Structure.rename_id]

end Link

section Declarations

variable {comments comments' : List (Located String)} {ds ds' : List Declaration} {c c' : Compiled}

theorem compileDeclarations_structures (hc : compileDeclarations comments ds = .ok c) :
    c.graph.structures = (Link.graph
      (ds.map fun d => (Definition.ofDeclaration comments d).value)).value.structures := by
  obtain ⟨-, -, hg, -⟩ := compileDeclarations_ok hc
  rw [hg, Definition.value_ofDeclarations]

theorem compileDeclarations_remarks (hc : compileDeclarations comments ds = .ok c) :
    c.graph.structures.map (·.remarks) = ds.map (Comment.remarks comments) := by
  rw [compileDeclarations_structures hc]
  simp only [Link.value_graph, Graph.ofStructures, Link.names_value, List.map_map]
  rfl

theorem compileDeclarations_references (hc : compileDeclarations comments ds = .ok c) :
    c.graph.structures.map (·.reference) = ds.map (·.name.value) := by
  rw [compileDeclarations_structures hc]
  simp only [Link.value_graph, Graph.ofStructures, Link.names_value, List.map_map]
  rfl

theorem Structure.eq_of_bare {ss ss' : List Structure}
    (hbare : ss'.map Structure.bare = ss.map Structure.bare)
    (hremarks : ss'.map (·.remarks) = ss.map (·.remarks)) : ss' = ss := by
  have hrebuilt (ss : List Structure) : List.zipWith (fun s r => { s with remarks := r })
      (ss.map Structure.bare) (ss.map (·.remarks)) = ss := by
    rw [List.zipWith_map, List.zipWith_self]
    exact List.map_id ss
  rw [← hrebuilt ss, ← hrebuilt ss', hbare, hremarks]

theorem compileDeclarations_of_bare
    (hbare : ds'.map Declaration.bare = ds.map Declaration.bare)
    (hremarks : ds'.map (Comment.remarks comments') = ds.map (Comment.remarks comments))
    (hc : compileDeclarations comments ds = .ok c) :
    ∃ c', compileDeclarations comments' ds' = .ok c' ∧
      c'.graph.structures = c.graph.structures := by
  have hsame : meaning (compileDeclarations comments' ds') = meaning (.ok c) := by
    rw [← compileDeclarations_bare, hbare, compileDeclarations_bare comments, hc]
  cases hc' : compileDeclarations comments' ds' with
  | error e =>
    rw [hc'] at hsame
    cases hsame
  | ok c' =>
    rw [hc'] at hsame
    obtain ⟨hgraph, -⟩ := Prod.mk.inj (Except.ok.inj hsame)
    refine ⟨c', rfl, Structure.eq_of_bare (Graph.mk.inj hgraph).2 ?_⟩
    rw [compileDeclarations_remarks hc', compileDeclarations_remarks hc, hremarks]

theorem compileDeclarations_append (hc : compileDeclarations comments ds = .ok c)
    (hc' : compileDeclarations comments ds' = .ok c')
    (hn : ∀ d ∈ ds, ∀ e ∈ ds', d.name.value ≠ e.name.value) :
    ∃ whole, compileDeclarations comments (ds ++ ds') = .ok whole ∧
      whole.graph.structures = c.graph.structures ++
        c'.graph.structures.map (Structure.rename (· + c.graph.size)) := by
  obtain ⟨hd, hl, -, -⟩ := compileDeclarations_ok hc
  obtain ⟨hd', hl', -, -⟩ := compileDeclarations_ok hc'
  rw [Definition.problems_ofDeclarations] at hd hd'
  rw [Definition.value_ofDeclarations] at hl hl'
  have hnames : ∀ d ∈ ds.map (fun d => (Definition.ofDeclaration comments d).value),
      ∀ e ∈ ds'.map (fun d => (Definition.ofDeclaration comments d).value),
        d.name.value ≠ e.name.value := by
    simp only [List.forall_mem_map]
    exact hn
  obtain ⟨hclean, hstructures⟩ := Link.graph_append hl hl' hnames
  obtain ⟨whole, hw⟩ : ∃ whole, compileDeclarations comments (ds ++ ds') = .ok whole := by
    refine compileDeclarations_isOk_iff.mpr ⟨?_, ?_⟩
    · rw [Definition.problems_ofDeclarations, List.flatMap_append, List.any_append, hd, hd']
      rfl
    · rw [Definition.value_ofDeclarations, List.map_append]
      exact hclean
  have hsize : c.graph.size =
      (ds.map fun d => (Definition.ofDeclaration comments d).value).length := by
    rw [Graph.size, compileDeclarations_structures hc]
    exact Link.size_graph _
  refine ⟨whole, hw, ?_⟩
  rw [compileDeclarations_structures hw, compileDeclarations_structures hc,
    compileDeclarations_structures hc', hsize, List.map_append, hstructures]

end Declarations

section Files

variable {first second : String} {lexed lexed' : Lexed} {ds ds' : List Declaration}

theorem compile_of_parse (ht : tokenize first = .ok lexed)
    (hp : parseDeclarations lexed.tokens = .ok ds) :
    compile first = compileDeclarations lexed.comments ds := by
  rw [compile, ht]
  simp only [hp]

/-- A file that was read ends with a brace, so what follows it is read as before. -/
theorem parse_append (ht : tokenize first = .ok lexed)
    (hp : parseDeclarations lexed.tokens = .ok ds) (ht' : tokenize second = .ok lexed')
    (hp' : parseDeclarations lexed'.tokens = .ok ds') :
    let n := byteSize first.toList + 1
    let joined := lexed.append (lexed'.shift n)
    tokenize (first ++ "\n" ++ second) = .ok joined ∧
      parseDeclarations joined.tokens = .ok (ds ++ ds'.map (Declaration.shift n)) := by
  have hd := Grammar.parseDeclarations_eq_ok_iff.mp hp
  have hd' := Grammar.parseDeclarations_eq_ok_iff.mp hp'
  refine ⟨tokenize_append ht ht' fun t hlast => ?_, ?_⟩
  · rw [hd.getLast?_value t hlast]
    simp
  · exact Grammar.parseDeclarations_eq_ok_iff.mpr (hd.append hd'.shift)

/-- Two files with a line break between them are read as one: it has the tokens, comments and
declarations of the first, followed by those of the second, further on by the size of the first and
one. If both compile and no name is declared in both, they compile together. The structures are
those of the first, followed by those of the second with every index moved behind the first; names,
remarks and everything else stay. The name of the format is that of the first, unless there is
nothing in it. -/
theorem compile_concatenation (ht : tokenize first = .ok lexed)
    (hp : parseDeclarations lexed.tokens = .ok ds) (ht' : tokenize second = .ok lexed')
    (hp' : parseDeclarations lexed'.tokens = .ok ds') :
    let n := byteSize first.toList + 1
    (∃ joined, tokenize (first ++ "\n" ++ second) = .ok joined ∧
      joined.tokens = lexed.tokens ++ lexed'.tokens.map (Located.shift n) ∧
      joined.comments = lexed.comments ++ lexed'.comments.map (Located.shift n) ∧
      parseDeclarations joined.tokens = .ok (ds ++ ds'.map (Declaration.shift n))) ∧
    ∀ c c', compile first = .ok c → compile second = .ok c' →
      (∀ d ∈ ds, ∀ e ∈ ds', d.name.value ≠ e.name.value) →
      ∃ whole, compile (first ++ "\n" ++ second) = .ok whole ∧
        whole.graph.structures = c.graph.structures ++
          c'.graph.structures.map (Structure.rename (· + c.graph.size)) ∧
        whole.graph.formatName = if lexed.comments.isEmpty && ds.isEmpty then c'.graph.formatName
          else c.graph.formatName := by
  intro n
  obtain ⟨htj, hpj⟩ := parse_append ht hp ht' hp'
  refine ⟨⟨_, htj, rfl, rfl, hpj⟩, fun c c' hc hc' hn => ?_⟩
  rw [compile_of_parse ht hp] at hc
  rw [compile_of_parse ht' hp'] at hc'
  have hend := Comment.endBefore_of_parse ht hp
  let comments := lexed.comments ++ lexed'.comments.map (Located.shift n)
  obtain ⟨c₁, hc₁, hs₁⟩ : ∃ c₁, compileDeclarations comments ds = .ok c₁ ∧
      c₁.graph.structures = c.graph.structures :=
    compileDeclarations_of_bare rfl (List.map_congr_left fun d hd => hend.remarks_left hd) hc
  obtain ⟨c₂, hc₂, hs₂⟩ : ∃ c₂,
      compileDeclarations comments (ds'.map (Declaration.shift n)) = .ok c₂ ∧
        c₂.graph.structures = c'.graph.structures := by
    refine compileDeclarations_of_bare ?_ ?_ hc'
    · rw [List.map_map]
      exact List.map_congr_left fun d _ => d.bare_shift n
    · rw [List.map_map]
      exact List.map_congr_left fun d _ => hend.remarks_right d
  have hnames : ∀ d ∈ ds, ∀ e ∈ ds'.map (Declaration.shift n), d.name.value ≠ e.name.value := by
    simp only [List.forall_mem_map]
    exact hn
  obtain ⟨whole, hw, hstructures⟩ := compileDeclarations_append hc₁ hc₂ hnames
  refine ⟨whole, (compile_of_parse htj hpj).trans hw, ?_, ?_⟩
  · rw [hstructures, hs₁, hs₂, Graph.size, hs₁]
    rfl
  · obtain ⟨-, -, hg, -⟩ := compileDeclarations_ok hc
    obtain ⟨-, -, hg', -⟩ := compileDeclarations_ok hc'
    obtain ⟨-, -, hgw, -⟩ := compileDeclarations_ok hw
    rw [hg, hg', hgw]
    exact hend.formatName?_append

/-- A file with a header, a described and recursive element, and a comment and blanks at its end. -/
def upperFile : String :=
  "/*Format Name:f*/root element a \x7b/*Description:é*/allowedContent: [b, a (optional)];\x7d
  element b \x7ballowedContent: w;\x7d dataType w \x7bbaseType: integer;\x7d/*Description:u*/ "

/-- A file that starts with a comment and has a chain of data types, one of them with an example. -/
def lowerFile : String :=
  "/*Format Name:g*/dataType v \x7b/*Example Value:7*/baseType: u;\x7d
  dataType u \x7bbaseType: integer;\x7d attribute x \x7bvalueType: v;\x7d"

set_option maxRecDepth 4000 in
theorem compile_concatenation_upper_lower :
    ∃ lexed lexed' ds ds' c c' joined whole,
      (tokenize upperFile = .ok lexed ∧ parseDeclarations lexed.tokens = .ok ds) ∧
      (tokenize lowerFile = .ok lexed' ∧ parseDeclarations lexed'.tokens = .ok ds') ∧
      (compile upperFile = .ok c ∧ compile lowerFile = .ok c') ∧
      (∀ d ∈ ds, ∀ e ∈ ds', d.name.value ≠ e.name.value) ∧
      tokenize (upperFile ++ "\n" ++ lowerFile) = .ok joined ∧
      parseDeclarations joined.tokens =
        .ok (ds ++ ds'.map (Declaration.shift (byteSize upperFile.toList + 1))) ∧
      compile (upperFile ++ "\n" ++ lowerFile) = .ok whole ∧
      c'.graph.structures.map (·.remarks) = [⟨none, some "7"⟩, .none, .none] ∧
      whole.graph.structures =
        c.graph.structures ++ c'.graph.structures.map (Structure.rename (· + 3)) := by
  obtain ⟨c, hc, htest⟩ := exists_compiled (String.toList_ofList : upperFile.toList = _)
    (fun c => c.graph.structures.map (·.reference) == ["a", "b", "w"]) (by decide +kernel)
  obtain ⟨c', hc', htest'⟩ := exists_compiled (String.toList_ofList : lowerFile.toList = _)
    (fun c => c.graph.structures.map (·.reference) == ["v", "u", "x"] &&
      c.graph.structures.map (·.remarks) == [⟨none, some "7"⟩, .none, .none]) (by decide +kernel)
  simp only [Bool.and_eq_true, beq_iff_eq] at htest htest'
  obtain ⟨lexed, ds, ht, hp, hd⟩ := compile_ok hc
  obtain ⟨lexed', ds', ht', hp', hd'⟩ := compile_ok hc'
  have hn : ∀ d ∈ ds, ∀ e ∈ ds', d.name.value ≠ e.name.value := by
    have hnames : ∀ x ∈ ds.map (·.name.value), ∀ y ∈ ds'.map (·.name.value), x ≠ y := by
      rw [← compileDeclarations_references hd, ← compileDeclarations_references hd', htest,
        htest'.1]
      decide
    simpa using hnames
  have hsize : c.graph.size = 3 := by simpa [Graph.size] using congrArg List.length htest
  obtain ⟨⟨joined, htj, -, -, hpj⟩, hcompile⟩ := compile_concatenation ht hp ht' hp'
  obtain ⟨whole, hw, hstructures, -⟩ := hcompile c c' hc hc' hn
  rw [hsize] at hstructures
  exact ⟨lexed, lexed', ds, ds', c, c', joined, whole, ⟨ht, hp⟩, ⟨ht', hp'⟩, ⟨hc, hc'⟩, hn, htj,
    hpj, hw, htest'.2, hstructures⟩

end Files

end DocSchema
