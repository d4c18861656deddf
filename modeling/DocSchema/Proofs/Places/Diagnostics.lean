import DocSchema.Proofs.Members
import DocSchema.Proofs.Pattern.Dialect
import DocSchema.Proofs.Places.Problems

/-!
# Places of diagnostics

Linking invents no places either, so every diagnostic of a text points into the text. The one place
that is counted anew is that of a construct inside a pattern that XML Schema lacks. It lies between
the delimiters of the pattern, at the characters of the construct.
-/
namespace DocSchema

variable {text : List Char}

namespace Pattern

/-- The characters of a construct. -/
def DialectIssue.spellings : DialectIssue → List (List Char)
  | .escape letter => [['\\', letter]]
  | .nestedClass => [['[']]
  | .closingBracket => [[']']]
  | .setOperation => [['&', '&'], ['~', '~'], ['-', '-']]
  | .startAnchor => [['^']]
  | .endAnchor => [['$']]
  | .groupFlags => [['(', '?']]
  | .lazyRepetition => [['*', '?'], ['+', '?'], ['?', '?'], ['\x7d', '?']]

theorem DialectIssue.byteSize_of_mem {issue : DialectIssue} {w : List Char}
    (h : w ∈ issue.spellings) : byteSize w = issue.size := by
  cases issue with
  | escape letter =>
    obtain rfl := List.mem_singleton.mp h
    simp [size, show '\\'.utf8Size = 1 from rfl]
  | _ =>
    revert w
    decide

theorem characterIssue?_eq_some {inClass : Bool} {c : Char} {cs : List Char} {issue : DialectIssue}
    (h : characterIssue? inClass c cs.head? = some issue) :
    ∃ w ∈ issue.spellings, ∃ behind, c :: cs = w ++ behind := by
  have pair {d : Char} (hd : cs.head? = some d) : ∃ behind, c :: cs = [c, d] ++ behind := by
    obtain ⟨behind, rfl⟩ := List.head?_eq_some_iff.mp hd
    exact ⟨behind, rfl⟩
  unfold characterIssue? at h
  split_ifs at h with h₁ h₂ h₃ h₄ h₅ h₆ h₇ h₈ <;> cases h
  · exact ⟨['['], by simp [DialectIssue.spellings], cs, by simpa using h₂⟩
  · simp only [Bool.and_eq_true, Bool.or_eq_true, beq_iff_eq] at h₃
    refine ⟨[c, c], ?_, pair h₃.2⟩
    rcases h₃.1 with (rfl | rfl) | rfl <;> simp [DialectIssue.spellings]
  · exact ⟨[']'], by simp [DialectIssue.spellings], cs, by simpa using h₄⟩
  · exact ⟨['^'], by simp [DialectIssue.spellings], cs, by simpa using h₅⟩
  · exact ⟨['$'], by simp [DialectIssue.spellings], cs, by simpa using h₆⟩
  · simp only [Bool.and_eq_true, beq_iff_eq] at h₇
    obtain ⟨rfl, hnext⟩ := h₇
    exact ⟨['(', '?'], by simp [DialectIssue.spellings], pair hnext⟩
  · simp only [Bool.and_eq_true, Bool.or_eq_true, beq_iff_eq] at h₈
    refine ⟨[c, '?'], ?_, pair h₈.2⟩
    rcases h₈.1 with ((rfl | rfl) | rfl) | rfl <;> simp [DialectIssue.spellings]

/-- A construct stands in the characters, whose bytes are counted from `offset`, at byte `n`. -/
def DialectIssue.StandsAt (issue : DialectIssue) (cs : List Char) (offset n : Nat) : Prop :=
  ∃ inside, ∃ w ∈ issue.spellings, ∃ behind, cs = inside ++ w ++ behind ∧
    n = offset + byteSize inside

theorem DialectIssue.StandsAt.skip {issue : DialectIssue} {cs : List Char} {offset n : Nat}
    (skipped : List Char) (h : issue.StandsAt cs (offset + byteSize skipped) n) :
    issue.StandsAt (skipped ++ cs) offset n := by
  obtain ⟨inside, w, hw, behind, rfl, rfl⟩ := h
  exact ⟨skipped ++ inside, w, hw, behind, by simp, by rw [byteSize_append, Nat.add_assoc]⟩

theorem dialectIssueAux_eq_some {offset n : Nat} {inClass : Bool} {cs : List Char}
    {issue : DialectIssue} (h : dialectIssueAux offset inClass cs = some (n, issue)) :
    issue.StandsAt cs offset n := by
  fun_induction dialectIssueAux offset inClass cs with
  | case1 => cases h
  | case2 => cases h
  | case3 offset inClass letter cs hp ih =>
    have hsize : byteSize ['\\', letter] = 1 + letter.utf8Size := by
      simp [show '\\'.utf8Size = 1 from rfl]
    refine .skip ['\\', letter] ?_
    rw [hsize, ← Nat.add_assoc]
    exact ih h
  | case4 offset inClass letter cs hp =>
    cases h
    exact ⟨[], ['\\', letter], by simp [DialectIssue.spellings], cs, rfl, rfl⟩
  | case5 offset cs =>
    cases h
    exact ⟨[], ['['], by simp [DialectIssue.spellings], '^' :: cs, rfl, rfl⟩
  | case6 offset inClass cs hc ih => exact .skip ['[', '^'] (ih h)
  | case7 offset inClass c cs _ _ _ issue' hi =>
    cases h
    obtain ⟨w, hw, behind, hcs⟩ := characterIssue?_eq_some hi
    exact ⟨[], w, hw, behind, by simpa using hcs, rfl⟩
  | case8 offset inClass c cs _ _ _ hi ih => exact .skip [c] (ih h)

end Pattern

/-- A span strictly between the delimiters of a pattern that covers a construct. -/
structure MarksConstruct (text : List Char) (pattern : Located String)
    (issue : Pattern.DialectIssue) (s : Span) : Prop where
  within : s.Within text
  start_lt : pattern.span.start < s.start
  lt_stop : s.stop < pattern.span.stop
  covers : ∃ w ∈ issue.spellings, s.slice? text = some w

theorem delimiter_size {c : Char} (h : c ∈ ['/', '\'', '"']) : c.utf8Size = 1 := by
  simp only [List.mem_cons, List.not_mem_nil, or_false] at h
  rcases h with rfl | rfl | rfl <;> rfl

theorem IsLiteral.marks {pattern : Located String} (h : IsLiteral text pattern) {offset : Nat}
    {issue : Pattern.DialectIssue}
    (hi : Pattern.dialectIssue? pattern.value = some (offset, issue)) :
    MarksConstruct text pattern issue
      ⟨pattern.span.start + 1 + offset, pattern.span.start + 1 + offset + issue.size⟩ := by
  obtain ⟨before, delimiter, after, hd, htext, hspan⟩ := h
  obtain ⟨inside, w, hw, behind, hvalue, hoffset⟩ := Pattern.dialectIssueAux_eq_some hi
  have hsize := delimiter_size hd
  have hstart : pattern.span.start + 1 + offset = byteSize (before ++ delimiter :: inside) := by
    simp only [hspan, hoffset, byteSize_append, byteSize_cons, byteSize_nil, hsize]
    omega
  have hwhole : text = before ++ delimiter :: inside ++ w ++ (behind ++ delimiter :: after) := by
    simp [htext, hvalue]
  rw [hstart, ← Pattern.DialectIssue.byteSize_of_mem hw]
  refine ⟨?_, ?_, ?_, w, hw, ?_⟩
  · rw [hwhole]
    exact Span.within_append ..
  · rw [hspan, ← hstart, hspan]
    dsimp only
    omega
  · simp only [hspan, hvalue, byteSize_append, byteSize_cons, byteSize_nil, hsize]
    omega
  · rw [hwhole]
    exact Span.slice?_append ..

namespace Link

open Checked (Keeps)

def HoldsPattern (definitions : List Definition) (owner : String) (pattern : Located String) :
    Prop :=
  ∃ d ∈ definitions, d.name.value = owner ∧ ∃ base values minimum maximum,
    d.body = .dataType base (some pattern) values minimum maximum

def Problem.Within (text : List Char) (definitions : List Definition) : Problem → Prop
  | .reserved name => name.span.Within text
  | .duplicate name first => name.span.Within text ∧ first.Within text
  | .builtIn name _ _ | .undefined name _ => name.span.Within text
  | .wrongKind name _ _ _ declared => name.span.Within text ∧ declared.Within text
  | .unusedDefault _ use default => use.span.Within text ∧ default.span.Within text
  | .quantifiedValue _ quantifier => quantifier.Within text
  | .cyclicBase first others => first.span.Within text ∧ ∀ n ∈ others, n.span.Within text
  | .invalidPattern _ pattern _ => pattern.Within text
  | .foreignPattern owner span offset issue => ∃ pattern, HoldsPattern definitions owner pattern ∧
      IsLiteral text pattern ∧ pattern.span = span ∧
      Pattern.dialectIssue? pattern.value = some (offset, issue)
  | .invertedBounds _ minimum maximum => minimum.span.Within text ∧ maximum.span.Within text
  | .boundOfNoNumber _ _ bound => bound.span.Within text
  | .notAValue _ _ value => value.span.Within text

variable {definitions : List Definition}

theorem Problem.Within.placed {p : Problem} (h : p.Within text definitions) :
    p.diagnostic.Placed text := by
  cases p with
  | reserved name => exact .of_main rfl h (by simp)
  | duplicate name first => exact .of_main rfl h.1 (List.forall_mem_singleton.mpr h.2)
  | builtIn name owner usage => exact .of_main rfl h (by simp)
  | undefined name owner => exact .of_main rfl h (by simp)
  | wrongKind name owner usage kind declared =>
    exact .of_main rfl h.1 (List.forall_mem_singleton.mpr h.2)
  | unusedDefault owner use default => exact .of_main rfl h.1 (List.forall_mem_singleton.mpr h.2)
  | quantifiedValue owner quantifier => exact .of_main rfl h (by simp)
  | cyclicBase first others => exact .of_main rfl h.1 (List.forall_mem_map.mpr h.2)
  | invalidPattern owner pattern fault => exact .of_main rfl h (by simp)
  | foreignPattern owner span offset issue =>
    obtain ⟨pattern, -, hl, rfl, hi⟩ := h
    exact .of_main rfl (hl.marks hi).within (by simp)
  | invertedBounds owner minimum maximum =>
    exact .of_main rfl h.1 (List.forall_mem_singleton.mpr h.2)
  | boundOfNoNumber owner primitive bound => exact .of_main rfl h (by simp)
  | notAValue owner primitive value => exact .of_main rfl h (by simp)

abbrev Placed {α : Type} (text : List Char) (definitions : List Definition) :
    Checked Problem α → Prop :=
  Keeps (fun _ => True) (Problem.Within text definitions)

theorem nameProblems_within {seen : List (Located String)} {ds : List Definition}
    (hs : ∀ n ∈ seen, n.span.Within text) (h : ∀ d ∈ ds, d.Within text) :
    ∀ p ∈ nameProblems seen ds, p.Within text definitions := by
  induction ds generalizing seen with
  | nil => simp [nameProblems]
  | cons d ds ih =>
    obtain ⟨hfirst, hds⟩ := List.forall_mem_cons.mp h
    rw [nameProblems]
    split_ifs
    · exact List.forall_mem_cons.mpr ⟨hfirst.name, ih hs hds⟩
    · cases hf : seen.find? (·.value == d.name.value) with
      | none =>
        exact ih (List.forall_mem_append.mpr ⟨hs, List.forall_mem_singleton.mpr hfirst.name⟩) hds
      | some first =>
        refine List.forall_mem_cons.mpr ⟨⟨hfirst.name, ?_⟩, ih hs hds⟩
        exact hs first (List.mem_of_find?_eq_some hf)

theorem patternProblems_within {owner : String} {pattern : Located String}
    (hp : HoldsPattern definitions owner pattern) (hl : IsLiteral text pattern) :
    ∀ p ∈ patternProblems owner pattern, p.Within text definitions := by
  unfold patternProblems
  split
  · exact List.forall_mem_singleton.mpr hl.within
  · split
    · rename_i offset issue hi
      exact List.forall_mem_singleton.mpr ⟨pattern, hp, hl, rfl, hi⟩
    · simp

theorem constraintProblems_within (owner : String) (primitive : Primitive)
    {values : List (Located String)} {minimum maximum : Option (Located Int)}
    (hvalues : ∀ v ∈ values, v.span.Within text) (hminimum : ∀ n ∈ minimum, n.span.Within text)
    (hmaximum : ∀ n ∈ maximum, n.span.Within text) :
    ∀ p ∈ constraintProblems owner primitive values minimum maximum,
      p.Within text definitions := by
  unfold constraintProblems
  refine List.forall_mem_append.mpr ⟨List.forall_mem_append.mpr ⟨?_, ?_⟩, ?_⟩
  · unfold boundsProblems
    split
    · split_ifs
      · exact List.forall_mem_singleton.mpr ⟨hminimum _ rfl, hmaximum _ rfl⟩
      · simp
    · simp
  · split_ifs
    · simp
    · refine List.forall_mem_map.mpr (List.forall_mem_append.mpr ⟨?_, ?_⟩)
      · exact fun n hn => hminimum n (Option.mem_toList.mp hn)
      · exact fun n hn => hmaximum n (Option.mem_toList.mp hn)
  · exact List.forall_mem_map.mpr fun v hv => hvalues v (List.mem_of_mem_filter hv)

theorem dataTypeProblems_within {d : Definition} (hm : d ∈ definitions) (h : d.Within text)
    (g : Graph) (id : StructureId) :
    ∀ p ∈ dataTypeProblems g id d, p.Within text definitions := by
  unfold dataTypeProblems
  split
  · rename_i base pattern values minimum maximum hb
    have hbody := h.body
    rw [hb] at hbody
    obtain ⟨-, hpattern, hvalues, hminimum, hmaximum⟩ := hbody
    refine List.forall_mem_append.mpr ⟨fun p hp => ?_, ?_⟩
    · obtain ⟨q, hq, hp'⟩ := List.mem_flatMap.mp hp
      obtain rfl : pattern = some q := Option.mem_toList.mp hq
      have hholds : HoldsPattern definitions d.name.value q :=
        ⟨d, hm, rfl, base, values, minimum, maximum, hb⟩
      exact patternProblems_within hholds (hpattern q rfl) p hp'
    · split
      · exact constraintProblems_within _ _ hvalues hminimum hmaximum
      · simp
  · simp

section Names

variable (hd : ∀ d ∈ definitions, d.Within text)
include hd

theorem find?_within {name : String} {id : StructureId} {d : Definition}
    (h : find? definitions name = some (id, d)) : d.Within text :=
  hd d (List.mem_of_getElem? (find?_eq_some h).1)

theorem lookup_within (owner : String) (usage : Usage) {name : Located String}
    (h : name.span.Within text) :
    Placed text definitions (lookup definitions owner usage name) := by
  unfold lookup
  split
  · split_ifs
    · exact .pure trivial
    · exact .report h trivial
  · split
    · exact .report h trivial
    · rename_i id d hf
      split_ifs
      · exact .pure trivial
      · exact .report ⟨h, (find?_within hd hf).name⟩ trivial

theorem typeRef_within (owner : String) (usage : Usage) {name : Option (Located String)}
    (h : ∀ n ∈ name, n.span.Within text) :
    Placed text definitions (typeRef definitions owner usage name) := by
  cases name with
  | none => exact .pure trivial
  | some name => exact .bind (lookup_within hd owner usage (h name rfl)) fun _ _ => .pure trivial

theorem slot_within (owner : String) (usage : Usage) {o : Occurrence} (h : o.span.Within text) :
    Placed text definitions (slot definitions owner usage o) := by
  refine .bind (lookup_within hd owner usage h) fun found _ => ?_
  rcases found with _ | _ | _ <;> exact .pure trivial

theorem slots_within (owner : String) (usage : Usage) {os : List Occurrence}
    (h : ∀ o ∈ os, o.span.Within text) :
    Placed text definitions (slots definitions owner usage os) := by
  induction os with
  | nil => exact .pure trivial
  | cons o os ih =>
    obtain ⟨ho, hos⟩ := List.forall_mem_cons.mp h
    exact .bind (slot_within hd owner usage ho) fun _ _ => .bind (ih hos) fun _ _ => .pure trivial

end Names

mutual

theorem particle_within (hd : ∀ d ∈ definitions, d.Within text) (owner : String)
    (m : Definition.Member) (h : m.Within text) :
    Placed text definitions (particle definitions owner m) :=
  match m, h with
  | .element o, .element ho => by
    rw [particle]
    exact .bind (slot_within hd owner .child ho) fun _ _ => .pure trivial
  | .group c ms, .group inner => by
    rw [particle]
    exact .bind (particles_within hd owner ms inner) fun _ _ => .pure trivial

theorem particles_within (hd : ∀ d ∈ definitions, d.Within text) (owner : String)
    (ms : List Definition.Member) (h : ∀ m ∈ ms, m.Within text) :
    Placed text definitions (particles definitions owner ms) :=
  match ms, h with
  | [], _ => by
    rw [particles]
    exact .pure trivial
  | m :: ms, h => by
    obtain ⟨hm, hms⟩ := List.forall_mem_cons.mp h
    rw [particles]
    exact .bind (particle_within hd owner m hm) fun _ _ =>
      .bind (particles_within hd owner ms hms) fun _ _ => .pure trivial

end

section Bodies

variable (hd : ∀ d ∈ definitions, d.Within text)
include hd

theorem default?_within {name : String} {v : Located String}
    (h : default? definitions name = some v) : v.span.Within text := by
  unfold default? at h
  split at h
  · rename_i hf
    exact (find?_within hd hf).body.2 v h
  · cases h

theorem unusedDefaults_within (owner : String) {os : List Occurrence}
    (h : ∀ o ∈ os, o.span.Within text) :
    ∀ p ∈ unusedDefaults definitions owner os, p.Within text definitions := by
  intro p hp
  obtain ⟨o, ho, hop⟩ := List.mem_filterMap.mp hp
  obtain ⟨v, hv, rfl⟩ := Option.map_eq_some_iff.mp hop
  exact ⟨h o (List.mem_of_mem_filter ho), default?_within hd hv⟩

theorem content_within (owner : String) {c : Definition.Content} (h : c.Within text) :
    Placed text definitions (content definitions owner c) := by
  cases c with
  | empty => exact .pure trivial
  | text => exact .pure trivial
  | single target quantifier =>
    refine .bind (lookup_within hd owner .content h.1) fun found _ => ?_
    cases found with
    | none => exact .pure trivial
    | some type =>
      dsimp only
      split
      · exact .pure trivial
      · refine .note (List.forall_mem_map.mpr fun s hs => ?_) (.pure trivial)
        exact h.2 s (Option.mem_toList.mp hs)
  | group c ms mixed => exact .bind (particles_within hd owner ms h) fun _ _ => .pure trivial

theorem body_within (owner : String) {b : Definition.Body} (h : b.Within text) :
    Placed text definitions (body definitions owner b) := by
  rcases b with ⟨root, attributes, inner⟩ | ⟨valueType, default⟩ |
    ⟨base, pattern, values, minimum, maximum⟩ | ⟨root, properties, order⟩ | ⟨valueType⟩ | ⟨itemType⟩
  · refine .note (unusedDefaults_within hd owner h.1) ?_
    exact .bind (slots_within hd owner .attributes h.1) fun _ _ =>
      .bind (content_within hd owner h.2) fun _ _ => .pure trivial
  · exact .bind (typeRef_within hd owner .simpleType h.1) fun _ _ => .pure trivial
  · exact .bind (typeRef_within hd owner .simpleType h.1) fun _ _ => .pure trivial
  · exact .bind (slots_within hd owner .properties h) fun _ _ => .pure trivial
  · exact .bind (typeRef_within hd owner .jsonValue h) fun _ _ => .pure trivial
  · refine .bind (typeRef_within hd owner .jsonValue fun n hn => ?_) fun _ _ => .pure trivial
    cases hn
    exact h

theorem structures_within {ds : List Definition} (h : ∀ d ∈ ds, d.Within text) :
    Placed text definitions (structures definitions ds) := by
  induction ds with
  | nil => exact .pure trivial
  | cons d ds ih =>
    obtain ⟨hfirst, hds⟩ := List.forall_mem_cons.mp h
    have hs : Placed text definitions (structureOf definitions d) :=
      .bind (body_within hd d.name.value hfirst.body) fun _ _ => .pure trivial
    exact .bind hs fun _ _ => .bind (ih hds) fun _ _ => .pure trivial

theorem names_within : Placed text definitions (names definitions) :=
  .note (nameProblems_within (by simp) hd) (structures_within hd hd)

theorem nameAt_within (id : StructureId) : (nameAt definitions id).span.Within text := by
  unfold nameAt
  split
  · rename_i d hid
    exact (hd d (List.mem_of_getElem? hid)).name
  · exact Span.within_point (boundary_append [] text)

theorem cycleProblems_within (g : Graph) :
    ∀ p ∈ cycleProblems g definitions, p.Within text definitions := by
  intro p hp
  obtain ⟨id, -, hid⟩ := List.mem_filterMap.mp hp
  split at hid
  · split_ifs at hid
    cases hid
    exact ⟨nameAt_within hd id, List.forall_mem_map.mpr fun id _ => nameAt_within hd id⟩
  · cases hid

theorem allDataTypeProblems_within (g : Graph) :
    ∀ p ∈ allDataTypeProblems g definitions, p.Within text definitions := by
  refine List.forall_mem_append.mpr ⟨cycleProblems_within hd g, fun p hp => ?_⟩
  obtain ⟨⟨d, id⟩, hm, hp⟩ := List.mem_flatMap.mp hp
  have hmem : d ∈ definitions := List.mem_of_getElem? (List.mem_zipIdx_iff_getElem?.mp hm)
  exact dataTypeProblems_within hmem (hd d hmem) g id p hp

theorem graph_within : ∀ p ∈ (graph definitions).problems, p.Within text definitions := by
  unfold graph
  dsimp only
  split_ifs
  · exact (names_within hd).problems
  · exact List.forall_mem_append.mpr
      ⟨(names_within hd).problems, allDataTypeProblems_within hd _⟩

end Bodies

end Link

/-- The warnings beside a graph, or what keeps a text from having one. -/
def resultDiagnostics : Except CompileError Compiled → List Diagnostic
  | .ok c => c.warnings
  | .error e => e.diagnostics

def diagnosticsOf (source : String) : List Diagnostic := resultDiagnostics (compile source)

theorem mem_diagnosticsOf {source : String} {d : Diagnostic} (h : d ∈ diagnosticsOf source) :
    (∃ f ∈ (Token.scan source.toList).faults, d = Token.Fault.diagnostic f) ∨
    ∃ lexed, tokenize source = .ok lexed ∧
      ((∃ e, parseDeclarations lexed.tokens = .error e ∧ d = e.diagnostic lexed.tokens) ∨
      ∃ ds, parseDeclarations lexed.tokens = .ok ds ∧
        ((∃ p ∈ (Definition.ofDeclarations lexed.comments ds).problems, d = p.diagnostic) ∨
        ∃ p ∈ (Link.graph (Definition.ofDeclarations lexed.comments ds).value).problems,
          d = p.diagnostic)) := by
  have split {ps : List Definition.Problem} {qs : List Link.Problem}
      (hm : d ∈ ps.map (·.diagnostic) ++ qs.map (·.diagnostic)) :
      (∃ p ∈ ps, d = p.diagnostic) ∨ ∃ q ∈ qs, d = q.diagnostic := by
    rcases List.mem_append.mp hm with hm | hm
    · obtain ⟨p, hp, rfl⟩ := List.mem_map.mp hm
      exact .inl ⟨p, hp, rfl⟩
    · obtain ⟨q, hq, rfl⟩ := List.mem_map.mp hm
      exact .inr ⟨q, hq, rfl⟩
  unfold diagnosticsOf compile at h
  cases ht : tokenize source with
  | error faults =>
    simp only [ht, resultDiagnostics, CompileError.diagnostics] at h
    obtain ⟨f, hf, rfl⟩ := List.mem_map.mp h
    obtain ⟨rfl, -⟩ := tokenize_eq_error.mp ht
    exact .inl ⟨f, hf, rfl⟩
  | ok lexed =>
    refine .inr ⟨lexed, rfl, ?_⟩
    cases hp : parseDeclarations lexed.tokens with
    | error e =>
      simp only [ht, hp, resultDiagnostics, CompileError.diagnostics, List.mem_singleton] at h
      exact .inl ⟨e, rfl, h⟩
    | ok ds =>
      refine .inr ⟨ds, rfl, ?_⟩
      simp only [ht, hp, compileDeclarations] at h
      split_ifs at h
      · obtain ⟨p, hp, rfl⟩ := List.mem_map.mp h
        exact .inl ⟨p, hp, rfl⟩
      · exact split h
      · exact split h

theorem diagnosticsOf_placed {source : String} {d : Diagnostic} (h : d ∈ diagnosticsOf source) :
    d.Placed source.toList := by
  obtain ⟨f, hf, rfl⟩ | ⟨lexed, ht, ⟨e, he, rfl⟩ | ⟨ds, hp, hproblem⟩⟩ := mem_diagnosticsOf h
  · exact fault_placed hf
  · exact syntaxError_placed (tokens_placed ht) he
  · have hds := (Grammar.parseDeclarations_eq_ok_iff.mp hp).within (tokens_placed ht)
    have hdefined := Definition.ofDeclarations_within lexed.comments hds
    obtain ⟨p, hp, rfl⟩ | ⟨p, hp, rfl⟩ := hproblem
    · exact (hdefined.problems p hp).placed
    · exact (Link.graph_within hdefined.value p hp).placed

def dialectMessage (owner : String) : String :=
  s!"pattern in `{owner}` cannot be written as an XML Schema pattern"

theorem Link.Problem.eq_foreignPattern {p : Problem} {owner : String}
    (hc : p.diagnostic.code = some .invalidPattern)
    (hm : p.diagnostic.message = dialectMessage owner) :
    ∃ span offset issue, p = .foreignPattern owner span offset issue := by
  cases p with
  | invalidPattern owner' pattern fault =>
    -- the other message of this code begins with another letter
    have hhead := congrArg (fun m => m.toList.head?) hm
    have hother : (toString "invalid pattern in `").toList.head? = some 'i' := by decide
    have hdialect : (toString "pattern in `").toList.head? = some 'p' := by decide
    simp [diagnostic, Diagnostic.error, dialectMessage, hother, hdialect] at hhead
  | foreignPattern owner' span offset issue =>
    obtain rfl : owner' = owner := by
      simpa [diagnostic, Diagnostic.error, dialectMessage, String.append_assoc, toString] using hm
    exact ⟨span, offset, issue, rfl⟩
  | _ => cases hc

theorem Definition.Problem.code_ne_invalidPattern (p : Problem) :
    p.diagnostic.code ≠ some .invalidPattern := by
  cases p with
  | repeatedMember owner r =>
    simp only [diagnostic]
    split_ifs <;> simp [Diagnostic.error, Diagnostic.warning]
  | _ => simp [diagnostic, Diagnostic.error]

/-- A declaration of the text gives a data type its pattern. -/
def GivesPattern (source : String) (owner : String) (pattern : Located String) : Prop :=
  ∃ lexed ds, tokenize source = .ok lexed ∧ parseDeclarations lexed.tokens = .ok ds ∧
    ∃ d ∈ ds, d.name.value = owner ∧ d.kind.value = .dataType ∧
      ∃ value, d.value? "allowedPattern" = some value ∧ Definition.pattern? value = some pattern

theorem Link.HoldsPattern.exists_declaration {comments : List (Located String)}
    {ds : List Declaration} {owner : String} {pattern : Located String}
    (h : HoldsPattern (Definition.ofDeclarations comments ds).value owner pattern) :
    ∃ d ∈ ds, d.name.value = owner ∧ d.kind.value = .dataType ∧
      ∃ value, d.value? "allowedPattern" = some value ∧
        Definition.pattern? value = some pattern := by
  obtain ⟨_, hm, hname, base, values, minimum, maximum, hbody⟩ := h
  rw [Definition.value_ofDeclarations] at hm
  obtain ⟨d, hd, rfl⟩ := List.mem_map.mp hm
  have hbody : (Definition.bodyOf d).value = .dataType base (some pattern) values minimum maximum :=
    hbody
  have hk : d.kind.value = .dataType := by
    rw [← Definition.kind_bodyOf, hbody, Definition.Body.kind]
  refine ⟨d, hd, hname, hk, ?_⟩
  have hpattern : (Definition.optional d .allowedPattern .pattern Definition.pattern?).value =
      some pattern := by
    simp only [Definition.bodyOf, hk] at hbody
    exact (Definition.Body.dataType.inj hbody).2.1
  obtain ⟨value, hgiven, hread⟩ := Definition.optional_eq_some hpattern
  exact ⟨value, Definition.given_eq_some hgiven, hread⟩

theorem diagnosticsOf_dialect {source : String} {d : Diagnostic} (h : d ∈ diagnosticsOf source)
    {owner : String} (hc : d.code = some .invalidPattern) (hm : d.message = dialectMessage owner) :
    ∃ pattern issue s, GivesPattern source owner pattern ∧ IsLiteral source.toList pattern ∧
      d.labels = [.main s issue.label] ∧ MarksConstruct source.toList pattern issue s := by
  obtain ⟨f, -, rfl⟩ | ⟨lexed, ht, ⟨e, -, rfl⟩ | ⟨ds, hp, ⟨p, -, rfl⟩ | ⟨p, hproblem, rfl⟩⟩⟩ :=
    mem_diagnosticsOf h
  · obtain ⟨fault, span⟩ := f
    cases fault <;> cases hc
  · unfold SyntaxError.diagnostic SyntaxError.code at hc
    cases hr : e.rest <;> simp [hr, Diagnostic.error] at hc
  · exact absurd hc p.code_ne_invalidPattern
  · have hds := (Grammar.parseDeclarations_eq_ok_iff.mp hp).within (tokens_placed ht)
    have hdefined := Definition.ofDeclarations_within lexed.comments hds
    obtain ⟨span, offset, issue, rfl⟩ := Link.Problem.eq_foreignPattern hc hm
    obtain ⟨pattern, hholds, hl, rfl, hi⟩ := Link.graph_within hdefined.value _ hproblem
    exact ⟨pattern, issue, _, ⟨lexed, ds, ht, hp, hholds.exists_declaration⟩, hl, rfl, hl.marks hi⟩

/-- Every diagnostic of a text has a primary label. Its labels lie in the text and start between two
characters. A report about a construct of a pattern marks exactly the characters of the construct,
strictly between the delimiters of the literal that gives the pattern. -/
theorem diagnosticsOf_point_into_source (source : String) : ∀ d ∈ diagnosticsOf source,
    (∃ l ∈ d.labels, l.primary = true) ∧
    (∀ l ∈ d.labels, l.span.start ≤ l.span.stop ∧ l.span.stop ≤ byteSize source.toList ∧
      ∃ before after, source.toList = before ++ after ∧ byteSize before = l.span.start) ∧
    ∀ owner, d.code = some .invalidPattern → d.message = dialectMessage owner →
      ∃ pattern, ∃ issue : Pattern.DialectIssue, ∃ s, GivesPattern source owner pattern ∧
        IsLiteral source.toList pattern ∧ d.labels = [.main s issue.label] ∧
        pattern.span.start < s.start ∧ s.stop < pattern.span.stop ∧
        ∃ w ∈ issue.spellings, s.slice? source.toList = some w := by
  intro d hd
  have hplaced := diagnosticsOf_placed hd
  refine ⟨hplaced.primary, fun l hl => ?_, fun owner hc hm => ?_⟩
  · have hl := hplaced.within l hl
    exact ⟨hl.start_le, hl.stop_le, hl.boundary⟩
  · obtain ⟨pattern, issue, s, hgives, hliteral, hlabels, hmarks⟩ := diagnosticsOf_dialect hd hc hm
    exact ⟨pattern, issue, s, hgives, hliteral, hlabels, hmarks.start_lt, hmarks.lt_stop,
      hmarks.covers⟩

theorem diagnosticsOf_of_scan {source : String} {text : List Char} (hs : source.toList = text) :
    diagnosticsOf source = resultDiagnostics (compileScan (Token.scan text)) := by
  rw [diagnosticsOf, compile_eq_compileScan, hs]

/-- A pattern with an anchor behind a character of two bytes. -/
def anchoredSource : String := "/*é*/dataType a\x7ballowedPattern:/é$/;\x7d"

theorem diagnosticsOf_point_into_source_anchored :
    ∃ d ∈ diagnosticsOf anchoredSource, d.code = some .invalidPattern ∧
      d.message = dialectMessage "a" ∧ (∃ l ∈ d.labels, l.primary = true) ∧
      ∃ pattern, ∃ issue : Pattern.DialectIssue, ∃ s, GivesPattern anchoredSource "a" pattern ∧
        IsLiteral anchoredSource.toList pattern ∧ d.labels = [.main s issue.label] ∧
        pattern.span.start < s.start ∧ s.stop < pattern.span.stop ∧
        ∃ w ∈ issue.spellings, s.slice? anchoredSource.toList = some w := by
  have hfound : ∃ d ∈ diagnosticsOf anchoredSource, d.code = some .invalidPattern ∧
      d.message = dialectMessage "a" := by
    have hscan : diagnosticsOf anchoredSource = _ := diagnosticsOf_of_scan String.toList_ofList
    rw [hscan]
    decide +kernel
  obtain ⟨d, hd, hc, hm⟩ := hfound
  obtain ⟨hprimary, -, hdialect⟩ := diagnosticsOf_point_into_source anchoredSource d hd
  exact ⟨d, hd, hc, hm, hprimary, hdialect "a" hc hm⟩

end DocSchema
