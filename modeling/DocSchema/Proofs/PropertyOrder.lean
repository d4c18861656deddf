import DocSchema.Declaration.Parser
import DocSchema.Definition.Check
import DocSchema.Proofs.Token.Partition

/-!
# The order of properties

Properties of a declaration can be written in any order. Unknown and repeated properties are found
in every order. Where there are none, a name finds the same value in every order, and all else that
is read from a declaration is read through the names of its properties, in a fixed order.
-/
namespace DocSchema.Definition

section Problems

variable {owner : String} {kind : Kind} {seen ps : List Property}

theorem propertyProblems_isError :
    ∀ p ∈ propertyProblems owner kind seen ps, p.diagnostic.isError = true := by
  fun_induction propertyProblems owner kind seen ps with
  | case1 => simp
  | case2 seen p ps _ first _ ih => exact List.forall_mem_cons.mpr ⟨rfl, ih⟩
  | case3 seen p ps _ _ ih => exact ih
  | case4 seen p ps _ ih => exact List.forall_mem_cons.mpr ⟨rfl, ih⟩

theorem propertyProblems_eq_nil_iff :
    propertyProblems owner kind seen ps = [] ↔
      (∀ p ∈ ps, ∃ known ∈ kind.propertyNames, known.text = p.name.value) ∧
      (ps.map (·.name.value)).Nodup ∧
      ∀ p ∈ ps, ∀ q ∈ seen, q.name.value ≠ p.name.value := by
  fun_induction propertyProblems owner kind seen ps with
  | case1 => simp
  | case2 seen p ps hknown first hfirst ih =>
    have hname : first.name.value = p.name.value := by simpa using List.find?_some hfirst
    refine iff_of_false (by simp) ?_
    rintro ⟨-, -, hseen⟩
    exact hseen p (by simp) first (List.mem_of_find?_eq_some hfirst) hname
  | case3 seen p ps hknown hnone ih =>
    have hp : ∃ known ∈ kind.propertyNames, known.text = p.name.value := by simpa using hknown
    have hnew : ∀ q ∈ seen, q.name.value ≠ p.name.value := by simpa using hnone
    rw [ih, List.map_cons, List.nodup_cons]
    simp only [List.forall_mem_cons, List.forall_mem_append, List.mem_map, not_exists, not_and]
    constructor
    · rintro ⟨hps, hnodup, hseen⟩
      exact ⟨⟨hp, hps⟩, ⟨fun q hq => (hseen q hq).2.1.symm, hnodup⟩, hnew,
        fun q hq => (hseen q hq).1⟩
    · rintro ⟨⟨-, hps⟩, ⟨hfresh, hnodup⟩, -, hseen⟩
      exact ⟨hps, hnodup, fun q hq => ⟨hseen q hq, Ne.symm (hfresh q hq), by simp⟩⟩
  | case4 seen p ps hunknown ih =>
    refine iff_of_false (by simp) ?_
    rintro ⟨hps, -⟩
    exact hunknown (by simpa using hps p (by simp))

theorem propertyProblems_eq_nil_of_perm {ps' : List Property} (h : ps.Perm ps') :
    propertyProblems owner kind [] ps = [] ↔ propertyProblems owner kind [] ps' = [] := by
  simp only [propertyProblems_eq_nil_iff, h.mem_iff, (h.map (·.name.value)).nodup_iff]

end Problems

section Order

variable {comments : List (Located String)} {d : Declaration} {ps : List Property}

theorem given_of_perm (h : d.properties.Perm ps) (hd : (d.properties.map (·.name.value)).Nodup)
    (property : PropertyName) : given { d with properties := ps } property = given d property := by
  simp only [given, Declaration.value?, find?_of_perm h hd]

theorem bodyOf_of_given
    (h : ∀ property, given { d with properties := ps } property = given d property) :
    bodyOf { d with properties := ps } = bodyOf d := by
  simp only [bodyOf, attributesOf, contentOf, references, typeName, optional, literals, objectBody,
    itemTypeOf, h, Declaration.isRoot]

/-- A declaration without comments: none stands between its opening brace and its end, nor between
the brace and the name of one of its properties. -/
def CommentFree (comments : List (Located String)) (d : Declaration) : Prop :=
  ∀ c ∈ comments, d.opening.stop < c.span.start →
    d.span.stop ≤ c.span.stop ∧ ∀ p ∈ d.properties, p.name.span.start ≤ c.span.stop

instance (comments : List (Located String)) (d : Declaration) :
    Decidable (CommentFree comments d) :=
  inferInstanceAs (Decidable (∀ c ∈ comments, _))

theorem CommentFree.remarks (h : CommentFree comments d) : Comment.remarks comments d = .none := by
  have hnone : comments.find? (Comment.opens d) = none := by
    refine List.find?_eq_none.mpr fun c hc hopens => ?_
    simp only [Comment.opens, Bool.and_eq_true, decide_eq_true_eq] at hopens
    obtain ⟨hstart, hstop⟩ := hopens
    obtain ⟨hend, hproperties⟩ := h c hc hstart
    unfold Comment.bodyStop at hstop
    cases hp : d.properties with
    | nil =>
      simp only [hp] at hstop
      omega
    | cons p ps =>
      have hname := hproperties p (by simp [hp])
      simp only [hp] at hstop
      omega
  rw [Comment.remarks, hnone]

theorem CommentFree.of_perm (h : CommentFree comments d) (hp : d.properties.Perm ps) :
    CommentFree comments { d with properties := ps } := by
  intro c hc hstart
  obtain ⟨hend, hproperties⟩ := h c hc hstart
  exact ⟨hend, fun p hin => hproperties p (hp.mem_iff.mpr hin)⟩

theorem isError_of_propertyProblems (comments : List (Located String))
    (h : propertyProblems d.name.value d.kind.value [] d.properties ≠ []) :
    (ofDeclaration comments d).problems.any (·.diagnostic.isError) = true := by
  obtain ⟨p, hp⟩ := List.exists_mem_of_ne_nil _ h
  refine List.any_eq_true.mpr ⟨p, ?_, propertyProblems_isError p hp⟩
  simp [ofDeclaration, hp]

theorem ofDeclaration_eq_of_perm (h : d.properties.Perm ps) (hc : CommentFree comments d)
    (hnames : propertyProblems d.name.value d.kind.value [] d.properties = []) :
    ofDeclaration comments { d with properties := ps } = ofDeclaration comments d := by
  have hgiven := given_of_perm h (propertyProblems_eq_nil_iff.mp hnames).2.1
  have hnames' := (propertyProblems_eq_nil_of_perm h).mp hnames
  simp only [ofDeclaration, hnames, hnames', bodyOf_of_given hgiven, optional, hgiven, hc.remarks,
    (hc.of_perm h).remarks]

/-- The properties of a declaration without comments can be written in any order. Either both orders
are told an error, or both give the same definition with the same warnings in the same order. -/
theorem ofDeclaration_properties_perm (h : d.properties.Perm ps) (hc : CommentFree comments d) :
    ((ofDeclaration comments d).problems.any (·.diagnostic.isError) = true ↔
      (ofDeclaration comments { d with properties := ps }).problems.any (·.diagnostic.isError) =
        true) ∧
    ((ofDeclaration comments d).problems.any (·.diagnostic.isError) = false →
      (ofDeclaration comments { d with properties := ps }).value =
        (ofDeclaration comments d).value ∧
      (ofDeclaration comments { d with properties := ps }).problems =
        (ofDeclaration comments d).problems) := by
  by_cases hnames : propertyProblems d.name.value d.kind.value [] d.properties = []
  · rw [ofDeclaration_eq_of_perm h hc hnames]
    exact ⟨Iff.rfl, fun _ => ⟨rfl, rfl⟩⟩
  · have hnames' : propertyProblems d.name.value d.kind.value [] ps ≠ [] :=
      fun hnil => hnames ((propertyProblems_eq_nil_of_perm h).mpr hnil)
    have herror := isError_of_propertyProblems comments hnames
    have herror' := isError_of_propertyProblems comments (d := { d with properties := ps }) hnames'
    exact ⟨iff_of_true herror herror', fun hno => by simp [herror] at hno⟩

/-- An element with an attribute listed twice, which is only a warning. -/
def shuffledSource : String :=
  "/*h*/element a \x7btagName:t;attributes:\x7bx,x\x7d;allowedContent:[a];\x7d"

set_option maxRecDepth 4000 in
theorem ofDeclaration_properties_perm_reversed :
    ∃ lexed d, tokenize shuffledSource = .ok lexed ∧ parseDeclarations lexed.tokens = .ok [d] ∧
      d.properties.length = 3 ∧ d.properties.Perm d.properties.reverse ∧
      CommentFree lexed.comments d ∧
      (ofDeclaration lexed.comments d).problems.any (·.diagnostic.isError) = false ∧
      (ofDeclaration lexed.comments d).problems.length = 1 ∧
      (ofDeclaration lexed.comments { d with properties := d.properties.reverse }).value =
        (ofDeclaration lexed.comments d).value ∧
      (ofDeclaration lexed.comments { d with properties := d.properties.reverse }).problems =
        (ofDeclaration lexed.comments d).problems := by
  obtain ⟨lexed, hlexed, hparsed⟩ : ∃ lexed, tokenize shuffledSource = .ok lexed ∧
      (parseDeclarations lexed.tokens).toOption.any (fun ds => ds.length == 1 && ds.all fun d =>
        d.properties.length == 3 && decide (CommentFree lexed.comments d) &&
        !(ofDeclaration lexed.comments d).problems.any (·.diagnostic.isError) &&
        (ofDeclaration lexed.comments d).problems.length == 1) = true :=
    ⟨_, tokenize_of_scan (String.toList_ofList : shuffledSource.toList = _) (by decide), by decide⟩
  cases hp : parseDeclarations lexed.tokens with
  | error e => simp [hp, Except.toOption] at hparsed
  | ok ds =>
    simp only [hp, Except.toOption, Option.any_some, Bool.and_eq_true, beq_iff_eq,
      decide_eq_true_eq, Bool.not_eq_true', List.all_eq_true] at hparsed
    obtain ⟨hone, htest⟩ := hparsed
    obtain ⟨d, rfl⟩ := List.length_eq_one_iff.mp hone
    obtain ⟨⟨⟨hlength, hfree⟩, hclean⟩, hwarning⟩ := htest d (by simp)
    have hperm : d.properties.Perm d.properties.reverse := d.properties.reverse_perm.symm
    obtain ⟨-, hsame⟩ := ofDeclaration_properties_perm hperm hfree
    exact ⟨lexed, d, hlexed, hp, hlength, hperm, hfree, hclean, hwarning, hsame hclean⟩

end Order

end DocSchema.Definition
