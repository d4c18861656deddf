import DocSchema.Proofs.CycleReports
import DocSchema.Proofs.DeclarationOrder
import DocSchema.Proofs.Members
import DocSchema.Proofs.Phases
import DocSchema.Proofs.Token.Partition

/-!
# Warnings about defaults

Linking warns of a required attribute whose default cannot apply, by names and before the names are
linked. In a text that compiles these warnings are told by the graph alone: each element gives one
for each of its required attributes that has a default. They are told apart by their texts, since a
name is a word and ends before the next backtick.
-/
namespace DocSchema

namespace Structure

def default? (s : Structure) : Option String :=
  match s.body with
  | .attribute _ default => default
  | _ => none

def attributes (s : Structure) : List Slot :=
  match s.body with
  | .element _ attributes _ => attributes
  | _ => []

end Structure

def Definition.Body.attributes : Definition.Body → List Occurrence
  | .element _ attributes _ => attributes
  | _ => []

def unusedDefaultMessage (name owner default : String) : String :=
  s!"required attribute `{name}` of `{owner}` never uses its default " ++ s!"`{default}`"

def Graph.unusedDefaults (g : Graph) (s : Structure) : List String :=
  (s.attributes.filter (·.cardinality.isRequired)).filterMap fun slot =>
    (g.get slot.target).default?.map
      (unusedDefaultMessage (g.get slot.target).reference s.reference)

namespace Link

/-! ### Problems of linking that are no errors -/

/-- A step all of whose problems are errors. -/
abbrev Strict {α : Type} (x : Checked Problem α) : Prop :=
  Checked.Keeps (fun _ => True) (fun p => p.isError = true) x

variable {definitions : List Definition} {owner : String} {usage : Usage}

theorem eq_nil_of_errors {ps : List Problem} (herror : ∀ p ∈ ps, p.isError = true)
    (h : ∀ p ∈ ps, p.isError = false) : ps = [] := by
  refine List.eq_nil_iff_forall_not_mem.mpr fun p hp => ?_
  simpa [h p hp] using herror p hp

theorem lookup_strict (name : Located String) : Strict (lookup definitions owner usage name) := by
  unfold lookup
  split
  · split_ifs
    · exact .pure trivial
    · exact .report rfl trivial
  · split
    · exact .report rfl trivial
    · split_ifs
      · exact .pure trivial
      · exact .report rfl trivial

theorem typeRef_strict (name : Option (Located String)) :
    Strict (typeRef definitions owner usage name) := by
  cases name with
  | none => exact .pure trivial
  | some name => exact .bind (lookup_strict name) fun _ _ => .pure trivial

theorem slot_strict (o : Occurrence) : Strict (slot definitions owner usage o) := by
  refine .bind (lookup_strict o.name) fun t _ => ?_
  split <;> exact .pure trivial

theorem slots_strict (os : List Occurrence) : Strict (slots definitions owner usage os) := by
  induction os with
  | nil => exact .pure trivial
  | cons o os ih => exact .bind (slot_strict o) fun _ _ => .bind ih fun _ _ => .pure trivial

mutual

theorem particle_strict : (m : Definition.Member) → Strict (particle definitions owner m)
  | .element o => by
    rw [particle]
    exact .bind (slot_strict o) fun _ _ => .pure trivial
  | .group compositor members => by
    rw [particle]
    exact .bind (particles_strict members) fun _ _ => .pure trivial

theorem particles_strict : (ms : List Definition.Member) → Strict (particles definitions owner ms)
  | [] => by
    rw [particles]
    exact .pure trivial
  | m :: ms => by
    rw [particles]
    exact .bind (particle_strict m) fun _ _ => .bind (particles_strict ms) fun _ _ => .pure trivial

end

theorem content_strict (c : Definition.Content) : Strict (content definitions owner c) := by
  cases c with
  | empty => exact .pure trivial
  | text => exact .pure trivial
  | group compositor members mixed =>
    exact .bind (particles_strict members) fun _ _ => .pure trivial
  | single target quantifier =>
    refine .bind (lookup_strict target.name) fun t _ => ?_
    cases t with
    | none => exact .pure trivial
    | some t =>
      dsimp only
      split
      · exact .pure trivial
      · refine .note (fun p hp => ?_) (.pure trivial)
        obtain ⟨q, -, rfl⟩ := List.mem_map.mp hp
        rfl

theorem constraintProblems_isError (owner : String) (primitive : Primitive)
    (values : List (Located String)) (minimum maximum : Option (Located Int)) :
    ∀ p ∈ constraintProblems owner primitive values minimum maximum, p.isError = true := by
  intro p hp
  simp only [constraintProblems, List.mem_append] at hp
  rcases hp with (hp | hp) | hp
  · unfold boundsProblems at hp
    split at hp
    · split_ifs at hp
      · rw [List.mem_singleton.mp hp]
        rfl
      · cases hp
    · cases hp
  · split_ifs at hp
    · cases hp
    · obtain ⟨bound, -, rfl⟩ := List.mem_map.mp hp
      rfl
  · obtain ⟨value, -, rfl⟩ := List.mem_map.mp hp
    rfl

theorem patternProblems_isError (owner : String) (pattern : Located String) :
    ∀ p ∈ patternProblems owner pattern, p.isError = true := by
  unfold patternProblems
  split
  · exact List.forall_mem_singleton.mpr rfl
  · split
    · exact List.forall_mem_singleton.mpr rfl
    · simp

theorem dataTypeProblems_isError (g : Graph) (id : StructureId) (d : Definition) :
    ∀ p ∈ dataTypeProblems g id d, p.isError = true := by
  intro p hp
  unfold dataTypeProblems at hp
  split at hp
  · rcases List.mem_append.mp hp with hp | hp
    · obtain ⟨pattern, -, hp⟩ := List.mem_flatMap.mp hp
      exact patternProblems_isError _ pattern p hp
    · split at hp
      · exact constraintProblems_isError _ _ _ _ _ p hp
      · cases hp
  · cases hp

theorem allDataTypeProblems_isError (g : Graph) (definitions : List Definition) :
    ∀ p ∈ allDataTypeProblems g definitions, p.isError = true := by
  intro p hp
  rcases List.mem_append.mp hp with hp | hp
  · obtain ⟨id, -, hp⟩ := List.mem_filterMap.mp hp
    split at hp
    · split_ifs at hp
      cases hp
      rfl
    · cases hp
  · obtain ⟨⟨d, id⟩, -, hp⟩ := List.mem_flatMap.mp hp
    exact dataTypeProblems_isError g id d p hp

theorem body_problems {b : Definition.Body} (h : Passes (body definitions owner b)) :
    (body definitions owner b).problems = unusedDefaults definitions owner b.attributes := by
  have hnone {α : Type} {x : Checked Problem α} (hs : Strict x) (hp : Passes x) :
      x.problems = [] := eq_nil_of_errors hs.problems hp
  rcases b with ⟨root, attributes, inner⟩ | ⟨valueType, default⟩ |
    ⟨base, pattern, values, minimum, maximum⟩ | ⟨root, properties, order⟩ | ⟨valueType⟩ | ⟨itemType⟩
  · have hslots := hnone (slots_strict attributes) h.bind.2.bind.1
    have hcontent := hnone (content_strict inner) h.bind.2.bind.2.bind.1
    simp [body, hslots, hcontent, Definition.Body.attributes]
  · exact hnone (.bind (typeRef_strict valueType) fun _ _ => .pure trivial) h
  · exact hnone (.bind (typeRef_strict base) fun _ _ => .pure trivial) h
  · exact hnone (.bind (slots_strict properties) fun _ _ => .pure trivial) h
  · exact hnone (.bind (typeRef_strict valueType) fun _ _ => .pure trivial) h
  · exact hnone (.bind (typeRef_strict _) fun _ _ => .pure trivial) h

theorem graph_problems (h : (graph definitions).problems.any (·.isError) = false) :
    (graph definitions).problems =
      definitions.flatMap fun d => unusedDefaults definitions d.name.value d.body.attributes := by
  have hn := names_problems_of_graph h
  have hpasses := passes_iff.mpr hn
  have hnames : nameProblems [] definitions = [] :=
    eq_nil_of_errors (nameProblems_isError [] definitions) hpasses.bind.1
  have hgraph : (graph definitions).problems = (names definitions).problems ++
      allDataTypeProblems (.ofStructures (names definitions).value) definitions := by
    simp [graph, hn]
  have hdata : allDataTypeProblems (.ofStructures (names definitions).value) definitions = [] := by
    refine eq_nil_of_errors (allDataTypeProblems_isError _ definitions) fun p hp => ?_
    exact passes_iff.mpr h p (by rw [hgraph]; exact List.mem_append_right _ hp)
  have hstructures : (names definitions).problems =
      definitions.flatMap fun d => (structureOf definitions d).problems := by
    rw [names, Checked.problems_bind, Checked.problems_note, hnames, structures_problems,
      List.nil_append]
  rw [hgraph, hdata, List.append_nil, hstructures]
  refine List.flatMap_congr fun d hd => ?_
  have hd := structures_passes hpasses.bind.2 d hd
  exact (List.append_nil _).trans (body_problems hd.bind.1)

/-! ### Warnings of the graph -/

theorem slots_linked {os : List Occurrence} (hu : usage.acceptsPrimitive = false)
    (h : Passes (slots definitions owner usage os)) :
    List.Forall₂ (fun o s => (slot definitions owner usage o).value = some s) os
      (slots definitions owner usage os).value := by
  induction os with
  | nil => exact .nil
  | cons o os ih =>
    rw [slots] at h ⊢
    obtain ⟨s, hs⟩ := Option.isSome_iff_exists.mp (slot_isSome hu h.bind.1)
    simpa [hs] using ih h.bind.2.bind.1

theorem default?_linked {o : Occurrence} {s : Slot}
    (h : (slot definitions owner usage o).value = some s) :
    (default? definitions o.name.value).map (·.value) =
      ((graph definitions).value.get s.target).default? ∧
    o.name.value = ((graph definitions).value.get s.target).reference := by
  obtain ⟨d, hf, -⟩ := lookup_eq_declared.mp (slot_eq_some h).1
  obtain ⟨hd, hname⟩ := find?_eq_some hf
  rw [get_graph hd, structureOf_reference]
  refine ⟨?_, hname.symm⟩
  obtain ⟨name, tagName, remarks, b⟩ := d
  cases b <;> simp [default?, hf, Structure.default?, structureOf, body]

theorem Problem.message_unusedDefault (owner : String) (o : Occurrence)
    (default : Located String) : (Problem.unusedDefault owner o default).diagnostic.message =
      unusedDefaultMessage o.name.value owner default.value := rfl

/-- Warnings found by names are those that the graph tells. -/
theorem messages_unusedDefaults {os : List Occurrence} {ss : List Slot}
    (h : List.Forall₂ (fun o s => (slot definitions owner usage o).value = some s) os ss) :
    (unusedDefaults definitions owner os).map (·.diagnostic.message) =
      (ss.filter (·.cardinality.isRequired)).filterMap fun s =>
        ((graph definitions).value.get s.target).default?.map (unusedDefaultMessage
          ((graph definitions).value.get s.target).reference owner) := by
  unfold unusedDefaults
  induction h with
  | nil => rfl
  | @cons o s os ss hs _ ih =>
    obtain ⟨hdefault, hname⟩ := default?_linked hs
    have hfirst : (default? definitions o.name.value).map
        (fun v => (Problem.unusedDefault owner o v).diagnostic.message) =
          ((graph definitions).value.get s.target).default?.map (unusedDefaultMessage
            ((graph definitions).value.get s.target).reference owner) := by
      rw [← hdefault, ← hname, Option.map_map]
      simp only [Problem.message_unusedDefault, Function.comp_def]
    rw [List.filter_cons, List.filter_cons, (slot_eq_some hs).2]
    split_ifs
    · rw [List.filterMap_cons, List.filterMap_cons, ← hfirst]
      cases default? definitions o.name.value with
      | none => exact ih
      | some v => exact congrArg (_ :: ·) ih
    · exact ih

theorem graph_messages (h : (graph definitions).problems.any (·.isError) = false) :
    (graph definitions).problems.map (·.diagnostic.message) =
      (graph definitions).value.structures.flatMap (graph definitions).value.unusedDefaults := by
  have hpasses := passes_iff.mpr (names_problems_of_graph h)
  have hs : (graph definitions).value.structures =
      definitions.map fun d => (structureOf definitions d).value := by
    rw [← names_value, value_graph]
    rfl
  rw [graph_problems h, hs, List.map_flatMap, List.flatMap_map]
  refine List.flatMap_congr fun d hd => ?_
  have hbody : Passes (body definitions d.name.value d.body) :=
    (structures_passes hpasses.bind.2 d hd).bind.1
  obtain ⟨name, tagName, remarks, b⟩ := d
  cases b with
  | element root attributes inner =>
    exact messages_unusedDefaults (slots_linked rfl hbody.bind.2.bind.1)
  | _ => rfl

end Link

/-! ### Warnings of a text -/

theorem toList_unusedDefaultMessage (name owner default : String) :
    (unusedDefaultMessage name owner default).toList =
      "required attribute `".toList ++ (name.toList ++ ("` of `".toList ++ (owner.toList ++
        ("` never uses its default ".toList ++ ("`".toList ++
          (default.toList ++ "`".toList)))))) := by
  unfold unusedDefaultMessage
  simp only [toString]
  simp only [String.toList_append, List.append_assoc]

theorem Definition.Problem.message_ne {p : Problem} (h : p.diagnostic.isError = false)
    (name owner default : String) :
    p.diagnostic.message ≠ unusedDefaultMessage name owner default := by
  cases hp : p with
  | repeatedMember o r =>
    rw [hp] at h
    intro he
    have hfirst : "required attribute `".toList = _ := String.toList_ofList
    have htick : "`".toList = _ := String.toList_ofList
    have hchars := congrArg String.toList he
    rw [toList_unusedDefaultMessage, hfirst] at hchars
    by_cases hc : r.isConflict = true
    · simp [Problem.diagnostic, hc, Diagnostic.isError, Diagnostic.error] at h
    · simp only [Problem.diagnostic, hc, Bool.false_eq_true, if_false, Diagnostic.warning,
        toString] at hchars
      simp only [String.toList_append, List.append_assoc, htick, List.cons_append,
        List.cons.injEq] at hchars
      exact absurd hchars.1 (by decide)
  | _ =>
    have herror : p.diagnostic.isError = true := isError_of_drops (by rw [hp]; rfl)
    rw [h] at herror
    cases herror

def Compiled.messages (c : Compiled) : List String := c.warnings.map (·.message)

/-- The warnings that come last are those about defaults. -/
theorem compile_messages {source : String} {c : Compiled} (h : compile source = .ok c) :
    ∃ others, c.messages = others ++ c.graph.structures.flatMap c.graph.unusedDefaults ∧
      ∀ m ∈ others, ∀ name owner default, m ≠ unusedDefaultMessage name owner default := by
  obtain ⟨lexed, declarations, -, -, hc⟩ := compile_ok h
  obtain ⟨hd, hl, hg, hw⟩ := compileDeclarations_ok hc
  refine ⟨(Definition.ofDeclarations lexed.comments declarations).problems.map
    (·.diagnostic.message), ?_, ?_⟩
  · rw [Compiled.messages, hw, List.map_append, List.map_map, List.map_map, hg]
    exact congrArg (_ ++ ·) (Link.graph_messages hl)
  · intro m hm
    obtain ⟨p, hp, rfl⟩ := List.mem_map.mp hm
    exact Definition.Problem.message_ne (by simpa using List.any_eq_false.mp hd p hp)

/-! ### Warnings are told apart -/

def WordText (s : String) : Prop := ∀ c ∈ s.toList, Token.isWordChar c = true

/-- A word ends before the first other character. -/
theorem WordText.append_inj {a b : String} {sign : Char} {q cs ds : List Char} (ha : WordText a)
    (hb : WordText b) (hs : Token.isWordChar sign = false)
    (h : a.toList ++ (sign :: q ++ cs) = b.toList ++ (sign :: q ++ ds)) : a = b ∧ cs = ds := by
  have hends (rest : List Char) : ∀ c ∈ (sign :: q ++ rest).head?, Token.isWordChar c = false := by
    rintro c ⟨⟩
    exact hs
  obtain ⟨htake, hdrop⟩ := takeWhile_dropWhile_append ha (hends cs)
  obtain ⟨htake', hdrop'⟩ := takeWhile_dropWhile_append hb (hends ds)
  rw [h] at htake hdrop
  exact ⟨String.toList_injective (htake.symm.trans htake'),
    List.append_cancel_left (hdrop.symm.trans hdrop')⟩

theorem unusedDefaultMessage_inj {name name' owner owner' default default' : String}
    (hn : WordText name) (hn' : WordText name') (ho : WordText owner) (ho' : WordText owner')
    (h : unusedDefaultMessage name owner default = unusedDefaultMessage name' owner' default') :
    name = name' ∧ owner = owner' := by
  have hof : "` of `".toList = _ := String.toList_ofList
  have hnever : "` never uses its default ".toList = _ := String.toList_ofList
  have hchars := congrArg String.toList h
  rw [toList_unusedDefaultMessage, toList_unusedDefaultMessage] at hchars
  have hrest := List.append_cancel_left hchars
  rw [hof, hnever] at hrest
  obtain ⟨hname, hrest⟩ := hn.append_inj hn' (by decide) hrest
  exact ⟨hname, (ho.append_inj ho' (by decide) hrest).1⟩

theorem Token.tokens_spelled {source : String} {lexed : Lexed} (h : tokenize source = .ok lexed) :
    ∀ t ∈ lexed.tokens, ∃ cs, t.value.Spelled cs := by
  obtain ⟨pieces, hp, ht⟩ := exists_pieces h
  intro t hm
  obtain ⟨cs, -, -, hspelled, -⟩ := hp.forall_matches [] rfl _ (ht t hm)
  exact ⟨cs, hspelled⟩

theorem Grammar.DerivesFile.names {ts : Tokens} {ds : List Declaration} (h : DerivesFile ts ds) :
    ∀ d ∈ ds, ∃ t ∈ ts, t.value = .identifier d.name.value := by
  induction h with
  | nil => simp
  | cons first _ ih =>
    refine List.forall_mem_cons.mpr ⟨?_, fun d hd => ?_⟩
    · cases first with
      | plain k name ks ns => exact ⟨⟨.identifier name, ns⟩, by simp, rfl⟩
      | root k name rs ks ns => exact ⟨⟨.identifier name, ns⟩, by simp, rfl⟩
    · obtain ⟨t, ht, hname⟩ := ih d hd
      exact ⟨t, by simp [ht], hname⟩

theorem compile_wordText {source : String} {c : Compiled} (h : compile source = .ok c) :
    ∀ s ∈ c.graph.structures, WordText s.reference := by
  obtain ⟨lexed, declarations, definitions, ht, hp, -, hs⟩ := compile_declared h
  intro s hm
  rw [hs] at hm
  obtain ⟨d, hd, rfl⟩ := List.mem_map.mp hm
  obtain ⟨t, hmem, hname⟩ := (Grammar.parseDeclarations_eq_ok_iff.mp hp).names d hd
  obtain ⟨cs, hspelled⟩ := Token.tokens_spelled ht t hmem
  rw [hname] at hspelled
  obtain ⟨rfl, -, hword, -⟩ := hspelled
  exact hword

namespace Graph

variable {g : Graph}

theorem exists_get_of_mem {s : Structure} (h : s ∈ g.structures) : ∃ id, g.get id = s := by
  obtain ⟨id, hid⟩ := List.mem_iff_getElem?.mp h
  exact ⟨id, by simp [get, hid]⟩

theorem get_eq_blank {id : StructureId} (h : ¬id < g.size) : g.get id = .blank := by
  rw [size, not_lt] at h
  simp [get, List.getElem?_eq_none h]

theorem lt_size_of_default? {id : StructureId} {default : String}
    (h : (g.get id).default? = some default) : id < g.size := by
  by_contra hid
  rw [get_eq_blank hid] at h
  cases h

theorem lt_size_of_mem_attributes {id : StructureId} {slot : Slot}
    (h : slot ∈ (g.get id).attributes) : id < g.size := by
  by_contra hid
  rw [get_eq_blank hid] at h
  cases h

theorem mem_unusedDefaults {s : Structure} {m : String} : m ∈ g.unusedDefaults s ↔
    ∃ slot ∈ s.attributes, slot.cardinality.isRequired = true ∧
      ∃ default, (g.get slot.target).default? = some default ∧
        unusedDefaultMessage (g.get slot.target).reference s.reference default = m := by
  simp [unusedDefaults, List.mem_filterMap, List.mem_filter, and_assoc]

section Distinct

variable (hg : g.WellLinked) (hw : ∀ s ∈ g.structures, WordText s.reference)

include hg hw

theorem eq_of_message_eq {s s' : Structure} (hs : s ∈ g.structures) (hs' : s' ∈ g.structures)
    {slot slot' : Slot} {default default' : String}
    (hd : (g.get slot.target).default? = some default)
    (hd' : (g.get slot'.target).default? = some default')
    (h : unusedDefaultMessage (g.get slot.target).reference s.reference default =
      unusedDefaultMessage (g.get slot'.target).reference s'.reference default') :
    slot.target = slot'.target ∧ s.reference = s'.reference := by
  have hlt := lt_size_of_default? hd
  have hlt' := lt_size_of_default? hd'
  obtain ⟨hname, howner⟩ := unusedDefaultMessage_inj (hw _ (get_mem hlt)) (hw _ (get_mem hlt'))
    (hw s hs) (hw s' hs') h
  exact ⟨eq_of_reference_eq hg.distinct hlt hlt' hname, howner⟩

theorem unusedDefaults_nodup (ho : ∀ s ∈ g.structures, (s.attributes.map (·.target)).Nodup) :
    (g.structures.flatMap g.unusedDefaults).Nodup := by
  refine List.nodup_flatMap.mpr ⟨fun s hs => ?_, ?_⟩
  · -- the attributes of one element have different names
    have hpairs := List.pairwise_map.mp (ho s hs)
    refine (hpairs.filter _).filterMap _ fun slot slot' hne m hm m' hm' he => ?_
    obtain ⟨default, hd, rfl⟩ := Option.map_eq_some_iff.mp hm
    obtain ⟨default', hd', rfl⟩ := Option.map_eq_some_iff.mp hm'
    exact hne (eq_of_message_eq hg hw hs hs hd hd' he).1
  · -- and so do the elements
    refine (List.pairwise_map.mp hg.distinct).imp_of_mem fun hs hs' hne m hm hm' => ?_
    obtain ⟨slot, -, -, default, hd, rfl⟩ := mem_unusedDefaults.mp hm
    obtain ⟨slot', -, -, default', hd', he⟩ := mem_unusedDefaults.mp hm'
    exact hne (eq_of_message_eq hg hw hs hs' hd hd' he.symm).2

end Distinct

end Graph

theorem Cardinality.isExactlyOne_eq_isRequired {k : Cardinality}
    (hm : k.max = some 0 ∨ k.max = some 1) : k.isExactlyOne = k.isRequired := by
  obtain ⟨min, max, hv⟩ := k
  rcases hm with rfl | rfl
  · have hmin : min ≤ 0 := hv 0 rfl
    obtain rfl : min = 0 := by omega
    rfl
  · have hmin : min ≤ 1 := hv 1 rfl
    obtain rfl | rfl : min = 0 ∨ min = 1 := by omega
    · rfl
    · rfl

section Compiled

variable {source : String} {c : Compiled} (h : compile source = .ok c)

include h

/-- An attribute of a compiled element is required exactly if it occurs exactly once, and no
attribute is listed twice. -/
theorem compile_attributes {s : Structure} (hs : s ∈ c.graph.structures) :
    (s.attributes.map (·.target)).Nodup ∧ ∀ slot ∈ s.attributes,
      slot.cardinality.isExactlyOne = slot.cardinality.isRequired := by
  obtain ⟨lexed, declarations, definitions, -, -, herrors, hstructures⟩ := compile_declared h
  rw [hstructures] at hs
  obtain ⟨d, hd, rfl⟩ := List.mem_map.mp hs
  unfold Structure.attributes
  split
  · next root slots content hb =>
    obtain ⟨honce, hnodup⟩ := Link.body_attributes (herrors d hd) hb
    exact ⟨hnodup, fun slot hm => Cardinality.isExactlyOne_eq_isRequired (honce slot hm)⟩
  · exact ⟨List.nodup_nil, by simp⟩

theorem compile_unusedDefaults_nodup :
    (c.graph.structures.flatMap c.graph.unusedDefaults).Nodup :=
  Graph.unusedDefaults_nodup (compile_wellLinked h) (compile_wordText h)
    fun _ hs => (compile_attributes h hs).1

theorem mem_messages_iff {name owner default : String} :
    unusedDefaultMessage name owner default ∈ c.messages ↔
      ∃ s ∈ c.graph.structures,
        unusedDefaultMessage name owner default ∈ c.graph.unusedDefaults s := by
  obtain ⟨others, hmessages, hothers⟩ := compile_messages h
  rw [hmessages, List.mem_append, List.mem_flatMap]
  exact or_iff_right fun hm => hothers _ hm name owner default rfl

theorem count_messages_le_one (name owner default : String) :
    c.messages.count (unusedDefaultMessage name owner default) ≤ 1 := by
  obtain ⟨others, hmessages, hothers⟩ := compile_messages h
  have hnone : others.count (unusedDefaultMessage name owner default) = 0 :=
    List.count_eq_zero.mpr fun hm => hothers _ hm name owner default rfl
  rw [hmessages, List.count_append, hnone, Nat.zero_add]
  exact List.nodup_iff_count_le_one.mp (compile_unusedDefaults_nodup h) _

theorem slot_eq_of_message_eq {id id' : StructureId} {slot slot' : Slot} {default default' : String}
    (hs : slot ∈ (c.graph.get id).attributes) (hs' : slot' ∈ (c.graph.get id').attributes)
    (hd : (c.graph.get slot.target).default? = some default)
    (hd' : (c.graph.get slot'.target).default? = some default')
    (he : unusedDefaultMessage (c.graph.get slot.target).reference (c.graph.get id).reference
        default =
      unusedDefaultMessage (c.graph.get slot'.target).reference (c.graph.get id').reference
        default') : id = id' ∧ slot = slot' := by
  have hg := compile_wellLinked h
  have hid := Graph.lt_size_of_mem_attributes hs
  have hid' := Graph.lt_size_of_mem_attributes hs'
  obtain ⟨htarget, hname⟩ := Graph.eq_of_message_eq hg (compile_wordText h) (Graph.get_mem hid)
    (Graph.get_mem hid') hd hd' he
  obtain rfl := Graph.eq_of_reference_eq hg.distinct hid hid' hname
  have hnodup := (compile_attributes h (Graph.get_mem hid)).1
  exact ⟨rfl, List.inj_on_of_nodup_map hnodup hs hs' htarget⟩

/-- A default is warned of exactly where its attribute is required. -/
theorem message_mem_iff {id : StructureId} {slot : Slot} {default : String}
    (hs : slot ∈ (c.graph.get id).attributes)
    (hd : (c.graph.get slot.target).default? = some default) :
    unusedDefaultMessage (c.graph.get slot.target).reference (c.graph.get id).reference default ∈
      c.messages ↔ slot.cardinality.isRequired = true := by
  have hid := Graph.lt_size_of_mem_attributes hs
  rw [mem_messages_iff h]
  constructor
  · rintro ⟨s, hm, hin⟩
    obtain ⟨slot', hs', hrequired, default', hd', he⟩ := Graph.mem_unusedDefaults.mp hin
    obtain ⟨id', rfl⟩ := Graph.exists_get_of_mem hm
    obtain ⟨rfl, rfl⟩ := slot_eq_of_message_eq h hs' hs hd' hd he
    exact hrequired
  · intro hrequired
    exact ⟨c.graph.get id, Graph.get_mem hid,
      Graph.mem_unusedDefaults.mpr ⟨slot, hs, hrequired, default, hd, rfl⟩⟩

end Compiled

end DocSchema
