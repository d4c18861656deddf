import DocSchema.Link.DataTypes
import DocSchema.Proofs.Places.Check

/-!
# Linking without places

No place and no remark decides how names are linked or which problems a data type has. Definitions
without them give the same graph, without remarks, and the same problems.
-/
namespace DocSchema

/-- A structure without its remarks. -/
def Structure.bare (s : Structure) : Structure := ⟨s.reference, s.tagName, .none, s.body⟩

/-- A graph without what comments say: the remarks of structures and the name of the format. -/
def Graph.bare (g : Graph) : Graph := ⟨none, g.structures.map Structure.bare⟩

namespace Graph

theorem size_bare (g : Graph) : g.bare.size = g.size := List.length_map _

theorem get_bare (g : Graph) (id : StructureId) : g.bare.get id = (g.get id).bare := by
  simp only [get, bare, List.getD_eq_getElem?_getD, List.getElem?_map]
  cases g.structures[id]? <;> rfl

theorem ofKind_bare (g : Graph) (kind : Kind) : g.bare.ofKind kind = g.ofKind kind := by
  simp only [ofKind, ids, size_bare, get_bare]
  rfl

theorem base?_bare (g : Graph) (id : StructureId) : g.bare.base? id = g.base? id := by
  rw [base?, base?, get_bare]
  rfl

theorem basePrimitiveAux_bare (g : Graph) (fuel : Nat) (type : TypeRef) :
    g.bare.basePrimitiveAux fuel type = g.basePrimitiveAux fuel type := by
  induction fuel generalizing type with
  | zero => cases type <;> rfl
  | succ fuel ih =>
    cases type with
    | primitive p => rfl
    | declared id =>
      rw [basePrimitiveAux, basePrimitiveAux, base?_bare]
      cases g.base? id with
      | none => rfl
      | some base => exact ih base

theorem basePrimitive_bare (g : Graph) (type : TypeRef) :
    g.bare.basePrimitive type = g.basePrimitive type := by
  rw [basePrimitive, size_bare, basePrimitiveAux_bare, basePrimitive]

end Graph

namespace Link

open Checked (bimap_pure bimap_bind note_bind)

def Problem.bare : Problem → Problem
  | .reserved name => .reserved name.bare
  | .duplicate name _ => .duplicate name.bare (.point 0)
  | .builtIn name owner usage => .builtIn name.bare owner usage
  | .undefined name owner => .undefined name.bare owner
  | .wrongKind name owner usage kind _ => .wrongKind name.bare owner usage kind (.point 0)
  | .unusedDefault owner use default => .unusedDefault owner use.bare default.bare
  | .quantifiedValue owner _ => .quantifiedValue owner (.point 0)
  | .cyclicBase first others => .cyclicBase first.bare (others.map Located.bare)
  | .invalidPattern owner _ fault => .invalidPattern owner (.point 0) fault
  | .foreignPattern owner _ offset issue => .foreignPattern owner (.point 0) offset issue
  | .invertedBounds owner minimum maximum => .invertedBounds owner minimum.bare maximum.bare
  | .boundOfNoNumber owner primitive bound => .boundOfNoNumber owner primitive bound.bare
  | .notAValue owner primitive value => .notAValue owner primitive value.bare

abbrev bareLink {α β : Type} (f : α → β) : Checked Problem α → Checked Problem β :=
  Checked.bimap Problem.bare f

section Names

variable (definitions : List Definition) (owner : String)

theorem nameProblems_bare (seen : List (Located String)) (ds : List Definition) :
    nameProblems (seen.map Located.bare) (ds.map Definition.bare) =
      (nameProblems seen ds).map Problem.bare := by
  induction ds generalizing seen with
  | nil => rfl
  | cons d ds ih =>
    have hfind : (seen.map Located.bare).find? (·.value == d.bare.name.value) =
        (seen.find? (·.value == d.name.value)).map Located.bare := List.find?_map ..
    have hname : d.bare.name.value = d.name.value := rfl
    have hmore := ih (seen ++ [d.name])
    rw [List.map_append] at hmore
    rw [List.map_cons, nameProblems, nameProblems, hfind, hname]
    split_ifs
    · exact congrArg (.reserved d.name.bare :: ·) (ih seen)
    · cases seen.find? (·.value == d.name.value) with
      | none => exact hmore
      | some first => exact congrArg (.duplicate d.name.bare (.point 0) :: ·) (ih seen)

theorem findFrom_bare (name : String) (index : StructureId) (ds : List Definition) :
    findFrom name index (ds.map Definition.bare) =
      (findFrom name index ds).map (Prod.map id Definition.bare) := by
  induction ds generalizing index with
  | nil => rfl
  | cons d ds ih =>
    have hname : d.bare.name.value = d.name.value := rfl
    rw [List.map_cons, findFrom, findFrom, ih, hname]
    split_ifs <;> rfl

theorem find?_bare (name : String) :
    find? (definitions.map Definition.bare) name =
      (find? definitions name).map (Prod.map id Definition.bare) := by
  rw [find?, find?, findFrom_bare]
  split_ifs <;> rfl

theorem kind_bare (d : Definition) : d.bare.kind = d.kind := by
  obtain ⟨name, tagName, remarks, body⟩ := d
  cases body <;> rfl

theorem lookup_bare (usage : Usage) (name : Located String) :
    lookup (definitions.map Definition.bare) owner usage name.bare =
      bareLink id (lookup definitions owner usage name) := by
  rw [lookup, lookup, Located.value_bare, find?_bare]
  cases Primitive.ofName? name.value with
  | some p =>
    dsimp only
    split_ifs <;> rfl
  | none =>
    rcases find? definitions name.value with _ | ⟨id, d⟩
    · rfl
    · dsimp only [Option.map_some, Prod.map_apply]
      rw [kind_bare]
      split_ifs <;> rfl

theorem typeRef_bare (usage : Usage) (name : Option (Located String)) :
    typeRef (definitions.map Definition.bare) owner usage (name.map Located.bare) =
      bareLink id (typeRef definitions owner usage name) := by
  cases name with
  | none => rfl
  | some name =>
    rw [Option.map_some, typeRef, typeRef, lookup_bare]
    exact bimap_bind (fun _ => by rfl) _

theorem slot_bare (usage : Usage) (o : Occurrence) :
    slot (definitions.map Definition.bare) owner usage o.bare =
      bareLink id (slot definitions owner usage o) := by
  rw [slot, slot, Occurrence.bare, lookup_bare]
  refine bimap_bind (fun found => ?_) _
  rcases found with _ | _ | _ <;> rfl

theorem slots_bare (usage : Usage) (os : List Occurrence) :
    slots (definitions.map Definition.bare) owner usage (os.map Occurrence.bare) =
      bareLink id (slots definitions owner usage os) := by
  induction os with
  | nil => rfl
  | cons o os ih =>
    rw [List.map_cons, slots, slots, slot_bare, ih]
    refine bimap_bind (fun s => ?_) _
    exact bimap_bind (fun _ => by rfl) _

mutual

theorem particle_bare (m : Definition.Member) :
    particle (definitions.map Definition.bare) owner m.bare =
      bareLink id (particle definitions owner m) :=
  match m with
  | .element o => by
    rw [Definition.Member.bare, particle, particle, slot_bare]
    exact bimap_bind (fun _ => by rfl) _
  | .group compositor members => by
    rw [Definition.Member.bare, particle, particle, particles_bare members]
    exact bimap_bind (fun _ => by rfl) _

theorem particles_bare (ms : List Definition.Member) :
    particles (definitions.map Definition.bare) owner (Definition.Member.bareAll ms) =
      bareLink id (particles definitions owner ms) :=
  match ms with
  | [] => by rw [Definition.Member.bareAll, particles, particles]; rfl
  | m :: ms => by
    rw [Definition.Member.bareAll, particles, particles, particle_bare m, particles_bare ms]
    refine bimap_bind (fun first => ?_) _
    exact bimap_bind (fun _ => by rfl) _

end

theorem default?_bare (name : String) :
    default? (definitions.map Definition.bare) name =
      (default? definitions name).map Located.bare := by
  rw [default?, default?, find?_bare]
  rcases find? definitions name with _ | ⟨id, ⟨declared, tagName, remarks, body⟩⟩
  · rfl
  · cases body <;> rfl

theorem unusedDefaults_bare (os : List Occurrence) :
    unusedDefaults (definitions.map Definition.bare) owner (os.map Occurrence.bare) =
      (unusedDefaults definitions owner os).map Problem.bare := by
  rw [unusedDefaults, unusedDefaults, List.filter_map, List.filterMap_map, List.map_filterMap]
  refine List.filterMap_congr fun o _ => ?_
  have hdefault : default? (definitions.map Definition.bare) o.bare.name.value =
      (default? definitions o.name.value).map Located.bare := default?_bare ..
  simp only [Function.comp_apply, hdefault, Option.map_map]
  rfl

theorem content_bare (c : Definition.Content) :
    content (definitions.map Definition.bare) owner c.bare =
      bareLink id (content definitions owner c) := by
  cases c with
  | empty => rfl
  | text => rfl
  | group compositor members mixed =>
    rw [Definition.Content.bare, content, content, particles_bare]
    exact bimap_bind (fun _ => by rfl) _
  | single target quantifier =>
    rw [Definition.Content.bare, content, content, Occurrence.bare, lookup_bare]
    refine bimap_bind (fun found => ?_) _
    cases found with
    | none => rfl
    | some type =>
      have htarget : type.target?.bind ((definitions.map Definition.bare)[·]?) =
          (type.target?.bind (definitions[·]?)).map Definition.bare := by
        cases type with
        | primitive p => rfl
        | declared id => exact List.getElem?_map ..
      dsimp only [id_eq]
      rw [htarget]
      rcases type.target?.bind (definitions[·]?) with _ | ⟨name, tagName, remarks, body⟩
      · cases quantifier <;> rfl
      · cases body <;> cases quantifier <;> rfl

theorem body_bare (b : Definition.Body) :
    body (definitions.map Definition.bare) owner b.bare =
      bareLink id (body definitions owner b) := by
  have hvalue {α : Type} (x : Option (Located α)) :
      (x.map Located.bare).map (·.value) = x.map (·.value) := by
    cases x <;> rfl
  rcases b with ⟨root, attributes, inner⟩ | ⟨valueType, default⟩ |
    ⟨base, pattern, values, minimum, maximum⟩ | ⟨root, properties, order⟩ | ⟨valueType⟩ | ⟨itemType⟩
  · rw [Definition.Body.bare, body, body, unusedDefaults_bare, slots_bare, content_bare]
    refine note_bind _ ?_
    refine bimap_bind (fun slots => ?_) _
    exact bimap_bind (fun _ => by rfl) _
  · rw [Definition.Body.bare, body, body, typeRef_bare, hvalue]
    exact bimap_bind (fun _ => by rfl) _
  · have hvalues : (values.map Located.bare).map (·.value) = values.map (·.value) := by
      rw [List.map_map]
      rfl
    rw [Definition.Body.bare, body, body, typeRef_bare, hvalue, hvalues, hvalue, hvalue]
    exact bimap_bind (fun _ => by rfl) _
  · rw [Definition.Body.bare, body, body, slots_bare]
    exact bimap_bind (fun _ => by rfl) _
  · rw [Definition.Body.bare, body, body, typeRef_bare]
    exact bimap_bind (fun _ => by rfl) _
  · have htype := typeRef_bare definitions owner .jsonValue (some itemType.name)
    exact (congrArg (· >>= _) htype).trans (bimap_bind (fun _ => by rfl) _)

theorem structureOf_bare (d : Definition) :
    structureOf (definitions.map Definition.bare) d.bare =
      bareLink Structure.bare (structureOf definitions d) := by
  have hbody := body_bare definitions d.name.value d.body
  refine (congrArg (· >>= _) hbody).trans (bimap_bind (fun linked => ?_) _)
  obtain ⟨name, tagName, remarks, body⟩ := d
  cases tagName <;> rfl

theorem structures_bare (ds : List Definition) :
    structures (definitions.map Definition.bare) (ds.map Definition.bare) =
      bareLink (List.map Structure.bare) (structures definitions ds) := by
  induction ds with
  | nil => rfl
  | cons d ds ih =>
    rw [List.map_cons, structures, structures, structureOf_bare, ih]
    refine bimap_bind (fun first => ?_) _
    exact bimap_bind (fun _ => by rfl) _

theorem names_bare :
    names (definitions.map Definition.bare) =
      bareLink (List.map Structure.bare) (names definitions) := by
  have hnames : nameProblems [] (definitions.map Definition.bare) =
      (nameProblems [] definitions).map Problem.bare := nameProblems_bare [] definitions
  rw [names, names, hnames, structures_bare]
  exact note_bind _ rfl

end Names

section DataTypes

variable (g : Graph)

theorem baseCycleAux_bare (start : StructureId) (fuel : Nat) (chain : List StructureId)
    (current : StructureId) :
    baseCycleAux g.bare start fuel chain current = baseCycleAux g start fuel chain current := by
  induction fuel generalizing chain current with
  | zero => rfl
  | succ fuel ih => simp only [baseCycleAux, Graph.base?_bare, ih]

theorem baseCycle?_bare (start : StructureId) : baseCycle? g.bare start = baseCycle? g start := by
  rw [baseCycle?, Graph.size_bare, baseCycleAux_bare, baseCycle?]

theorem nameAt_bare (definitions : List Definition) (id : StructureId) :
    nameAt (definitions.map Definition.bare) id = (nameAt definitions id).bare := by
  rw [nameAt, nameAt, List.getElem?_map]
  cases definitions[id]? <;> rfl

theorem cycleProblems_bare (definitions : List Definition) :
    cycleProblems g.bare (definitions.map Definition.bare) =
      (cycleProblems g definitions).map Problem.bare := by
  rw [cycleProblems, cycleProblems, Graph.ofKind_bare, List.map_filterMap]
  refine List.filterMap_congr fun id _ => ?_
  rw [baseCycle?_bare]
  cases baseCycle? g id with
  | none => rfl
  | some cycle =>
    dsimp only
    split_ifs
    · have hothers : cycle.tail.map (nameAt (definitions.map Definition.bare)) =
          (cycle.tail.map (nameAt definitions)).map Located.bare := by
        rw [List.map_map]
        exact List.map_congr_left fun other _ => nameAt_bare definitions other
      rw [nameAt_bare, hothers]
      rfl
    · rfl

theorem patternProblems_bare (owner : String) (pattern : Located String) :
    patternProblems owner pattern.bare = (patternProblems owner pattern).map Problem.bare := by
  rw [patternProblems, patternProblems, Located.value_bare]
  cases Pattern.compile pattern.value with
  | error fault => rfl
  | ok _ =>
    dsimp only
    cases Pattern.dialectIssue? pattern.value <;> rfl

theorem boundsProblems_bare (owner : String) (minimum maximum : Option (Located Int)) :
    boundsProblems owner (minimum.map Located.bare) (maximum.map Located.bare) =
      (boundsProblems owner minimum maximum).map Problem.bare := by
  cases minimum <;> cases maximum <;> try rfl
  next minimum maximum =>
  by_cases h : maximum.value < minimum.value <;> simp [boundsProblems, h, Problem.bare]

theorem constraintProblems_bare (owner : String) (primitive : Primitive)
    (values : List (Located String)) (minimum maximum : Option (Located Int)) :
    constraintProblems owner primitive (values.map Located.bare) (minimum.map Located.bare)
        (maximum.map Located.bare) =
      (constraintProblems owner primitive values minimum maximum).map Problem.bare := by
  have hbounds : (minimum.map Located.bare).toList ++ (maximum.map Located.bare).toList =
      (minimum.toList ++ maximum.toList).map Located.bare := by
    cases minimum <;> cases maximum <;> rfl
  have hnumbers : (if primitive.isNumeric then [] else
        ((minimum.toList ++ maximum.toList).map Located.bare).map
          (.boundOfNoNumber owner primitive)) =
      (if primitive.isNumeric then [] else
        (minimum.toList ++ maximum.toList).map (.boundOfNoNumber owner primitive)).map
          Problem.bare := by
    split_ifs
    · rfl
    · rw [List.map_map, List.map_map]
      rfl
  have hvalues : ((values.map Located.bare).filter (!primitive.accepts ·.value)).map
        (.notAValue owner primitive) =
      ((values.filter (!primitive.accepts ·.value)).map (.notAValue owner primitive)).map
        Problem.bare := by
    rw [List.filter_map, List.map_map, List.map_map]
    rfl
  rw [constraintProblems, constraintProblems, boundsProblems_bare, hbounds, hnumbers, hvalues,
    ← List.map_append, ← List.map_append]

theorem dataTypeProblems_bare (id : StructureId) (d : Definition) :
    dataTypeProblems g.bare id d.bare = (dataTypeProblems g id d).map Problem.bare := by
  obtain ⟨name, tagName, remarks, body⟩ := d
  rcases body with ⟨root, attributes, inner⟩ | ⟨valueType, default⟩ |
    ⟨base, pattern, values, minimum, maximum⟩ | ⟨root, properties, order⟩ | ⟨valueType⟩ | ⟨itemType⟩
  iterate 2 rfl
  · have hpattern : (pattern.map Located.bare).toList.flatMap (patternProblems name.value) =
        (pattern.toList.flatMap (patternProblems name.value)).map Problem.bare := by
      cases pattern with
      | none => rfl
      | some pattern => simp [patternProblems_bare]
    simp only [dataTypeProblems, Definition.bare, Definition.Body.bare, Located.value_bare,
      Graph.basePrimitive_bare, hpattern, List.map_append]
    cases g.basePrimitive (.declared id) with
    | none => rfl
    | some primitive => simp only [constraintProblems_bare]
  iterate 3 rfl

theorem allDataTypeProblems_bare (definitions : List Definition) :
    allDataTypeProblems g.bare (definitions.map Definition.bare) =
      (allDataTypeProblems g definitions).map Problem.bare := by
  rw [allDataTypeProblems, allDataTypeProblems, cycleProblems_bare, List.map_append,
    List.zipIdx_map, List.flatMap_map, List.map_flatMap]
  refine congrArg (_ ++ ·) (List.flatMap_congr fun p _ => ?_)
  exact dataTypeProblems_bare g p.2 p.1

end DataTypes

theorem isError_bare (p : Problem) : p.bare.isError = p.isError := by
  cases p <;> rfl

/-- Definitions without places and remarks give the graph without remarks. -/
theorem graph_bare (definitions : List Definition) :
    graph (definitions.map Definition.bare) = bareLink Graph.bare (graph definitions) := by
  have hany : ((names definitions).problems.map Problem.bare).any (·.isError) =
      (names definitions).problems.any (·.isError) := by
    rw [List.any_map]
    exact congrArg _ (funext isError_bare)
  have hgraph (structures : List Structure) :
    Graph.ofStructures (structures.map Structure.bare) = (Graph.ofStructures structures).bare := rfl
  simp only [graph, names_bare, Checked.bimap, hany, hgraph, allDataTypeProblems_bare]
  split_ifs
  · rfl
  · rw [List.map_append]

end Link

end DocSchema
