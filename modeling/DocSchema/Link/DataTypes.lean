import DocSchema.Link.Names
import DocSchema.Pattern.Compile

/-!
# Checking data types

Once all names are linked, chains of bases have to end, patterns have to compile and to be portable,
and constraints have to fit the built-in type at the end of the chain.
-/
namespace DocSchema.Link

/-- Follows bases from the last member of a chain until they return to `start`. -/
def baseCycleAux (g : Graph) (start : StructureId) :
    Nat → List StructureId → StructureId → Option (List StructureId)
  | 0, _, _ => none
  | fuel + 1, chain, current =>
    match g.base? current with
    | some (.declared next) =>
      if next == start then some chain
      else if chain.contains next then none
      else baseCycleAux g start fuel (chain ++ [next]) next
    | _ => none

def baseCycle? (g : Graph) (start : StructureId) : Option (List StructureId) :=
  baseCycleAux g start g.size [start] start

def isFirstOf (id : StructureId) (cycle : List StructureId) : Bool := cycle.all (id ≤ ·)

def nameAt (definitions : List Definition) (id : StructureId) : Located String :=
  match definitions[id]? with
  | some d => d.name
  | none => ⟨"", .point 0⟩

def cycleProblems (g : Graph) (definitions : List Definition) : List Problem :=
  (g.ofKind .dataType).filterMap fun id =>
    match baseCycle? g id with
    | some cycle =>
      if isFirstOf id cycle then
        some (.cyclicBase (nameAt definitions id) (cycle.tail.map (nameAt definitions)))
      else none
    | none => none

/-- A pattern has to compile and to mean the same in XML Schema. -/
def patternProblems (owner : String) (pattern : Located String) : List Problem :=
  match Pattern.compile pattern.value with
  | .error fault => [.invalidPattern owner pattern.span fault]
  | .ok _ =>
    match Pattern.dialectIssue? pattern.value with
    | some (offset, issue) => [.foreignPattern owner pattern.span offset issue]
    | none => []

def boundsProblems (owner : String) : Option (Located Int) → Option (Located Int) → List Problem
  | some minimum, some maximum =>
    if maximum.value < minimum.value then [.invertedBounds owner minimum maximum] else []
  | _, _ => []

def constraintProblems (owner : String) (primitive : Primitive) (values : List (Located String))
    (minimum maximum : Option (Located Int)) : List Problem :=
  boundsProblems owner minimum maximum
    ++ (if primitive.isNumeric then []
      else (minimum.toList ++ maximum.toList).map (.boundOfNoNumber owner primitive))
    ++ (values.filter (!primitive.accepts ·.value)).map (.notAValue owner primitive)

/-- The problems of one data type. Constraints are not checked where the chain does not end. -/
def dataTypeProblems (g : Graph) (id : StructureId) (d : Definition) : List Problem :=
  match d.body with
  | .dataType _ pattern values minimum maximum =>
    pattern.toList.flatMap (patternProblems d.name.value)
      ++ match g.basePrimitive (.declared id) with
        | some primitive => constraintProblems d.name.value primitive values minimum maximum
        | none => []
  | _ => []

/-- The problems of data types: cycles first, then each data type in order. -/
def allDataTypeProblems (g : Graph) (definitions : List Definition) : List Problem :=
  cycleProblems g definitions
    ++ (definitions.zipIdx.flatMap fun (d, id) => dataTypeProblems g id d)

/-- Links definitions into a graph. Data types are checked only when all names are linked. -/
def graph (definitions : List Definition) : Checked Problem Graph :=
  let linked := names definitions
  let g := Graph.ofStructures linked.value
  if linked.problems.any (·.isError) then ⟨g, linked.problems⟩
  else ⟨g, linked.problems ++ allDataTypeProblems g definitions⟩

end DocSchema.Link
