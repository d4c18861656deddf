import Std.Data.HashMap
import DocSchema.Pattern.Program.Basic
import DocSchema.Unicode.Utf8

/-!
# Programs for sets and texts

A program reads bytes. A set of ASCII characters is one step with a way out for each range. The
bytes of other sets form a tree. Forward, the nodes of the tree are made from the leaves up, and
nodes that are equal are made once. Backward, a step is made for each byte range of a sequence, and
sequences share the steps of the bytes that they start with. What has been made is remembered in a
table with a fixed number of places. Where two things claim one place, the later one is kept, and
the other is made again when it is needed.
-/
namespace DocSchema.Pattern.Program

open Unicode (CodeRange)

def mix (h : UInt64) (n : Nat) : UInt64 := (h ^^^ n.toUInt64) * 1099511628211

def placeOf (places : Nat) (numbers : List Nat) : Nat :=
  (numbers.foldl mix 14695981039346656037).toNat % places

/-- What has been made, by its place: the numbers that it is known by, and its step. -/
abbrev Memory := Std.HashMap Nat (List Nat × Nat)

def make (place : Nat) (key : List Nat) (extra : Nat) : StateT Memory Build Nat := do
  let step ← addStep extra
  modify (·.insert place (key, step))
  return step

/-- The step that is known by some numbers. It is made unless the memory has it. -/
def stepFor (places : Nat) (key : List Nat) (extra : Nat) : StateT Memory Build Nat := do
  let place := placeOf places key
  match (← get)[place]? with
  | some (known, step) => if known == key then return step else make place key extra
  | none => make place key extra

def groupByFirst : List (List CodeRange) → List (CodeRange × List (List CodeRange))
  | [] => []
  | [] :: rest => groupByFirst rest
  | (r :: tail) :: rest =>
    match groupByFirst rest with
    | [] => [(r, [tail])]
    | (s, tails) :: groups =>
      if r == s then (r, tail :: tails) :: groups else (r, [tail]) :: (s, tails) :: groups

def nodePlaces : Nat := 10000

/-- Makes the node for sequences of at most `depth` ranges, from which all ways lead to `target`. -/
def makeNode (target : Nat) : Nat → List (List CodeRange) → StateT Memory Build Nat
  | 0, _ => return target
  | depth + 1, sequences => do
    let arrows ← (groupByFirst sequences).mapM fun (r, tails) => do
      let next ← if tails.all (·.isEmpty) then pure target else makeNode target depth tails
      return [r.first, r.last, next]
    stepFor nodePlaces arrows.flatten (arrowSize * arrows.length)

def maxBytes : Nat := 4

def buildForward (sequences : List (List CodeRange)) : Build Unit := do
  let target ← addStep 0
  let _ ← (makeNode target maxBytes sequences).run ∅

def tailPlaces : Nat := 1000

def makeChain (next : Nat) : List CodeRange → StateT Memory Build Unit
  | [] => return
  | r :: rs => do
    let step ← stepFor tailPlaces [next, r.first, r.last] 0
    makeChain step rs

def buildBackward (sequences : List (List CodeRange)) : Build Unit := do
  grow 1 0
  let target ← addStep 0
  let _ ← (sequences.forM fun s => do
    makeChain target s
    grow 0 branchSize : StateT Memory Build Unit).run ∅

def buildSet (d : Direction) (ranges : List CodeRange) : Build Unit :=
  if ranges.all (·.last < 128) then grow 2 (arrowSize * ranges.length)
  else
    let sequences := ranges.flatMap Unicode.byteSequences
    match d with
    | .forward => buildForward sequences
    | .backward => buildBackward sequences

def divide : List (List Nat) → List (List (List Nat))
  | [] => [[]]
  | [] :: rest => [] :: divide rest
  | t :: rest =>
    match divide rest with
    | chunk :: chunks => (t :: chunk) :: chunks
    | [] => [[t]]

def insertText (groups : List (Nat × List (List Nat))) (b : Nat) (tail : List Nat) :
    List (Nat × List (List Nat)) :=
  match groups with
  | [] => [(b, [tail])]
  | (c, tails) :: rest =>
    if b == c then (c, tails ++ [tail]) :: rest else (c, tails) :: insertText rest b tail

def groupByByte (texts : List (List Nat)) : List (Nat × List (List Nat)) :=
  texts.foldl (fun groups t =>
    match t with
    | [] => groups
    | b :: tail => insertText groups b tail) []

/-- Builds the part of a tree of texts below a node, given the ends of the texts that pass it, at
most `depth` bytes long, in the order of the texts. A text that ends at the node is preferred to
those after it, so these have ways of their own. -/
def buildTexts : Nat → List (List Nat) → Build Unit
  | 0, _ => return
  | depth + 1, texts => do
    if texts.all (·.isEmpty) then return
    let leading := texts.takeWhile (·.isEmpty)
    let chunks := divide (leading.take 1 ++ texts.drop leading.length)
    let ways ← chunks.mapM fun chunk => do
      let groups := groupByByte chunk
      groups.forM fun (_, tails) => buildTexts depth tails
      match groups.length with
      | 0 => return 0
      | 1 => grow 1 0; return 1
      | n => grow 1 (arrowSize * n); return 1
    grow 1 (branchSize * (ways.sum + (chunks.length - 1)))

def buildChoice (d : Direction) (texts : List (List Char)) : Build Unit := do
  let bytes := texts.map (·.flatMap Unicode.utf8Bytes)
  let bytes :=
    match d with
    | .forward => bytes
    | .backward => bytes.map List.reverse
  grow 1 0
  buildTexts ((bytes.map List.length).foldl Nat.max 0 + 1) bytes

end DocSchema.Pattern.Program
