import DocSchema.Pattern.Form
import DocSchema.Pattern.Program.Bytes

/-!
# Building programs

The program of a form is put together from the programs of its parts. A part may end in a branching
step, which takes more room for every way that is added to lead on from it.
-/
namespace DocSchema.Pattern.Program

/-- How the program of a part ends. -/
inductive Ending where
  | plain
  | branching
  deriving DecidableEq, Repr

def leave : Ending → Build Unit
  | .plain => return
  | .branching => grow 0 branchSize

def more (one : Build Ending) : Nat → Ending → Build Ending
  | 0, last => return last
  | n + 1, last => do
    let next ← one
    leave last
    more one n next

def copies (one : Build Ending) : Nat → Build Ending
  | 0 => do
    grow 1 0
    return .plain
  | n + 1 => do more one n (← one)

/-- Copies of a part of which each may be the last one. -/
def optional (one : Build Ending) : Nat → Ending → Build Ending
  | 0, last => return last
  | n + 1, last => do
    grow 1 0
    let next ← one
    leave last
    grow 0 (2 * branchSize)
    optional one n next

/-- A part that is repeated any number of times. `takes` tells that a match of it is not empty. -/
def anyNumber (one : Build Ending) (takes : Bool) : Build Ending := do
  if takes then
    grow 1 0
    let last ← one
    grow 0 branchSize
    leave last
    return .branching
  else
    let last ← one
    grow 3 (4 * branchSize)
    leave last
    return .plain

def atLeast (one : Build Ending) (takes : Bool) : Nat → Build Ending
  | 0 => anyNumber one takes
  | 1 => do
    let last ← one
    grow 1 branchSize
    leave last
    return .branching
  | n + 2 => do
    let before ← copies one (n + 1)
    let last ← one
    grow 1 branchSize
    leave before
    leave last
    return .branching

def between (one : Build Ending) (min max : Nat) : Build Ending := do
  if min == 0 && max == 1 then
    grow 1 0
    let last ← one
    grow 1 (2 * branchSize)
    leave last
    return .plain
  else
    let last ← copies one min
    if min == max then return last
    grow 1 0
    let last ← optional one (max - min) last
    leave last
    return .plain

def addOptions : List (Build Ending) → Build Unit
  | [] => return
  | o :: os => do
    let last ← o
    grow 0 branchSize
    leave last
    addOptions os

def choice : List (Build Ending) → Build Ending
  | [] => do
    grow 1 0
    return .plain
  | [o] => o
  | o :: p :: os => do
    let first ← o
    let second ← p
    grow 2 (2 * branchSize)
    leave first
    leave second
    addOptions os
    return .plain

def inOrder : List (Build Ending) → Build Ending
  | [] => do
    grow 1 0
    return .plain
  | p :: ps => do
    let first ← p
    ps.foldlM (fun last p => do
      let next ← p
      leave last
      return next) first

def text? : Form → Option (List Char)
  | .literal text => some text
  | _ => none

mutual

def buildForm (d : Direction) : Form → Build Ending
  | .empty => do
    grow 1 0
    return .plain
  | .look _ => do
    grow 1 0
    return .plain
  | .literal text => do
    grow (byteSize text) 0
    return .plain
  | .oneOf ranges => do
    buildSet d ranges
    return .plain
  | .repetition f min (some max) _ => between (buildForm d f) min max
  | .repetition f min none _ =>
    atLeast (buildForm d f) (f.leastLength?.any (0 < ·)) min
  | .capture f =>
    match d with
    | .forward => do
      grow 1 0
      let last ← buildForm d f
      grow 1 0
      leave last
      return .plain
    | .backward => buildForm d f
  | .sequence fs =>
    match d with
    | .forward => inOrder (buildForms d fs)
    | .backward => inOrder (buildForms d fs).reverse
  | .either fs =>
    match fs.mapM text? with
    | some texts => do
      buildChoice d texts
      return .plain
    | none => choice (buildForms d fs)

def buildForms (d : Direction) : List Form → List (Build Ending)
  | [] => []
  | f :: fs => buildForm d f :: buildForms d fs

end

/-- Whether matches are found at one place of the text only, so that nothing has to be skipped. -/
def isFixed (d : Direction) (f : Form) : Bool :=
  match d with
  | .forward => f.startsText
  | .backward => f.endsText

def buildSearch (d : Direction) (f : Form) : Build Unit := do
  if isFixed d f then grow 1 0 else grow 3 (arrowSize + 2 * branchSize)
  let last ← buildForm d (.capture f)
  grow 1 0
  leave last

/-- Checks that neither the program that searches forward nor the one that searches backward is too
large. -/
def checkSize (f : Form) : Except Fault Unit := do
  let _ ← (buildSearch .forward f).run start
  let _ ← (buildSearch .backward f).run start

end DocSchema.Pattern.Program
