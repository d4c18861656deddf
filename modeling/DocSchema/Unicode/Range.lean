/-!
# Ranges of code points

Character data is kept as text, `41-5A 61-7A AA` for two ranges and a single code point, and read
into ranges when it is used. Long tables are kept by distances, `41-19 6-19 2F` for the same.
Mappings are kept as runs with a common distance, `41,5A,20 178,-79` for letters and their lower
case.
-/
namespace DocSchema.Unicode

/-- The code points from `first` to `last`, both included. -/
structure CodeRange where
  first : Nat
  last : Nat
  deriving DecidableEq, Repr

def CodeRange.contains (r : CodeRange) (n : Nat) : Bool := r.first ≤ n && n ≤ r.last

def CodeRange.within? (r bounds : CodeRange) : Option CodeRange :=
  let first := Nat.max r.first bounds.first
  let last := Nat.min r.last bounds.last
  if first ≤ last then some ⟨first, last⟩ else none

def inRanges (ranges : List CodeRange) (n : Nat) : Bool := ranges.any (·.contains n)

def hexValue (c : Char) : Nat :=
  if c.isDigit then c.toNat - '0'.toNat
  else if 'A' ≤ c ∧ c ≤ 'F' then c.toNat - 'A'.toNat + 10
  else 0

/-- Reads ranges separated by blanks. `first` is the lower end once a dash has been read. -/
def readRangesAux : List Char → Option Nat → Nat → List CodeRange
  | [], first, n => [⟨first.getD n, n⟩]
  | ' ' :: cs, first, n => ⟨first.getD n, n⟩ :: readRangesAux cs none 0
  | '-' :: cs, _, n => readRangesAux cs (some n) 0
  | c :: cs, first, n => readRangesAux cs first (16 * n + hexValue c)

def readRanges (text : String) : List CodeRange := readRangesAux text.toList none 0

def readRangeLines (lines : List String) : List CodeRange := lines.flatMap readRanges

/-- The range that a word gives by distances. A word without a dash gives a single code point, `n`
past `next`; behind a dash, `n` is how far the range goes on from `first`. -/
def stepRange (next : Nat) (first : Option Nat) (n : Nat) : CodeRange :=
  match first with
  | some first => ⟨first, first + n⟩
  | none => ⟨next + n, next + n⟩

/-- Reads ranges that are written by distances. `next` is the code point behind the range before. -/
def readStepsAux : List Char → Nat → Option Nat → Nat → List CodeRange
  | [], next, first, n => [stepRange next first n]
  | ' ' :: cs, next, first, n =>
    let r := stepRange next first n
    r :: readStepsAux cs (r.last + 1) none 0
  | '-' :: cs, next, _, n => readStepsAux cs next (some (next + n)) 0
  | c :: cs, next, first, n => readStepsAux cs next first (16 * n + hexValue c)

def readStepLines (lines : List String) : List CodeRange :=
  readStepsAux ([' '].intercalate (lines.map String.toList)) 0 none 0

/-- Every `step`-th code point from `first` to `last` is mapped `distance` further. -/
structure Shift where
  first : Nat
  last : Nat
  step : Nat
  distance : Int
  deriving DecidableEq, Repr

def readSigned (word : String) : Int :=
  let value (cs : List Char) : Nat := cs.foldl (fun n c => 16 * n + hexValue c) 0
  match word.toList with
  | '-' :: cs => -value cs
  | cs => value cs

/-- Reads a run: its first and last code point, its step and its distance. A step of one is left
out, and so is the last code point of a run of one. -/
def readShift? (word : String) : Option Shift :=
  match (word.splitOn ",").map readSigned with
  | [first, distance] => some ⟨first.toNat, first.toNat, 1, distance⟩
  | [first, last, distance] => some ⟨first.toNat, last.toNat, 1, distance⟩
  | [first, last, step, distance] => some ⟨first.toNat, last.toNat, step.toNat, distance⟩
  | _ => none

def readShiftLines (lines : List String) : List Shift :=
  lines.flatMap fun line => (line.splitOn " ").filterMap readShift?

namespace Shift

def covers (s : Shift) (n : Nat) : Bool :=
  s.first ≤ n && n ≤ s.last && (n - s.first) % s.step == 0

def image (s : Shift) (n : Nat) : Nat := ((n : Int) + s.distance).toNat

def preimage (s : Shift) (n : Nat) : Nat := ((n : Int) - s.distance).toNat

def coversImage (s : Shift) (n : Nat) : Bool :=
  0 ≤ (n : Int) - s.distance && s.covers (s.preimage n)

end Shift

/-- The image under the first run that covers a code point, or the code point itself. -/
def applyShifts (shifts : List Shift) (n : Nat) : Nat :=
  match shifts.find? (·.covers n) with
  | some s => s.image n
  | none => n

end DocSchema.Unicode
