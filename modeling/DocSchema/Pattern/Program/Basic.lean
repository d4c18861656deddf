import DocSchema.Pattern.Fault

/-!
# The size of programs

A pattern is compiled into a program of numbered steps. Only its size matters here: every step takes
the same room, and some take more for the ways that lead on from them. Building stops as soon as the
program is too large.
-/
namespace DocSchema.Pattern

/-- How much of a program has been built. -/
structure Program where
  /-- The number of steps, which is also the number of the next one. -/
  steps : Nat
  /-- The bytes taken by steps beyond what every step takes. -/
  extra : Nat
  deriving DecidableEq, Repr

namespace Program

def start : Program := ⟨0, 0⟩

def stepSize : Nat := 32

/-- The bytes for one way out of a branching step. -/
def branchSize : Nat := 4

/-- The bytes for one way out of a step that reads one of several bytes. -/
def arrowSize : Nat := 8

def size (p : Program) : Nat := stepSize * p.steps + p.extra

abbrev Build := StateT Program (Except Fault)

def grow (steps extra : Nat) : Build Unit := do
  let p ← get
  let p : Program := ⟨p.steps + steps, p.extra + extra⟩
  if sizeLimit < p.size then throw .tooLarge
  set p

def addStep (extra : Nat) : Build Nat := do
  let p ← get
  grow 1 extra
  return p.steps

inductive Direction where
  | forward
  | backward
  deriving DecidableEq, Repr

end Program

end DocSchema.Pattern
