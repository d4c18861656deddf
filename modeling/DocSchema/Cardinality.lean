/-!
# Occurrence ranges
-/
namespace DocSchema

/-- How often something may occur: at least `min` times, and at most `max` times when there is a
maximum. Some count is always allowed. -/
structure Cardinality where
  min : Nat
  max : Option Nat
  valid : ∀ m ∈ max, min ≤ m
  deriving DecidableEq, Repr

namespace Cardinality

/-- Exactly once, the meaning of a bare reference. -/
def one : Cardinality := ⟨1, some 1, by simp⟩

def optional : Cardinality := ⟨0, some 1, by simp⟩

def exactly (count : Nat) : Cardinality := ⟨count, some count, by simp⟩

def atLeast (min : Nat) : Cardinality := ⟨min, none, by simp⟩

def range? (min : Nat) (max : Option Nat) : Option Cardinality :=
  if h : ∀ m ∈ max, min ≤ m then some ⟨min, max, h⟩ else none

def isRequired (c : Cardinality) : Bool := 1 ≤ c.min

def isRepeatable (c : Cardinality) : Bool :=
  match c.max with
  | some m => 1 < m
  | none => true

def isExactlyOne (c : Cardinality) : Bool := c == one

def admits (c : Cardinality) (count : Nat) : Bool :=
  c.min ≤ count && (match c.max with
    | some m => count ≤ m
    | none => true)

theorem admits_iff {c : Cardinality} {n : Nat} :
    c.admits n = true ↔ c.min ≤ n ∧ ∀ m ∈ c.max, n ≤ m := by
  cases hm : c.max <;> simp [admits, hm]

theorem admits_exactly {k n : Nat} : (exactly k).admits n = true ↔ n = k := by
  simp only [admits_iff, exactly, Option.mem_def, Option.some.injEq, forall_eq']
  omega

theorem admits_one {n : Nat} : one.admits n = true ↔ n = 1 := admits_exactly

theorem admits_optional {n : Nat} : optional.admits n = true ↔ n ≤ 1 := by
  simp [admits_iff, optional]

theorem admits_min (c : Cardinality) : c.admits c.min = true :=
  admits_iff.mpr ⟨Nat.le_refl _, c.valid⟩

@[simp] theorem range?_min_max (c : Cardinality) : range? c.min c.max = some c :=
  dif_pos c.valid

theorem range?_eq_some_iff {min : Nat} {max : Option Nat} {c : Cardinality} :
    range? min max = some c ↔ c.min = min ∧ c.max = max := by
  constructor
  · intro h
    unfold range? at h
    split at h
    · cases h
      exact ⟨rfl, rfl⟩
    · cases h
  · rintro ⟨rfl, rfl⟩
    exact range?_min_max c

theorem range?_eq_none_iff {min : Nat} {max : Option Nat} :
    range? min max = none ↔ ∃ m ∈ max, m < min := by
  simp [range?]

def text (c : Cardinality) : String :=
  match c.max with
  | some m => s!"{c.min}..{m}"
  | none => s!"{c.min}..*"

end Cardinality

end DocSchema
