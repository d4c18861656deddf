import DocSchema.Cardinality

/-!
# Quantifiers

How an author writes an occurrence range: the word `optional`, a bare count, or one or two
comparisons with the count `n`. A quantifier is normalized to a `Cardinality`.
-/
namespace DocSchema

inductive Comparison where
  | greaterEqual
  | lessEqual
  | greater
  | less
  | equal
  deriving DecidableEq, Repr

namespace Comparison

def text : Comparison → String
  | .greaterEqual => ">="
  | .lessEqual => "<="
  | .greater => ">"
  | .less => "<"
  | .equal => "="

/-- The same comparison with its sides swapped: `k < n` says `n > k`. -/
def flipped : Comparison → Comparison
  | .greaterEqual => .lessEqual
  | .lessEqual => .greaterEqual
  | .greater => .less
  | .less => .greater
  | .equal => .equal

end Comparison

/-- The condition that `n` compares with `value`. -/
structure Bound where
  comparison : Comparison
  value : Int
  deriving DecidableEq, Repr

def Bound.text (b : Bound) : String := s!"n {b.comparison.text} {b.value}"

inductive Quantifier where
  | optional
  | exactly (count : Int)
  | bounds (first : Bound) (second : Option Bound)
  deriving DecidableEq, Repr

namespace Quantifier

def text : Quantifier → String
  | .optional => "optional"
  | .exactly count => toString count
  | .bounds first none => first.text
  | .bounds first (some second) => first.text ++ ", " ++ second.text

inductive Fault where
  | negative
  | tooLarge
  | belowZero
  | lowerTwice
  | upperTwice
  | inverted
  deriving DecidableEq, Repr

namespace Fault

def message : Fault → String
  | .negative => "occurrence counts cannot be negative"
  | .tooLarge => "occurrence count is too large"
  | .belowZero => "no count is less than zero"
  | .lowerTwice => "lower bound given twice"
  | .upperTwice => "upper bound given twice"
  | .inverted => "lower bound exceeds upper bound"

def help : Fault → Option String
  | .inverted => some "the range must satisfy `min <= max`"
  | _ => none

end Fault

def maxCount : Nat := 4294967295

def count (value : Int) : Except Fault Nat :=
  if value < 0 then .error .negative
  else if (maxCount : Int) < value then .error .tooLarge
  else .ok value.toNat

def limits (b : Bound) : Except Fault (Option Nat × Option Nat) := do
  let k ← count b.value
  match b.comparison with
  | .greaterEqual => return (some k, none)
  | .greater => if k < maxCount then return (some (k + 1), none) else throw .tooLarge
  | .lessEqual => return (none, some k)
  | .less => if 0 < k then return (none, some (k - 1)) else throw .belowZero
  | .equal => return (some k, some k)

/-- Two comparisons may not both set a lower limit, nor both an upper limit. -/
def merge (a b : Option Nat × Option Nat) : Except Fault (Option Nat × Option Nat) :=
  match a, b with
  | (some _, _), (some _, _) => .error .lowerTwice
  | (_, some _), (_, some _) => .error .upperTwice
  | (lower, upper), (lower', upper') => .ok (lower.or lower', upper.or upper')

/-- The range between limits; an absent lower limit is zero. -/
def between (lower upper : Option Nat) : Except Fault Cardinality :=
  match Cardinality.range? (lower.getD 0) upper with
  | some c => .ok c
  | none => .error .inverted

def cardinality : Quantifier → Except Fault Cardinality
  | .optional => .ok .optional
  | .exactly value => (count value).map .exactly
  | .bounds first none => do
    let (lower, upper) ← limits first
    between lower upper
  | .bounds first (some second) => do
    let a ← limits first
    let b ← limits second
    let (lower, upper) ← merge a b
    between lower upper

/-- A missing quantifier means exactly one occurrence. -/
def cardinalityOf : Option Quantifier → Except Fault Cardinality
  | some q => q.cardinality
  | none => .ok .one

end Quantifier

end DocSchema
