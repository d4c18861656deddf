import DocSchema.Unicode.CaseFold

/-!
# Sets of characters as lists of ranges

Every set of code points has one list of ranges in increasing order of which no two overlap or
touch. The operations here take and give such lists.
-/
namespace DocSchema.Unicode

def maxCode : Nat := 0x10FFFF

/-- Joins ranges that overlap or touch, given in the order of their first code points. -/
def joinRanges : CodeRange → List CodeRange → List CodeRange
  | r, [] => [r]
  | r, s :: rest =>
    if s.first ≤ r.last + 1 then joinRanges ⟨r.first, Nat.max r.last s.last⟩ rest
    else r :: joinRanges s rest

def orderRanges (ranges : List CodeRange) : List CodeRange :=
  match ranges.mergeSort fun a b => a.first ≤ b.first with
  | [] => []
  | r :: rest => joinRanges r rest

def gapsFrom (n : Nat) : List CodeRange → List CodeRange
  | [] => if n ≤ maxCode then [⟨n, maxCode⟩] else []
  | r :: rest =>
    let later := gapsFrom (r.last + 1) rest
    if n < r.first then ⟨n, r.first - 1⟩ :: later else later

def gaps (ranges : List CodeRange) : List CodeRange := gapsFrom 0 ranges

def intersectRanges (a b : List CodeRange) : List CodeRange := gaps (orderRanges (gaps a ++ gaps b))

/-- The ranges without the surrogates, which are no characters. -/
def characterRanges (ranges : List CodeRange) : List CodeRange :=
  ranges.flatMap fun r => [⟨0, 0xD7FF⟩, ⟨0xE000, maxCode⟩].filterMap r.within?

def Shift.domain (s : Shift) : List Nat :=
  (List.range ((s.last - s.first) / s.step + 1)).map fun i => s.first + s.step * i

def Shift.partners (s : Shift) (ranges : List CodeRange) : List Nat :=
  (s.domain.filter (inRanges ranges)).map s.image
    ++ s.domain.filter fun n => inRanges ranges (s.image n)

def foldPartners (ranges : List CodeRange) : List Nat :=
  foldPairs.flatMap (·.partners ranges) ++ (foldSets.filter (·.any (inRanges ranges))).flatten

def foldRanges (ranges : List CodeRange) : List CodeRange :=
  orderRanges (ranges ++ (foldPartners ranges).map fun n => ⟨n, n⟩)

end DocSchema.Unicode
