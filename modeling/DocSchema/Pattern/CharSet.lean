import DocSchema.Pattern.Piece
import DocSchema.Unicode.Binary
import DocSchema.Unicode.Blank
import DocSchema.Unicode.CaseFold
import DocSchema.Unicode.Category

/-!
# Sets of characters

A set is kept as the combination that was written, and asked one character at a time.
-/
namespace DocSchema.Pattern

inductive CharSet where
  | ranges (ranges : List Unicode.CodeRange)
  | union (left right : CharSet)
  | complement (set : CharSet)
  | intersection (left right : CharSet)
  /-- All that fold together with a member. -/
  | folded (set : CharSet)
  /-- Members and their other case, among ASCII letters only. -/
  | asciiFolded (set : CharSet)

namespace CharSet

def empty : CharSet := .ranges []

def ofChar (c : Char) : CharSet := .ranges [⟨c.toNat, c.toNat⟩]

def difference (a b : CharSet) : CharSet := .intersection a (.complement b)

def symmetricDifference (a b : CharSet) : CharSet := .union (difference a b) (difference b a)

/-- The other case of an ASCII letter, and any other code point itself. -/
def swapCase (n : Nat) : Nat :=
  if 0x41 ≤ n ∧ n ≤ 0x5A then n + 32 else if 0x61 ≤ n ∧ n ≤ 0x7A then n - 32 else n

def contains : CharSet → Nat → Bool
  | .ranges rs, n => Unicode.inRanges rs n
  | .union a b, n => a.contains n || b.contains n
  | .complement a, n => !a.contains n
  | .intersection a b, n => a.contains n && b.contains n
  | .folded a, n => (Unicode.foldClass n).any a.contains
  | .asciiFolded a, n => a.contains n || a.contains (swapCase n)

/-- Whether no member is a byte outside ASCII. -/
def isAscii (s : CharSet) : Bool := (List.range 128).all fun n => !s.contains (n + 128)

end CharSet

def digitRanges : List Unicode.CodeRange := (Unicode.category? "nd").getD []

def wordRanges : List Unicode.CodeRange :=
  (Unicode.binaryProperty? "alphabetic").getD [] ++ (Unicode.category? "m").getD [] ++ digitRanges
    ++ (Unicode.category? "pc").getD [] ++ [⟨0x200C, 0x200D⟩]

def ShortClass.ranges : ShortClass → List Unicode.CodeRange
  | .digit => digitRanges
  | .space => Unicode.blankRanges
  | .word => wordRanges

def ShortClass.asciiRanges : ShortClass → List Unicode.CodeRange
  | .digit => Unicode.readRanges "30-39"
  | .space => Unicode.readRanges "9-D 20"
  | .word => Unicode.readRanges "30-39 41-5A 5F 61-7A"

end DocSchema.Pattern
