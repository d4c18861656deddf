import DocSchema.Pattern.Regex
import DocSchema.Unicode.RangeSet

/-!
# Simplified expressions

Before an expression is compiled it is simplified. Sequences within sequences and options within
options are flattened, characters side by side become one text, options that are single characters
or sets become one set, and what all options start with is put in front of them.
-/
namespace DocSchema.Pattern

open Unicode (CodeRange)

def CharSet.toRanges : CharSet → List CodeRange
  | .ranges rs => Unicode.orderRanges rs
  | .union a b => Unicode.orderRanges (a.toRanges ++ b.toRanges)
  | .complement a => Unicode.gaps a.toRanges
  | .intersection a b => Unicode.intersectRanges a.toRanges b.toRanges
  | .folded a => Unicode.foldRanges a.toRanges
  | .asciiFolded a =>
    let rs := a.toRanges
    let letters := ((List.range 128).filter (Unicode.inRanges rs)).map CharSet.swapCase
    Unicode.orderRanges (rs ++ letters.map fun n => ⟨n, n⟩)

/-- An expression in simplified form. -/
inductive Form where
  | empty
  /-- Characters in a row, at least one. -/
  | literal (text : List Char)
  | oneOf (ranges : List CodeRange)
  | look (l : Look)
  | repetition (inner : Form) (min : Nat) (max : Option Nat) (greedy : Bool)
  | capture (inner : Form)
  | sequence (parts : List Form)
  | either (options : List Form)

namespace Form

mutual

/-- Whether two forms are the same. A group is the same as no other group. -/
def same : Form → Form → Bool
  | .empty, .empty => true
  | .literal s, .literal t => s == t
  | .oneOf rs, .oneOf ss => rs == ss
  | .look l, .look m => l == m
  | .repetition f min max greedy, .repetition g min' max' greedy' =>
    f.same g && min == min' && max == max' && greedy == greedy'
  | .sequence fs, .sequence gs => sameAll fs gs
  | .either fs, .either gs => sameAll fs gs
  | _, _ => false

def sameAll : List Form → List Form → Bool
  | [], [] => true
  | f :: fs, g :: gs => f.same g && sameAll fs gs
  | _, _ => false

end

mutual

def isZeroWidth : Form → Bool
  | .empty => true
  | .look _ => true
  | .literal _ => false
  | .oneOf _ => false
  | .repetition f _ max _ => max.isSome && f.isZeroWidth
  | .capture f => f.isZeroWidth
  | .sequence fs => allZeroWidth fs
  | .either fs => allZeroWidth fs

def allZeroWidth : List Form → Bool
  | [] => true
  | f :: fs => f.isZeroWidth && allZeroWidth fs

end

def lesser? : Option Nat → Option Nat → Option Nat
  | some a, some b => some (Nat.min a b)
  | _, _ => none

mutual

/-- The least number of characters in a match. It is not known where some part matches nothing. -/
def leastLength? : Form → Option Nat
  | .empty => some 0
  | .look _ => some 0
  | .literal text => some text.length
  | .oneOf ranges => if ranges.isEmpty then none else some 1
  | .repetition f min _ _ => f.leastLength?.map (min * ·)
  | .capture f => f.leastLength?
  | .sequence fs => sumLength? fs
  | .either fs => optionLength? fs

def sumLength? : List Form → Option Nat
  | [] => some 0
  | f :: fs => do return (← f.leastLength?) + (← sumLength? fs)

def optionLength? : List Form → Option Nat
  | [] => none
  | [f] => f.leastLength?
  | f :: fs => lesser? f.leastLength? (optionLength? fs)

end

def ofRanges (ranges : List CodeRange) : Form :=
  match ranges with
  | [r] => if r.first == r.last then .literal [Char.ofNat r.first] else .oneOf ranges
  | _ => .oneOf ranges

/-- A repetition. What matches only the empty text is not matched more than once. -/
def ofRepetition (f : Form) (min : Nat) (max : Option Nat) (greedy : Bool) : Form :=
  let (min, max) :=
    if f.isZeroWidth then (Nat.min min 1, some (Nat.min (max.getD 1) 1)) else (min, max)
  if max == some 0 then .empty
  else if min == 1 && max == some 1 then f
  else .repetition f min max greedy

def parts : Form → List Form
  | .empty => []
  | .sequence fs => fs
  | f => [f]

def joinTexts : List Form → List Form
  | [] => []
  | .literal s :: fs =>
    match joinTexts fs with
    | .literal t :: rest => .literal (s ++ t) :: rest
    | rest => .literal s :: rest
  | f :: fs => f :: joinTexts fs

def ofSequence (fs : List Form) : Form :=
  match joinTexts (fs.flatMap parts) with
  | [] => .empty
  | [f] => f
  | fs => .sequence fs

def options : Form → List Form
  | .either fs => fs
  | f => [f]

def charRange? : Form → Option CodeRange
  | .literal [c] => some ⟨c.toNat, c.toNat⟩
  | _ => none

def ranges? : Form → Option (List CodeRange)
  | .oneOf rs => some rs
  | _ => none

/-- Several options as one set, if they are characters or if they are sets. -/
def asSet? (fs : List Form) : Option Form :=
  match fs.mapM charRange? with
  | some rs => some (ofRanges (Unicode.orderRanges rs))
  | none => (fs.mapM ranges?).map fun rs => ofRanges (Unicode.orderRanges rs.flatten)

def ofPlainOptions (fs : List Form) : Form :=
  match fs.flatMap options with
  | [] => .oneOf []
  | [f] => f
  | fs => (asSet? fs).getD (.either fs)

def commonStart : List Form → List Form → List Form
  | f :: fs, g :: gs => if f.same g then f :: commonStart fs gs else []
  | _, _ => []

def sequence? : Form → Option (List Form)
  | .sequence fs => some fs
  | _ => none

/-- The choice between options. If all are sequences, what they start with in common is put in
front. -/
def ofOptions (fs : List Form) : Form :=
  match ofPlainOptions fs with
  | .either fs =>
    match fs.mapM sequence? with
    | some (first :: rest) =>
      match rest.foldl commonStart first with
      | [] => .either fs
      | start =>
        let ends := (first :: rest).map fun parts => ofSequence (parts.drop start.length)
        ofSequence (start ++ [ofPlainOptions ends])
    | _ => .either fs
  | f => f

mutual

/-- Whether a match is always at the start of the text. -/
def startsText : Form → Bool
  | .look l => l == .textStart
  | .repetition f min _ _ => min != 0 && f.startsText
  | .capture f => f.startsText
  | .sequence fs => anyStartsText fs
  | .either fs => allStartText fs
  | _ => false

def anyStartsText : List Form → Bool
  | [] => false
  | f :: fs => f.startsText || (f.isZeroWidth && anyStartsText fs)

def allStartText : List Form → Bool
  | [] => true
  | f :: fs => f.startsText && allStartText fs

end

mutual

def endsText : Form → Bool
  | .look l => l == .textEnd
  | .repetition f min _ _ => min != 0 && f.endsText
  | .capture f => f.endsText
  | .sequence fs => anyEndsText fs
  | .either fs => allEndText fs
  | _ => false

def anyEndsText : List Form → Bool
  | [] => false
  | f :: fs => anyEndsText fs || (allZeroWidth fs && f.endsText)

def allEndText : List Form → Bool
  | [] => true
  | f :: fs => f.endsText && allEndText fs

end

end Form

mutual

def Regex.form : Regex → Form
  | .empty => .empty
  | .oneOf s => .ofRanges (Unicode.characterRanges s.toRanges)
  | .look l => .look l
  | .sequence rs => .ofSequence (Regex.forms rs)
  | .either rs => .ofOptions (Regex.forms rs)
  | .repetition r min max greedy => .ofRepetition r.form min max greedy
  | .capture r => .capture r.form

def Regex.forms : List Regex → List Form
  | [] => []
  | r :: rs => r.form :: Regex.forms rs

end

end DocSchema.Pattern
