import DocSchema.Pattern.CharSet
import DocSchema.Pattern.Tree
import DocSchema.Unicode.Property

/-!
# Regular expressions

The meaning of a pattern tree: flags are applied, classes become sets, and what remains are
sequences, alternatives and repetitions. Without Unicode mode sets hold bytes, and a set with a byte
outside ASCII is refused because a match could cut a character.
-/
namespace DocSchema.Pattern

structure Flags where
  ignoreCase : Bool
  multiLine : Bool
  dotAll : Bool
  swapGreed : Bool
  unicode : Bool
  crlf : Bool
  deriving DecidableEq, Repr

namespace Flags

def start : Flags := ⟨false, false, false, false, true, false⟩

def apply (f : Flags) (change : FlagChange) : Flags :=
  ⟨change.state .ignoreCase f.ignoreCase, change.state .multiLine f.multiLine,
    change.state .dotAll f.dotAll, change.state .swapGreed f.swapGreed,
    change.state .unicode f.unicode, change.state .crlf f.crlf⟩

end Flags

/-- Conditions on the characters before and after a place. Those on words tell whether words have
the characters of Unicode or of ASCII only. -/
inductive Look where
  | textStart
  | textEnd
  | lineStart
  | lineEnd
  /-- Lines that also end at a carriage return. -/
  | crlfStart
  | crlfEnd
  | boundary (unicode : Bool)
  | notBoundary (unicode : Bool)
  | wordStart (unicode : Bool)
  | wordEnd (unicode : Bool)
  | wordStartHalf (unicode : Bool)
  | wordEndHalf (unicode : Bool)
  deriving DecidableEq, Repr

inductive Regex where
  | empty
  | oneOf (set : CharSet)
  | look (look : Look)
  | sequence (parts : List Regex)
  | either (options : List Regex)
  | repetition (inner : Regex) (min : Nat) (max : Option Nat) (greedy : Bool)
  /-- A group whose match can be asked for. -/
  | capture (inner : Regex)

def foldCase (f : Flags) (s : CharSet) : CharSet :=
  if !f.ignoreCase then s else if f.unicode then .folded s else .asciiFolded s

def checked (f : Flags) (s : CharSet) : Except Fault CharSet :=
  if f.unicode || s.isAscii then .ok s else .error .notUnicode

def foldAndNegate (f : Flags) (negated : Bool) (s : CharSet) : Except Fault CharSet :=
  checked f (if negated then .complement (foldCase f s) else foldCase f s)

def shortSet (f : Flags) (short : ShortClass) (negated : Bool) : Except Fault CharSet :=
  let s := CharSet.ranges (if f.unicode then short.ranges else short.asciiRanges)
  checked f (if negated then .complement s else s)

/-- The characters that a query asks for, and whether it asks for the others. -/
def PropertyQuery.find? : PropertyQuery → Option (List Unicode.CodeRange × Bool)
  | .letter c => (Unicode.named? [c]).map (·, false)
  | .name text => (Unicode.named? text).map (·, false)
  | .value key wanted equal => (Unicode.valued? key wanted).map (·, !equal)

def propertySet (f : Flags) (query : PropertyQuery) (negated : Bool) : Except Fault CharSet :=
  if !f.unicode then .error .notUnicode
  else
    match query.find? with
    | none => .error .propertyUnknown
    | some (ranges, others) => foldAndNegate f (negated != others) (.ranges ranges)

def classChar (f : Flags) (c : Char) : Except Fault Char :=
  if f.unicode || c.toNat < 128 then .ok c else .error .notUnicode

def classAtomSet (f : Flags) : Atom → Except Fault CharSet
  | .verbatim c => (classChar f c).map .ofChar
  | .escape _ (.character c) => (classChar f c).map .ofChar
  | .escape _ (.byte c) => (classChar f c).map .ofChar
  | .escape _ (.short short negated) => shortSet f short negated
  | .escape _ (.property query negated) => propertySet f query negated
  | .escape _ (.assertion _) => .error .classEscape

def classRangeSet (f : Flags) (first last : Atom) : Except Fault CharSet :=
  match first.character?, last.character? with
  | some a, some b => do
    let a ← classChar f a
    let b ← classChar f b
    return .ranges [⟨a.toNat, b.toNat⟩]
  | _, _ => .error .classRange

def ClassOp.apply : ClassOp → CharSet → CharSet → CharSet
  | .intersection, a, b => .intersection a b
  | .difference, a, b => .difference a b
  | .symmetricDifference, a, b => .symmetricDifference a b

mutual

def ClassTree.set (f : Flags) : ClassTree → Except Fault CharSet
  | .empty => .ok .empty
  | .item atom => classAtomSet f atom
  | .range first last => classRangeSet f first last
  | .named ranges negated => foldAndNegate f negated (.ranges ranges)
  | .bracketed negated inner => do foldAndNegate f negated (← inner.set f)
  | .union items => ClassTree.unionSet f items
  | .binary op left right => do
    let a ← left.set f
    let b ← right.set f
    return op.apply (foldCase f a) (foldCase f b)

def ClassTree.unionSet (f : Flags) : List ClassTree → Except Fault CharSet
  | [] => .ok .empty
  | t :: ts => do
    let a ← t.set f
    let b ← ClassTree.unionSet f ts
    return .union a b

end

/-- A character outside classes. Without Unicode mode a character outside ASCII has no other case.
-/
def charRegex (f : Flags) (c : Char) : Regex :=
  .oneOf (if f.unicode || c.toNat < 128 then foldCase f (.ofChar c) else .ofChar c)

def wordSet (unicode : Bool) : CharSet :=
  .ranges (if unicode then ShortClass.word.ranges else ShortClass.word.asciiRanges)

def Assertion.look (f : Flags) : Assertion → Look
  | .lineStart => if !f.multiLine then .textStart else if f.crlf then .crlfStart else .lineStart
  | .lineEnd => if !f.multiLine then .textEnd else if f.crlf then .crlfEnd else .lineEnd
  | .textStart => .textStart
  | .textEnd => .textEnd
  | .boundary => .boundary f.unicode
  | .notBoundary => .notBoundary f.unicode
  | .wordStart => .wordStart f.unicode
  | .wordEnd => .wordEnd f.unicode
  | .wordStartHalf => .wordStartHalf f.unicode
  | .wordEndHalf => .wordEndHalf f.unicode

def atomRegex (f : Flags) : Atom → Except Fault Regex
  | .verbatim c => .ok (charRegex f c)
  | .escape _ (.character c) => .ok (charRegex f c)
  | .escape _ (.byte c) =>
    if f.unicode || c.toNat < 128 then .ok (charRegex f c) else .error .notUnicode
  | .escape _ (.short short negated) => (shortSet f short negated).map .oneOf
  | .escape _ (.property query negated) => (propertySet f query negated).map .oneOf
  | .escape _ (.assertion a) => .ok (.look (a.look f))

def dotRegex (f : Flags) : Except Fault Regex :=
  if !f.unicode then .error .notUnicode
  else if f.dotAll then .ok (.oneOf (.complement .empty))
  else if f.crlf then .ok (.oneOf (.complement (.union (.ofChar '\r') (.ofChar '\n'))))
  else .ok (.oneOf (.complement (.ofChar '\n')))

mutual

/-- The meaning of a tree under flags, and the flags that hold after it. -/
def Tree.regex (f : Flags) : Tree → Except Fault (Regex × Flags)
  | .empty => .ok (.empty, f)
  | .atom a => do return (← atomRegex f a, f)
  | .dot => do return (← dotRegex f, f)
  | .anchor a => .ok (.look (a.look f), f)
  | .charClass negated inner => do
    let s ← inner.set f
    return (.oneOf (← foldAndNegate f negated s), f)
  | .flags change => .ok (.empty, f.apply change)
  | .group (.flagged change) inner => do
    let (r, _) ← inner.regex (f.apply change)
    return (r, f)
  | .group _ inner => do
    let (r, _) ← inner.regex f
    return (.capture r, f)
  | .repetition inner min max lazy => do
    let (r, f) ← inner.regex f
    return (.repetition r min max (lazy == f.swapGreed), f)
  | .sequence parts => do
    let (rs, f) ← Tree.regexes f parts
    return (.sequence rs, f)
  | .alternatives options => do
    let (rs, f) ← Tree.regexes f options
    return (.either rs, f)

/-- The meanings of trees in order. Flags changed in one hold in the next ones. -/
def Tree.regexes (f : Flags) : List Tree → Except Fault (List Regex × Flags)
  | [] => .ok ([], f)
  | t :: ts => do
    let (r, f) ← t.regex f
    let (rs, f) ← Tree.regexes f ts
    return (r :: rs, f)

end

end DocSchema.Pattern
