import DocSchema.Pattern.Reader

/-!
# Pattern trees

Pieces are put together by groups, bars and repetitions. A group is closed by the next closing
parenthesis that has no opening one of its own.
-/
namespace DocSchema.Pattern

inductive Tree where
  | empty
  | atom (atom : Atom)
  | dot
  | anchor (a : Assertion)
  | charClass (negated : Bool) (inner : ClassTree)
  | flags (change : FlagChange)
  | group (kind : GroupKind) (inner : Tree)
  | repetition (inner : Tree) (min : Nat) (max : Option Nat) (lazy : Bool)
  | sequence (parts : List Tree)
  | alternatives (options : List Tree)
  deriving Repr

namespace Tree

def ofSequence : List Tree → Tree
  | [] => .empty
  | [t] => t
  | ts => .sequence ts

def ofAlternatives : List Tree → Tree
  | [] => .empty
  | [t] => t
  | ts => .alternatives ts

end Tree

structure OpenGroup where
  /-- The finished options, the last one first. -/
  options : List Tree
  /-- The parts of the current option, the last one first. -/
  parts : List Tree

namespace OpenGroup

def start : OpenGroup := ⟨[], []⟩

def push (g : OpenGroup) (t : Tree) : OpenGroup := { g with parts := t :: g.parts }

def alternate (g : OpenGroup) : OpenGroup := ⟨.ofSequence g.parts.reverse :: g.options, []⟩

def tree (g : OpenGroup) : Tree := .ofAlternatives g.alternate.options.reverse

/-- Repeats the last part. A change of flags cannot be repeated. -/
def repeatLast? (g : OpenGroup) (min : Nat) (max : Option Nat) (lazy : Bool) : Option OpenGroup :=
  match g.parts with
  | [] => none
  | .flags _ :: _ => none
  | t :: ts => some { g with parts := .repetition t min max lazy :: ts }

end OpenGroup

/-- Puts pieces together; `outer` holds the groups around the current one. -/
def assemble : List Piece → OpenGroup → List (GroupKind × OpenGroup) → Except Fault Tree
  | [], g, [] => .ok g.tree
  | [], _, _ :: _ => .error .groupUnclosed
  | .opening kind :: ps, g, outer => assemble ps .start ((kind, g) :: outer)
  | .closing :: _, _, [] => .error .groupUnopened
  | .closing :: ps, g, (kind, parent) :: outer =>
    assemble ps (parent.push (.group kind g.tree)) outer
  | .bar :: ps, g, outer => assemble ps g.alternate outer
  | .repetition min max lazy :: ps, g, outer =>
    match g.repeatLast? min max lazy with
    | some g => assemble ps g outer
    | none => .error .repetitionMissing
  | .atom a :: ps, g, outer => assemble ps (g.push (.atom a)) outer
  | .dot :: ps, g, outer => assemble ps (g.push .dot) outer
  | .anchor a :: ps, g, outer => assemble ps (g.push (.anchor a)) outer
  | .charClass negated inner :: ps, g, outer =>
    assemble ps (g.push (.charClass negated inner)) outer
  | .flags change :: ps, g, outer => assemble ps (g.push (.flags change)) outer

mutual

def ClassTree.depth : ClassTree → Nat
  | .bracketed _ inner => inner.depth + 1
  | .union items => ClassTree.depthOf items + 1
  | .binary _ left right => Nat.max left.depth right.depth + 1
  | _ => 0

def ClassTree.depthOf : List ClassTree → Nat
  | [] => 0
  | t :: ts => Nat.max t.depth (ClassTree.depthOf ts)

end

mutual

def Tree.depth : Tree → Nat
  | .charClass _ inner => inner.depth + 1
  | .group _ inner => inner.depth + 1
  | .repetition inner _ _ _ => inner.depth + 1
  | .sequence parts => Tree.depthOf parts + 1
  | .alternatives options => Tree.depthOf options + 1
  | _ => 0

def Tree.depthOf : List Tree → Nat
  | [] => 0
  | t :: ts => Nat.max t.depth (Tree.depthOf ts)

end

def maxDepth : Nat := 250

def readTree (text : List Char) : Except Fault Tree := do
  let pieces ← readPieces text
  let tree ← assemble (pieces.map (·.value)) .start []
  if maxDepth < tree.depth then throw .nestedTooDeep
  return tree

end DocSchema.Pattern
