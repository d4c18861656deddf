import DocSchema.Pattern.Regex

/-!
# Matching

A cursor is a place in a text. An expression moves cursors forward; all places it can reach are
kept, each once, so that matching takes time polynomial in the length of the text.
-/
namespace DocSchema.Pattern

/-- A place in a text: what stands before it, the nearest character first, and what follows. -/
structure Cursor where
  before : List Char
  after : List Char
  deriving DecidableEq, Repr

namespace Cursor

def start (text : List Char) : Cursor := ⟨[], text⟩

def advance? (s : CharSet) : Cursor → Option Cursor
  | ⟨before, c :: after⟩ => if s.contains c.toNat then some ⟨c :: before, after⟩ else none
  | ⟨_, []⟩ => none

def sweep (before : List Char) : List Char → List Cursor
  | [] => [⟨before, []⟩]
  | c :: after => ⟨before, c :: after⟩ :: sweep (c :: before) after

end Cursor

def isIn (s : CharSet) : Option Char → Bool
  | some c => s.contains c.toNat
  | none => false

def Look.holds (l : Look) (c : Cursor) : Bool :=
  let last := c.before.head?
  let next := c.after.head?
  match l with
  | .textStart => last.isNone
  | .textEnd => next.isNone
  | .lineStart => last.isNone || last == some '\n'
  | .lineEnd => next.isNone || next == some '\n'
  | .crlfStart =>
    last.isNone || last == some '\n' || (last == some '\r' && next != some '\n')
  | .crlfEnd =>
    next.isNone || next == some '\r' || (next == some '\n' && last != some '\r')
  | .boundary u => isIn (wordSet u) last != isIn (wordSet u) next
  | .notBoundary u => isIn (wordSet u) last == isIn (wordSet u) next
  | .wordStart u => !isIn (wordSet u) last && isIn (wordSet u) next
  | .wordEnd u => isIn (wordSet u) last && !isIn (wordSet u) next
  | .wordStartHalf u => !isIn (wordSet u) last
  | .wordEndHalf u => !isIn (wordSet u) next

/-- Adds the cursors that are not there yet. Places of one text differ in what follows them. -/
def merge (old : List Cursor) : List Cursor → List Cursor
  | [] => old
  | c :: cs =>
    if old.any (·.after.length == c.after.length) then merge old cs else merge (old ++ [c]) cs

def iterate (move : List Cursor → List Cursor) : Nat → List Cursor → List Cursor
  | _, [] => []
  | 0, cs => cs
  | n + 1, cs => iterate move n (move cs)

def unseen (seen cs : List Cursor) : List Cursor :=
  cs.filter fun c => !seen.any (·.after.length == c.after.length)

/-- Adds to `seen` all places that are reached from `last` by at most a number of moves, where
`last` are the places that were reached last. -/
def reachWithin (move : List Cursor → List Cursor) : Nat → List Cursor → List Cursor → List Cursor
  | 0, seen, _ => seen
  | _, seen, [] => seen
  | n + 1, seen, last =>
    let fresh := unseen seen (move last)
    reachWithin move n (seen ++ fresh) fresh

mutual

/-- The places that an expression can move cursors to. Beyond `bound`, which is more than the length
of the text, further repetitions reach nothing new. -/
def Regex.move (bound : Nat) : Regex → List Cursor → List Cursor
  | .empty, cs => cs
  | .oneOf s, cs => merge [] (cs.filterMap (Cursor.advance? s))
  | .look l, cs => cs.filter l.holds
  | .sequence parts, cs => Regex.moveAll bound parts cs
  | .either options, cs => Regex.moveAny bound options cs
  | .repetition r min max _, cs =>
    let cs := iterate (r.move bound) (Nat.min min bound) cs
    let more :=
      match max with
      | some max => Nat.min (max - min) bound
      | none => bound
    reachWithin (r.move bound) more cs cs
  | .capture r, cs => r.move bound cs

def Regex.moveAll (bound : Nat) : List Regex → List Cursor → List Cursor
  | [], cs => cs
  | r :: rs, cs => Regex.moveAll bound rs (r.move bound cs)

def Regex.moveAny (bound : Nat) : List Regex → List Cursor → List Cursor
  | [], _ => []
  | r :: rs, cs => merge (r.move bound cs) (Regex.moveAny bound rs cs)

end

def Regex.occursIn (r : Regex) (text : List Char) : Bool :=
  !(r.move (text.length + 1) (Cursor.sweep [] text)).isEmpty

end DocSchema.Pattern
