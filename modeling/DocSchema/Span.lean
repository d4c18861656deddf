/-!
# Places in a source text

A span is a byte range of the UTF-8 text; a position is what a reader of the text sees, a line and a
column. Columns count characters, so one column may be several bytes.
-/
namespace DocSchema

/-- A byte range, from `start` up to but excluding `stop`. -/
structure Span where
  start : Nat
  stop : Nat
  deriving DecidableEq, Repr

namespace Span

/-- A range that ends before it starts is empty at its start. -/
def of (start stop : Nat) : Span := ⟨start, max start stop⟩

def point (offset : Nat) : Span := ⟨offset, offset⟩

def length (s : Span) : Nat := s.stop - s.start

def isEmpty (s : Span) : Bool := s.start == s.stop

def union (s t : Span) : Span := ⟨min s.start t.start, max s.stop t.stop⟩

theorem start_le_stop_union {s t : Span} (h : s.start ≤ s.stop) :
    (s.union t).start ≤ (s.union t).stop := by
  simp only [union]
  omega

end Span

structure Located (α : Type) where
  value : α
  span : Span
  deriving DecidableEq, Repr

def Located.map {α β : Type} (f : α → β) (x : Located α) : Located β := ⟨f x.value, x.span⟩

/-- Line and column, both counted from one. -/
structure Position where
  line : Nat
  column : Nat
  deriving DecidableEq, Repr

namespace Position

def first : Position := ⟨1, 1⟩

def next (p : Position) (c : Char) : Position :=
  if c = '\n' then ⟨p.line + 1, 1⟩ else ⟨p.line, p.column + 1⟩

/-- Walks `offset` bytes from `p`. It stops before a character that would cross the offset, and at
the end of the text. -/
def walk : List Char → Nat → Position → Position
  | [], _, p => p
  | c :: cs, offset, p =>
    if c.utf8Size ≤ offset then walk cs (offset - c.utf8Size) (p.next c) else p

def ofOffset (text : List Char) (offset : Nat) : Position := walk text offset first

end Position

def Span.position (s : Span) (source : String) : Position := Position.ofOffset source.toList s.start

def byteSize (cs : List Char) : Nat := (cs.map Char.utf8Size).foldr (· + ·) 0

@[simp] theorem byteSize_nil : byteSize [] = 0 := rfl

@[simp] theorem byteSize_cons (c : Char) (cs : List Char) :
    byteSize (c :: cs) = c.utf8Size + byteSize cs := rfl

@[simp] theorem byteSize_append (xs ys : List Char) :
    byteSize (xs ++ ys) = byteSize xs + byteSize ys := by
  simp only [byteSize, ← List.sum_eq_foldr, List.map_append, List.sum_append_nat]

end DocSchema
