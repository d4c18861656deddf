import DocSchema.Span
import DocSchema.Cardinality
import DocSchema.Checked

/-!
# Occurrences

A name that stands for a member, with its normalized range. Where order has no meaning, a member is
listed once: later listings of its name are dropped and reported.
-/
namespace DocSchema

structure Occurrence where
  name : Located String
  cardinality : Cardinality
  deriving DecidableEq, Repr

namespace Occurrence

def span (o : Occurrence) : Span := o.name.span

def sameName (o p : Occurrence) : Bool := o.name.value == p.name.value

end Occurrence

/-- An occurrence of a name that was listed before. -/
structure Repetition where
  first : Occurrence
  again : Occurrence
  deriving DecidableEq, Repr

/-- A repetition with another range leaves open which range is meant. -/
def Repetition.isConflict (r : Repetition) : Bool := r.first.cardinality != r.again.cardinality

namespace Occurrence

/-- Adds to `kept` the first occurrence of every further name. -/
def collapseAux (kept : List Occurrence) : List Occurrence → Checked Repetition (List Occurrence)
  | [] => pure kept
  | o :: os =>
    match kept.find? (·.sameName o) with
    | none => collapseAux (kept ++ [o]) os
    | some first => do
      Checked.note [⟨first, o⟩]
      collapseAux kept os

def collapse (os : List Occurrence) : Checked Repetition (List Occurrence) := collapseAux [] os

end Occurrence

end DocSchema
