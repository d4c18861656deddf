import DocSchema.Span
import Mathlib

/-!
# Slices of a text

The text at a span, which is there if the span starts and ends between characters of the text.
-/
namespace DocSchema

/-- What follows the first `n` bytes, if they end between characters of the text. -/
def dropBytes? : Nat → List Char → Option (List Char)
  | 0, cs => some cs
  | _ + 1, [] => none
  | n + 1, c :: cs =>
    if c.utf8Size ≤ n + 1 then dropBytes? (n + 1 - c.utf8Size) cs else none

def takeBytes? : Nat → List Char → Option (List Char)
  | 0, _ => some []
  | _ + 1, [] => none
  | n + 1, c :: cs =>
    if c.utf8Size ≤ n + 1 then (takeBytes? (n + 1 - c.utf8Size) cs).map (c :: ·) else none

/-- The text at a span that starts and ends between characters of the text. -/
def Span.slice? (s : Span) (text : List Char) : Option (List Char) :=
  if s.start ≤ s.stop then (dropBytes? s.start text).bind (takeBytes? s.length) else none

theorem exists_byteSize_cons (c : Char) (cs : List Char) :
    ∃ n, byteSize (c :: cs) = n + 1 ∧ c.utf8Size ≤ n + 1 ∧ n + 1 - c.utf8Size = byteSize cs := by
  have hpos := c.utf8Size_pos
  refine ⟨byteSize (c :: cs) - 1, ?_⟩
  simp only [byteSize_cons]
  omega

theorem dropBytes?_append (before rest : List Char) :
    dropBytes? (byteSize before) (before ++ rest) = some rest := by
  induction before with
  | nil => cases rest <;> rfl
  | cons c cs ih =>
    obtain ⟨n, hn, hc, hrest⟩ := exists_byteSize_cons c cs
    rw [hn, List.cons_append, dropBytes?, if_pos hc, hrest, ih]

theorem takeBytes?_append (cs rest : List Char) :
    takeBytes? (byteSize cs) (cs ++ rest) = some cs := by
  induction cs with
  | nil => cases rest <;> rfl
  | cons c cs ih =>
    obtain ⟨n, hn, hc, hrest⟩ := exists_byteSize_cons c cs
    rw [hn, List.cons_append, takeBytes?, if_pos hc, hrest, ih, Option.map_some]

theorem Span.slice?_append (before cs rest : List Char) :
    Span.slice? ⟨byteSize before, byteSize before + byteSize cs⟩ (before ++ cs ++ rest) =
      some cs := by
  have hlength : Span.length ⟨byteSize before, byteSize before + byteSize cs⟩ = byteSize cs := by
    simp [Span.length]
  rw [Span.slice?, if_pos (Nat.le_add_right _ _), List.append_assoc, dropBytes?_append,
    Option.bind_some, hlength, takeBytes?_append]

theorem byteSize_pos {cs : List Char} (h : cs ≠ []) : 0 < byteSize cs := by
  obtain ⟨c, cs, rfl⟩ := List.exists_cons_of_ne_nil h
  obtain ⟨n, hn, -⟩ := exists_byteSize_cons c cs
  omega

end DocSchema
