import DocSchema.Pattern.Match
import DocSchema.Pattern.Program.Build

/-!
# Compiling patterns

A pattern of a data type holds for whole values. It is compiled with anchors around it, and refused
if its text has a fault or its program would be too large.
-/
namespace DocSchema.Pattern

/-- The pattern that holds for whole values. -/
def anchored (pattern : String) : List Char :=
  "^(?:".toList ++ pattern.toList ++ ")$".toList

def compile (pattern : String) : Except Fault Regex := do
  let tree ← readTree (anchored pattern)
  let (r, _) ← tree.regex .start
  Program.checkSize r.form
  return r

end DocSchema.Pattern
