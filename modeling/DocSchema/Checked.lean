/-!
# Checks that go on

A check reports every problem it meets and still gives a value, so that the next check can be made.
The value is of use only where no problem was an error.
-/
namespace DocSchema

/-- A value with the problems met on the way to it, in order. -/
structure Checked (ε α : Type) where
  value : α
  problems : List ε

namespace Checked

variable {ε α : Type}

instance : Monad (Checked ε) where
  pure a := ⟨a, []⟩
  bind x f := ⟨(f x.value).value, x.problems ++ (f x.value).problems⟩

def report (problem : ε) (value : α) : Checked ε α := ⟨value, [problem]⟩

def note (problems : List ε) : Checked ε Unit := ⟨(), problems⟩

end Checked

end DocSchema
