import DocSchema.Number.Binary64

/-!
# Built-in value types

Their names share one name space with declared structures.
-/
namespace DocSchema

inductive Primitive where
  | string
  | integer
  | decimal
  | boolean
  deriving DecidableEq, Repr

namespace Primitive

def all : List Primitive := [.string, .integer, .decimal, .boolean]

def name : Primitive → String
  | .string => "string"
  | .integer => "integer"
  | .decimal => "decimal"
  | .boolean => "boolean"

def ofName? (s : String) : Option Primitive := all.find? (·.name == s)

/-- Numeric types take a minimum and a maximum. -/
def isNumeric : Primitive → Bool
  | .integer | .decimal => true
  | .string | .boolean => false

def readBoolean? (literal : String) : Option Bool :=
  if literal = "true" ∨ literal = "1" then some true
  else if literal = "false" ∨ literal = "0" then some false
  else none

def accepts (p : Primitive) (literal : String) : Bool :=
  match p with
  | .string => true
  | .integer => (Number.readInteger? literal.toList).isSome
  | .decimal => (Number.Binary64.read? literal.toList).isSome
  | .boolean => (readBoolean? literal).isSome

def unknownMessage (s : String) : String := s!"`{s}` is not a built-in type"

theorem ofName?_name (p : Primitive) : ofName? p.name = some p := by
  cases p <;> decide

end Primitive

end DocSchema
