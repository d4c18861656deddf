import DocSchema.Unicode.Age
import DocSchema.Unicode.Binary
import DocSchema.Unicode.Category
import DocSchema.Unicode.GraphemeBreak
import DocSchema.Unicode.Script
import DocSchema.Unicode.ScriptExtension
import DocSchema.Unicode.SentenceBreak
import DocSchema.Unicode.WordBreak

/-!
# Looking up properties by name

Names are compared loosely: case, blanks, underscores and hyphens do not count, nor does a leading
`is`. A name alone may be a binary property, a general category or a script, tried in this order.
-/
namespace DocSchema.Unicode

/-- A name without what loose comparison ignores. -/
def looseName (name : List Char) : String :=
  let (isMark, name) :=
    match name with
    | a :: b :: rest =>
      if (a == 'i' || a == 'I') && (b == 's' || b == 'S') then (true, rest) else (false, name)
    | _ => (false, name)
  let kept :=
    (name.filter fun c => c.toNat < 128 && c != ' ' && c != '_' && c != '-').map Char.toLower
  -- `isc` is the name of a property of its own, not the category `c`.
  if isMark && kept == ['c'] then "isc" else String.ofList kept

/-- The characters of a general category, or of one of three wider sets. -/
def generalCategory? (name : String) : Option (List CodeRange) :=
  if name == "any" then some [⟨0, 0x10FFFF⟩]
  else if name == "ascii" then some [⟨0, 0x7F⟩]
  else if name == "assigned" then
    some ((categories.filter (!·.1.contains "cn")).flatMap fun row => readStepLines row.2)
  else category? name

/-- Three abbreviations are categories although properties have them too. -/
def isCategoryAbbreviation (name : String) : Bool := name == "cf" || name == "sc" || name == "lc"

def named? (name : List Char) : Option (List CodeRange) :=
  let name := looseName name
  (if isCategoryAbbreviation name then none else binaryProperty? name)
    |>.orElse fun _ => generalCategory? name
    |>.orElse fun _ => script? name

def valued? (property value : List Char) : Option (List CodeRange) :=
  let property := looseName property
  let value := looseName value
  if property == "gc" || property == "generalcategory" then generalCategory? value
  else if property == "sc" || property == "script" then script? value
  else if property == "scx" || property == "scriptextensions" then scriptExtension? value
  else if property == "age" then age? value
  else if property == "gcb" || property == "graphemeclusterbreak" then graphemeBreak? value
  else if property == "wb" || property == "wordbreak" then wordBreak? value
  else if property == "sb" || property == "sentencebreak" then sentenceBreak? value
  else none

end DocSchema.Unicode
