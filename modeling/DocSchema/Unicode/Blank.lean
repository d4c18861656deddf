import DocSchema.Unicode.Range

/-!
# Blank characters

The characters with the Unicode property White_Space, and trimming by them.
-/
namespace DocSchema.Unicode

def blankRanges : List CodeRange :=
  readRanges "9-D 20 85 A0 1680 2000-200A 2028-2029 202F 205F 3000"

def isBlank (c : Char) : Bool := inRanges blankRanges c.toNat

def trimStart (cs : List Char) : List Char := cs.dropWhile isBlank

def trim (cs : List Char) : List Char := (trimStart (trimStart cs).reverse).reverse

end DocSchema.Unicode
