import DocSchema.Unicode.Range

/-!
# Ranges of characters in UTF-8

The bytes of the characters of a range, as sequences of byte ranges: a sequence stands for all ways
to take one byte from each of its ranges. The sequences of a range are disjoint and in increasing
order.
-/
namespace DocSchema.Unicode

def byteLength (c : Char) : Nat :=
  if c.toNat < 0x80 then 1 else if c.toNat < 0x800 then 2 else if c.toNat < 0x10000 then 3 else 4

def utf8Bytes (c : Char) : List Nat :=
  let n := c.toNat
  let tail (i : Nat) : Nat := 0x80 + n / Nat.pow 64 i % 64
  match byteLength c with
  | 1 => [n]
  | 2 => [0xC0 + n / 64, tail 0]
  | 3 => [0xE0 + n / Nat.pow 64 2, tail 1, tail 0]
  | _ => [0xF0 + n / Nat.pow 64 3, tail 2, tail 1, tail 0]

def tailBytes : CodeRange := ⟨0x80, 0xBF⟩

/-- The sequences for the numbers from `first` to `last`. They are written with `tails` digits of
six bits behind a leading one that is counted from `base`. -/
def sequencesFrom : Nat → Nat → Nat → Nat → List (List CodeRange)
  | 0, base, first, last => [[⟨base + first, base + last⟩]]
  | tails + 1, base, first, last =>
    let size := Nat.pow 64 (tails + 1)
    let under (digit first last : Nat) : List (List CodeRange) :=
      (sequencesFrom tails 0x80 first last).map (⟨base + digit, base + digit⟩ :: ·)
    let (a, restA) := (first / size, first % size)
    let (b, restB) := (last / size, last % size)
    if a == b then under a restA restB
    else
      let low := if restA == 0 then [] else under a restA (size - 1)
      let high := if restB == size - 1 then [] else under b 0 restB
      let start := if restA == 0 then a else a + 1
      let stop := if restB == size - 1 then b + 1 else b
      let middle :=
        if start < stop then
          [⟨base + start, base + stop - 1⟩ :: List.replicate (tails + 1) tailBytes]
        else []
      low ++ middle ++ high

/-- The characters of each length with the number of their further bytes and the base of their first
byte. Surrogates are no characters. -/
def lengthClasses : List (CodeRange × Nat × Nat) :=
  [(⟨0, 0x7F⟩, 0, 0), (⟨0x80, 0x7FF⟩, 1, 0xC0), (⟨0x800, 0xD7FF⟩, 2, 0xE0),
    (⟨0xE000, 0xFFFF⟩, 2, 0xE0), (⟨0x10000, 0x10FFFF⟩, 3, 0xF0)]

def byteSequences (r : CodeRange) : List (List CodeRange) :=
  lengthClasses.flatMap fun (bounds, tails, base) =>
    match r.within? bounds with
    | some part => sequencesFrom tails base part.first part.last
    | none => []

end DocSchema.Unicode
