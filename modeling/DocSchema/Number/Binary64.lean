import DocSchema.Number.Integer

/-!
# Double-precision numbers

Decimal text is read to the nearest double and a double is written with the fewest digits that read
back as the same double. Everything is exact arithmetic on natural numbers: a double is a 53-bit
significand times a power of two.
-/
namespace DocSchema.Number

/-- A decimal `digits · 10 ^ exponent` with a sign. -/
structure Decimal where
  negative : Bool
  digits : Nat
  exponent : Int
  deriving DecidableEq, Repr

/-- A finite double: `significand · 2 ^ exponent` with a sign. -/
structure Binary64 where
  negative : Bool
  significand : Nat
  exponent : Int
  deriving DecidableEq, Repr

namespace Decimal

private def readSign : List Char → Bool × List Char
  | '-' :: cs => (true, cs)
  | '+' :: cs => (false, cs)
  | cs => (false, cs)

private def readExponent? : List Char → Option Int
  | [] => some 0
  | c :: cs =>
    if c = 'e' ∨ c = 'E' then
      let (negative, ds) := readSign cs
      if isDigits ds then
        some (if negative then -(digitsValue ds : Int) else (digitsValue ds : Int))
      else none
    else none

/-- Reads digits with an optional point and exponent. At least one digit stands before or after
the point. -/
def read? (text : List Char) : Option Decimal :=
  let (negative, cs) := readSign text
  let whole := cs.takeWhile Char.isDigit
  let rest := cs.dropWhile Char.isDigit
  let (fraction, rest) := match rest with
    | '.' :: r => (r.takeWhile Char.isDigit, r.dropWhile Char.isDigit)
    | r => ([], r)
  if whole.isEmpty && fraction.isEmpty then none
  else (readExponent? rest).map fun e =>
    ⟨negative, digitsValue (whole ++ fraction), e - (fraction.length : Int)⟩

end Decimal

/-- The quotient rounded to the nearest integer, a tie going to the even one. -/
def divNearestEven (num den : Nat) : Nat :=
  let q := num / den
  let r := num % den
  if 2 * r < den then q
  else if den < 2 * r then q + 1
  else if q % 2 = 0 then q else q + 1

namespace Binary64

def zero (negative : Bool) : Binary64 := ⟨negative, 0, -1074⟩

private def scale (num den : Nat) (e : Int) : Nat × Nat :=
  if 0 ≤ e then (num * Nat.pow 2 e.toNat, den) else (num, den * Nat.pow 2 (-e).toNat)

/-- The double nearest to a positive fraction, or nothing when it would be infinite. -/
def ofFraction? (negative : Bool) (num den : Nat) : Option Binary64 :=
  -- The fraction lies between `2 ^ (guess + 51)` and `2 ^ (guess + 53)`.
  let guess : Int := (num.log2 : Int) - (den.log2 : Int) - 52
  let (n, d) := scale num den (-guess)
  let exponent := max (if n < d * Nat.pow 2 52 then guess - 1 else guess) (-1074)
  let (n, d) := scale num den (-exponent)
  let m := divNearestEven n d
  let (m, e) := if m = Nat.pow 2 53 then (Nat.pow 2 52, exponent + 1) else (m, exponent)
  if 971 < e then none else some ⟨negative, m, e⟩

def ofDecimal? (x : Decimal) : Option Binary64 :=
  if x.digits = 0 then some (zero x.negative)
  else
    let magnitude : Int := (Nat.toDigits 10 x.digits).length + x.exponent
    if 400 < magnitude then none
    else if magnitude < -400 then some (zero x.negative)
    else if 0 ≤ x.exponent then ofFraction? x.negative (x.digits * Nat.pow 10 x.exponent.toNat) 1
    else ofFraction? x.negative x.digits (Nat.pow 10 (-x.exponent).toNat)

def read? (text : List Char) : Option Binary64 := (Decimal.read? text).bind ofDecimal?

/-- The open or closed interval of reals that round to a double, over the common denominator
`den`. -/
private structure Basin where
  low : Nat
  value : Nat
  high : Nat
  den : Nat
  closed : Bool

private def basin (x : Binary64) : Basin :=
  -- Distances are counted in quarters of a unit in the last place.
  let unit := if x.significand = Nat.pow 2 52 && -1074 < x.exponent then 1 else 2
  let (num, den) := scale 1 4 x.exponent
  ⟨(4 * x.significand - unit) * num, 4 * x.significand * num, (4 * x.significand + 2) * num, den,
    x.significand % 2 = 0⟩

private def Basin.contains (b : Basin) (num den : Nat) : Bool :=
  if b.closed then b.low * den ≤ num * b.den && num * b.den ≤ b.high * den
  else b.low * den < num * b.den && num * b.den < b.high * den

/-- The largest `k` in the search range with `10 ^ k` at most the value. -/
private def leadingExponent (b : Basin) : Nat → Int → Int
  | 0, k => k
  | fuel + 1, k =>
    let fits := if 0 ≤ k then Nat.pow 10 k.toNat * b.den ≤ b.value
      else b.den ≤ b.value * Nat.pow 10 (-k).toNat
    if fits then k else leadingExponent b fuel (k - 1)

/-- A multiple of a power of ten that is in the basin, nearest to the value, with `count` digits. -/
private def candidate? (b : Basin) (lead : Int) (count : Nat) : Option Nat :=
  let e : Int := lead - (count : Int) + 1
  -- In units of `10 ^ e` the value is `n / d`.
  let (n, d) := if 0 ≤ e then (b.value, b.den * Nat.pow 10 e.toNat)
    else (b.value * Nat.pow 10 (-e).toNat, b.den)
  let inside (k : Nat) : Bool :=
    if 0 ≤ e then b.contains (k * Nat.pow 10 e.toNat) 1 else b.contains k (Nat.pow 10 (-e).toNat)
  let below := n / d
  let above := below + 1
  match inside below, inside above with
  | true, true => some (divNearestEven n d)
  | true, false => some below
  | false, true => some above
  | false, false => none

private def search (b : Basin) (lead : Int) : Nat → Nat → Nat × Nat
  | 0, count => ((candidate? b lead count).getD 0, count)
  | fuel + 1, count =>
    match candidate? b lead count with
    | some k => (k, count)
    | none => search b lead fuel (count + 1)

/-- The fewest significant digits that read back as the same double, and the decimal exponent of
the first of them. -/
def shortest (x : Binary64) : List Char × Int :=
  if x.significand = 0 then (['0'], 0)
  else
    let b := basin x
    let lead := leadingExponent b 700 309
    let (k, count) := search b lead 16 1
    let digits := Nat.toDigits 10 k
    -- A candidate may have rounded up to the next power of ten.
    let lead := lead + (digits.length : Int) - (count : Int)
    let kept := (digits.reverse.dropWhile (· == '0')).reverse
    (kept, lead)

end Binary64

end DocSchema.Number
