/-!
# Integer literals

Reading decimal text as a signed 64-bit integer.
-/
namespace DocSchema.Number

def digitsValue (cs : List Char) : Nat := cs.foldl (fun n c => 10 * n + (c.toNat - '0'.toNat)) 0

def isDigits (cs : List Char) : Bool := !cs.isEmpty && cs.all Char.isDigit

def inInt64 (n : Int) : Bool := -9223372036854775808 ≤ n && n ≤ 9223372036854775807

def int64? (n : Int) : Option Int := if inInt64 n then some n else none

/-- Reads digits with an optional sign; a value outside the 64-bit range is refused. -/
def readInteger? : List Char → Option Int
  | '-' :: cs => if isDigits cs then int64? (-(digitsValue cs : Int)) else none
  | '+' :: cs => if isDigits cs then int64? (digitsValue cs) else none
  | cs => if isDigits cs then int64? (digitsValue cs) else none

theorem inInt64_of_readInteger? {cs : List Char} {n : Int} (h : readInteger? cs = some n) :
    inInt64 n = true := by
  unfold readInteger? at h
  split at h <;> simp only [int64?] at h <;> grind

end DocSchema.Number
