import DocSchema.Number.Integer
import DocSchema.Proofs.Result

/-!
# Reading printed numbers

The decimal text of a number reads back as the number.
-/
namespace DocSchema.Number

/-- Reads digits, however many. -/
def natural? (cs : List Char) : Option Nat := if isDigits cs then some (digitsValue cs) else none

/-- Reads digits after an optional minus, however many. -/
def integer? : List Char → Option Int
  | '-' :: cs => (natural? cs).map fun n => -Int.ofNat n
  | cs => (natural? cs).map Int.ofNat

theorem isDigits_toDigits (n : Nat) : isDigits (Nat.toDigits 10 n) = true := by
  have hne : Nat.toDigits 10 n ≠ [] := Nat.toDigits_ne_nil
  have hd : ∀ c ∈ Nat.toDigits 10 n, c.isDigit = true := fun c hc =>
    Nat.isDigit_of_mem_toDigits (by decide) (by decide) hc
  simpa [isDigits, hne] using hd

theorem digitsValue_toDigits (n : Nat) : digitsValue (Nat.toDigits 10 n) = n := by
  rw [digitsValue, ← Nat.ofDigitChars_eq_foldl, Nat.ofDigitChars_ten_toDigits]

theorem natural?_toDigits (n : Nat) : natural? (Nat.toDigits 10 n) = some n := by
  rw [natural?, if_pos (isDigits_toDigits n), digitsValue_toDigits]

theorem natural?_toString (n : Nat) : natural? (toString n).toList = some n := by
  rw [Nat.toString_eq_ofList_toDigits, String.toList_ofList, natural?_toDigits]

theorem integer?_toDigits (n : Nat) : integer? (Nat.toDigits 10 n) = some (Int.ofNat n) := by
  unfold integer?
  split
  · next cs he =>
    have hm : '-' ∈ Nat.toDigits 10 n := by simp [he]
    exact absurd (Nat.isDigit_of_mem_toDigits (by decide) (by decide) hm) (by decide)
  · rw [natural?_toDigits, Option.map_some]

theorem integer?_toString (n : Int) : integer? (toString n).toList = some n := by
  rw [Int.toString_eq_repr]
  cases n with
  | ofNat m =>
    rw [Int.repr, Nat.toList_repr, integer?_toDigits]
  | negSucc m =>
    have hm : ("-" ++ m.succ.repr).toList = '-' :: Nat.toDigits 10 (m + 1) := by
      rw [String.toList_append, Nat.toList_repr]
      rfl
    rw [Int.repr, hm, integer?, natural?_toDigits]
    rfl

/-- Reads digits after an optional sign, however many. -/
def signed? : List Char → Option Int
  | '+' :: cs => (natural? cs).map Int.ofNat
  | cs => integer? cs

theorem signed?_of_integer? {cs : List Char} {n : Int} (h : integer? cs = some n) :
    signed? cs = some n := by
  unfold signed?
  split
  · -- a plus is no digit
    simp [integer?, natural?, isDigits] at h
  · exact h

theorem signed?_toString (n : Int) : signed? (toString n).toList = some n :=
  signed?_of_integer? (integer?_toString n)

/-- What fits in 64 bits has the same value without that limit. -/
theorem signed?_of_readInteger? {cs : List Char} {n : Int} (h : readInteger? cs = some n) :
    signed? cs = some n := by
  have value {m : Int} (hm : int64? m = some n) : m = n := by
    unfold int64? at hm
    split_ifs at hm
    exact Option.some.inj hm
  unfold readInteger? at h
  split at h <;> split_ifs at h with hd
  · simp [signed?, integer?, natural?, hd, ← value h]
  · simp [signed?, natural?, hd, ← value h]
  · next hminus hplus =>
    unfold signed? integer?
    split
    · exact absurd rfl (hplus _)
    · split
      · exact absurd rfl (hminus _)
      · simp [natural?, hd, ← value h]

theorem integer?_of_readInteger? {cs : List Char} {n : Int} (h : readInteger? cs = some n)
    (hplus : cs.head? ≠ some '+') : integer? cs = some n := by
  have hs := signed?_of_readInteger? h
  unfold signed? at hs
  split at hs
  · simp at hplus
  · exact hs

end DocSchema.Number
