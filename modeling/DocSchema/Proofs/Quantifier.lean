import DocSchema.Definition.Check
import DocSchema.Proofs.Grammar.Parser

/-!
# What quantifiers mean

A quantifier is written as a condition on a count `n`. The range it is normalized to holds exactly
the counts that meet the condition. It is refused where a number is no count, where one limit is set
twice, and where no count is left.
-/
namespace DocSchema

/-- What a comparison says of the numbers on its two sides. -/
def Comparison.Holds : Comparison → Int → Int → Prop
  | .greaterEqual, a, b => a ≥ b
  | .lessEqual, a, b => a ≤ b
  | .greater, a, b => a > b
  | .less, a, b => a < b
  | .equal, a, b => a = b

theorem Comparison.holds_flipped (c : Comparison) (a b : Int) :
    c.flipped.Holds a b ↔ c.Holds b a := by
  cases c with
  | equal => exact eq_comm
  | _ => exact Iff.rfl

/-- A number that is no count: negative, or too large. -/
def Quantifier.NoCount (k : Int) : Prop := k < 0 ∨ (maxCount : Int) < k

/-- A quantifier as its author writes it, or the lack of one. -/
inductive Condition where
  | missing
  | optional
  | count (k : Int)
  /-- `n OP k` -/
  | bound (c : Comparison) (k : Int)
  /-- `k OP n` -/
  | reversed (k : Int) (c : Comparison)
  /-- `k OP n OP k'` -/
  | enclosed (k : Int) (c c' : Comparison) (k' : Int)
  deriving DecidableEq, Repr

namespace Condition

/-- The tokens between the parentheses. -/
def inner : Condition → List Token
  | .missing => []
  | .optional => [.identifier "optional"]
  | .count k => [.integer k]
  | .bound c k => [.identifier "n", .comparison c, .integer k]
  | .reversed k c => [.integer k, .comparison c, .identifier "n"]
  | .enclosed k c c' k' =>
    [.integer k, .comparison c, .identifier "n", .comparison c', .integer k']

def tokens (w : Condition) : List Token :=
  if w = .missing then [] else .leftParen :: w.inner ++ [.rightParen]

def Holds : Condition → Nat → Prop
  | .missing, n => n = 1
  | .optional, n => n ≤ 1
  | .count k, n => (n : Int) = k
  | .bound c k, n => c.Holds n k
  | .reversed k c, n => c.Holds k n
  | .enclosed k c c' k', n => c.Holds k n ∧ c'.Holds n k'

def literals : Condition → List Int
  | .missing | .optional => []
  | .count k | .bound _ k | .reversed k _ => [k]
  | .enclosed k _ _ k' => [k, k']

/-- A lone comparison that leaves only counts above the largest one, or below zero. -/
def Unreachable : Condition → Prop
  | .bound .greater k | .reversed k .less => k = Quantifier.maxCount
  | .bound .less k | .reversed k .greater => k = 0
  | _ => False

/-- Two comparisons that both bound the count from below, or both from above. -/
def Redundant : Condition → Prop
  | .enclosed _ c c' _ =>
    (c ∈ [.less, .lessEqual, .equal] ∧ c' ∈ [.greater, .greaterEqual, .equal]) ∨
      (c ∈ [.greater, .greaterEqual, .equal] ∧ c' ∈ [.less, .lessEqual, .equal])
  | _ => False

/-- Conditions that describe no range of counts. -/
def Refused (w : Condition) : Prop :=
  (∃ k ∈ w.literals, Quantifier.NoCount k) ∨ w.Unreachable ∨ w.Redundant ∨ ∀ n, ¬w.Holds n

def quantifier? : Condition → Option Quantifier
  | .missing => none
  | .optional => some .optional
  | .count k => some (.exactly k)
  | .bound c k => some (.bounds ⟨c, k⟩ none)
  | .reversed k c => some (.bounds ⟨c.flipped, k⟩ none)
  | .enclosed k c c' k' => some (.bounds ⟨c.flipped, k⟩ (some ⟨c', k'⟩))

end Condition

namespace Quantifier

/-- Whether a count respects a lower and an upper limit, either of which may be absent. -/
def Within (l : Option Nat × Option Nat) (n : Nat) : Prop := (∀ m ∈ l.1, m ≤ n) ∧ ∀ m ∈ l.2, n ≤ m

def setsLower (c : Comparison) : Bool := c == .greater || c == .greaterEqual || c == .equal

def setsUpper (c : Comparison) : Bool := c == .less || c == .lessEqual || c == .equal

/-- A comparison `n OP k` that sets no limit among the counts. -/
def NoLimit (b : Bound) : Prop :=
  NoCount b.value ∨ b = ⟨.greater, maxCount⟩ ∨ b = ⟨.less, 0⟩

theorem count_outcome (k : Int) :
    Outcome (count k) (fun m => (m : Int) = k ∧ ¬NoCount k) (fun _ => NoCount k) := by
  unfold count NoCount
  split_ifs with hneg hlarge
  · exact .inl hneg
  · exact .inr hlarge
  · exact ⟨by omega, by omega⟩

theorem not_noLimit {c : Comparison} {m : Nat} (hk : ¬NoCount m)
    (hg : c = .greater → m < maxCount) (hl : c = .less → 0 < m) : ¬NoLimit ⟨c, m⟩ := by
  rintro (h | h | h)
  · exact hk h
  · simp only [Bound.mk.injEq, Nat.cast_inj] at h
    exact absurd (hg h.1) (by omega)
  · simp only [Bound.mk.injEq, Nat.cast_eq_zero] at h
    exact absurd (hl h.1) (by omega)

/-- The limits of a comparison are respected by the counts it holds for, and each is set where the
comparison sets one. -/
theorem limits_outcome (b : Bound) :
    Outcome (limits b)
      (fun l => (∀ n : Nat, Within l n ↔ b.comparison.Holds n b.value) ∧
        l.1.isSome = setsLower b.comparison ∧ l.2.isSome = setsUpper b.comparison ∧ ¬NoLimit b)
      (fun _ => NoLimit b) := by
  obtain ⟨c, k⟩ := b
  refine ((count_outcome k).explain fun _ => .inl).bind ?_
  rintro m ⟨rfl, hk⟩
  cases c with
  | greaterEqual =>
    refine ⟨fun n => ?_, rfl, rfl, not_noLimit hk (by simp) (by simp)⟩
    simp [Within, Comparison.Holds]
  | lessEqual =>
    refine ⟨fun n => ?_, rfl, rfl, not_noLimit hk (by simp) (by simp)⟩
    simp [Within, Comparison.Holds]
  | equal =>
    refine ⟨fun n => ?_, rfl, rfl, not_noLimit hk (by simp) (by simp)⟩
    simp only [Within, Option.mem_def, Option.some.injEq, forall_eq', Comparison.Holds]
    omega
  | greater =>
    dsimp only
    split_ifs with hm
    · refine ⟨fun n => ?_, rfl, rfl, not_noLimit hk (fun _ => hm) (by simp)⟩
      simp [Within, Comparison.Holds]
    · have hmax : m = maxCount := by
        simp only [NoCount] at hk
        omega
      exact .inr (.inl (by rw [hmax]))
  | less =>
    dsimp only
    split_ifs with hm
    · refine ⟨fun n => ?_, rfl, rfl, not_noLimit hk (by simp) (fun _ => hm)⟩
      simp only [Within, Option.mem_def, Option.some.injEq, forall_eq', Comparison.Holds,
        reduceCtorEq, false_implies, implies_true, true_and]
      omega
    · have hzero : m = 0 := by omega
      exact .inr (.inr (by rw [hzero]; rfl))

theorem merge_outcome (a b : Option Nat × Option Nat) :
    Outcome (merge a b)
      (fun l => (∀ n, Within l n ↔ Within a n ∧ Within b n) ∧
        ¬((a.1.isSome ∧ b.1.isSome) ∨ (a.2.isSome ∧ b.2.isSome)))
      (fun _ => (a.1.isSome ∧ b.1.isSome) ∨ (a.2.isSome ∧ b.2.isSome)) := by
  obtain ⟨_ | lower, _ | upper⟩ := a <;> obtain ⟨_ | lower', _ | upper'⟩ := b <;>
    simp [merge, Outcome, Within, and_comm]

theorem within_iff {l : Option Nat × Option Nat} {n : Nat} :
    Within l n ↔ l.1.getD 0 ≤ n ∧ ∀ m ∈ l.2, n ≤ m := by
  cases hl : l.1 <;> simp [Within, hl]

theorem between_outcome (l : Option Nat × Option Nat) :
    Outcome (between l.1 l.2) (fun c => ∀ n, c.admits n = true ↔ Within l n)
      (fun _ => ∀ n, ¬Within l n) := by
  unfold between
  cases hr : Cardinality.range? (l.1.getD 0) l.2 with
  | some c =>
    obtain ⟨hmin, hmax⟩ := Cardinality.range?_eq_some_iff.mp hr
    intro n
    rw [within_iff, Cardinality.admits_iff, hmin, hmax]
  | none =>
    intro n hn
    obtain ⟨m, hm, hlt⟩ := Cardinality.range?_eq_none_iff.mp hr
    obtain ⟨hmin, hmax⟩ := within_iff.mp hn
    exact absurd (hmin.trans (hmax m hm)) (Nat.not_le.mpr hlt)

theorem bound_outcome (b : Bound) :
    Outcome (cardinality (.bounds b none))
      (fun c => (∀ n : Nat, c.admits n = true ↔ b.comparison.Holds n b.value) ∧ ¬NoLimit b)
      (fun _ => NoLimit b ∨ ∀ n : Nat, ¬b.comparison.Holds n b.value) := by
  refine ((limits_outcome b).explain fun _ => .inl).bind ?_
  rintro l ⟨hl, -, -, hb⟩
  refine ((between_outcome l).explain fun _ h => .inr fun n hn => h n ((hl n).mpr hn)).weaken ?_
  exact fun c hc => ⟨fun n => (hc n).trans (hl n), hb⟩

def SetTwice (c c' : Comparison) : Prop :=
  (setsLower c ∧ setsLower c') ∨ (setsUpper c ∧ setsUpper c')

theorem SetTwice.symm {c c' : Comparison} (h : SetTwice c c') : SetTwice c' c :=
  h.imp And.symm And.symm

theorem le_of_not_setsLower {c : Comparison} (hc : ¬setsLower c) {a b : Int} (h : c.Holds a b) :
    a ≤ b := by
  cases c with
  | less => exact le_of_lt h
  | lessEqual => exact h
  | _ => exact absurd rfl hc

def Unfit (b b' : Bound) : Prop :=
  NoCount b.value ∨ NoCount b'.value ∨ SetTwice b.comparison b'.comparison ∨
    ∀ n : Nat, ¬(b.comparison.Holds n b.value ∧ b'.comparison.Holds n b'.value)

theorem Unfit.symm {b b' : Bound} (h : Unfit b b') : Unfit b' b := by
  obtain h | h | h | h := h
  · exact .inr (.inl h)
  · exact .inl h
  · exact .inr (.inr (.inl h.symm))
  · exact .inr (.inr (.inr fun n hn => h n hn.symm))

/-- Beside a comparison that sets no limit among the counts, another one sets the same limit or
leaves no count. -/
theorem NoLimit.unfit {b : Bound} (h : NoLimit b) (b' : Bound) : Unfit b b' := by
  obtain hk | rfl | rfl := h
  · exact .inl hk
  · by_cases hk : NoCount b'.value
    · exact .inr (.inl hk)
    by_cases hlower : setsLower b'.comparison
    · exact .inr (.inr (.inl (.inl ⟨rfl, hlower⟩)))
    refine .inr (.inr (.inr fun n hn => ?_))
    have habove : (n : Int) > maxCount := hn.1
    have hbelow := le_of_not_setsLower hlower hn.2
    simp only [NoCount] at hk
    omega
  · refine .inr (.inr (.inr fun n hn => ?_))
    have hneg : (n : Int) < 0 := hn.1
    omega

theorem bounds_outcome (b b' : Bound) :
    Outcome (cardinality (.bounds b (some b')))
      (fun c => (∀ n : Nat, c.admits n = true ↔
          b.comparison.Holds n b.value ∧ b'.comparison.Holds n b'.value) ∧
        ¬NoCount b.value ∧ ¬NoCount b'.value ∧ ¬SetTwice b.comparison b'.comparison)
      (fun _ => Unfit b b') := by
  refine ((limits_outcome b).explain fun _ h => h.unfit b').bind ?_
  rintro l ⟨hl, hlow, hup, hb⟩
  refine ((limits_outcome b').explain fun _ h => (h.unfit b).symm).bind ?_
  rintro l' ⟨hl', hlow', hup', hb'⟩
  have hmerge := merge_outcome l l'
  rw [hlow, hup, hlow', hup'] at hmerge
  refine (hmerge.explain fun _ h => .inr (.inr (.inl h))).bind ?_
  rintro m ⟨hm, htwice⟩
  have hboth (n : Nat) : Within m n ↔
      b.comparison.Holds n b.value ∧ b'.comparison.Holds n b'.value := by
    rw [hm, hl, hl']
  refine ((between_outcome m).explain fun _ h =>
    .inr (.inr (.inr fun n hn => h n ((hboth n).mpr hn)))).weaken ?_
  exact fun c hc => ⟨fun n => (hc n).trans (hboth n), fun h => hb (.inl h),
    fun h => hb' (.inl h), htwice⟩

end Quantifier

namespace Condition

open Quantifier

theorem redundant_enclosed (k : Int) (c c' : Comparison) (k' : Int) :
    (enclosed k c c' k').Redundant ↔ SetTwice c.flipped c' := by
  cases c <;> cases c' <;> simp [Redundant, SetTwice, setsLower, setsUpper, Comparison.flipped]

theorem noLimit_bound (c : Comparison) (k : Int) :
    NoLimit ⟨c, k⟩ ↔ NoCount k ∨ (bound c k).Unreachable := by
  cases c <;> simp [NoLimit, Unreachable]

theorem noLimit_reversed (k : Int) (c : Comparison) :
    NoLimit ⟨c.flipped, k⟩ ↔ NoCount k ∨ (reversed k c).Unreachable := by
  cases c <;> simp [NoLimit, Unreachable, Comparison.flipped]

theorem not_refused {w : Condition} {r : Cardinality} (hw : ∀ n, r.admits n = true ↔ w.Holds n)
    (hl : ∀ k ∈ w.literals, ¬NoCount k) (hu : ¬w.Unreachable) (ht : ¬w.Redundant) :
    ¬w.Refused := by
  rintro (⟨k, hk, hbad⟩ | h | h | h)
  · exact hl k hk hbad
  · exact hu h
  · exact ht h
  · exact h r.min ((hw r.min).mp r.admits_min)

theorem cardinalityOf_outcome (w : Condition) :
    Outcome (cardinalityOf w.quantifier?)
      (fun r => (∀ n, r.admits n = true ↔ w.Holds n) ∧ ¬w.Refused)
      (fun _ => w.Refused) := by
  cases w with
  | missing =>
    have hw (n : Nat) : Cardinality.one.admits n = true ↔ missing.Holds n := Cardinality.admits_one
    exact ⟨hw, not_refused hw (by simp [literals]) id id⟩
  | optional =>
    have hw (n : Nat) : Cardinality.optional.admits n = true ↔ optional.Holds n :=
      Cardinality.admits_optional
    exact ⟨hw, not_refused hw (by simp [literals]) id id⟩
  | count k =>
    refine ((count_outcome k).explain fun _ h => .inl ⟨k, by simp [literals], h⟩).map ?_
    rintro m ⟨rfl, hk⟩
    have hw (n : Nat) : (Cardinality.exactly m).admits n = true ↔ (count m).Holds n :=
      Cardinality.admits_exactly.trans Int.ofNat_inj.symm
    exact ⟨hw, not_refused hw (by simpa [literals] using hk) id id⟩
  | bound c k =>
    have hbad := noLimit_bound c k
    refine ((bound_outcome ⟨c, k⟩).explain ?_).weaken ?_
    · rintro _ (h | h)
      · rw [hbad] at h
        exact h.imp (fun hk => ⟨k, by simp [literals], hk⟩) .inl
      · exact .inr (.inr (.inr h))
    · rintro r ⟨hw, hn⟩
      rw [hbad, not_or] at hn
      exact ⟨hw, not_refused hw (by simpa [literals] using hn.1) hn.2 id⟩
  | reversed k c =>
    have hbad := noLimit_reversed k c
    have hholds (n : Nat) : c.flipped.Holds n k ↔ c.Holds k n := c.holds_flipped n k
    refine ((bound_outcome ⟨c.flipped, k⟩).explain ?_).weaken ?_
    · rintro _ (h | h)
      · rw [hbad] at h
        exact h.imp (fun hk => ⟨k, by simp [literals], hk⟩) .inl
      · exact .inr (.inr (.inr fun n hn => h n ((hholds n).mpr hn)))
    · rintro r ⟨hw, hn⟩
      rw [hbad, not_or] at hn
      have hw (n : Nat) : r.admits n = true ↔ (reversed k c).Holds n := (hw n).trans (hholds n)
      exact ⟨hw, not_refused hw (by simpa [literals] using hn.1) hn.2 id⟩
  | enclosed k c c' k' =>
    have hholds (n : Nat) : (c.flipped.Holds n k ∧ c'.Holds n k') ↔ (enclosed k c c' k').Holds n :=
      and_congr_left' (c.holds_flipped n k)
    refine ((bounds_outcome ⟨c.flipped, k⟩ ⟨c', k'⟩).explain ?_).weaken ?_
    · rintro _ (h | h | h | h)
      · exact .inl ⟨k, by simp [literals], h⟩
      · exact .inl ⟨k', by simp [literals], h⟩
      · exact .inr (.inr (.inl ((redundant_enclosed k c c' k').mpr h)))
      · exact .inr (.inr (.inr fun n hn => h n ((hholds n).mpr hn)))
    · rintro r ⟨hw, hk, hk', ht⟩
      have hw (n : Nat) : r.admits n = true ↔ (enclosed k c c' k').Holds n :=
        (hw n).trans (hholds n)
      have hl : ∀ l ∈ (enclosed k c c' k').literals, ¬NoCount l := by
        simpa [literals] using ⟨hk, hk'⟩
      exact ⟨hw, not_refused hw hl id ((redundant_enclosed k c c' k').not.mpr ht)⟩

theorem exists_of_derivesQuantifier {ts : Grammar.Tokens} {q : Quantifier}
    (h : Grammar.DerivesQuantifier ts q) :
    ∃ w : Condition, w ≠ .missing ∧ ts.map (·.value) = w.inner ∧ w.quantifier? = some q := by
  cases h with
  | optional s => exact ⟨.optional, by simp, rfl, rfl⟩
  | count k s => exact ⟨.count k, by simp, rfl, rfl⟩
  | bound c k s₁ s₂ s₃ => exact ⟨.bound c k, by simp, rfl, rfl⟩
  | reversed k c s₁ s₂ s₃ => exact ⟨.reversed k c, by simp, rfl, rfl⟩
  | enclosed k c c' k' s₁ s₂ s₃ s₄ s₅ => exact ⟨.enclosed k c c' k', by simp, rfl, rfl⟩

theorem exists_of_item {name : Located String} {ts rest : Grammar.Tokens} {i : Item}
    (h : Parser.item name ts = .ok (i, rest)) :
    ∃ (w : Condition) (used : Grammar.Tokens), ts = used ++ rest ∧
      used.map (·.value) = w.tokens ∧ i.name = name ∧
      i.quantifier.map (·.value) = w.quantifier? := by
  obtain ⟨used, rfl, hi⟩ := Grammar.item_sound h
  cases hi with
  | plain => exact ⟨.missing, [], rfl, rfl, rfl, rfl⟩
  | quantified _ _ left right inner =>
    obtain ⟨w, hw, hts, hq⟩ := exists_of_derivesQuantifier inner
    refine ⟨w, _, rfl, ?_, rfl, by simp [hq]⟩
    simp [tokens, hw, hts]

theorem derivesQuantifier_of_inner {w : Condition} (hw : w ≠ .missing) {ts : Grammar.Tokens}
    (h : ts.map (·.value) = w.inner) : ∃ q, Grammar.DerivesQuantifier ts q := by
  cases w with
  | missing => exact absurd rfl hw
  | optional =>
    obtain ⟨⟨_, s⟩, rfl, rfl⟩ := List.map_eq_singleton_iff.mp h
    exact ⟨_, .optional s⟩
  | count k =>
    obtain ⟨⟨_, s⟩, rfl, rfl⟩ := List.map_eq_singleton_iff.mp h
    exact ⟨_, .count k s⟩
  | bound c k =>
    simp only [inner, List.map_eq_cons_iff, List.map_eq_nil_iff] at h
    obtain ⟨⟨_, s₁⟩, _, rfl, rfl, ⟨_, s₂⟩, _, rfl, rfl, ⟨_, s₃⟩, _, rfl, rfl, rfl⟩ := h
    exact ⟨_, .bound c k s₁ s₂ s₃⟩
  | reversed k c =>
    simp only [inner, List.map_eq_cons_iff, List.map_eq_nil_iff] at h
    obtain ⟨⟨_, s₁⟩, _, rfl, rfl, ⟨_, s₂⟩, _, rfl, rfl, ⟨_, s₃⟩, _, rfl, rfl, rfl⟩ := h
    exact ⟨_, .reversed k c s₁ s₂ s₃⟩
  | enclosed k c c' k' =>
    simp only [inner, List.map_eq_cons_iff, List.map_eq_nil_iff] at h
    obtain ⟨⟨_, s₁⟩, _, rfl, rfl, ⟨_, s₂⟩, _, rfl, rfl, ⟨_, s₃⟩, _, rfl, rfl, ⟨_, s₄⟩, _, rfl, rfl,
      ⟨_, s₅⟩, _, rfl, rfl, rfl⟩ := h
    exact ⟨_, .enclosed k c c' k' s₁ s₂ s₃ s₄ s₅⟩

theorem item_of_tokens (name : Located String) {w : Condition} {ts rest : Grammar.Tokens}
    (h : ts.map (·.value) = w.tokens) (hr : Grammar.NoParen rest) :
    ∃ i, Parser.item name (ts ++ rest) = .ok (i, rest) := by
  have hitem : ∃ i, Grammar.DerivesItem (⟨.identifier name.value, name.span⟩ :: ts) i := by
    by_cases hw : w = .missing
    · obtain rfl : ts = [] := by simpa [tokens, hw] using h
      exact ⟨_, .plain name.value name.span⟩
    · simp only [tokens, if_neg hw, List.map_eq_append_iff, List.map_eq_cons_iff,
        List.map_eq_nil_iff] at h
      obtain ⟨_, _, rfl, ⟨⟨_, left⟩, ts, rfl, rfl, hinner⟩, ⟨_, right⟩, _, rfl, rfl, rfl⟩ := h
      obtain ⟨q, hq⟩ := derivesQuantifier_of_inner hw hinner
      exact ⟨_, .quantified name.value name.span left right hq⟩
  obtain ⟨i, hi⟩ := hitem
  obtain ⟨_, _, tail, he, hread⟩ := Grammar.item_complete hi hr
  cases he
  exact ⟨i, hread⟩

theorem occurrence_outcome {w : Condition} {i : Item}
    (hq : i.quantifier.map (·.value) = w.quantifier?) :
    (¬w.Refused ∧ ∃ r, Definition.occurrence i = ⟨some ⟨i.name, r⟩, []⟩ ∧
        ∀ n, r.admits n = true ↔ w.Holds n) ∨
      (w.Refused ∧ ∃ q fault, Definition.occurrence i = ⟨none, [.quantifier q fault]⟩) := by
  have h := cardinalityOf_outcome w
  rw [← hq] at h
  unfold Definition.occurrence
  cases hi : i.quantifier with
  | none =>
    rw [hi] at h
    obtain ⟨hw, hn⟩ := h
    exact .inl ⟨hn, _, rfl, hw⟩
  | some q =>
    rw [hi] at h
    change Outcome q.value.cardinality _ _ at h
    dsimp only
    cases hc : q.value.cardinality with
    | ok r =>
      rw [hc] at h
      obtain ⟨hw, hn⟩ := h
      exact .inl ⟨hn, r, rfl, hw⟩
    | error fault =>
      rw [hc] at h
      exact .inr ⟨h, q, fault, rfl⟩

end Condition

/-- Every way to write a quantifier is read. What is read becomes a range with a minimum not above
its maximum that holds exactly the counts of the written condition, or it is refused with its own
code: where a number is negative or too large, where a comparison goes beyond the counts, where both
comparisons bound the count from the same side, and where no count meets the condition. -/
theorem item_range_iff_condition (name : Located String) :
    (∀ (w : Condition) (ts rest : Grammar.Tokens), ts.map (·.value) = w.tokens →
        Grammar.NoParen rest → ∃ i, Parser.item name (ts ++ rest) = .ok (i, rest)) ∧
      ∀ (ts rest : Grammar.Tokens) (i : Item), Parser.item name ts = .ok (i, rest) →
        ∃ (w : Condition) (used : Grammar.Tokens), ts = used ++ rest ∧
          used.map (·.value) = w.tokens ∧
          ((¬w.Refused ∧ ∃ r, Definition.occurrence i = ⟨some ⟨name, r⟩, []⟩ ∧
              (∀ m ∈ r.max, r.min ≤ m) ∧ ∀ n, r.admits n = true ↔ w.Holds n) ∨
            (w.Refused ∧ ∃ p, Definition.occurrence i = ⟨none, [p]⟩ ∧
              p.diagnostic.isError = true ∧ p.diagnostic.code.map (·.name) = some "E200")) := by
  refine ⟨fun w ts rest h hr => Condition.item_of_tokens name h hr, fun ts rest i h => ?_⟩
  obtain ⟨w, used, hts, hw, hname, hq⟩ := Condition.exists_of_item h
  refine ⟨w, used, hts, hw, ?_⟩
  obtain ⟨hn, r, ho, hr⟩ | ⟨hn, q, fault, ho⟩ := Condition.occurrence_outcome hq
  · exact .inl ⟨hn, r, hname ▸ ho, r.valid, hr⟩
  · exact .inr ⟨hn, _, ho, rfl, rfl⟩

/-- The condition `4294967294 < n <= 4294967295` leaves the largest count only. -/
theorem item_range_iff_condition_largest :
    ∃ i r, Parser.item ⟨"a", ⟨0, 1⟩⟩
        ((Condition.enclosed 4294967294 .less .lessEqual 4294967295).tokens.map (⟨·, .point 2⟩)) =
          .ok (i, []) ∧
      Definition.occurrence i = ⟨some ⟨⟨"a", ⟨0, 1⟩⟩, r⟩, []⟩ ∧
      ∀ n : Nat, r.admits n = true ↔ n = 4294967295 := by
  obtain ⟨hread, hrange⟩ := item_range_iff_condition ⟨"a", ⟨0, 1⟩⟩
  obtain ⟨i, hi⟩ := hread (.enclosed 4294967294 .less .lessEqual 4294967295)
    ((Condition.enclosed 4294967294 .less .lessEqual 4294967295).tokens.map (⟨·, .point 2⟩)) []
    rfl (by simp [Grammar.NoParen])
  rw [List.append_nil] at hi
  obtain ⟨w, used, hts, hw, h⟩ := hrange _ _ i hi
  obtain rfl : w = .enclosed 4294967294 .less .lessEqual 4294967295 := by
    rw [List.append_nil] at hts
    subst hts
    cases w <;> simp_all [Condition.tokens, Condition.inner]
  have hholds (n : Nat) : (Condition.enclosed 4294967294 .less .lessEqual 4294967295).Holds n ↔
      n = 4294967295 := by
    simp only [Condition.Holds, Comparison.Holds]
    omega
  obtain ⟨-, r, ho, -, hr⟩ | ⟨hn, -⟩ := h
  · exact ⟨i, r, hi, ho, fun n => (hr n).trans (hholds n)⟩
  · obtain ⟨k, hk, hbad⟩ | hu | ht | hnone := hn
    · simp only [Condition.literals, List.mem_cons, List.not_mem_nil, or_false] at hk
      simp only [Quantifier.NoCount, Quantifier.maxCount] at hbad
      omega
    · exact hu.elim
    · simp [Condition.Redundant] at ht
    · exact absurd ((hholds _).mpr rfl) (hnone _)

end DocSchema
