import DocSchema.Proofs.Token.Partition

/-!
# Faults of a text

The scan of a text goes on after a fault, at a place that depends on the fault, and skips one more
character. Every turn of its loop takes at least one character, so that the scan ends, and faults
are told in the order of their places, which do not overlap.
-/
namespace DocSchema

namespace Number

theorem readInteger?_eq {cs : List Char} (h : cs.head? ≠ some '+') :
    readInteger? cs = (integer? cs).bind int64? := by
  have hvalue (ds : List Char) (f : Nat → Int) :
      ((natural? ds).map f).bind int64? =
        if isDigits ds then int64? (f (digitsValue ds)) else none := by
    unfold natural?
    split_ifs <;> rfl
  unfold readInteger?
  split
  · exact (hvalue _ (fun n => -Int.ofNat n)).symm
  · simp at h
  · next hminus _ =>
    rw [integer?.eq_2 _ hminus]
    exact (hvalue _ _).symm

theorem isSome_integer?_cons (c : Char) (cs : List Char) :
    (integer? (c :: cs)).isSome = isDigits (if c = '-' then cs else c :: cs) := by
  have hsome (ds : List Char) (f : Nat → Int) : ((natural? ds).map f).isSome = isDigits ds := by
    unfold natural?
    cases isDigits ds <;> rfl
  by_cases hc : c = '-'
  · subst hc
    exact hsome _ _
  · rw [if_neg hc, integer?.eq_2 _ fun ds he => hc (List.cons.inj he).1]
    exact hsome _ _

end Number

namespace Token

/-- A fault, the text that it takes and the text after it. An unexpected character starts none of
the other forms; it takes no text of its own. -/
inductive Breaks (afterColon : Bool) : Fault → List Char → List Char → Prop
  | comment {rest : List Char} (hopen : ¬['*', '/'] <:+: rest) :
      Breaks afterColon .unterminatedComment ['/', '*'] rest
  | string {quote : Char} {body rest : List Char} (hq : quote = '\'' ∨ quote = '"')
      (hclose : quote ∉ body) (hline : '\n' ∉ body) (hr : ∀ c ∈ rest.head?, c = '\n') :
      Breaks afterColon .unterminatedString (quote :: body) rest
  | pattern {body rest : List Char} (hc : afterColon = true) (hs : body.head? ≠ some '*')
      (hclose : '/' ∉ body) (hline : '\n' ∉ body) (hr : ∀ c ∈ rest.head?, c = '\n') :
      Breaks afterColon .unterminatedPattern ('/' :: body) rest
  | integer {cs rest : List Char} {n : Int} (hcs : ∀ c ∈ cs, isWordChar c = true)
      (hr : ∀ c ∈ rest.head?, isWordChar c = false) (hn : Number.integer? cs = some n)
      (hrange : Number.inInt64 n = false) : Breaks afterColon .integerRange cs rest
  | character {c : Char} {cs : List Char} (hblank : isBlank c = false)
      (hplain : c ∉ ['/', '\'', '"'] ∧ punctuation? c = none)
      (hmarker : ¬"*any text*".toList <+: c :: cs)
      (hword : isWordChar c = true → isLetter c = false ∧ c ≠ '_' ∧
        Number.integer? ((c :: cs).takeWhile isWordChar) = none) :
      Breaks afterColon .unexpectedCharacter [] (c :: cs)

theorem splitComment_eq_none {cs : List Char} (h : splitComment cs = none) :
    ¬['*', '/'] <:+: cs := by
  rintro ⟨before, after, rfl⟩
  induction before with
  | nil => cases h
  | cons c before ih =>
    rw [List.cons_append, List.cons_append] at h
    unfold splitComment at h
    split at h
    · next he => cases he
    · cases h
    · next he =>
      obtain ⟨rfl, rfl⟩ := List.cons.inj he
      exact ih (Option.map_eq_none_iff.mp h)

section Literals

variable {first close : Char} {make : String → Token} {fault fault' : Fault}

theorem literal_eq_error {cs taken rest : List Char}
    (h : literal first close make fault cs = ⟨.error fault', taken, rest⟩) :
    fault' = fault ∧ ∃ body, taken = first :: body ∧ cs = body ++ rest ∧ close ∉ body ∧
      '\n' ∉ body ∧ ∀ c ∈ rest.head?, c = '\n' := by
  have hinside {c : Char} (hc : c ∈ cs.takeWhile fun c => c != close && c != '\n') :
      c ≠ close ∧ c ≠ '\n' := by
    simpa using List.mem_takeWhile_imp hc
  have hstop := head?_dropWhile (fun c => c != close && c != '\n') cs
  have hsplit := List.takeWhile_append_dropWhile (p := fun c => c != close && c != '\n') (l := cs)
  unfold literal at h
  dsimp only at h
  split at h
  · next c cs' hd =>
    split_ifs at h with hc
    · cases h
    · obtain ⟨hf, rfl, rfl⟩ := Step.mk.inj h
      rw [hd] at hstop hsplit
      have hnewline : c = '\n' := by simpa [hc] using hstop c rfl
      exact ⟨(Except.error.inj hf).symm, _, rfl, hsplit.symm, fun hm => (hinside hm).1 rfl,
        fun hm => (hinside hm).2 rfl, by simp [hnewline]⟩
  · next hd =>
    obtain ⟨hf, rfl, rfl⟩ := Step.mk.inj h
    rw [hd] at hsplit
    exact ⟨(Except.error.inj hf).symm, _, rfl, hsplit.symm, fun hm => (hinside hm).1 rfl,
      fun hm => (hinside hm).2 rfl, by simp⟩

end Literals

/-- A word that is no token starts like a number; it is one outside of the range, or none. -/
theorem wordToken_eq_error {c : Char} {cs : List Char} {fault : Fault} (hc : c ≠ '+')
    (h : wordToken (c :: cs) = .error fault) :
    isLetter c = false ∧ c ≠ '_' ∧
      (fault = .integerRange ∧ (∃ n, Number.integer? (c :: cs) = some n ∧
          Number.inInt64 n = false) ∨
        fault = .unexpectedCharacter ∧ Number.integer? (c :: cs) = none) := by
  unfold wordToken at h
  dsimp only at h
  by_cases hletter : (isLetter c || c == '_') = true
  · rw [if_pos hletter] at h
    split_ifs at h
    split at h <;> cases h
  rw [if_neg hletter] at h
  simp only [Bool.or_eq_true, beq_iff_eq, not_or, Bool.not_eq_true] at hletter
  refine ⟨hletter.1, hletter.2, ?_⟩
  rw [← Number.isSome_integer?_cons, Number.readInteger?_eq (by simpa using hc)] at h
  cases hn : Number.integer? (c :: cs) with
  | none =>
    simp only [hn, Option.isSome_none, Bool.false_eq_true, if_false, Except.error.injEq] at h
    exact .inr ⟨h.symm, rfl⟩
  | some n =>
    simp only [hn, Option.isSome_some, if_true, Option.bind_some, Number.int64?] at h
    by_cases hrange : Number.inInt64 n = true
    · simp [hrange] at h
    · simp only [hrange, Bool.false_eq_true, if_false, Except.error.injEq] at h
      exact .inl ⟨h.symm, n, rfl, by simpa using hrange⟩

theorem word_eq_error {c : Char} {cs taken rest : List Char} {fault : Fault}
    (hc : isWordChar c = true) (h : word (c :: cs) = ⟨.error fault, taken, rest⟩) :
    c :: cs = taken ++ rest ∧ isLetter c = false ∧ c ≠ '_' ∧
      (fault = .integerRange ∧ (∀ c ∈ taken, isWordChar c = true) ∧
          (∀ c ∈ rest.head?, isWordChar c = false) ∧
          (∃ n, Number.integer? taken = some n ∧ Number.inInt64 n = false) ∨
        fault = .unexpectedCharacter ∧ taken = [] ∧
          Number.integer? ((c :: cs).takeWhile isWordChar) = none) := by
  have hplus : c ≠ '+' := by
    rintro rfl
    revert hc
    decide
  have hsplit := List.takeWhile_append_dropWhile (p := isWordChar) (l := c :: cs)
  have htake : (c :: cs).takeWhile isWordChar = c :: cs.takeWhile isWordChar :=
    List.takeWhile_cons_of_pos hc
  unfold word at h
  dsimp only at h
  split at h
  · cases h
  · next he =>
    obtain ⟨hf, rfl, rfl⟩ := Step.mk.inj h
    cases hf
    rw [htake] at he ⊢
    obtain ⟨hl, hu, ⟨hf, -⟩ | ⟨-, hn⟩⟩ := wordToken_eq_error hplus he
    · cases hf
    · exact ⟨rfl, hl, hu, .inr ⟨rfl, rfl, hn⟩⟩
  · next fault' hne he =>
    obtain ⟨hf, rfl, rfl⟩ := Step.mk.inj h
    cases hf
    rw [htake] at he
    obtain ⟨hl, hu, ⟨rfl, hn⟩ | ⟨rfl, -⟩⟩ := wordToken_eq_error hplus he
    · refine ⟨hsplit.symm, hl, hu, .inl ⟨rfl, fun c hm => List.mem_takeWhile_imp hm,
        head?_dropWhile isWordChar _, ?_⟩⟩
      rwa [htake]
    · exact absurd rfl hne

theorem step_eq_error {afterColon : Bool} {text taken rest : List Char} {fault : Fault}
    (ht : text ≠ []) (h : step afterColon text = ⟨.error fault, taken, rest⟩) :
    text = taken ++ rest ∧ Breaks afterColon fault taken rest := by
  unfold step at h
  split at h
  · next cs =>
    cases hs : splitComment cs with
    | some found => simp [hs] at h
    | none =>
      simp only [hs, Step.mk.injEq, Except.error.injEq] at h
      obtain ⟨rfl, rfl, rfl⟩ := h
      exact ⟨rfl, .comment (splitComment_eq_none hs)⟩
  · next cs hstar =>
    split_ifs at h with hc
    · obtain ⟨rfl, body, rfl, rfl, hclose, hline, hr⟩ := literal_eq_error h
      refine ⟨rfl, .pattern hc ?_ hclose hline hr⟩
      intro hs
      obtain ⟨body, rfl⟩ := List.head?_eq_some_iff.mp hs
      exact hstar _ rfl
    · cases h
  · obtain ⟨rfl, body, rfl, rfl, hclose, hline, hr⟩ := literal_eq_error h
    exact ⟨rfl, .string (.inl rfl) hclose hline hr⟩
  · obtain ⟨rfl, body, rfl, rfl, hclose, hline, hr⟩ := literal_eq_error h
    exact ⟨rfl, .string (.inr rfl) hclose hline hr⟩
  · cases h
  · cases h
  · cases h
  · next c cs _ hslash hquote hquotes hmarker _ _ =>
    by_cases hb : isBlank c = true
    · simp [hb] at h
    rw [if_neg hb] at h
    have hplain : c ∉ ['/', '\'', '"'] := by
      simp only [List.mem_cons, List.not_mem_nil, or_false, not_or]
      exact ⟨hslash, hquote, hquotes⟩
    have hmarker : ¬"*any text*".toList <+: c :: cs := by
      rintro ⟨more, hm⟩
      obtain ⟨rfl, rfl⟩ := List.cons.inj hm
      exact hmarker _ rfl rfl
    cases hp : punctuation? c with
    | some t => simp [hp, fixed] at h
    | none =>
      simp only [hp] at h
      split_ifs at h with hw
      · obtain ⟨htext, hl, hu, ⟨rfl, hcs, hr, n, hn, hrange⟩ | ⟨rfl, rfl, hn⟩⟩ :=
          word_eq_error hw h
        · exact ⟨htext, .integer hcs hr hn hrange⟩
        · rw [List.nil_append] at htext
          subst htext
          exact ⟨rfl, .character (by simpa using hb) ⟨hplain, hp⟩ hmarker fun _ => ⟨hl, hu, hn⟩⟩
      · cases h
        exact ⟨rfl, .character (by simpa using hb) ⟨hplain, hp⟩ hmarker fun h => absurd h hw⟩
  · exact absurd rfl ht

section Exact

variable {afterColon : Bool} {c : Char} {cs rest : List Char}

theorem splitComment_of_open (h : ¬['*', '/'] <:+: rest) : splitComment rest = none := by
  cases hs : splitComment rest with
  | none => rfl
  | some found =>
    obtain ⟨body, after⟩ := found
    obtain ⟨rfl, -⟩ := splitComment_eq_some hs
    exact absurd ⟨body, after, by simp⟩ h

theorem literal_of_open {first close : Char} {make : String → Token} {fault : Fault}
    {body : List Char} (hnewline : close ≠ '\n') (hclose : close ∉ body) (hline : '\n' ∉ body)
    (hr : ∀ c ∈ rest.head?, c = '\n') :
    literal first close make fault (body ++ rest) = ⟨.error fault, first :: body, rest⟩ := by
  have hinside : ∀ c ∈ body, (c != close && c != '\n') = true := by
    intro c hc
    have hne : c ≠ close ∧ c ≠ '\n' := ⟨fun h => hclose (h ▸ hc), fun h => hline (h ▸ hc)⟩
    simp [hne]
  have hstops : ∀ c ∈ rest.head?, (c != close && c != '\n') = false := by
    intro c hc
    simp [hr c hc]
  obtain ⟨htake, hdrop⟩ := takeWhile_dropWhile_append hinside hstops
  cases rest with
  | nil => simp only [literal, htake, hdrop]
  | cons d rest =>
    obtain rfl := hr d rfl
    simp only [literal, htake, hdrop, if_neg hnewline.symm]

theorem wordToken_of_number (hletter : isLetter c = false) (hunder : c ≠ '_') (hc : c ≠ '+') :
    wordToken (c :: cs) = (Number.integer? (c :: cs)).elim (.error .unexpectedCharacter) fun n =>
      if Number.inInt64 n then .ok (.integer n) else .error .integerRange := by
  rw [wordToken]
  dsimp only
  rw [hletter, ← Number.isSome_integer?_cons, Number.readInteger?_eq (by simpa using hc)]
  cases Number.integer? (c :: cs) with
  | none => simp [hunder]
  | some n =>
    by_cases hrange : Number.inInt64 n = true <;> simp [hunder, Number.int64?, hrange]

theorem plain_of_integer? {n : Int} (h : Number.integer? (c :: cs) = some n) :
    isLetter c = false ∧ c ≠ '_' ∧ c ≠ '+' := by
  have hdigits := Number.isSome_integer?_cons c cs
  rw [h, Option.isSome_some] at hdigits
  by_cases hc : c = '-'
  · subst hc
    decide
  · have hdigit : c.isDigit = true := by
      rw [if_neg hc, Number.isDigits, List.all_cons] at hdigits
      simp only [Bool.true_eq, Bool.and_eq_true] at hdigits
      exact hdigits.2.1
    simp only [Char.isDigit, ge_iff_le, Bool.and_eq_true, decide_eq_true_eq,
      UInt32.le_iff_toNat_le] at hdigit
    refine ⟨?_, ?_, ?_⟩
    · simp only [isLetter, Char.le_def, Bool.or_eq_false_iff, Bool.and_eq_false_iff,
        decide_eq_false_iff_not, UInt32.le_iff_toNat_le]
      simp at hdigit ⊢
      omega
    · rintro rfl
      simp at hdigit
    · rintro rfl
      simp at hdigit

theorem step_of_breaks {f : Fault} (h : Breaks afterColon f cs rest) :
    step afterColon (cs ++ rest) = ⟨.error f, cs, rest⟩ := by
  cases h with
  | comment hopen =>
    rw [List.cons_append, List.singleton_append, step, splitComment_of_open hopen]
  | @string quote body _ hq hclose hline hr =>
    rw [List.cons_append]
    rcases hq with rfl | rfl
    · rw [step, literal_of_open (by decide) hclose hline hr]
    · rw [step, literal_of_open (by decide) hclose hline hr]
  | @pattern body _ hc hs hclose hline hr =>
    rw [List.cons_append, step.eq_2, if_pos hc, literal_of_open (by decide) hclose hline hr]
    intro cs hcs
    cases body with
    | nil =>
      obtain rfl : rest = '*' :: cs := hcs
      exact absurd (hr '*' rfl) (by decide)
    | cons d body =>
      obtain ⟨rfl, -⟩ := List.cons.inj hcs
      exact hs rfl
  | @integer _ _ n hcs hr hn hrange =>
    cases cs with
    | nil => cases hn
    | cons c cs =>
      obtain ⟨hletter, hunder, hplus⟩ := plain_of_integer? hn
      obtain ⟨htake, hdrop⟩ := takeWhile_dropWhile_append hcs hr
      rw [List.cons_append] at htake hdrop ⊢
      rw [step_word (hcs c (by simp)), word, htake, hdrop,
        wordToken_of_number hletter hunder hplus, hn]
      simp [hrange]
  | @character c cs hblank hplain hmarker hword =>
    obtain ⟨hsigns, hpunctuation⟩ := hplain
    simp only [List.mem_cons, List.not_mem_nil, or_false, not_or] at hsigns
    have hne (d : Char) (hd : punctuation? d ≠ none) : c ≠ d := fun h => hd (h ▸ hpunctuation)
    rw [List.nil_append, step.eq_8 _ _ _ (fun _ h => absurd h hsigns.1) hsigns.1 hsigns.2.1
      hsigns.2.2 ?_ (fun _ h => absurd h (hne _ (by decide)))
      (fun _ h => absurd h (hne _ (by decide))), hblank, hpunctuation]
    · by_cases hw : isWordChar c = true
      · obtain ⟨hletter, hunder, hn⟩ := hword hw
        have hplus : c ≠ '+' := by
          rintro rfl
          revert hw
          decide
        have htake := List.takeWhile_cons_of_pos (l := cs) hw
        rw [htake] at hn
        simp [hw, word, htake, wordToken_of_number hletter hunder hplus, hn]
      · simp [hw]
    · rintro more rfl rfl
      exact hmarker ⟨more, rfl⟩

/-- The span of a fault starts where the fault does, and ends within the text that is taken and
skipped. -/
theorem Breaks.span_le {f : Fault} (h : Breaks afterColon f cs rest) (offset : Nat) :
    (faultSpan f offset (byteSize cs)).start = offset ∧
      offset < (faultSpan f offset (byteSize cs)).stop ∧
      (faultSpan f offset (byteSize cs)).stop ≤
        offset + byteSize cs + byteSize (rest.take 1) := by
  have htaken (hne : cs ≠ []) : offset < offset + byteSize cs ∧
      offset + byteSize cs ≤ offset + byteSize cs + byteSize (rest.take 1) := by
    have hpos := byteSize_pos hne
    omega
  cases h with
  | comment => exact ⟨rfl, htaken (by simp)⟩
  | string => exact ⟨rfl, htaken (by simp)⟩
  | pattern => exact ⟨rfl, htaken (by simp)⟩
  | integer _ _ hn =>
    refine ⟨rfl, htaken ?_⟩
    rintro rfl
    cases hn
  | @character c cs =>
    have hpos : 0 < byteSize ((c :: cs).take 1) := byteSize_pos (by simp)
    refine ⟨rfl, Nat.lt_succ_self offset, ?_⟩
    rw [Nat.add_assoc]
    exact Nat.add_le_add_left (hpos.trans_le (Nat.le_add_left ..)) offset

end Exact

/-- Where the scan of a text stands: at a byte offset, after a colon or not, before the rest of the
text. -/
structure Cursor where
  offset : Nat
  afterColon : Bool
  rest : List Char

namespace Cursor

def start (text : List Char) : Cursor := ⟨0, false, text⟩

/-- One turn of the loop. After a fault one more character is skipped. -/
def next (p : Cursor) : Cursor :=
  let s := step p.afterColon p.rest
  match s.found with
  | .ok l => ⟨p.offset + byteSize s.taken, l.leavesColon p.afterColon, s.rest⟩
  | .error _ =>
    ⟨p.offset + byteSize s.taken + byteSize (s.rest.take 1), p.afterColon, s.rest.drop 1⟩

def fault? (p : Cursor) : Option (Located Fault) :=
  let s := step p.afterColon p.rest
  match s.found with
  | .ok _ => none
  | .error fault => some ⟨fault, faultSpan fault p.offset (byteSize s.taken)⟩

def note (p : Cursor) (later : Scan) : Scan :=
  let s := step p.afterColon p.rest
  match s.found with
  | .ok l => l.place p.offset s.taken later
  | .error fault => later.addFault ⟨fault, faultSpan fault p.offset (byteSize s.taken)⟩

/-- A token, a comment or blanks start here. -/
def StartsLexeme (p : Cursor) : Prop :=
  ∃ l cs rest, p.rest = cs ++ rest ∧ Reads p.afterColon l cs rest

/-- A fault is told here. -/
def Tells (p : Cursor) (f : Located Fault) : Prop :=
  ∃ cs rest, p.rest = cs ++ rest ∧ Breaks p.afterColon f.value cs rest ∧
    f.span = faultSpan f.value p.offset (byteSize cs)

variable {p : Cursor}

theorem turn (h : p.rest ≠ []) :
    (∃ l cs rest, p.rest = cs ++ rest ∧ Reads p.afterColon l cs rest ∧
      step p.afterColon p.rest = ⟨.ok l, cs, rest⟩) ∨
    ∃ f cs rest, p.rest = cs ++ rest ∧ Breaks p.afterColon f cs rest ∧
      step p.afterColon p.rest = ⟨.error f, cs, rest⟩ := by
  rcases hs : step p.afterColon p.rest with ⟨f | l, cs, rest⟩
  · obtain ⟨ht, hb⟩ := step_eq_error h hs
    exact .inr ⟨f, cs, rest, ht, hb, rfl⟩
  · obtain ⟨ht, hr⟩ := step_eq_ok hs
    exact .inl ⟨l, cs, rest, ht, hr, rfl⟩

theorem StartsLexeme.fault?_eq (h : p.StartsLexeme) : p.fault? = none := by
  obtain ⟨l, cs, rest, ht, hr⟩ := h
  simp only [fault?, ht, step_of_reads hr]

theorem fault?_eq_some (h : p.rest ≠ []) {f : Located Fault} : p.fault? = some f ↔ p.Tells f := by
  constructor
  · intro hf
    rcases turn h with ⟨l, cs, rest, -, -, hs⟩ | ⟨fault, cs, rest, ht, hb, hs⟩
    · simp [fault?, hs] at hf
    · simp only [fault?, hs, Option.some.injEq] at hf
      subst hf
      exact ⟨cs, rest, ht, hb, rfl⟩
  · rintro ⟨cs, rest, ht, hb, hspan⟩
    simp only [fault?, ht, step_of_breaks hb, ← hspan]

theorem not_startsLexeme_iff (h : p.rest ≠ []) : ¬p.StartsLexeme ↔ ∃ f, p.Tells f := by
  constructor
  · intro hn
    rcases turn h with ⟨l, cs, rest, ht, hr, -⟩ | ⟨f, cs, rest, ht, hb, -⟩
    · exact absurd ⟨l, cs, rest, ht, hr⟩ hn
    · exact ⟨⟨f, faultSpan f p.offset (byteSize cs)⟩, cs, rest, ht, hb, rfl⟩
  · rintro ⟨f, hf⟩ hl
    rw [← fault?_eq_some h, hl.fault?_eq] at hf
    cases hf

theorem next_progress (h : p.rest ≠ []) :
    ∃ taken, taken ≠ [] ∧ p.rest = taken ++ p.next.rest ∧
      p.next.offset = p.offset + byteSize taken := by
  rcases turn h with ⟨l, cs, rest, ht, hr, hs⟩ | ⟨f, cs, rest, ht, -, hs⟩
  · refine ⟨cs, hr.ne_nil, ?_, ?_⟩ <;> simp only [next, hs]
    exact ht
  · refine ⟨cs ++ rest.take 1, ?_, ?_, ?_⟩
    · rintro hnil
      obtain ⟨rfl, hrest⟩ := List.append_eq_nil_iff.mp hnil
      cases rest with
      | nil => exact h ht
      | cons c rest => cases hrest
    · simp only [next, hs]
      rw [List.append_assoc, List.take_append_drop, ht]
    · simp only [next, hs, byteSize_append, Nat.add_assoc]

theorem length_next_lt (h : p.rest ≠ []) : p.next.rest.length < p.rest.length := by
  obtain ⟨taken, hne, ht, -⟩ := next_progress h
  have hpos := List.length_pos_iff.mpr hne
  rw [ht, List.length_append]
  omega

theorem Tells.span_le {f : Located Fault} (hf : p.Tells f) :
    f.span.start = p.offset ∧ p.offset < f.span.stop ∧ f.span.stop ≤ p.next.offset := by
  obtain ⟨cs, rest, ht, hb, hspan⟩ := hf
  have hnext : p.next.offset = p.offset + byteSize cs + byteSize (rest.take 1) := by
    simp only [next, ht, step_of_breaks hb]
  rw [hspan, hnext]
  exact hb.span_le p.offset

def visited (p : Cursor) : List Cursor :=
  if _h : p.rest = [] then [] else p :: p.next.visited
termination_by p.rest.length
decreasing_by exact length_next_lt _h

/-- With fuel for every character the scan makes all its turns. -/
theorem scanAux_eq (p : Cursor) {fuel : Nat} (hf : p.rest.length ≤ fuel) :
    scanAux fuel p.offset p.afterColon p.rest = p.visited.foldr note .empty := by
  induction fuel generalizing p with
  | zero =>
    have hnil : p.rest = [] := List.length_eq_zero_iff.mp (by omega)
    rw [visited, dif_pos hnil]
    rfl
  | succ fuel ih =>
    by_cases hnil : p.rest = []
    · rw [visited, dif_pos hnil, hnil]
      rfl
    · have hlt := length_next_lt hnil
      rw [visited, dif_neg hnil, List.foldr_cons, ← ih p.next (by omega)]
      obtain ⟨offset, afterColon, _ | ⟨c, cs⟩⟩ := p
      · exact absurd rfl hnil
      · simp only [scanAux, note, next]
        rcases step afterColon (c :: cs) with ⟨fault | (t | body | _), taken, rest⟩ <;> rfl

theorem visited_of_ne (h : p.rest ≠ []) : p.visited = p :: p.next.visited := by
  rw [visited, dif_neg h]

theorem rest_ne_of_mem_visited {q : Cursor} (h : q ∈ p.visited) : q.rest ≠ [] := by
  induction p using visited.induct with
  | case1 p hnil =>
    rw [visited, dif_pos hnil] at h
    cases h
  | case2 p hne ih =>
    rw [visited_of_ne hne] at h
    rcases List.mem_cons.mp h with rfl | h
    · exact hne
    · exact ih h

theorem visited_offsets (p : Cursor) :
    (∀ q ∈ p.visited, p.offset ≤ q.offset ∧ q.next.offset ≤ p.offset + byteSize p.rest) ∧
      p.visited.Pairwise fun q r => q.next.offset ≤ r.offset := by
  induction p using visited.induct with
  | case1 p hnil =>
    rw [visited, dif_pos hnil]
    exact ⟨by simp, .nil⟩
  | case2 p hne ih =>
    obtain ⟨taken, -, hrest, hoffset⟩ := next_progress hne
    obtain ⟨hbounds, hpairs⟩ := ih
    have hsize : p.next.offset + byteSize p.next.rest = p.offset + byteSize p.rest := by
      rw [hrest, byteSize_append, hoffset, Nat.add_assoc]
    rw [visited_of_ne hne]
    refine ⟨List.forall_mem_cons.mpr ⟨⟨le_rfl, by omega⟩, fun q hq => ?_⟩,
      .cons (fun q hq => (hbounds q hq).1) hpairs⟩
    have hq := hbounds q hq
    omega

theorem exists_before_of_mem_visited (before : List Char) (hb : byteSize before = p.offset)
    {q : Cursor} (h : q ∈ p.visited) :
    ∃ skipped, before ++ p.rest = skipped ++ q.rest ∧ byteSize skipped = q.offset := by
  induction p using visited.induct generalizing before with
  | case1 p hnil =>
    rw [visited, dif_pos hnil] at h
    cases h
  | case2 p hne ih =>
    rw [visited_of_ne hne] at h
    rcases List.mem_cons.mp h with rfl | h
    · exact ⟨before, rfl, hb⟩
    · obtain ⟨taken, -, hrest, hoffset⟩ := next_progress hne
      rw [hrest, ← List.append_assoc]
      exact ih _ (by rw [byteSize_append, hb, hoffset]) h

theorem foldr_note_faults (ps : List Cursor) :
    (ps.foldr note .empty).faults = ps.filterMap fault? := by
  induction ps with
  | nil => rfl
  | cons p ps ih =>
    rw [List.foldr_cons, List.filterMap_cons, ← ih, note, fault?]
    rcases step p.afterColon p.rest with ⟨fault | l, taken, rest⟩
    · rfl
    · exact Lexeme.place_faults ..

theorem exists_turns (p : Cursor) : ∃ turns ≤ p.rest.length, (next^[turns] p).rest = [] := by
  induction p using visited.induct with
  | case1 p hnil => exact ⟨0, Nat.zero_le _, hnil⟩
  | case2 p hne ih =>
    obtain ⟨turns, hle, hend⟩ := ih
    have hlt := length_next_lt hne
    exact ⟨turns + 1, by omega, by rwa [Function.iterate_succ_apply]⟩

end Cursor

open Cursor

theorem scan_faults_eq (text : List Char) :
    (scan text).faults = (start text).visited.filterMap fault? := by
  have hscan : scan text = (start text).visited.foldr note .empty :=
    scanAux_eq (start text) (Nat.le_refl _)
  rw [hscan, foldr_note_faults]

theorem mem_scan_faults {text : List Char} {f : Located Fault} :
    f ∈ (scan text).faults ↔ ∃ p ∈ (start text).visited, p.Tells f := by
  rw [scan_faults_eq, List.mem_filterMap]
  refine exists_congr fun p => and_congr_right fun hp => ?_
  exact fault?_eq_some (rest_ne_of_mem_visited hp)

theorem scan_faults_pairwise (text : List Char) :
    (scan text).faults.Pairwise fun f g => f.span.stop ≤ g.span.start := by
  rw [scan_faults_eq]
  rw [List.pairwise_filterMap]
  refine (visited_offsets (start text)).2.imp_of_mem fun {p q} hp hq hle f hf g hg => ?_
  have hf := ((fault?_eq_some (rest_ne_of_mem_visited hp)).mp hf).span_le
  have hg := ((fault?_eq_some (rest_ne_of_mem_visited hq)).mp hg).span_le
  omega

theorem span_of_mem_scan_faults {text : List Char} {f : Located Fault}
    (h : f ∈ (scan text).faults) :
    f.span.start < f.span.stop ∧ f.span.stop ≤ byteSize text := by
  obtain ⟨p, hp, hf⟩ := mem_scan_faults.mp h
  have hspan := hf.span_le
  have hbound := ((visited_offsets (start text)).1 p hp).2
  simp only [start] at hbound
  omega

end Token

open Token Cursor

theorem tokenize_eq_error {source : String} {faults : List (Located Fault)} :
    tokenize source = .error faults ↔ (scan source.toList).faults = faults ∧ faults ≠ [] := by
  unfold tokenize
  dsimp only
  split_ifs with h
  · simp only [List.isEmpty_iff] at h
    simp only [h, false_iff, not_and, not_not]
    exact Eq.symm
  · simp only [List.isEmpty_iff] at h
    simp only [Except.error.injEq, iff_self_and]
    rintro rfl
    exact h

theorem tokenize_error_of_scan {source : String} {text : List Char} (hs : source.toList = text)
    (h : (scan text).faults ≠ []) : tokenize source = .error (scan text).faults := by
  rw [tokenize_eq_error, hs]
  exact ⟨rfl, h⟩

/-- Every turn of the scan of a text takes at least one character, so that the scan ends. Its faults
are told in the order of their places, each at a part of the text of its own. A text is refused
exactly if some turn stands where no token, comment or blank starts, and there it finds a comment, a
string or a pattern without its end, an integer out of range, or another character. -/
theorem tokenize_faults_ordered (source : String) :
    (∀ p : Cursor, p.rest ≠ [] → ∃ taken, taken ≠ [] ∧ p.rest = taken ++ p.next.rest ∧
      p.next.offset = p.offset + byteSize taken) ∧
    (∃ turns ≤ source.toList.length, (next^[turns] (start source.toList)).rest = []) ∧
    scan source.toList = (start source.toList).visited.foldr note .empty ∧
    (∀ faults, tokenize source = .error faults →
      (faults.map Fault.diagnostic).Pairwise (fun d e => ∃ s t, d.primarySpan = some s ∧
        e.primarySpan = some t ∧ s.start < t.start ∧ s.stop ≤ t.start) ∧
      (∀ d ∈ faults.map Fault.diagnostic, ∃ s, d.labels.map (·.span) = [s] ∧
        s.start < s.stop ∧ s.stop ≤ byteSize source.toList) ∧
      ∀ f, f ∈ faults ↔ ∃ p ∈ (start source.toList).visited, p.Tells f) ∧
    ((∃ faults, tokenize source = .error faults) ↔
      ∃ p ∈ (start source.toList).visited, ¬p.StartsLexeme) ∧
    ∀ p ∈ (start source.toList).visited, ¬p.StartsLexeme ↔
      ∃ f cs rest, p.rest = cs ++ rest ∧ Breaks p.afterColon f cs rest := by
  have hfault (p : Cursor) (hp : p ∈ (start source.toList).visited) :
      ¬p.StartsLexeme ↔ ∃ f, p.Tells f := not_startsLexeme_iff (rest_ne_of_mem_visited hp)
  refine ⟨fun p => next_progress, exists_turns (start _), scanAux_eq (start _) (Nat.le_refl _),
    ?_, ?_, ?_⟩
  · intro faults h
    obtain ⟨rfl, -⟩ := tokenize_eq_error.mp h
    refine ⟨?_, ?_, fun f => mem_scan_faults⟩
    · rw [List.pairwise_map]
      refine (scan_faults_pairwise source.toList).imp_of_mem fun {f g} hf hg hle => ?_
      have hspan := (span_of_mem_scan_faults hf).1
      exact ⟨f.span, g.span, rfl, rfl, by omega, hle⟩
    · intro d hd
      obtain ⟨f, hf, rfl⟩ := List.mem_map.mp hd
      exact ⟨f.span, rfl, span_of_mem_scan_faults hf⟩
  · constructor
    · rintro ⟨faults, h⟩
      obtain ⟨rfl, hne⟩ := tokenize_eq_error.mp h
      obtain ⟨f, hf⟩ := List.exists_mem_of_ne_nil _ hne
      obtain ⟨p, hp, htold⟩ := mem_scan_faults.mp hf
      exact ⟨p, hp, (hfault p hp).mpr ⟨f, htold⟩⟩
    · rintro ⟨p, hp, hn⟩
      obtain ⟨f, hf⟩ := (hfault p hp).mp hn
      have hmem : f ∈ (scan source.toList).faults := mem_scan_faults.mpr ⟨p, hp, hf⟩
      exact ⟨_, tokenize_eq_error.mpr ⟨rfl, List.ne_nil_of_mem hmem⟩⟩
  · intro p hp
    rw [hfault p hp]
    constructor
    · rintro ⟨f, cs, rest, ht, hb, -⟩
      exact ⟨f.value, cs, rest, ht, hb⟩
    · rintro ⟨f, cs, rest, ht, hb⟩
      exact ⟨⟨f, faultSpan f p.offset (byteSize cs)⟩, cs, rest, ht, hb, rfl⟩

/-- A text with a fault of each kind: a character of two bytes, a string and a pattern that go to
the end of their lines, an integer that is too large and a comment that is not closed. -/
def faultySource : String := "ü '/*\n:/a\n9999999999999999999 /*x"

theorem tokenize_faults_ordered_faulty :
    ∃ faults, tokenize faultySource = .error faults ∧
      faults.map (·.value) = [.unexpectedCharacter, .unterminatedString, .unterminatedPattern,
        .integerRange, .unterminatedComment] ∧
      (faults.map Fault.diagnostic).Pairwise (fun d e => ∃ s t, d.primarySpan = some s ∧
        e.primarySpan = some t ∧ s.start < t.start ∧ s.stop ≤ t.start) ∧
      ∃ p ∈ (start faultySource.toList).visited, ¬p.StartsLexeme := by
  have herror := tokenize_error_of_scan (String.toList_ofList : faultySource.toList = _)
    (by decide)
  obtain ⟨-, -, -, hordered, hrefused, -⟩ := tokenize_faults_ordered faultySource
  exact ⟨_, herror, by decide, (hordered _ herror).1, hrefused.mp ⟨_, herror⟩⟩

end DocSchema
