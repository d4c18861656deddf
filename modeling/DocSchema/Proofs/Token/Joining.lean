import DocSchema.Proofs.Token.Printing

/-!
# Texts one behind the other

A text that starts with a blank can stand behind any other: no lexeme goes on across the seam,
except that blanks on both sides of it are read as one. What a slash means there is decided by the
last token before the seam. The tokens and comments of the text behind are found further on by the
size of the text before it.
-/
namespace DocSchema

def Span.shift (n : Nat) (s : Span) : Span := ⟨s.start + n, s.stop + n⟩

def Located.shift {α : Type} (n : Nat) (x : Located α) : Located α := ⟨x.value, x.span.shift n⟩

def Lexed.shift (n : Nat) (lexed : Lexed) : Lexed :=
  ⟨lexed.tokens.map (Located.shift n), lexed.comments.map (Located.shift n)⟩

def Lexed.append (lexed lexed' : Lexed) : Lexed :=
  ⟨lexed.tokens ++ lexed'.tokens, lexed.comments ++ lexed'.comments⟩

namespace Token

section Placed

variable {offset : Nat} {l : Lexeme} {cs : List Char} {s s' : Scan} {lexed : Lexed}

theorem lexed_place_append (h : s.lexed = s'.lexed.append lexed) :
    (l.place offset cs s).lexed = (l.place offset cs s').lexed.append lexed := by
  obtain ⟨htokens, hcomments⟩ := Lexed.mk.inj h
  cases l <;> simp [Lexeme.place, Scan.lexed, Scan.addToken, Scan.addComment, Lexed.append, htokens,
    hcomments]

theorem lexed_place_shift {n : Nat} (h : s.lexed = s'.lexed.shift n) :
    (l.place (offset + n) cs s).lexed = (l.place offset cs s').lexed.shift n := by
  obtain ⟨htokens, hcomments⟩ := Lexed.mk.inj h
  cases l <;> simp [Lexeme.place, Scan.lexed, Scan.addToken, Scan.addComment, Lexed.shift,
    Located.shift, Span.shift, htokens, hcomments] <;> omega

theorem lexed_placed_shift (n offset : Nat) (ls : List (Lexeme × List Char)) :
    (placed (offset + n) ls).lexed = (placed offset ls).lexed.shift n := by
  induction ls generalizing offset with
  | nil => rfl
  | cons first ls ih =>
    have hrest := ih (offset + byteSize first.2)
    rw [Nat.add_right_comm] at hrest
    exact lexed_place_shift hrest

end Placed

def colonAfter (afterColon : Bool) (ls : List (Lexeme × List Char)) : Bool :=
  ls.foldl (fun afterColon l => l.1.leavesColon afterColon) afterColon

theorem colonAfter_eq (afterColon : Bool) (ls : List (Lexeme × List Char)) :
    colonAfter afterColon ls = ((tokensOf ls).getLast?.map (· == .colon)).getD afterColon := by
  induction ls generalizing afterColon with
  | nil => rfl
  | cons first ls ih =>
    obtain ⟨l, cs⟩ := first
    have hrest : colonAfter afterColon ((l, cs) :: ls) =
        colonAfter (l.leavesColon afterColon) ls := rfl
    rw [hrest, ih]
    cases l with
    | token t =>
      have htokens : tokensOf ((.token t, cs) :: ls) = t :: tokensOf ls := rfl
      rw [htokens, List.getLast?_cons]
      cases (tokensOf ls).getLast? <;> rfl
    | comment body => rfl
    | blank => rfl

section Seam

variable {afterColon : Bool} {text text' : List Char} {ls ls' : List (Lexeme × List Char)}

theorem Lexes.indent (h : Lexes afterColon text ls) {cs : List Char}
    (hcs : ∀ c ∈ cs, isBlank c = true) :
    ∃ ls', Lexes afterColon (cs ++ text) ls' ∧
      ∀ offset, placed offset ls' = placed (offset + byteSize cs) ls := by
  by_cases hne : cs = []
  · subst hne
    exact ⟨ls, h, fun offset => rfl⟩
  cases h with
  | nil =>
    exact ⟨[(.blank, cs)], .cons (.blank hne hcs (by simp)) (.nil _), fun offset => rfl⟩
  | @cons _ l taken rest ls first others =>
    by_cases hl : l = .blank
    · -- the blanks on both sides are one lexeme
      subst hl
      cases first with
      | blank _ hb hr =>
        refine ⟨(.blank, cs ++ taken) :: ls, ?_, fun offset => ?_⟩
        · rw [← List.append_assoc]
          exact .cons (.blank (by simp [hne]) (List.forall_mem_append.mpr ⟨hcs, hb⟩) hr) others
        · simp [placed, Lexeme.place, Nat.add_assoc]
    · refine ⟨(.blank, cs) :: (l, taken) :: ls, ?_, fun offset => rfl⟩
      refine .cons (.blank hne hcs fun c hc => ?_) (.cons first others)
      rw [List.head?_append_of_ne_nil _ first.ne_nil] at hc
      exact first.head?_of_ne_blank hl c hc

/-- The lexemes of a text are followed by those of a text that is apart from it. -/
theorem Lexes.append (h : Lexes afterColon text ls) (ha : Apart text')
    (h' : Lexes (colonAfter afterColon ls) text' ls') :
    ∃ joined, Lexes afterColon (text ++ text') joined ∧ ∀ offset, (placed offset joined).lexed =
      (placed offset ls).lexed.append (placed (offset + byteSize text) ls').lexed := by
  induction h with
  | nil => exact ⟨ls', h', fun offset => rfl⟩
  | @cons afterColon l cs rest ls first others ih =>
    obtain ⟨joined, hjoined, hplaced⟩ := ih h'
    rw [List.append_assoc, byteSize_append]
    by_cases hl : l = .blank
    · -- blanks at the end of the first text go on in the second
      subst hl
      cases first with
      | blank _ hb _ =>
        obtain ⟨indented, hindented, hmoved⟩ := hjoined.indent hb
        refine ⟨indented, hindented, fun offset => ?_⟩
        rw [hmoved, hplaced, ← Nat.add_assoc]
        rfl
    · have hfirst : Reads afterColon l cs (rest ++ text') := by
        by_cases hrest : rest = []
        · subst hrest
          exact first.before_apart hl ha
        · exact first.before (.inl (List.head?_append_of_ne_nil _ hrest))
      refine ⟨(l, cs) :: joined, .cons hfirst hjoined, fun offset => ?_⟩
      rw [← Nat.add_assoc]
      exact lexed_place_append (hplaced _)

end Seam

end Token

open Token

/-- Two texts with a line break between, the first of which does not end with a colon. -/
theorem tokenize_append {first second : String} {lexed lexed' : Lexed}
    (h : tokenize first = .ok lexed) (h' : tokenize second = .ok lexed')
    (hcolon : ∀ t ∈ lexed.tokens.getLast?, t.value ≠ .colon) :
    tokenize (first ++ "\n" ++ second) =
      .ok (lexed.append (lexed'.shift (byteSize first.toList + 1))) := by
  obtain ⟨hfaults, htokens, hcomments⟩ := tokenize_eq_ok h
  obtain ⟨hfaults', htokens', hcomments'⟩ := tokenize_eq_ok h'
  obtain ⟨ls, hls⟩ := exists_lexes le_rfl hfaults
  obtain ⟨ls', hls'⟩ := exists_lexes le_rfl hfaults'
  have hlexed : lexed = (placed 0 ls).lexed := by
    rw [← hls.scanAux_eq le_rfl 0]
    exact congrArg₂ Lexed.mk htokens hcomments
  have hlexed' : lexed' = (placed 0 ls').lexed := by
    rw [← hls'.scanAux_eq le_rfl 0]
    exact congrArg₂ Lexed.mk htokens' hcomments'
  have hseam : colonAfter false ls = false := by
    rw [colonAfter_eq, ← map_value_placed 0 ls, List.getLast?_map]
    have hlast : lexed.tokens = (placed 0 ls).tokens := by rw [hlexed]; rfl
    rw [← hlast]
    cases ht : lexed.tokens.getLast? with
    | none => rfl
    | some t => simpa using hcolon t ht
  have hbreak : ∀ c ∈ ['\n'], isBlank c = true := by simp [isBlank]
  obtain ⟨indented, hindented, hmoved⟩ := hls'.indent hbreak
  have hapart : Apart (['\n'] ++ second.toList) := by simp [Apart, isBlank]
  obtain ⟨joined, hjoined, hplaced⟩ := hls.append hapart (hseam ▸ hindented)
  have htext : (first ++ "\n" ++ second).toList = first.toList ++ (['\n'] ++ second.toList) := by
    simp
  have hscan : scan (first ++ "\n" ++ second).toList = placed 0 joined := by
    rw [htext]
    exact hjoined.scanAux_eq le_rfl 0
  have hsize : byteSize ['\n'] = 1 := rfl
  rw [tokenize_of_scan rfl (by rw [hscan, placed_faults]), hscan]
  refine congrArg Except.ok ((hplaced 0).trans ?_)
  rw [hmoved, hsize, Nat.add_assoc, lexed_placed_shift, ← hlexed, ← hlexed']

end DocSchema
