import DocSchema.Proofs.Token.Partition

/-!
# Comments between tokens

A comment that is inserted between the tokens and comments of a text is read as one comment, and
everything around it as before. Right after it the last token is still that before it, so a pattern
can follow a colon and a comment.
-/
namespace DocSchema

/-- Whether a place is not strictly inside of a token or a comment. -/
def Lexed.Between (lexed : Lexed) (place : Nat) : Prop :=
  (∀ t ∈ lexed.tokens, place ≤ t.span.start ∨ t.span.stop ≤ place) ∧
  ∀ c ∈ lexed.comments,
    place ≤ (Token.Piece.comment c).span.start ∨ (Token.Piece.comment c).span.stop ≤ place

instance (lexed : Lexed) (place : Nat) : Decidable (lexed.Between place) :=
  inferInstanceAs (Decidable (_ ∧ _))

namespace Token

def Lexeme.token? : Lexeme → Option Token
  | .token t => some t
  | .comment _ => none
  | .blank => none

def tokensOf (ls : List (Lexeme × List Char)) : List Token := ls.filterMap (·.1.token?)

theorem map_value_placed (offset : Nat) (ls : List (Lexeme × List Char)) :
    (placed offset ls).tokens.map (·.value) = tokensOf ls := by
  induction ls generalizing offset with
  | nil => rfl
  | cons first ls ih =>
    obtain ⟨l, cs⟩ := first
    cases l with
    | token t => exact congrArg (t :: ·) (ih _)
    | comment body => exact ih _
    | blank => exact ih _

def Scan.lexed (s : Scan) : Lexed := ⟨s.tokens, s.comments⟩

section Between

variable {offset place : Nat} {l : Lexeme} {cs : List Char} {s : Scan}

theorem between_of_place (h : (l.place offset cs s).lexed.Between place) :
    s.lexed.Between place := by
  cases l with
  | token t => exact ⟨fun u hu => h.1 u (List.mem_cons_of_mem _ hu), h.2⟩
  | comment body => exact ⟨h.1, fun c hc => h.2 c (List.mem_cons_of_mem _ hc)⟩
  | blank => exact h

/-- A place inside of what a lexeme takes is inside of a blank. -/
theorem eq_blank_of_between {afterColon : Bool} {rest : List Char}
    (hr : Reads afterColon l cs rest) (h : (l.place offset cs s).lexed.Between place)
    (hstart : offset < place) (hstop : place < offset + byteSize cs) : l = .blank := by
  cases l with
  | blank => rfl
  | token t =>
    have ht := h.1 _ List.mem_cons_self
    dsimp only at ht
    omega
  | comment body =>
    have hc := h.2 _ List.mem_cons_self
    rw [Pieces.span_comment hr.readFrom] at hc
    dsimp only at hc
    omega

end Between

theorem tokensOf_cons {ls ls' : List (Lexeme × List Char)} (l : Lexeme × List Char)
    (h : tokensOf ls' = tokensOf ls) : tokensOf (l :: ls') = tokensOf (l :: ls) := by
  simp only [tokensOf, List.filterMap_cons] at h ⊢
  rw [h]

/-- A comment can be inserted before a text, between two lexemes and inside of blanks. -/
theorem Lexes.insert {afterColon : Bool} {text before after body : List Char}
    {ls : List (Lexeme × List Char)} {offset : Nat} (h : Lexes afterColon text ls)
    (ht : text = before ++ after) (hb : ¬['*', '/'] <:+: body)
    (hp : (placed offset ls).lexed.Between (offset + byteSize before)) :
    ∃ ls', Lexes afterColon (before ++ (commented body ++ after)) ls' ∧
      tokensOf ls' = tokensOf ls := by
  induction h generalizing before offset with
  | nil afterColon =>
    obtain ⟨rfl, rfl⟩ := List.append_eq_nil_iff.mp ht.symm
    exact ⟨[(.comment body, commented body)], .cons (.comment hb []) (.nil _), rfl⟩
  | @cons afterColon l cs rest ls first others ih =>
    have hbehind (skipped : List Char) (hs : before = cs ++ skipped)
        (hr : rest = skipped ++ after) :
        ∃ ls', Lexes afterColon (before ++ (commented body ++ after)) ls' ∧
          tokensOf ls' = tokensOf ((l, cs) :: ls) := by
      rw [hs, byteSize_append, ← Nat.add_assoc] at hp
      obtain ⟨ls', hls, htokens⟩ := ih hr (between_of_place hp)
      have hfirst : Reads afterColon l cs (skipped ++ (commented body ++ after)) := by
        rw [hr] at first
        refine first.before ?_
        cases skipped with
        | nil => exact .inr rfl
        | cons c skipped => exact .inl rfl
      refine ⟨(l, cs) :: ls', ?_, tokensOf_cons _ htokens⟩
      rw [hs, List.append_assoc]
      exact .cons hfirst hls
    rcases List.append_eq_append_iff.mp ht with ⟨skipped, hs, hr⟩ | ⟨more, hc, ha⟩
    · exact hbehind skipped hs hr
    by_cases hmore : more = []
    · subst hmore
      exact hbehind [] (by simp [hc]) (by simp [ha])
    by_cases hbefore : before = []
    · subst hbefore
      refine ⟨(.comment body, commented body) :: (l, cs) :: ls, ?_, rfl⟩
      rw [List.nil_append, ← List.nil_append after, ← ht]
      exact .cons (.comment hb _) (.cons first others)
    · -- only blanks go on behind the place, and the comment cuts them in two
      have hpos := byteSize_pos hbefore
      have hpos' := byteSize_pos hmore
      obtain rfl : l = .blank := by
        refine eq_blank_of_between first hp (by omega) ?_
        rw [hc, byteSize_append]
        omega
      cases first with
      | blank hcs hblank hstop =>
        subst hc ha
        rw [List.forall_mem_append] at hblank
        refine ⟨(.blank, before) :: (.comment body, commented body) :: (.blank, more) :: ls, ?_,
          rfl⟩
        refine .cons (.blank hbefore hblank.1 ?_) (.cons (.comment hb _) ?_)
        · simp [commented, isBlank]
        · exact .cons (.blank hmore hblank.2 hstop) others

end Token

open Token

theorem tokenize_insert {before after body : String} {lexed : Lexed}
    (h : tokenize (before ++ after) = .ok lexed)
    (hp : lexed.Between (byteSize before.toList)) (hb : ¬['*', '/'] <:+: body.toList) :
    ∃ lexed', tokenize (before ++ "/*" ++ body ++ "*/" ++ after) = .ok lexed' ∧
      lexed'.tokens.map (·.value) = lexed.tokens.map (·.value) := by
  obtain ⟨hfaults, htokens, hcomments⟩ := tokenize_eq_ok h
  obtain ⟨ls, hls⟩ := exists_lexes le_rfl hfaults
  have hscan : scan (before ++ after).toList = placed 0 ls := hls.scanAux_eq le_rfl 0
  have hbetween : (placed 0 ls).lexed.Between (0 + byteSize before.toList) := by
    rw [Nat.zero_add, Scan.lexed, ← hscan, ← htokens, ← hcomments]
    exact hp
  obtain ⟨ls', hls', hsame⟩ := hls.insert String.toList_append hb hbetween
  have htext : (before ++ "/*" ++ body ++ "*/" ++ after).toList =
      before.toList ++ (commented body.toList ++ after.toList) := by simp [commented]
  have hscan' : scan (before ++ "/*" ++ body ++ "*/" ++ after).toList = placed 0 ls' := by
    rw [htext]
    exact hls'.scanAux_eq le_rfl 0
  refine ⟨_, tokenize_of_scan rfl (by rw [hscan', placed_faults]), ?_⟩
  dsimp only
  rw [htokens, hscan, hscan', map_value_placed, map_value_placed, hsame]

end DocSchema
