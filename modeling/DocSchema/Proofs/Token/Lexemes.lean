import DocSchema.Proofs.Result
import DocSchema.Token.Lexer

/-!
# The lexemes of a text

A step reads a lexeme by the text that it takes, a colon before it and the character after it. A
scan without faults is a row of such steps.
-/
namespace DocSchema.Token

section Comments

def commented (body : List Char) : List Char := '/' :: '*' :: body ++ ['*', '/']

theorem splitComment_eq_some {cs body rest : List Char}
    (h : splitComment cs = some (body, rest)) :
    cs = body ++ '*' :: '/' :: rest ∧ ¬['*', '/'] <:+: body := by
  fun_induction splitComment cs generalizing body with
  | case1 => cases h
  | case2 cs =>
    cases h
    exact ⟨rfl, by simp⟩
  | case3 c cs hc ih =>
    simp only [Option.map_eq_some_iff, Prod.mk.injEq, Prod.exists] at h
    obtain ⟨body, _, hs, rfl, rfl⟩ := h
    obtain ⟨rfl, hn⟩ := ih hs
    refine ⟨rfl, fun hi => ?_⟩
    rcases List.infix_cons_iff.mp hi with ⟨tail, ht⟩ | hi
    · simp only [List.cons_append, List.nil_append, List.cons.injEq] at ht
      obtain ⟨rfl, rfl⟩ := ht
      exact hc _ rfl rfl
    · exact hn hi

theorem splitComment_append {body : List Char} (hb : ¬['*', '/'] <:+: body) (rest : List Char) :
    splitComment (body ++ '*' :: '/' :: rest) = some (body, rest) := by
  induction body with
  | nil => rfl
  | cons c body ih =>
    rw [List.infix_cons_iff, not_or] at hb
    have hfirst : ∀ cs, c = '*' → body ++ '*' :: '/' :: rest = '/' :: cs → False := by
      rintro cs rfl hcs
      cases body with
      | nil => cases hcs
      | cons d body =>
        obtain ⟨rfl, -⟩ := List.cons.inj hcs
        exact hb.1 ⟨body, rfl⟩
    rw [List.cons_append, splitComment.eq_3 _ _ hfirst, ih hb.2]
    rfl

end Comments

section Literals

variable {first close : Char} {make : String → Token} {fault : Fault}

theorem literal_eq_ok {cs taken rest : List Char} {l : Lexeme}
    (h : literal first close make fault cs = ⟨.ok l, taken, rest⟩) :
    ∃ body, l = .token (make (String.ofList body)) ∧ close ∉ body ∧ '\n' ∉ body ∧
      taken = first :: body ++ [close] ∧ cs = body ++ close :: rest := by
  have hinside {c : Char} (hc : c ∈ cs.takeWhile fun c => c != close && c != '\n') :
      c ≠ close ∧ c ≠ '\n' := by
    simpa using List.mem_takeWhile_imp hc
  unfold literal at h
  dsimp only at h
  split at h
  · next c cs' hd =>
    split_ifs at h with hc
    · subst hc
      obtain ⟨hl, rfl, rfl⟩ := Step.mk.inj h
      refine ⟨_, (Except.ok.inj hl).symm, fun hm => (hinside hm).1 rfl,
        fun hm => (hinside hm).2 rfl, rfl, ?_⟩
      rw [← hd, List.takeWhile_append_dropWhile]
    · cases h
  · cases h

theorem literal_append {body : List Char} (hclose : close ∉ body) (hline : '\n' ∉ body)
    (rest : List Char) :
    literal first close make fault (body ++ close :: rest) =
      ⟨.ok (.token (make (String.ofList body))), first :: body ++ [close], rest⟩ := by
  have hinside : ∀ c ∈ body, (c != close && c != '\n') = true := by
    intro c hc
    have hne : c ≠ close ∧ c ≠ '\n' := ⟨fun h => hclose (h ▸ hc), fun h => hline (h ▸ hc)⟩
    simp [hne]
  have hstops : ∀ c ∈ (close :: rest).head?, (c != close && c != '\n') = false := by simp
  obtain ⟨htake, hdrop⟩ := takeWhile_dropWhile_append hinside hstops
  simp only [literal, htake, hdrop, if_true]

end Literals

section Words

theorem word_eq_ok {cs taken rest : List Char} {l : Lexeme} (h : word cs = ⟨.ok l, taken, rest⟩) :
    ∃ t, l = .token t ∧ wordToken taken = .ok t ∧ (∀ c ∈ taken, isWordChar c = true) ∧
      (∀ c ∈ rest.head?, isWordChar c = false) ∧ cs = taken ++ rest := by
  unfold word at h
  dsimp only at h
  split at h
  · next t ht =>
    obtain ⟨hl, rfl, rfl⟩ := Step.mk.inj h
    exact ⟨t, (Except.ok.inj hl).symm, ht, fun c hc => List.mem_takeWhile_imp hc,
      head?_dropWhile isWordChar cs, List.takeWhile_append_dropWhile.symm⟩
  · cases h
  · cases h

theorem word_append {cs rest : List Char} {t : Token} (hcs : ∀ c ∈ cs, isWordChar c = true)
    (hrest : ∀ c ∈ rest.head?, isWordChar c = false) (ht : wordToken cs = .ok t) :
    word (cs ++ rest) = ⟨.ok (.token t), cs, rest⟩ := by
  obtain ⟨htake, hdrop⟩ := takeWhile_dropWhile_append hcs hrest
  simp only [word, htake, hdrop, ht]

end Words

def signs : List (Token × List Char) :=
  [(.anyText, "*any text*".toList), (.comparison .greaterEqual, ['>', '=']),
    (.comparison .lessEqual, ['<', '='])]

/-- A lexeme, the text that it takes and the text after it. -/
inductive Reads (afterColon : Bool) : Lexeme → List Char → List Char → Prop
  | comment {body : List Char} (hb : ¬['*', '/'] <:+: body) (rest : List Char) :
      Reads afterColon (.comment body) (commented body) rest
  | slash {rest : List Char} (hc : afterColon = false) (hr : rest.head? ≠ some '*') :
      Reads afterColon (.token .slash) ['/'] rest
  | pattern {body : List Char} (hc : afterColon = true) (hs : body.head? ≠ some '*')
      (hclose : '/' ∉ body) (hline : '\n' ∉ body) (rest : List Char) :
      Reads afterColon (.token (.pattern (String.ofList body))) ('/' :: body ++ ['/']) rest
  | string {quote : Char} {body : List Char} (hq : quote = '\'' ∨ quote = '"')
      (hclose : quote ∉ body) (hline : '\n' ∉ body) (rest : List Char) :
      Reads afterColon (.token (.string (String.ofList body))) (quote :: body ++ [quote]) rest
  | sign {t : Token} {cs : List Char} (ht : (t, cs) ∈ signs) (rest : List Char) :
      Reads afterColon (.token t) cs rest
  | blank {cs rest : List Char} (hcs : cs ≠ []) (hb : ∀ c ∈ cs, isBlank c = true)
      (hr : ∀ c ∈ rest.head?, isBlank c = false) : Reads afterColon .blank cs rest
  | punctuation {c : Char} {t : Token} {rest : List Char} (ht : punctuation? c = some t)
      (hr : c = '>' ∨ c = '<' → rest.head? ≠ some '=') : Reads afterColon (.token t) [c] rest
  | word {cs rest : List Char} {t : Token} (hcs : ∀ c ∈ cs, isWordChar c = true)
      (hr : ∀ c ∈ rest.head?, isWordChar c = false) (ht : wordToken cs = .ok t) :
      Reads afterColon (.token t) cs rest

theorem step_eq_ok {afterColon : Bool} {text cs rest : List Char} {l : Lexeme}
    (h : step afterColon text = ⟨.ok l, cs, rest⟩) :
    text = cs ++ rest ∧ Reads afterColon l cs rest := by
  unfold step at h
  split at h
  · next text =>
    cases hs : splitComment text with
    | none => simp [hs] at h
    | some found =>
      obtain ⟨body, after⟩ := found
      simp only [hs, Step.mk.injEq, Except.ok.injEq] at h
      obtain ⟨rfl, rfl, rfl⟩ := h
      obtain ⟨rfl, hb⟩ := splitComment_eq_some hs
      exact ⟨by simp, .comment hb _⟩
  · next text hstar =>
    split_ifs at h with hc
    · obtain ⟨body, rfl, hclose, hline, rfl, rfl⟩ := literal_eq_ok h
      refine ⟨by simp, .pattern hc ?_ hclose hline rest⟩
      intro hs
      obtain ⟨body, rfl⟩ := List.head?_eq_some_iff.mp hs
      exact hstar _ rfl
    · cases h
      refine ⟨rfl, .slash (by simpa using hc) ?_⟩
      intro hs
      obtain ⟨rest, rfl⟩ := List.head?_eq_some_iff.mp hs
      exact hstar _ rfl
  · obtain ⟨body, rfl, hclose, hline, rfl, rfl⟩ := literal_eq_ok h
    exact ⟨by simp, .string (.inl rfl) hclose hline rest⟩
  · obtain ⟨body, rfl, hclose, hline, rfl, rfl⟩ := literal_eq_ok h
    exact ⟨by simp, .string (.inr rfl) hclose hline rest⟩
  · cases h
    exact ⟨rfl, .sign (by simp [signs]) _⟩
  · cases h
    exact ⟨rfl, .sign (by simp [signs]) _⟩
  · cases h
    exact ⟨rfl, .sign (by simp [signs]) _⟩
  · next c text _ _ _ _ _ hgreater hless =>
    by_cases hb : isBlank c = true
    · rw [if_pos hb] at h
      obtain ⟨hl, rfl, rfl⟩ := Step.mk.inj h
      cases hl
      refine ⟨List.takeWhile_append_dropWhile.symm, .blank (by simp [hb])
        (fun d hd => List.mem_takeWhile_imp hd) (head?_dropWhile isBlank _)⟩
    · rw [if_neg hb] at h
      cases hp : punctuation? c with
      | some t =>
        simp only [hp, fixed, Step.mk.injEq, Except.ok.injEq] at h
        obtain ⟨rfl, rfl, rfl⟩ := h
        refine ⟨rfl, .punctuation hp ?_⟩
        rintro (rfl | rfl) he
        · obtain ⟨rest, rfl⟩ := List.head?_eq_some_iff.mp he
          exact hgreater rest rfl rfl
        · obtain ⟨rest, rfl⟩ := List.head?_eq_some_iff.mp he
          exact hless rest rfl rfl
      | none =>
        simp only [hp] at h
        split_ifs at h
        · obtain ⟨t, rfl, ht, hcs, hr, htext⟩ := word_eq_ok h
          exact ⟨htext, .word hcs hr ht⟩
        · cases h
  · cases h

section Complete

variable {afterColon : Bool} {c : Char} {cs rest : List Char}

theorem step_blank (hc : isBlank c = true) :
    step afterColon (c :: cs) =
      ⟨.ok .blank, (c :: cs).takeWhile isBlank, (c :: cs).dropWhile isBlank⟩ := by
  simp only [isBlank, Bool.or_eq_true, beq_iff_eq] at hc
  rcases hc with ((rfl | rfl) | rfl) | rfl <;> rfl

theorem plain_of_isBlank (hc : isBlank c = true) :
    punctuation? c = none ∧ isWordChar c = false := by
  simp only [isBlank, Bool.or_eq_true, beq_iff_eq] at hc
  rcases hc with ((rfl | rfl) | rfl) | rfl <;> exact ⟨rfl, by decide⟩

theorem step_punctuation {t : Token} (ht : punctuation? c = some t)
    (hr : c = '>' ∨ c = '<' → rest.head? ≠ some '=') :
    step afterColon (c :: rest) = ⟨.ok (.token t), [c], rest⟩ := by
  have hne (d : Char) (hd : punctuation? d = none) : c ≠ d := by
    rintro rfl
    simp [ht] at hd
  have hblank : isBlank c = false := by
    by_contra hb
    simp [(plain_of_isBlank (eq_true_of_ne_false hb)).1] at ht
  have hshort (hc : c = '>' ∨ c = '<') (cs : List Char) : rest ≠ '=' :: cs := by
    rintro rfl
    exact hr hc rfl
  rw [step.eq_8 _ _ _ (fun _ h => absurd h (hne _ rfl)) (hne _ rfl) (hne _ rfl) (hne _ rfl)
    (fun _ h => absurd h (hne _ rfl)) (fun cs h => hshort (.inl h) cs)
    (fun cs h => hshort (.inr h) cs), hblank, ht]
  rfl

theorem punctuation?_of_isWordChar (hc : isWordChar c = true) : punctuation? c = none := by
  unfold punctuation?
  split <;> first | rfl | (revert hc; decide)

theorem step_word (hc : isWordChar c = true) : step afterColon (c :: cs) = word (c :: cs) := by
  have hne (d : Char) (hd : isWordChar d = false) : c ≠ d := by
    rintro rfl
    simp [hc] at hd
  have hblank : isBlank c = false := by
    by_contra hb
    simp [(plain_of_isBlank (eq_true_of_ne_false hb)).2] at hc
  rw [step.eq_8 _ _ _ (fun _ h => absurd h (hne _ (by decide))) (hne _ (by decide))
    (hne _ (by decide)) (hne _ (by decide)) (fun _ h => absurd h (hne _ (by decide)))
    (fun _ h => absurd h (hne _ (by decide))) (fun _ h => absurd h (hne _ (by decide))),
    hblank, punctuation?_of_isWordChar hc, hc]
  rfl

theorem step_of_reads {l : Lexeme} (h : Reads afterColon l cs rest) :
    step afterColon (cs ++ rest) = ⟨.ok l, cs, rest⟩ := by
  cases h with
  | @comment body hb =>
    have htext : commented body ++ rest = '/' :: '*' :: (body ++ '*' :: '/' :: rest) := by
      simp [commented]
    rw [htext, step, splitComment_append hb]
    rfl
  | slash hc hr =>
    rw [List.singleton_append, step.eq_2, hc]
    · rfl
    · rintro cs rfl
      exact hr rfl
  | @pattern body hc hs hclose hline =>
    have htext : '/' :: body ++ ['/'] ++ rest = '/' :: (body ++ '/' :: rest) := by simp
    rw [htext, step.eq_2, if_pos hc, literal_append hclose hline]
    intro cs hcs
    cases body with
    | nil => cases hcs
    | cons d body =>
      obtain ⟨rfl, -⟩ := List.cons.inj hcs
      exact hs rfl
  | @string quote body hq hclose hline =>
    have htext : quote :: body ++ [quote] ++ rest = quote :: (body ++ quote :: rest) := by simp
    rw [htext]
    rcases hq with rfl | rfl
    · rw [step, literal_append hclose hline]
    · rw [step, literal_append hclose hline]
  | sign ht =>
    simp only [signs, List.mem_cons, List.not_mem_nil, or_false, Prod.mk.injEq] at ht
    rcases ht with ⟨rfl, rfl⟩ | ⟨rfl, rfl⟩ | ⟨rfl, rfl⟩ <;> rfl
  | blank hcs hb hr =>
    obtain ⟨htake, hdrop⟩ := takeWhile_dropWhile_append hb hr
    cases cs with
    | nil => exact absurd rfl hcs
    | cons c cs =>
      rw [List.cons_append] at htake hdrop ⊢
      rw [step_blank (hb c (by simp)), htake, hdrop]
  | punctuation ht hr => exact step_punctuation ht hr
  | word hcs hr ht =>
    cases cs with
    | nil => cases ht
    | cons c cs =>
      rw [List.cons_append, step_word (hcs c (by simp)), ← List.cons_append,
        word_append hcs hr ht]

theorem Reads.ne_nil {l : Lexeme} (h : Reads afterColon l cs rest) : cs ≠ [] := by
  rintro rfl
  cases h with
  | sign ht => simp [signs] at ht
  | blank hcs => exact hcs rfl
  | word _ _ ht => cases ht

/-- A lexeme is read before any text that starts in the same way, and before a slash. -/
theorem Reads.before {l : Lexeme} {rest' : List Char} (h : Reads afterColon l cs rest)
    (hr : rest'.head? = rest.head? ∨ rest'.head? = some '/') : Reads afterColon l cs rest' := by
  cases h with
  | comment hb => exact .comment hb rest'
  | pattern hc hs hclose hline => exact .pattern hc hs hclose hline rest'
  | string hq hclose hline => exact .string hq hclose hline rest'
  | sign ht => exact .sign ht rest'
  | slash hc hstar =>
    refine .slash hc ?_
    rcases hr with hr | hr <;> rw [hr]
    · exact hstar
    · decide
  | blank hcs hb hstop =>
    refine .blank hcs hb ?_
    rcases hr with hr | hr <;> rw [hr]
    · exact hstop
    · simp [isBlank]
  | punctuation ht hstop =>
    refine .punctuation ht fun hc => ?_
    rcases hr with hr | hr <;> rw [hr]
    · exact hstop hc
    · decide
  | word hcs hstop ht =>
    refine .word hcs ?_ ht
    rcases hr with hr | hr <;> rw [hr]
    · exact hstop
    · simp [isWordChar, isLetter]

end Complete

section Scans

/-- Whether a pattern can follow: whether the last token is a colon. -/
def Lexeme.leavesColon (afterColon : Bool) : Lexeme → Bool
  | .token t => t == .colon
  | .comment _ => afterColon
  | .blank => afterColon

/-- Puts a lexeme that took `cs` in front of the scan of the rest. -/
def Lexeme.place (offset : Nat) (cs : List Char) (s : Scan) : Lexeme → Scan
  | .token t => s.addToken ⟨t, ⟨offset, offset + byteSize cs⟩⟩
  | .comment body => s.addComment ⟨String.ofList body, ⟨offset + 2, offset + 2 + byteSize body⟩⟩
  | .blank => s

/-- The lexemes of a text, each with the text that it takes. -/
inductive Lexes : Bool → List Char → List (Lexeme × List Char) → Prop
  | nil (afterColon : Bool) : Lexes afterColon [] []
  | cons {afterColon : Bool} {l : Lexeme} {cs rest : List Char} {ls : List (Lexeme × List Char)}
      (first : Reads afterColon l cs rest) (others : Lexes (l.leavesColon afterColon) rest ls) :
      Lexes afterColon (cs ++ rest) ((l, cs) :: ls)

def placed : Nat → List (Lexeme × List Char) → Scan
  | _, [] => .empty
  | offset, (l, cs) :: ls => l.place offset cs (placed (offset + byteSize cs) ls)

@[simp] theorem Lexeme.place_faults (offset : Nat) (cs : List Char) (s : Scan) (l : Lexeme) :
    (l.place offset cs s).faults = s.faults := by
  cases l <;> rfl

@[simp] theorem placed_faults (offset : Nat) (ls : List (Lexeme × List Char)) :
    (placed offset ls).faults = [] := by
  induction ls generalizing offset with
  | nil => rfl
  | cons first ls ih => rw [placed, Lexeme.place_faults, ih]

variable {afterColon : Bool} {text : List Char} {fuel : Nat}

theorem scanAux_of_reads {l : Lexeme} {cs rest : List Char} (h : Reads afterColon l cs rest)
    (fuel offset : Nat) :
    scanAux (fuel + 1) offset afterColon (cs ++ rest) =
      l.place offset cs (scanAux fuel (offset + byteSize cs) (l.leavesColon afterColon) rest) := by
  have hstep := step_of_reads h
  cases cs with
  | nil => exact absurd rfl h.ne_nil
  | cons c cs =>
    rw [List.cons_append] at hstep ⊢
    cases l <;> simp only [scanAux, hstep, Lexeme.place, Lexeme.leavesColon]

theorem Lexes.scanAux_eq {ls : List (Lexeme × List Char)} (h : Lexes afterColon text ls)
    (hf : text.length ≤ fuel) (offset : Nat) :
    scanAux fuel offset afterColon text = placed offset ls := by
  induction h generalizing fuel offset with
  | nil => cases fuel <;> rfl
  | @cons afterColon l cs rest ls first others ih =>
    have hpos := List.length_pos_iff.mpr first.ne_nil
    rw [List.length_append] at hf
    cases fuel with
    | zero => omega
    | succ fuel => rw [scanAux_of_reads first, ih (by omega), placed]

theorem exists_lexes {offset : Nat} (hf : text.length ≤ fuel)
    (h : (scanAux fuel offset afterColon text).faults = []) : ∃ ls, Lexes afterColon text ls := by
  induction fuel generalizing offset afterColon text with
  | zero =>
    obtain rfl : text = [] := List.length_eq_zero_iff.mp (by omega)
    exact ⟨[], .nil afterColon⟩
  | succ fuel ih =>
    cases text with
    | nil => exact ⟨[], .nil afterColon⟩
    | cons c text =>
      rcases hs : step afterColon (c :: text) with ⟨fault | l, cs, rest⟩
      · simp [scanAux, hs, Scan.addFault] at h
      · obtain ⟨htext, hreads⟩ := step_eq_ok hs
        have hpos := List.length_pos_iff.mpr hreads.ne_nil
        rw [htext] at h hf ⊢
        rw [scanAux_of_reads hreads, Lexeme.place_faults] at h
        rw [List.length_append] at hf
        obtain ⟨ls, hls⟩ := ih (by omega) h
        exact ⟨(l, cs) :: ls, .cons hreads hls⟩

end Scans

end DocSchema.Token
