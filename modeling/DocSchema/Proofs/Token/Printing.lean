import DocSchema.Proofs.Token.Faults
import DocSchema.Proofs.Token.Insertion

/-!
# Tokens as they are shown

The text that shows a token is read as that token wherever the token could stand and a blank
follows. Tokens that are shown with a blank between any two are therefore read again, in the same
order and with the same values. What a slash means depends on the token before it only, and that
token is shown before it.
-/
namespace DocSchema.Token

/-- A text that no token goes on in: it is empty or starts with a blank. -/
def Apart (rest : List Char) : Prop := ∀ c ∈ rest.head?, isBlank c = true

theorem Apart.head?_ne {rest : List Char} (h : Apart rest) {c : Char} (hc : isBlank c = false) :
    rest.head? ≠ some c := by
  intro hr
  rw [h c hr] at hc
  cases hc

section Words

variable {cs rest : List Char} {n : Int}

theorem isWordChar_of_integer? (h : Number.integer? cs = some n) :
    ∀ c ∈ cs, isWordChar c = true := by
  have digits {ds : List Char} {f : Nat → Int} (hd : (Number.natural? ds).map f = some n) :
      ∀ c ∈ ds, isWordChar c = true := by
    intro c hc
    unfold Number.natural? at hd
    split_ifs at hd with hall
    · simp only [Number.isDigits, Bool.and_eq_true, List.all_eq_true] at hall
      simp [isWordChar, hall.2 c hc]
    · cases hd
  unfold Number.integer? at h
  split at h
  · exact List.forall_mem_cons.mpr ⟨by decide, digits h⟩
  · exact digits h

theorem wordToken_toString (h : Number.inInt64 n = true) :
    wordToken (toString n).toList = .ok (.integer n) := by
  have hn := Number.integer?_toString n
  cases hcs : (toString n).toList with
  | nil =>
    rw [hcs] at hn
    cases hn
  | cons c cs =>
    rw [hcs] at hn
    obtain ⟨hletter, hunder, hplus⟩ := plain_of_integer? hn
    rw [wordToken_of_number hletter hunder hplus, hn]
    simp [h]

end Words

section Shown

variable {afterColon : Bool} {l : Lexeme} {t : Token} {cs rest rest' : List Char}

theorem Reads.head?_of_ne_blank (h : Reads afterColon l cs rest) (hl : l ≠ .blank) :
    ∀ c ∈ cs.head?, isBlank c = false := by
  intro c hc
  obtain ⟨cs, rfl⟩ := List.head?_eq_some_iff.mp hc
  have hstep := step_of_reads h
  by_contra hb
  rw [List.cons_append, step_blank (eq_true_of_ne_false hb)] at hstep
  exact hl (Except.ok.inj (Step.mk.inj hstep).1).symm

theorem Reads.before_apart (h : Reads afterColon l cs rest) (hl : l ≠ .blank) (hr : Apart rest') :
    Reads afterColon l cs rest' := by
  cases h with
  | comment hb => exact .comment hb rest'
  | slash hc => exact .slash hc (hr.head?_ne rfl)
  | pattern hc hs hclose hline => exact .pattern hc hs hclose hline rest'
  | string hq hclose hline => exact .string hq hclose hline rest'
  | sign ht => exact .sign ht rest'
  | blank => exact absurd rfl hl
  | punctuation ht => exact .punctuation ht fun _ => hr.head?_ne rfl
  | word hcs _ ht => exact .word hcs (fun c hc => (plain_of_isBlank (hr c hc)).2) ht

theorem text_string (s : String) : (string s).text.toList = '\'' :: s.toList ++ ['\''] := by
  simp [text, toString]

/-- Strings are shown in single quotes and numbers without zeros in front; any other token is shown
as it was written. -/
theorem Spelled.eq_text (h : t.Spelled cs) (hs : ∀ s, t ≠ .string s) (hn : ∀ n, t ≠ .integer n) :
    cs = t.text.toList := by
  cases t with
  | string s => exact absurd rfl (hs s)
  | integer n => exact absurd rfl (hn n)
  | identifier name => exact h.1
  | pattern p =>
    have htext : (pattern p).text.toList = '/' :: p.toList ++ ['/'] := by simp [text, toString]
    exact h.1.trans htext.symm
  | _ => exact h

theorem Reads.shown (h : Reads afterColon (.token t) cs rest)
    (hq : ∀ s, t = .string s → '\'' ∉ s.toList) (hr : Apart rest') :
    Reads afterColon (.token t) t.text.toList rest' := by
  obtain ⟨hspelled, -⟩ := h.readFrom
  cases t with
  | string s =>
    obtain ⟨_, _, _, _, hline⟩ := hspelled
    have hshown : Reads afterColon (.token (Token.string (String.ofList s.toList)))
        ('\'' :: s.toList ++ ['\'']) rest' := .string (.inl rfl) (hq s rfl) hline rest'
    rwa [String.ofList_toList, ← text_string] at hshown
  | integer n =>
    have hstop : ∀ c ∈ rest'.head?, isWordChar c = false :=
      fun c hc => (plain_of_isBlank (hr c hc)).2
    exact .word (isWordChar_of_integer? (Number.integer?_toString n)) hstop
      (wordToken_toString hspelled.2)
  | _ =>
    rw [← hspelled.eq_text (by simp) (by simp)]
    exact h.before_apart (by simp) hr

end Shown

/-- Tokens each of which is read from the text that shows it, behind the token before it. -/
def Showable : Bool → List Token → Prop
  | _, [] => True
  | afterColon, t :: ts =>
    (∀ rest, Apart rest → Reads afterColon (.token t) t.text.toList rest) ∧
      Showable (t == .colon) ts

theorem Lexes.showable {afterColon : Bool} {text : List Char} {ls : List (Lexeme × List Char)}
    (h : Lexes afterColon text ls) (hq : ∀ s, .string s ∈ tokensOf ls → '\'' ∉ s.toList) :
    Showable afterColon (tokensOf ls) := by
  induction h with
  | nil => trivial
  | @cons afterColon l cs rest ls first _ ih =>
    cases l with
    | token t =>
      have hfirst (s : String) (hs : t = .string s) : '\'' ∉ s.toList :=
        hq s (hs ▸ List.mem_cons_self)
      exact ⟨fun rest => first.shown hfirst, ih fun s hs => hq s (List.mem_cons_of_mem t hs)⟩
    | comment body => exact ih hq
    | blank => exact ih hq

def spaced : List Token → List (Lexeme × List Char)
  | [] => []
  | [t] => [(.token t, t.text.toList)]
  | t :: t' :: ts => (.token t, t.text.toList) :: (.blank, [' ']) :: spaced (t' :: ts)

theorem tokensOf_spaced (ts : List Token) : tokensOf (spaced ts) = ts := by
  fun_induction spaced ts with
  | case1 => rfl
  | case2 t => rfl
  | case3 t t' ts ih => exact congrArg (t :: ·) ih

theorem comments_spaced (ts : List Token) (offset : Nat) :
    (placed offset (spaced ts)).comments = [] := by
  fun_induction spaced ts generalizing offset with
  | case1 => rfl
  | case2 t => rfl
  | case3 t t' ts ih => exact ih _

theorem Showable.lexes {afterColon : Bool} {ts : List Token} (h : Showable afterColon ts) :
    Lexes afterColon (" ".intercalate (ts.map text)).toList (spaced ts) := by
  fun_induction spaced ts generalizing afterColon with
  | case1 => exact .nil afterColon
  | case2 t =>
    have hlast := Lexes.cons (h.1 [] (by simp [Apart])) (.nil _)
    rwa [List.append_nil] at hlast
  | case3 t t' ts ih =>
    obtain ⟨hfirst, hothers⟩ := h
    have hrest := ih hothers
    have hjoin : (" ".intercalate ((t :: t' :: ts).map text)).toList =
        t.text.toList ++ ([' '] ++ (" ".intercalate ((t' :: ts).map text)).toList) := by
      simp [String.intercalate_cons_cons]
    -- the blank ends where the next token starts
    have hblank : Reads (t == .colon) .blank [' ']
        (" ".intercalate ((t' :: ts).map text)).toList := by
      refine .blank (by simp) (by simp [isBlank]) fun c hc => ?_
      have hnext := hothers.1 [] (by simp [Apart])
      refine hnext.head?_of_ne_blank (by simp) c ?_
      have hne : t'.text.toList ≠ [] := hnext.ne_nil
      obtain ⟨d, ds, hd⟩ := List.exists_cons_of_ne_nil hne
      cases ts with
      | nil => simpa using hc
      | cons t'' ts => simpa [String.intercalate_cons_cons, hd] using hc
    rw [hjoin]
    exact .cons (hfirst _ (by simp [Apart, isBlank])) (.cons hblank hrest)

end DocSchema.Token

namespace DocSchema

open Token

/-- The tokens of a text, shown with a blank between any two, are read again: without faults, with
the same values in the same order, and without comments. Only a single quote in a string is in the
way, as strings are shown in single quotes. -/
theorem tokenize_shown {source : String} {lexed : Lexed} (h : tokenize source = .ok lexed)
    (hq : ∀ t ∈ lexed.tokens, ∀ s, t.value = .string s → '\'' ∉ s.toList) :
    ∃ lexed', tokenize (" ".intercalate (lexed.tokens.map (·.value.text))) = .ok lexed' ∧
      lexed'.tokens.map (·.value) = lexed.tokens.map (·.value) ∧ lexed'.comments = [] := by
  obtain ⟨hfaults, htokens, -⟩ := tokenize_eq_ok h
  obtain ⟨ls, hls⟩ := exists_lexes le_rfl hfaults
  have hvalues : lexed.tokens.map (·.value) = tokensOf ls := by
    rw [htokens, scan, hls.scanAux_eq le_rfl, map_value_placed]
  have hshow : Showable false (tokensOf ls) := by
    refine hls.showable fun s hs => ?_
    rw [← hvalues] at hs
    obtain ⟨t, ht, hts⟩ := List.mem_map.mp hs
    exact hq t ht s hts
  have htext : " ".intercalate (lexed.tokens.map (·.value.text)) =
      " ".intercalate ((tokensOf ls).map text) := by
    rw [← hvalues, List.map_map]
    rfl
  have hscan : scan (" ".intercalate ((tokensOf ls).map text)).toList =
      placed 0 (spaced (tokensOf ls)) := hshow.lexes.scanAux_eq le_rfl 0
  refine ⟨_, tokenize_of_scan (congrArg String.toList htext) (by rw [hscan, placed_faults]), ?_, ?_⟩
  · dsimp only
    rw [hscan, map_value_placed, tokensOf_spaced, hvalues]
  · dsimp only
    rw [hscan, comments_spaced]

/-- A pattern with a star, comments, the marker between signs, a string in double quotes with the
start of a comment in it, signs that touch, a padded number and a negative zero. -/
def crowdedSource : String := "x:/a*b//*c*/ / *any text*\"\\d/*\">=> =-007 -0 root/**/"

def crowdedTokens : List Token :=
  [.identifier "x", .colon, .pattern "a*b", .slash, .anyText, .string "\\d/*",
    .comparison .greaterEqual, .comparison .greater, .comparison .equal, .integer (-7), .integer 0,
    .root]

theorem tokenize_shown_crowded :
    ∃ lexed lexed', tokenize crowdedSource = .ok lexed ∧
      (∀ t ∈ lexed.tokens, ∀ s, t.value = .string s → '\'' ∉ s.toList) ∧
      lexed.tokens.map (·.value) = crowdedTokens ∧ lexed.comments.length = 2 ∧
      " ".intercalate (lexed.tokens.map (·.value.text)) =
        "x : /a*b/ / *any text* '\\d/*' >= > = -7 0 root" ∧
      tokenize (" ".intercalate (lexed.tokens.map (·.value.text))) = .ok lexed' ∧
      lexed'.tokens.map (·.value) = lexed.tokens.map (·.value) ∧ lexed'.comments = [] := by
  obtain ⟨lexed, hlexed, hvalues, hcomments⟩ : ∃ lexed, tokenize crowdedSource = .ok lexed ∧
      lexed.tokens.map (·.value) = crowdedTokens ∧ lexed.comments.length = 2 :=
    ⟨_, tokenize_of_scan (String.toList_ofList : crowdedSource.toList = _) (by decide),
      by decide, by decide⟩
  have hq : ∀ t ∈ lexed.tokens, ∀ s, t.value = .string s → '\'' ∉ s.toList := by
    intro t ht s hs
    have hm : Token.string s ∈ crowdedTokens := by
      rw [← hvalues, ← hs]
      exact List.mem_map_of_mem ht
    simp only [crowdedTokens, List.mem_cons, reduceCtorEq, string.injEq, false_or, or_false,
      List.not_mem_nil] at hm
    subst hm
    decide
  have htext : " ".intercalate (lexed.tokens.map (·.value.text)) =
      " ".intercalate (crowdedTokens.map text) := by
    rw [← hvalues, List.map_map]
    rfl
  obtain ⟨lexed', hlexed', hsame, hnone⟩ := tokenize_shown hlexed hq
  exact ⟨lexed, lexed', hlexed, hq, hvalues, hcomments, htext.trans (by decide), hlexed', hsame,
    hnone⟩

end DocSchema
