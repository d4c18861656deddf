import DocSchema.Proofs.Number
import DocSchema.Proofs.Span
import DocSchema.Proofs.Token.Lexemes

/-!
# Tokens and comments partition a text

A text without faults is made of tokens, comments and blanks, in order and without loss. Every token
is spelled by the text at its span, and no token could have been longer.
-/
namespace DocSchema.Token

/-- How tokens are written. A name is no keyword, and a literal ends at the first sign that can end
it. -/
def Spelled : Token → List Char → Prop
  | .identifier name, cs =>
    cs = name.toList ∧ (∃ c ∈ cs.head?, isLetter c = true ∨ c = '_') ∧
      (∀ c ∈ cs, isWordChar c = true) ∧ name ≠ "root" ∧ ∀ k : Kind, name ≠ k.keyword
  | .string s, cs =>
    ∃ quote ∈ ['\'', '"'], cs = quote :: s.toList ++ [quote] ∧ quote ∉ s.toList ∧ '\n' ∉ s.toList
  | .pattern p, cs => cs = '/' :: p.toList ++ ['/'] ∧ '/' ∉ p.toList ∧ '\n' ∉ p.toList
  | .integer n, cs => Number.integer? cs = some n ∧ Number.inInt64 n = true
  | t, cs => cs = t.text.toList

/-- What can follow a token: a word does not go on, nor does a comparison. -/
def EndsBefore : Token → List Char → Prop
  | .root, rest | .kind _, rest | .identifier _, rest | .integer _, rest =>
    ∀ c ∈ rest.head?, isWordChar c = false
  | .comparison .greater, rest | .comparison .less, rest => rest.head? ≠ some '='
  | _, _ => True

def Lexeme.ReadFrom : Lexeme → List Char → List Char → Prop
  | .token t, cs, rest => t.Spelled cs ∧ t.EndsBefore rest
  | .comment body, cs, _ => cs = '/' :: '*' :: body ++ ['*', '/'] ∧ ¬['*', '/'] <:+: body
  | .blank, cs, _ => cs ≠ [] ∧ ∀ c ∈ cs, isBlank c = true

theorem ofKeyword?_eq_some {name : String} {k : Kind} (h : Kind.ofKeyword? name = some k) :
    name = k.keyword := by
  have hk := List.find?_some h
  exact (beq_iff_eq.mp hk).symm

theorem ofKeyword?_eq_none {name : String} (h : Kind.ofKeyword? name = none) (k : Kind) :
    name ≠ k.keyword := by
  rintro rfl
  have hk := List.find?_eq_none.mp h k (by cases k <;> decide)
  simp at hk

def IsWord : Token → Prop
  | .root | .kind _ | .identifier _ | .integer _ => True
  | _ => False

theorem IsWord.endsBefore {t : Token} (ht : t.IsWord) {rest : List Char}
    (h : ∀ c ∈ rest.head?, isWordChar c = false) : t.EndsBefore rest := by
  cases t with
  | root => exact h
  | kind k => exact h
  | identifier name => exact h
  | integer n => exact h
  | _ => exact ht.elim

theorem wordToken_eq_ok {word : List Char} {t : Token} (hw : ∀ c ∈ word, isWordChar c = true)
    (h : wordToken word = .ok t) : t.Spelled word ∧ t.IsWord := by
  unfold wordToken at h
  split at h
  · cases h
  next c cs =>
  dsimp only at h
  by_cases hletter : (isLetter c || c == '_') = true
  · rw [if_pos hletter] at h
    by_cases hroot : String.ofList (c :: cs) = "root"
    · rw [if_pos hroot] at h
      cases h
      refine ⟨?_, trivial⟩
      simp only [Spelled, text, ← hroot, String.toList_ofList]
    · rw [if_neg hroot] at h
      cases hk : Kind.ofKeyword? (String.ofList (c :: cs)) with
      | some k =>
        simp only [hk, Except.ok.injEq] at h
        subst h
        refine ⟨?_, trivial⟩
        simp only [Spelled, text, ← ofKeyword?_eq_some hk, String.toList_ofList]
      | none =>
        simp only [hk, Except.ok.injEq] at h
        subst h
        exact ⟨⟨String.toList_ofList.symm, ⟨c, rfl, by simpa using hletter⟩, hw, hroot,
          ofKeyword?_eq_none hk⟩, trivial⟩
  · rw [if_neg hletter] at h
    by_cases hdigits : Number.isDigits (if c = '-' then cs else c :: cs) = true
    · rw [if_pos hdigits] at h
      have hplus : c ≠ '+' := by
        rintro rfl
        simp [Number.isDigits] at hdigits
      cases hn : Number.readInteger? (c :: cs) with
      | none => simp [hn] at h
      | some n =>
        simp only [hn, Except.ok.injEq] at h
        subst h
        exact ⟨⟨Number.integer?_of_readInteger? hn (by simpa using hplus),
          Number.inInt64_of_readInteger? hn⟩, trivial⟩
    · rw [if_neg hdigits] at h
      cases h

theorem punctuation?_eq_some {c : Char} {t : Token} (h : punctuation? c = some t) :
    t.Spelled [c] ∧ ∀ rest : List Char,
      (c = '>' ∨ c = '<' → rest.head? ≠ some '=') → t.EndsBefore rest := by
  unfold punctuation? at h
  split at h <;> cases h <;> simp [Spelled, text, EndsBefore, Comparison.text]

theorem Reads.readFrom {afterColon : Bool} {l : Lexeme} {cs rest : List Char}
    (h : Reads afterColon l cs rest) : l.ReadFrom cs rest := by
  cases h with
  | comment hb => exact ⟨rfl, hb⟩
  | slash => exact ⟨by simp [Spelled, Token.text], trivial⟩
  | pattern _ _ hclose hline =>
    exact ⟨⟨by simp, by simpa using hclose, by simpa using hline⟩, trivial⟩
  | @string quote _ hq hclose hline =>
    exact ⟨⟨quote, by simpa using hq, by simp, by simpa using hclose, by simpa using hline⟩,
      trivial⟩
  | sign ht =>
    simp only [signs, List.mem_cons, List.not_mem_nil, or_false, Prod.mk.injEq] at ht
    rcases ht with ⟨rfl, rfl⟩ | ⟨rfl, rfl⟩ | ⟨rfl, rfl⟩
    · exact ⟨rfl, trivial⟩
    · exact ⟨by simp [Spelled, Token.text, Comparison.text], trivial⟩
    · exact ⟨by simp [Spelled, Token.text, Comparison.text], trivial⟩
  | blank hcs hb => exact ⟨hcs, hb⟩
  | punctuation ht hr =>
    obtain ⟨hspelled, hends⟩ := punctuation?_eq_some ht
    exact ⟨hspelled, hends rest hr⟩
  | word hcs hr ht =>
    obtain ⟨hspelled, hword⟩ := wordToken_eq_ok hcs ht
    exact ⟨hspelled, hword.endsBefore hr⟩

/-- A token or a comment with its place. The place of a comment is that of its body. -/
inductive Piece where
  | token (token : Located Token)
  | comment (comment : Located String)
  deriving DecidableEq, Repr

namespace Piece

def token? : Piece → Option (Located Token)
  | .token t => some t
  | .comment _ => none

def comment? : Piece → Option (Located String)
  | .token _ => none
  | .comment c => some c

/-- All that a piece takes up, with the delimiters of a comment. -/
def span : Piece → Span
  | .token t => t.span
  | .comment c => ⟨c.span.start - 2, c.span.stop + 2⟩

end Piece

/-- The pieces of a text that starts at a byte offset. -/
inductive Pieces : Nat → List Char → List Piece → Prop
  | nil (offset : Nat) : Pieces offset [] []
  | blank {offset : Nat} {cs rest : List Char} {ps : List Piece}
      (first : Lexeme.blank.ReadFrom cs rest) (others : Pieces (offset + byteSize cs) rest ps) :
      Pieces offset (cs ++ rest) ps
  | token {offset : Nat} {cs rest : List Char} {ps : List Piece} {t : Token}
      (first : (Lexeme.token t).ReadFrom cs rest)
      (others : Pieces (offset + byteSize cs) rest ps) :
      Pieces offset (cs ++ rest) (.token ⟨t, ⟨offset, offset + byteSize cs⟩⟩ :: ps)
  | comment {offset : Nat} {cs rest body : List Char} {ps : List Piece}
      (first : (Lexeme.comment body).ReadFrom cs rest)
      (others : Pieces (offset + byteSize cs) rest ps) :
      Pieces offset (cs ++ rest)
        (.comment ⟨String.ofList body, ⟨offset + 2, offset + 2 + byteSize body⟩⟩ :: ps)

theorem Lexes.pieces {afterColon : Bool} {text : List Char} {ls : List (Lexeme × List Char)}
    (h : Lexes afterColon text ls) (offset : Nat) :
    ∃ ps, Pieces offset text ps ∧ (placed offset ls).tokens = ps.filterMap Piece.token? ∧
      (placed offset ls).comments = ps.filterMap Piece.comment? := by
  induction h generalizing offset with
  | nil => exact ⟨[], .nil offset, rfl, rfl⟩
  | @cons afterColon l cs rest ls first others ih =>
    obtain ⟨ps, hp, ht, hc⟩ := ih (offset + byteSize cs)
    cases l with
    | token t =>
      refine ⟨_, .token first.readFrom hp, ?_, ?_⟩
      · simp [placed, Lexeme.place, Scan.addToken, ht, Piece.token?]
      · simp [placed, Lexeme.place, Scan.addToken, hc, List.filterMap_cons, Piece.comment?]
    | comment body =>
      refine ⟨_, .comment first.readFrom hp, ?_, ?_⟩
      · simp [placed, Lexeme.place, Scan.addComment, ht, List.filterMap_cons, Piece.token?]
      · simp [placed, Lexeme.place, Scan.addComment, hc, Piece.comment?]
    | blank => exact ⟨ps, .blank first.readFrom hp, ht, hc⟩

theorem scanAux_pieces {fuel offset : Nat} {afterColon : Bool} {text : List Char}
    (hf : text.length ≤ fuel) (h : (scanAux fuel offset afterColon text).faults = []) :
    ∃ ps, Pieces offset text ps ∧
      (scanAux fuel offset afterColon text).tokens = ps.filterMap Piece.token? ∧
      (scanAux fuel offset afterColon text).comments = ps.filterMap Piece.comment? := by
  obtain ⟨ls, hls⟩ := exists_lexes hf h
  rw [hls.scanAux_eq hf]
  exact hls.pieces offset

def Piece.Matches (text : List Char) : Piece → Prop
  | .token t => ∃ cs rest, t.span.slice? text = some cs ∧ t.value.Spelled cs ∧
      dropBytes? t.span.stop text = some rest ∧ t.value.EndsBefore rest
  | .comment c => c.span.slice? text = some c.value.toList ∧
      (Piece.comment c).span.slice? text = some ('/' :: '*' :: c.value.toList ++ ['*', '/']) ∧
      ¬['*', '/'] <:+: c.value.toList

namespace Pieces

variable {offset : Nat} {text : List Char} {ps : List Piece}

theorem comment_size {cs rest body : List Char} (h : (Lexeme.comment body).ReadFrom cs rest) :
    byteSize cs = 2 + byteSize body + 2 := by
  have hopen : byteSize ['/', '*'] = 2 := rfl
  have hclose : byteSize ['*', '/'] = 2 := rfl
  have hcs : cs = ['/', '*'] ++ body ++ ['*', '/'] := h.1
  rw [hcs, byteSize_append, byteSize_append, hopen, hclose]

theorem span_comment {cs rest body : List Char} (h : (Lexeme.comment body).ReadFrom cs rest)
    (offset : Nat) :
    (Piece.comment ⟨String.ofList body, ⟨offset + 2, offset + 2 + byteSize body⟩⟩).span =
      ⟨offset, offset + byteSize cs⟩ := by
  simp only [Piece.span, comment_size h, Span.mk.injEq]
  omega

theorem offset_le (h : Pieces offset text ps) : ∀ p ∈ ps, offset ≤ p.span.start := by
  induction h with
  | nil => simp
  | blank _ _ ih => exact fun p hp => (Nat.le_add_right _ _).trans (ih p hp)
  | token _ _ ih =>
    refine List.forall_mem_cons.mpr ⟨le_rfl, fun p hp => (Nat.le_add_right _ _).trans (ih p hp)⟩
  | comment first _ ih =>
    refine List.forall_mem_cons.mpr ⟨?_, fun p hp => (Nat.le_add_right _ _).trans (ih p hp)⟩
    rw [span_comment first]

theorem pairwise (h : Pieces offset text ps) :
    ps.Pairwise fun p q => p.span.stop ≤ q.span.start := by
  induction h with
  | nil => exact .nil
  | blank _ _ ih => exact ih
  | token _ others ih => exact .cons others.offset_le ih
  | comment first others ih =>
    refine .cons (fun p hp => ?_) ih
    rw [span_comment first]
    exact others.offset_le p hp

theorem forall_matches (h : Pieces offset text ps) (before : List Char)
    (hb : byteSize before = offset) : ∀ p ∈ ps, p.Matches (before ++ text) := by
  induction h generalizing before with
  | nil => simp
  | @blank offset cs rest ps first others ih =>
    rw [← List.append_assoc]
    exact ih _ (by rw [byteSize_append, hb])
  | @token offset cs rest ps t first others ih =>
    rw [← List.append_assoc]
    refine List.forall_mem_cons.mpr ⟨?_, ih _ (by rw [byteSize_append, hb])⟩
    subst hb
    refine ⟨cs, rest, Span.slice?_append .., first.1, ?_, first.2⟩
    rw [← byteSize_append, dropBytes?_append]
  | @comment offset cs rest body ps first others ih =>
    rw [← List.append_assoc]
    refine List.forall_mem_cons.mpr ⟨?_, ih _ (by rw [byteSize_append, hb])⟩
    subst hb
    refine ⟨?_, ?_, by simpa using first.2⟩
    · have hslice := Span.slice?_append (before ++ ['/', '*']) body (['*', '/'] ++ rest)
      have hopen : byteSize (before ++ ['/', '*']) = byteSize before + 2 := byteSize_append ..
      rw [hopen] at hslice
      simpa [first.1] using hslice
    · rw [span_comment first, Span.slice?_append, first.1, String.toList_ofList]

theorem byteSize_lt (before more : List Char) (c : Char) :
    byteSize before < byteSize (before ++ c :: more) := by
  have hpos : 0 < byteSize (c :: more) := byteSize_pos (List.cons_ne_nil c more)
  rw [byteSize_append]
  omega

/-- Every character is blank or belongs to a piece. -/
theorem covers (h : Pieces offset text ps) {before after : List Char} {c : Char}
    (ht : text = before ++ c :: after) :
    isBlank c = true ∨ ∃ p ∈ ps, p.span.start ≤ offset + byteSize before ∧
      offset + byteSize before < p.span.stop := by
  -- A character of the first piece lies in its span; any other one is a character of the rest.
  have step {offset : Nat} {cs rest before : List Char} {p : Piece} {ps : List Piece}
      (hspan : p.span = ⟨offset, offset + byteSize cs⟩)
      (ih : ∀ {before}, rest = before ++ c :: after → isBlank c = true ∨
        ∃ q ∈ ps, q.span.start ≤ offset + byteSize cs + byteSize before ∧
          offset + byteSize cs + byteSize before < q.span.stop)
      (ht : cs ++ rest = before ++ c :: after) :
      isBlank c = true ∨ ∃ q ∈ p :: ps, q.span.start ≤ offset + byteSize before ∧
        offset + byteSize before < q.span.stop := by
    obtain ⟨more, rfl⟩ | ⟨skipped, rfl, hr⟩ := split_append ht
    · refine .inr ⟨p, List.mem_cons_self, ?_⟩
      rw [hspan]
      exact ⟨Nat.le_add_right _ _, Nat.add_lt_add_left (byteSize_lt before more c) offset⟩
    · rw [byteSize_append, ← Nat.add_assoc]
      obtain hb | ⟨q, hq, hin⟩ := ih hr
      · exact .inl hb
      · exact .inr ⟨q, List.mem_cons_of_mem p hq, hin⟩
  induction h generalizing before with
  | nil => simp at ht
  | blank first others ih =>
    obtain ⟨more, rfl⟩ | ⟨skipped, rfl, hr⟩ := split_append ht
    · exact .inl (first.2 c (by simp))
    · rw [byteSize_append, ← Nat.add_assoc]
      exact ih hr
  | token first others ih => exact step rfl ih ht
  | comment first others ih => exact step (span_comment first _) ih ht

end Pieces

end DocSchema.Token

namespace DocSchema

open Token

theorem tokenize_eq_ok {source : String} {lexed : Lexed} (h : tokenize source = .ok lexed) :
    (scan source.toList).faults = [] ∧ lexed.tokens = (scan source.toList).tokens ∧
      lexed.comments = (scan source.toList).comments := by
  unfold tokenize at h
  dsimp only at h
  split_ifs at h with hf
  cases h
  exact ⟨List.isEmpty_iff.mp hf, rfl, rfl⟩

theorem exists_pieces {source : String} {lexed : Lexed} (h : tokenize source = .ok lexed) :
    ∃ ps, Pieces 0 source.toList ps ∧ ∀ t ∈ lexed.tokens, Piece.token t ∈ ps := by
  obtain ⟨hfaults, htokens, -⟩ := tokenize_eq_ok h
  obtain ⟨ps, hp, ht, -⟩ := scanAux_pieces le_rfl hfaults
  refine ⟨ps, hp, fun t hm => ?_⟩
  rw [htokens, scan, ht] at hm
  obtain ⟨p, hin, hpt⟩ := List.mem_filterMap.mp hm
  cases p with
  | token t' =>
    cases hpt
    exact hin
  | comment c => cases hpt

theorem tokenize_of_scan {source : String} {text : List Char} (hs : source.toList = text)
    (h : (scan text).faults = []) :
    tokenize source = .ok ⟨(scan text).tokens, (scan text).comments⟩ := by
  simp [tokenize, hs, h]

/-- The tokens and comments of a text are its pieces in order. They do not overlap, and only blanks
stand outside of them. A token is spelled by the text at its span, and what follows it could not
have made it longer. A comment is the text between its delimiters, the first that close it. -/
theorem tokenize_partitions {source : String} {lexed : Lexed} (h : tokenize source = .ok lexed) :
    ∃ pieces : List Piece,
      lexed.tokens = pieces.filterMap Piece.token? ∧
      lexed.comments = pieces.filterMap Piece.comment? ∧
      pieces.Pairwise (fun p q => p.span.stop ≤ q.span.start) ∧
      (∀ before c after, source.toList = before ++ c :: after →
        c ∈ [' ', '\t', '\r', '\n'] ∨
          ∃ p ∈ pieces, p.span.start ≤ byteSize before ∧ byteSize before < p.span.stop) ∧
      (∀ t ∈ lexed.tokens, ∃ cs rest, t.span.slice? source.toList = some cs ∧
        t.value.Spelled cs ∧ dropBytes? t.span.stop source.toList = some rest ∧
        t.value.EndsBefore rest) ∧
      (∀ c ∈ lexed.comments, c.span.slice? source.toList = some c.value.toList ∧
        (Piece.comment c).span.slice? source.toList =
          some ('/' :: '*' :: c.value.toList ++ ['*', '/']) ∧
        ¬['*', '/'] <:+: c.value.toList) := by
  obtain ⟨hfaults, htokens, hcomments⟩ := tokenize_eq_ok h
  obtain ⟨pieces, hp, ht, hc⟩ := scanAux_pieces le_rfl hfaults
  have hmatches : ∀ p ∈ pieces, p.Matches source.toList := hp.forall_matches [] rfl
  refine ⟨pieces, htokens.trans ht, hcomments.trans hc, hp.pairwise, ?_, ?_, ?_⟩
  · intro before c after htext
    obtain hb | hin := hp.covers htext
    · exact .inl (by simpa [isBlank, or_assoc] using hb)
    · rw [Nat.zero_add] at hin
      exact .inr hin
  · intro t hmem
    rw [htokens.trans ht] at hmem
    obtain ⟨p, hp, hpt⟩ := List.mem_filterMap.mp hmem
    cases p with
    | token t' =>
      cases hpt
      exact hmatches _ hp
    | comment c => cases hpt
  · intro c hmem
    rw [hcomments.trans hc] at hmem
    obtain ⟨p, hp, hpc⟩ := List.mem_filterMap.mp hmem
    cases p with
    | token t => cases hpc
    | comment c' =>
      cases hpc
      exact hmatches _ hp

/-- Names with a sign in them, a comment with a star at its end, a pattern after a colon, a slash,
and characters of several bytes. -/
def mixedSource : String := "x-1/*ü**/:/é/ /y>= -7"

theorem tokenize_partitions_mixed :
    ∃ lexed, tokenize mixedSource = .ok lexed ∧ lexed.tokens.length = 7 ∧
      lexed.comments = [⟨"ü*", ⟨5, 8⟩⟩] ∧
      ∀ t ∈ lexed.tokens, ∃ cs rest, t.span.slice? mixedSource.toList = some cs ∧
        t.value.Spelled cs ∧ dropBytes? t.span.stop mixedSource.toList = some rest ∧
        t.value.EndsBefore rest := by
  have hlexed := tokenize_of_scan (String.toList_ofList : mixedSource.toList = _)
    (by decide +kernel)
  obtain ⟨-, -, -, -, -, ht, -⟩ := tokenize_partitions hlexed
  exact ⟨_, hlexed, by decide +kernel, by decide +kernel, ht⟩

end DocSchema
