import DocSchema.Proofs.Pattern.Classes
import DocSchema.Proofs.Pattern.Dialect

/-!
# Pieces within a longer text

A pattern is read inside a group that closes behind it. If the scan for foreign constructs finds
nothing in the pattern, each of its pieces is the one that is read from the pattern alone. Only a
backslash at the end of the pattern takes a character of the text around.
-/
namespace DocSchema.Pattern

open Unicode (structural signs structural_subset_signs isBlank)

/-! ## Repetitions -/

theorem readCount_append {d : Char} (hblank : isBlank d = false) (hdigit : d.isDigit = false)
    (cs ds : List Char) :
    readCount false (cs ++ d :: ds) =
      (readCount false cs).map fun x => (x.1, x.2 ++ d :: ds) := by
  simp only [readCount, leading_eq, skip_false, dropWhile_append_cons hblank,
    takeWhile_append_cons hdigit, dropWhile_append_cons hdigit]
  split <;> rfl

theorem readCount_eq_ok {cs rest : List Char} {n : Nat} (h : readCount false cs = .ok (n, rest)) :
    ∃ w, cs = w ++ rest ∧ ∀ c ∈ w, isBlank c = true ∨ c.isDigit = true := by
  simp only [readCount, leading_eq, skip_false] at h
  split at h
  · cases h
  · cases h
    have hsplit : ∀ (p : Char → Bool) (l : List Char), l = l.takeWhile p ++ l.dropWhile p :=
      fun p l => List.takeWhile_append_dropWhile.symm
    refine ⟨cs.takeWhile isBlank ++ ((cs.dropWhile isBlank).takeWhile (·.isDigit) ++
      ((cs.dropWhile isBlank).dropWhile (·.isDigit)).takeWhile isBlank), ?_, ?_⟩
    · rw [List.append_assoc, List.append_assoc, ← hsplit, ← hsplit, ← hsplit]
    · intro c hc
      simp only [List.mem_append] at hc
      obtain hc | hc | hc := hc
      · exact .inl (List.mem_takeWhile_imp hc)
      · exact .inr (List.mem_takeWhile_imp (p := Char.isDigit) hc)
      · exact .inl (List.mem_takeWhile_imp hc)

def bounds? (body : List Char) : Option (Nat × Option Nat) :=
  match readCount false body with
  | .ok (first, []) => some (first, some first)
  | .ok (first, [',']) => some (first, none)
  | .ok (first, ',' :: rest) =>
    match readCount false rest with
    | .ok (last, []) => if last < first then none else some (first, some last)
    | _ => none
  | _ => none

theorem isBlank_brace : isBlank '\x7d' = false := by decide

theorem readCounted_eq_ok {body after rest : List Char} {piece : Piece} (hb : '\x7d' ∉ body) :
    readCounted false (body ++ '\x7d' :: after) = .ok (piece, rest) ↔
      ∃ min max, bounds? body = some (min, max) ∧
        piece = .repetition min max (readLazy after).1 ∧ rest = (readLazy after).2 := by
  have happend := readCount_append isBlank_brace (by decide : '\x7d'.isDigit = false)
  unfold readCounted bounds?
  rw [skip_false, happend]
  cases hfirst : readCount false body with
  | error e => simp [Except.map]
  | ok x =>
    obtain ⟨first, rest₁⟩ := x
    obtain ⟨w, rfl, -⟩ := readCount_eq_ok hfirst
    simp only [List.mem_append, not_or] at hb
    rcases rest₁ with _ | ⟨c, rest₂⟩
    · simp [Except.map, eq_comm]
    · have hc : c ≠ '\x7d' := fun hc => hb.2 (by simp [hc])
      by_cases hcomma : c = ','
      · subst hcomma
        rcases rest₂ with _ | ⟨d, rest₃⟩
        · simp [Except.map, eq_comm]
        · have hd : d ≠ '\x7d' := fun hd => hb.2 (by simp [hd])
          have hlast := happend (d :: rest₃) after
          rw [List.cons_append] at hlast
          cases hread : readCount false (d :: rest₃) with
          | error e => simp [Except.map, hd, hlast, hread]
          | ok y =>
            obtain ⟨last, rest₄⟩ := y
            obtain ⟨v, hv, -⟩ := readCount_eq_ok hread
            rcases rest₄ with _ | ⟨e, rest₅⟩
            · by_cases hlt : last < first
              · have hthrow : (throw Fault.repetitionCount : Except Fault Unit) =
                    .error .repetitionCount := rfl
                simp [Except.map, hd, hlast, hread, hlt, hthrow]
              · simp [Except.map, hd, hlast, hread, hlt, eq_comm]
            · have he : e ≠ '\x7d' := fun he => hb.2 (by simp [hv, he])
              simp [Except.map, hd, hlast, hread, he]
      · simp [Except.map, hc, hcomma]

theorem not_mem_signs_of_count {c : Char} (h : isBlank c = true ∨ c.isDigit = true) :
    c ∉ signs := by
  have hnone : signs.all (fun c => !isBlank c && !c.isDigit) = true := by decide
  intro hc
  have := List.all_eq_true.1 hnone c hc
  simp_all

theorem not_mem_of_bounds {body : List Char} {bounds : Nat × Option Nat}
    (h : bounds? body = some bounds) {c : Char} (hc : c ∈ signs) : c ∉ body := by
  have hcount : ∀ {cs rest : List Char} {n : Nat}, readCount false cs = .ok (n, rest) →
      c ∉ rest → c ∉ cs := by
    intro cs rest n hread hrest
    obtain ⟨w, rfl, hw⟩ := readCount_eq_ok hread
    exact fun hmem => (List.mem_append.1 hmem).elim
      (fun hcw => not_mem_signs_of_count (hw c hcw) hc) hrest
  have hcomma : c ≠ ',' := by
    rintro rfl
    exact absurd hc (by decide)
  unfold bounds? at h
  split at h
  next first hread => exact hcount hread (by simp)
  next first hread => exact hcount hread (by simpa using hcomma)
  next first rest hne hread =>
    split at h
    next last hlast =>
      exact hcount hread (List.not_mem_cons_of_ne_of_not_mem hcomma (hcount hlast (by simp)))
    · cases h
  · cases h

theorem plain_of_bounds {body : List Char} {bounds : Nat × Option Nat}
    (h : bounds? body = some bounds) : Plain body :=
  fun _ hc hs => not_mem_of_bounds h (structural_subset_signs hs) hc

theorem brace_mem_of_readCounted {cs rest : List Char} {piece : Piece}
    (h : readCounted false cs = .ok (piece, rest)) : '\x7d' ∈ cs := by
  by_contra hnone
  -- Without the brace each step stops before what it looks for.
  obtain ⟨⟨first, rest₁⟩, hfirst, hbounds⟩ := bind_eq_ok.1 h
  obtain ⟨w, rfl, -⟩ := readCount_eq_ok hfirst
  simp only [List.mem_append, not_or] at hnone
  rcases rest₁ with _ | ⟨c, rest₂⟩
  · cases hbounds
  · have hc : c ≠ '\x7d' := fun hc => hnone.2 (by simp [hc])
    by_cases hcomma : c = ','
    · subst hcomma
      rcases rest₂ with _ | ⟨d, rest₃⟩
      · cases hbounds
      · have hd : d ≠ '\x7d' := fun hd => hnone.2 (by simp [hd])
        cases hread : readCount false (d :: rest₃) with
        | error e => simp [hd, hread] at hbounds
        | ok y =>
          obtain ⟨last, rest₄⟩ := y
          obtain ⟨v, hv, -⟩ := readCount_eq_ok hread
          rcases rest₄ with _ | ⟨e, rest₅⟩
          · simp [hd, hread] at hbounds
          · have he : e ≠ '\x7d' := fun he => hnone.2 (by simp [hv, he])
            simp [hd, hread, he] at hbounds
    · simp [hc, hcomma] at hbounds

/-! ## Outlines -/

/-- Where the text of a pattern ends. -/
inductive Ending where
  | whole
  | inEscape
  | inClass
  deriving DecidableEq, Repr

/-- What is left of a text without escapes and classes, as far as groups are concerned. -/
structure Outline where
  parentheses : List Char
  ending : Ending
  deriving DecidableEq, Repr

/-- Reads from left to right, where the first characters, as many as given, are already done
with. -/
def outlineAux : Nat → List Char → Outline
  | _, [] => ⟨[], .whole⟩
  | done + 1, _ :: cs => outlineAux done cs
  | 0, '\\' :: cs => if cs.isEmpty then ⟨[], .inEscape⟩ else outlineAux 1 cs
  | 0, '[' :: cs =>
    match readClass false cs with
    | .ok (_, rest) => outlineAux (cs.length - rest.length) cs
    | .error _ => ⟨[], .inClass⟩
  | 0, c :: cs =>
    let outline := outlineAux 0 cs
    if c = '(' ∨ c = ')' then ⟨c :: outline.parentheses, outline.ending⟩ else outline

/-- The parentheses of a text, escaped ones and those of classes left out, and how it ends. -/
def outline (text : List Char) : Outline := outlineAux 0 text

theorem outlineAux_done (w cs : List Char) : outlineAux w.length (w ++ cs) = outline cs := by
  induction w with
  | nil => rfl
  | cons c w ih => simpa [outlineAux] using ih

theorem outline_escape (c : Char) (cs : List Char) : outline ('\\' :: c :: cs) = outline cs := by
  simp [outline, outlineAux]

theorem outline_class {w cs : List Char} {piece : Piece}
    (h : readClass false (w ++ cs) = .ok (piece, cs)) :
    outline ('[' :: (w ++ cs)) = outline cs := by
  have hlength : (w ++ cs).length - cs.length = w.length := by simp
  rw [outline, outlineAux, h]
  simp only [hlength, outlineAux_done]

theorem outline_char {c : Char} (hslash : c ≠ '\\') (hbracket : c ≠ '[') (cs : List Char) :
    outline (c :: cs) = if c = '(' ∨ c = ')' then
      ⟨c :: (outline cs).parentheses, (outline cs).ending⟩ else outline cs := by
  rw [outline, outlineAux]
  · rfl
  · exact hslash
  · exact hbracket

theorem outline_plain {w : List Char} (hw : Plain w) (cs : List Char) :
    outline (w ++ cs) = outline cs := by
  induction w with
  | nil => rfl
  | cons c w ih =>
    obtain ⟨hc, hw⟩ := List.forall_mem_cons.1 hw
    simp only [structural, List.mem_cons, List.mem_nil_iff, or_false, not_or] at hc
    rw [List.cons_append, outline_char hc.2.2.2.2 hc.2.2.1, ih hw]
    simp [hc.1, hc.2.1]

/-! ## Pieces within a longer text -/

def Piece.Quiet : Piece → Prop
  | .opening kind => kind = .plain
  | .flags _ => False
  | _ => True

structure ReaderState.Quiet (s : ReaderState) : Prop where
  spaced : s.spaced = false
  outer : ∀ spaced ∈ s.outer, spaced = false

theorem ReaderState.Quiet.after {s : ReaderState} (hs : s.Quiet) {p : Piece} (hp : p.Quiet) :
    (s.after p).Quiet := by
  obtain ⟨hspaced, houter⟩ := hs
  cases p with
  | opening kind =>
    cases hp
    exact ⟨hspaced, List.forall_mem_cons.2 ⟨hspaced, houter⟩⟩
  | closing =>
    obtain ⟨spaced, outer, names⟩ := s
    cases outer with
    | nil => exact ⟨hspaced, houter⟩
    | cons b outer =>
      obtain ⟨hb, houter⟩ := List.forall_mem_cons.1 houter
      exact ⟨hb, houter⟩
  | flags _ => exact hp.elim
  | _ => exact ⟨hspaced, houter⟩

/-- The text starts with a piece and goes on with `rest`. -/
structure StartsWith (c : Char) (cs : List Char) (piece : Piece) (rest : List Char) : Prop where
  quiet : piece.Quiet
  portable : Portable false rest
  length_le : rest.length ≤ cs.length
  outline : outline (c :: cs) =
    ⟨piece.parenthesis?.toList ++ (outline rest).parentheses, (outline rest).ending⟩
  read : ∀ s : ReaderState, s.spaced = false → readPiece s c cs = .ok (piece, rest)

theorem StartsWith.outline_eq {c : Char} {cs rest : List Char} {piece : Piece} {ps : List Piece}
    {ending : Ending} (h : StartsWith c cs piece rest)
    (hrest : Pattern.outline rest = ⟨parentheses ps, ending⟩) :
    Pattern.outline (c :: cs) = ⟨parentheses (piece :: ps), ending⟩ := by
  rw [h.outline, hrest]
  cases hparen : piece.parenthesis? <;> simp [parentheses, hparen]

/-- What closes the group around a pattern for whole values. -/
def groupEnd : List Char := [')', '$']

theorem exists_of_append_groupEnd {q w rest : List Char} {d : Char}
    (h : q ++ groupEnd = w ++ d :: rest) (hd : d ∉ groupEnd) :
    ∃ q', q = w ++ d :: q' ∧ rest = q' ++ groupEnd := by
  obtain ⟨v, rfl, hv⟩ | ⟨q', rfl, hq⟩ := List.append_eq_append_iff.1 h
  · exact absurd (hv ▸ by simp) hd
  · cases q' with
    | nil =>
      rw [List.nil_append] at hq
      exact absurd (hq ▸ by simp) hd
    | cons e q' =>
      obtain ⟨rfl, hrest⟩ := List.cons.inj hq
      exact ⟨q', rfl, hrest⟩

theorem exists_of_append_plain {q w rest : List Char} (h : q ++ groupEnd = w ++ rest)
    (hw : Plain w) : ∃ q', q = w ++ q' ∧ rest = q' ++ groupEnd := by
  obtain ⟨v, rfl, hv⟩ | ⟨q', rfl, hq⟩ := List.append_eq_append_iff.1 h
  · cases v with
    | nil => exact ⟨[], by simp, hv.symm⟩
    | cons e v =>
      obtain ⟨rfl, -⟩ := List.cons.inj hv
      exact absurd (by decide) (hw ')' (by simp))
  · exact ⟨q', rfl, hq⟩

theorem readGroup_plain {names : List String} {cs : List Char} (h : cs.head? ≠ some '?') :
    readGroup false names cs = .ok (.opening .plain, cs) := by
  cases cs with
  | nil => rfl
  | cons c cs =>
    have hc : c ≠ '?' := by simpa using h
    simp [readGroup, hc]

theorem readLazy_of_head {cs : List Char} (h : cs.head? ≠ some '?') :
    readLazy cs = (false, cs) := by
  cases cs with
  | nil => rfl
  | cons c cs =>
    have hc : c ≠ '?' := by simpa using h
    simp [readLazy, hc]

theorem head_append_groupEnd {q : List Char} (h : q.head? ≠ some '?') :
    (q ++ groupEnd).head? ≠ some '?' := by
  cases q with
  | nil => decide
  | cons c q => exact h

theorem not_assertion_of_readHex {letter : Char} {cs rest : List Char} {m : Meaning}
    (h : readHex false letter cs = .ok (m, rest)) : ¬(Atom.escape letter m).IsAssertion := by
  unfold readHex at h
  rw [skip_false] at h
  split at h
  next =>
    split at h
    · cases h
    split at h
    · cases h
      exact id
    · cases h
  next =>
    obtain ⟨⟨digits, rest'⟩, -, hcode⟩ := bind_eq_ok.1 h
    cases hc : codeChar? digits with
    | none => simp [hc] at hcode
    | some c =>
      simp only [hc, pure_eq_ok, Except.ok.injEq, Prod.mk.injEq] at hcode
      rw [← hcode.1]
      split_ifs <;> exact id

theorem not_assertion_of_short {letter : Char} {m : Meaning} (h : short? letter = some m) :
    ¬(Atom.escape letter m).IsAssertion := by
  unfold short? at h
  split at h <;> cases h <;> exact id

theorem not_isAssertion_of_portable {c : Char} {cs rest : List Char} {next : Option Char}
    {atom : Atom} (hp : isPortable c next = true)
    (h : readEscape false (c :: cs) = .ok (atom, rest)) : ¬atom.IsAssertion := by
  have hletter : c ∈ portableEscapes := by
    simp only [isPortable, Bool.and_eq_true, decide_eq_true_eq] at hp
    exact hp.1
  have hnone : portableEscapes.all (fun c => c != 'b' && (assertion? c).isNone) = true := by
    decide
  have hc := List.all_eq_true.1 hnone c hletter
  simp only [Bool.and_eq_true, bne_iff_ne, Option.isNone_iff_eq_none] at hc
  rw [readEscape] at h
  split at h
  · cases h
  split at h
  · obtain ⟨⟨m, rest'⟩, hm, heq⟩ := bind_eq_ok.1 h
    cases heq
    exact not_assertion_of_readHex hm
  split at h
  · obtain ⟨⟨query, rest'⟩, -, heq⟩ := bind_eq_ok.1 h
    cases heq
    exact id
  split at h
  next hb => exact absurd (eq_of_beq hb) hc.1
  split at h
  · cases h
    exact id
  split at h
  next meaning hshort =>
    cases h
    exact not_assertion_of_short hshort
  next =>
    cases h
    exact id
  next a ha hshort hcontrol => simp [hc.2] at ha
  next => cases h

variable {s : ReaderState} {c : Char} {q rest : List Char} {piece : Piece}

theorem startsWith_of_char (hp : Portable false (c :: q)) (hslash : c ≠ '\\') (hbracket : c ≠ '[')
    (hquiet : piece.Quiet)
    (hparen : piece.parenthesis?.toList = if c = '(' ∨ c = ')' then [c] else [])
    (hread : ∀ s : ReaderState, s.spaced = false → readPiece s c q = .ok (piece, q)) :
    StartsWith c q piece q := by
  refine ⟨hquiet, ?_, le_rfl, ?_, hread⟩
  · have := (hp.cons hslash).2
    rwa [show classAfter false c = false by simp [classAfter, hbracket]] at this
  · rw [outline_char hslash hbracket, hparen]
    split_ifs <;> rfl

theorem exists_charClass {cs : List Char} (h : readClass false cs = .ok (piece, rest)) :
    ∃ negated inner, piece = .charClass negated inner := by
  obtain ⟨x, -, h⟩ := bind_eq_ok.1 h
  obtain ⟨y, -, heq⟩ := bind_eq_ok.1 h
  cases heq
  exact ⟨_, _, rfl⟩

theorem startsWith_of_class (hp : Portable false ('[' :: q))
    (h : readClass false (q ++ groupEnd) = .ok (piece, rest)) (hk : piece.Known) :
    ∃ q', rest = q' ++ groupEnd ∧ StartsWith '[' q piece q' := by
  obtain ⟨w, hw, hpaired, htakes⟩ := readClass_takes h hk
  obtain ⟨q', rfl, rfl⟩ := exists_of_append_groupEnd hw (by decide)
  have hread : readClass false (w ++ ']' :: q') = .ok (piece, q') := by
    simpa using htakes q'
  have houtline : outline ('[' :: (w ++ ']' :: q')) = outline q' := by
    have : readClass false (w ++ [']'] ++ q') = .ok (piece, q') := by simpa using hread
    simpa using outline_class this
  obtain ⟨negated, inner, rfl⟩ := exists_charClass hread
  refine ⟨q', rfl, trivial, ?_, by simp; omega, by simp [houtline, Piece.parenthesis?], ?_⟩
  · obtain ⟨inClass, hbracket⟩ := Portable.of_paired hpaired (hp.cons (by decide)).2
    exact hbracket.after_bracket
  · intro s hs
    simpa [readPiece, hs] using hread

theorem startsWith_of_counted (hp : Portable false ('\x7b' :: q))
    (h : readCounted false (q ++ groupEnd) = .ok (piece, rest)) :
    ∃ q', rest = q' ++ groupEnd ∧ StartsWith '\x7b' q piece q' := by
  obtain ⟨body, after, hbody, hb⟩ := List.eq_append_cons_of_mem (brace_mem_of_readCounted h)
  obtain ⟨q', rfl, rfl⟩ := exists_of_append_groupEnd hbody (by decide)
  rw [hbody] at h
  obtain ⟨min, max, hbounds, rfl, rfl⟩ := (readCounted_eq_ok hb).1 h
  have hplain := plain_of_bounds hbounds
  have hbrace : Portable false ('\x7d' :: q') := by
    have hinside := (hp.cons (by decide)).2
    exact Portable.of_plain hplain hinside
  obtain ⟨hissue, hafter⟩ := hbrace.cons (by decide)
  have hhead : q'.head? ≠ some '?' := by
    intro hq
    simp [characterIssue?, hq] at hissue
  rw [readLazy_of_head (head_append_groupEnd hhead)]
  refine ⟨q', rfl, trivial, hafter, by simp; omega, ?_, ?_⟩
  · have hall : Plain (body ++ ['\x7d']) := hplain.append (by simp [Plain, structural])
    rw [outline_char (by decide) (by decide), if_neg (by decide)]
    simpa [Piece.parenthesis?] using outline_plain hall q'
  · intro s hs
    have hread : readCounted false (body ++ '\x7d' :: q') = .ok (.repetition min max false, q') :=
      (readCounted_eq_ok hb).2 ⟨min, max, hbounds, by simp [readLazy_of_head hhead]⟩
    simpa [readPiece, hs] using hread

theorem head_of_quantifier (hp : Portable false (c :: q)) (hc : c = '?' ∨ c = '*' ∨ c = '+') :
    q.head? ≠ some '?' := by
  intro hq
  have hissue := (hp.cons (by obtain rfl | rfl | rfl := hc <;> decide)).1
  obtain rfl | rfl | rfl := hc <;> simp [characterIssue?, hq] at hissue

theorem startsWith_of_quantifier {min : Nat} {max : Option Nat} (hp : Portable false (c :: q))
    (hc : c = '?' ∨ c = '*' ∨ c = '+')
    (hread : ∀ s cs, readPiece s c cs =
      .ok (.repetition min max (readLazy cs).1, (readLazy cs).2))
    (h : readPiece s c (q ++ groupEnd) = .ok (piece, rest)) :
    ∃ q', rest = q' ++ groupEnd ∧ StartsWith c q piece q' := by
  have hchar : c ≠ '\\' ∧ c ≠ '[' ∧ ¬(c = '(' ∨ c = ')') := by
    obtain rfl | rfl | rfl := hc <;> decide
  have hhead := head_of_quantifier hp hc
  rw [hread, readLazy_of_head (head_append_groupEnd hhead)] at h
  cases h
  refine ⟨q, rfl, startsWith_of_char hp hchar.1 hchar.2.1 trivial ?_ fun s hs => ?_⟩
  · simp [Piece.parenthesis?, hchar.2.2]
  · rw [hread, readLazy_of_head hhead]

theorem startsWith_of_escape {atom : Atom} (hp : Portable false ('\\' :: c :: q))
    (h : readEscape false (c :: q ++ groupEnd) = .ok (atom, rest)) (hk : atom.Known) :
    ∃ q', rest = q' ++ groupEnd ∧ StartsWith '\\' (c :: q) (.atom atom) q' := by
  obtain ⟨hportable, hrest⟩ := hp.escape
  obtain ⟨d, w, hw, hplain, htakes⟩ :=
    readEscape_takes h hk (not_isAssertion_of_portable hportable h)
  obtain ⟨rfl, hq⟩ := List.cons.inj hw
  obtain ⟨q', rfl, rfl⟩ := exists_of_append_plain hq hplain
  refine ⟨q', rfl, trivial, Portable.of_plain hplain hrest, by simp; omega, ?_, ?_⟩
  · rw [outline_escape, outline_plain hplain]
    rfl
  · intro s hs
    have hread := htakes q'
    rw [List.cons_append] at hread
    simp [readPiece, hs, hread]

/-- A backslash starts an escape of the text, or it is the last character of the text and takes the
parenthesis behind it. -/
theorem escape_of_readPiece (hs : s.spaced = false)
    (h : readPiece s '\\' (q ++ groupEnd) = .ok (piece, rest)) :
    (∃ letter q' atom, q = letter :: q' ∧ piece = .atom atom ∧
        readEscape false (letter :: q' ++ groupEnd) = .ok (atom, rest)) ∨
      q = [] ∧ piece = .atom (.escape ')' (.character ')')) ∧ rest = ['$'] := by
  rw [show readPiece s '\\' (q ++ groupEnd) = (readEscape s.spaced (q ++ groupEnd) >>= fun x =>
    pure (.atom x.1, x.2)) from rfl, hs] at h
  obtain ⟨⟨atom, rest'⟩, hatom, heq⟩ := bind_eq_ok.1 h
  cases heq
  cases q with
  | nil =>
    cases hatom
    exact .inr ⟨rfl, rfl, rfl⟩
  | cons letter q => exact .inl ⟨letter, q, atom, rfl, rfl, hatom⟩

theorem startsWith_of_readPiece (hs : s.spaced = false) (hp : Portable false (c :: q))
    (h : readPiece s c (q ++ groupEnd) = .ok (piece, rest)) (hk : piece.Known) :
    (∃ q', rest = q' ++ groupEnd ∧ StartsWith c q piece q') ∨
      c = '\\' ∧ q = [] ∧ piece = .atom (.escape ')' (.character ')')) ∧ rest = ['$'] := by
  by_cases hescape : c = '\\'
  · subst hescape
    obtain ⟨letter, q', atom, rfl, rfl, hatom⟩ | hend := escape_of_readPiece hs h
    · exact .inl (startsWith_of_escape hp hatom hk)
    · exact .inr ⟨rfl, hend⟩
  obtain ⟨hissue, hrest⟩ := hp.cons hescape
  left
  unfold readPiece at h
  split at h
  next =>
    have hhead : q.head? ≠ some '?' := by
      intro hq
      simp [characterIssue?, hq] at hissue
    rw [hs, readGroup_plain (head_append_groupEnd hhead)] at h
    cases h
    exact ⟨q, rfl, startsWith_of_char hp (by decide) (by decide) rfl rfl fun s hs => by
      simp [readPiece, hs, readGroup_plain hhead]⟩
  next =>
    cases h
    exact ⟨q, rfl, startsWith_of_char hp (by decide) (by decide) trivial rfl fun s hs => rfl⟩
  next =>
    cases h
    exact ⟨q, rfl, startsWith_of_char hp (by decide) (by decide) trivial rfl fun s hs => rfl⟩
  next =>
    rw [hs] at h
    exact startsWith_of_class hp h hk
  next => exact startsWith_of_quantifier (s := s) hp (by simp) (fun _ _ => rfl) h
  next => exact startsWith_of_quantifier (s := s) hp (by simp) (fun _ _ => rfl) h
  next => exact startsWith_of_quantifier (s := s) hp (by simp) (fun _ _ => rfl) h
  next =>
    rw [hs] at h
    exact startsWith_of_counted hp h
  next => exact absurd rfl hescape
  next =>
    cases h
    exact ⟨q, rfl, startsWith_of_char hp (by decide) (by decide) trivial rfl fun s hs => rfl⟩
  next => simp [characterIssue?] at hissue
  next => simp [characterIssue?] at hissue
  next hopen hclose hbar hbracket hopt hstar hplus hbrace hslash hdot hstart hend =>
    cases h
    refine ⟨q, rfl, startsWith_of_char hp hescape hbracket trivial ?_ fun s hs => ?_⟩
    · simpa [Piece.parenthesis?] using And.intro hopen hclose
    · simp only [readPiece]

/-! ## The pieces of a whole text -/

theorem readPiecesAux_nil (fuel : Nat) (s : ReaderState) (offset : Nat) :
    readPiecesAux fuel s offset [] = .ok [] := by
  cases fuel with
  | zero => rfl
  | succ fuel => cases hs : s.spaced <;> simp [readPiecesAux, skip, skipAux, hs]

theorem readPiecesAux_cons (hs : s.spaced = false) (fuel offset : Nat) (cs : List Char) :
    readPiecesAux (fuel + 1) s offset (c :: cs) = readPiece s c cs >>= fun x =>
      let last := offset + (byteSize (c :: cs) - byteSize x.2)
      readPiecesAux fuel (s.after x.1) last x.2 >>= fun ps =>
        .ok (⟨x.1, ⟨offset, last⟩⟩ :: ps) := by
  simp [readPiecesAux, hs]

theorem readPiecesAux_lineEnd {fuel offset : Nat} {pieces : List (Located Piece)}
    (hs : s.spaced = false) (h : readPiecesAux (fuel + 1) s offset ['$'] = .ok pieces) :
    pieces.map (·.value) = [.anchor .lineEnd] := by
  rw [readPiecesAux_cons hs] at h
  simp only [readPiece, ok_bind, readPiecesAux_nil] at h
  cases h
  rfl

/-- The pieces of a portable text within the group around it, and by themselves. The text ends in
the middle of an escape exactly where the escape takes the closing parenthesis. -/
theorem readPiecesAux_groupEnd {fuel offset : Nat} {pieces : List (Located Piece)}
    (hs : s.Quiet) (hp : Portable false q) (hfuel : (q ++ groupEnd).length ≤ fuel)
    (h : readPiecesAux fuel s offset (q ++ groupEnd) = .ok pieces)
    (hk : ∀ p ∈ pieces.map (·.value), p.Known) :
    ∃ ps,
      (pieces.map (·.value) = ps ++ [Piece.closing, .anchor .lineEnd] ∧
        outline q = ⟨parentheses ps, .whole⟩ ∧
        ∀ s' : ReaderState, s'.Quiet → ∀ fuel' offset', q.length ≤ fuel' →
          ∃ own, readPiecesAux fuel' s' offset' q = .ok own ∧ own.map (·.value) = ps) ∨
      (pieces.map (·.value) =
          ps ++ [Piece.atom (.escape ')' (.character ')')), .anchor .lineEnd] ∧
        outline q = ⟨parentheses ps, .inEscape⟩) := by
  induction fuel generalizing q s offset pieces with
  | zero => simp [groupEnd] at hfuel
  | succ fuel ih =>
    cases q with
    | nil =>
      rw [List.nil_append, groupEnd, readPiecesAux_cons hs.spaced, readPiece, ok_bind] at h
      obtain ⟨later, hlater, heq⟩ := bind_eq_ok.1 h
      cases heq
      obtain ⟨fuel, rfl⟩ : ∃ n, fuel = n + 1 := ⟨fuel - 1, by simp [groupEnd] at hfuel; omega⟩
      have hquiet := (hs.after (p := .closing) trivial).spaced
      refine ⟨[], .inl ⟨?_, rfl, fun s' _ fuel' offset' _ => ⟨[], readPiecesAux_nil .., rfl⟩⟩⟩
      simp [readPiecesAux_lineEnd hquiet hlater]
    | cons c q =>
      rw [List.cons_append, readPiecesAux_cons hs.spaced] at h
      obtain ⟨⟨piece, rest⟩, hpiece, hrest⟩ := bind_eq_ok.1 h
      obtain ⟨later, hlater, heq⟩ := bind_eq_ok.1 hrest
      cases heq
      rw [List.map_cons, List.forall_mem_cons] at hk
      simp only [List.cons_append, List.length_cons, List.length_append] at hfuel
      obtain ⟨q', rfl, hstarts⟩ | ⟨rfl, rfl, rfl, rfl⟩ :=
        startsWith_of_readPiece hs.spaced hp hpiece hk.1
      · have hle := hstarts.length_le
        obtain ⟨ps, ⟨hmap, houtline, hown⟩ | ⟨hmap, houtline⟩⟩ :=
          ih (hs.after hstarts.quiet) hstarts.portable (by simp; omega) hlater hk.2
        · refine ⟨piece :: ps, .inl ⟨by simp [hmap], hstarts.outline_eq houtline, ?_⟩⟩
          intro s' hs' fuel' offset' hfuel'
          rw [List.length_cons] at hfuel'
          obtain ⟨fuel', rfl⟩ : ∃ n, fuel' = n + 1 := ⟨fuel' - 1, by omega⟩
          rw [readPiecesAux_cons hs'.spaced, hstarts.read s' hs'.spaced, ok_bind]
          obtain ⟨own, hread, hvalues⟩ := hown _ (hs'.after hstarts.quiet) fuel'
            (offset' + (byteSize (c :: q) - byteSize q')) (by omega)
          exact ⟨_, by simp only [hread, ok_bind]; rfl, by simp [hvalues]⟩
        · exact ⟨piece :: ps, .inr ⟨by simp [hmap], hstarts.outline_eq houtline⟩⟩
      · obtain ⟨fuel, rfl⟩ : ∃ n, fuel = n + 1 := ⟨fuel - 1, by simp [groupEnd] at hfuel; omega⟩
        refine ⟨[], .inr ⟨?_, rfl⟩⟩
        simp [readPiecesAux_lineEnd hs.spaced hlater]

end DocSchema.Pattern
