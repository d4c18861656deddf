import DocSchema.Proofs.Places.Diagnostics

/-!
# Positions and offsets

Lines and columns order the places of a text as their byte offsets do. A position is told by the
characters before it, and it can be read off slices of the text that never cut through a character.
-/
namespace DocSchema

open String.Pos.Raw (IsValid)

/-! ### Bytes of a string -/

theorem byteSize_eq_utf8Len (cs : List Char) : byteSize cs = String.utf8Len cs := by
  induction cs with
  | nil => rfl
  | cons c cs ih => rw [byteSize_cons, ih, String.utf8Len_cons, Nat.add_comm]

theorem byteSize_toList (s : String) : byteSize s.toList = s.utf8ByteSize := by
  rw [byteSize_eq_utf8Len, ← String.utf8ByteSize_ofList, String.ofList_toList]

theorem isValid_iff_boundary {source : String} {n : Nat} :
    IsValid source ⟨n⟩ ↔ Boundary source.toList n := by
  rw [String.Pos.Raw.isValid_iff_exists_append]
  constructor
  · rintro ⟨before, after, rfl, hn⟩
    refine ⟨before.toList, after.toList, String.toList_append, ?_⟩
    rw [byteSize_toList]
    exact (congrArg String.Pos.Raw.byteIdx hn).symm
  · rintro ⟨before, after, htext, rfl⟩
    refine ⟨.ofList before, .ofList after, ?_, ?_⟩
    · rw [← String.ofList_append, ← htext, String.ofList_toList]
    · rw [byteSize_eq_utf8Len, ← String.utf8ByteSize_ofList]
      rfl

theorem exists_append_of_byteSize_lt {text before after before' after' : List Char}
    (h : text = before ++ after) (h' : text = before' ++ after')
    (hlt : byteSize before < byteSize before') :
    ∃ c more, before' = before ++ c :: more ∧ after = c :: more ++ after' := by
  rcases List.append_eq_append_iff.mp (h.symm.trans h') with ⟨more, rfl, rfl⟩ | ⟨more, rfl, -⟩
  · cases more with
    | nil => simp at hlt
    | cons c more => exact ⟨c, more, rfl, rfl⟩
  · rw [byteSize_append] at hlt
    omega

namespace Position

/-- Line and column, ordered by line first. -/
def lex (p : Position) : ℕ ×ₗ ℕ := toLex (p.line, p.column)

/-! ### Walking over characters -/

theorem walk_append (before after : List Char) (n : Nat) (p : Position) :
    walk (before ++ after) (byteSize before + n) p = walk after n (before.foldl next p) := by
  induction before generalizing p with
  | nil => simp
  | cons c cs ih =>
    have hle : c.utf8Size ≤ byteSize (c :: cs) + n := by
      simp only [byteSize_cons]
      omega
    have hrest : byteSize (c :: cs) + n - c.utf8Size = byteSize cs + n := by
      simp only [byteSize_cons]
      omega
    rw [List.cons_append, walk, if_pos hle, hrest, ih, List.foldl_cons]

theorem walk_of_lt {after : List Char} {n : Nat} (h : ∀ c ∈ after.head?, n < c.utf8Size)
    (p : Position) : walk after n p = p := by
  cases after with
  | nil => rfl
  | cons c cs => rw [walk, if_neg (Nat.not_le.mpr (h c rfl))]

theorem ofOffset_append {before after : List Char} {n : Nat}
    (h : ∀ c ∈ after.head?, n < c.utf8Size) :
    ofOffset (before ++ after) (byteSize before + n) = before.foldl next first := by
  rw [ofOffset, walk_append, walk_of_lt h]

theorem ofOffset_boundary (before after : List Char) :
    ofOffset (before ++ after) (byteSize before) = before.foldl next first :=
  ofOffset_append (n := 0) fun c _ => c.utf8Size_pos

theorem foldl_next (before : List Char) : before.foldl next first =
    ⟨before.count '\n' + 1, (before.rtakeWhile (· != '\n')).length + 1⟩ := by
  induction before using List.reverseRecOn with
  | nil => rfl
  | append_singleton cs c ih =>
    rw [List.foldl_concat, ih, next, List.rtakeWhile_concat, List.count_append]
    by_cases hc : c = '\n' <;> simp [hc]

/-! ### Order -/

theorem lex_lt_next (p : Position) (c : Char) : p.lex < (p.next c).lex := by
  rw [lex, lex, Prod.Lex.toLex_lt_toLex, next]
  split_ifs
  · exact .inl (Nat.lt_succ_self _)
  · exact .inr ⟨rfl, Nat.lt_succ_self _⟩

theorem lex_le_foldl_next (cs : List Char) (p : Position) : p.lex ≤ (cs.foldl next p).lex := by
  induction cs generalizing p with
  | nil => exact le_rfl
  | cons c cs ih => exact (lex_lt_next p c).le.trans (ih (p.next c))

theorem lex_ofOffset_lt {text : List Char} {m n : Nat} (hm : Boundary text m)
    (hn : Boundary text n) (h : m < n) : (ofOffset text m).lex < (ofOffset text n).lex := by
  obtain ⟨before, after, htext, rfl⟩ := hm
  obtain ⟨before', after', htext', rfl⟩ := hn
  obtain ⟨c, more, hmore, -⟩ := exists_append_of_byteSize_lt htext htext' h
  calc (ofOffset text (byteSize before)).lex
      = (before.foldl next first).lex := by rw [htext, ofOffset_boundary]
    _ < ((before.foldl next first).next c).lex := lex_lt_next _ c
    _ ≤ (more.foldl next ((before.foldl next first).next c)).lex := lex_le_foldl_next more _
    _ = (before'.foldl next first).lex := by rw [hmore, List.foldl_append, List.foldl_cons]
    _ = (ofOffset text (byteSize before')).lex := by rw [htext', ofOffset_boundary]

theorem boundary_unique {text : List Char} {m n : Nat} (hm : Boundary text m)
    (hn : Boundary text n) (h : ofOffset text m = ofOffset text n) : m = n := by
  rcases lt_trichotomy m n with hlt | heq | hlt
  · exact absurd (lex_ofOffset_lt hm hn hlt) (by rw [h]; exact lt_irrefl _)
  · exact heq
  · exact absurd (lex_ofOffset_lt hn hm hlt) (by rw [h]; exact lt_irrefl _)

/-! ### Slices -/

/-- The last offset between two characters that is not behind a given one. An offset past the end
counts as the end. -/
def floorOffset (source : String) (offset : Nat) : Nat :=
  Nat.findGreatest (fun n => IsValid source ⟨n⟩) (min offset source.utf8ByteSize)

def lastNewline? : List Char → Option Nat
  | [] => none
  | c :: cs => ((lastNewline? cs).map (c.utf8Size + ·)).or (if c = '\n' then some 0 else none)

def lineStart (text : List Char) : Nat := (lastNewline? text).elim 0 (· + 1)

/-- The position of an offset, read off the text before it and the last line there. There is none
where a slice would cut through a character. -/
def sliced? (source : String) (offset : Nat) : Option Position := do
  let before ← Span.slice? ⟨0, floorOffset source offset⟩ source.toList
  let line ← Span.slice? ⟨lineStart before, byteSize before⟩ before
  return ⟨before.count '\n' + 1, line.length + 1⟩

/-- Every text is cut by an offset in what lies before it and a rest, whose first character, if it
has one, ends behind the offset. -/
theorem exists_cut (text : List Char) (offset : Nat) :
    ∃ before after, text = before ++ after ∧ byteSize before ≤ offset ∧
      ∀ c ∈ after.head?, offset < byteSize before + c.utf8Size := by
  induction text generalizing offset with
  | nil => exact ⟨[], [], rfl, Nat.zero_le _, by simp⟩
  | cons c cs ih =>
    by_cases hc : c.utf8Size ≤ offset
    · obtain ⟨before, after, rfl, hle, hlt⟩ := ih (offset - c.utf8Size)
      refine ⟨c :: before, after, rfl, ?_, fun d hd => ?_⟩
      · simp only [byteSize_cons]
        omega
      · have := hlt d hd
        simp only [byteSize_cons]
        omega
    · refine ⟨[], c :: cs, rfl, Nat.zero_le _, fun d hd => ?_⟩
      cases hd
      simp only [byteSize_nil]
      omega

theorem floorOffset_eq {source : String} {offset : Nat} {before after : List Char}
    (htext : source.toList = before ++ after) (hle : byteSize before ≤ offset)
    (hlt : ∀ c ∈ after.head?, offset < byteSize before + c.utf8Size) :
    floorOffset source offset = byteSize before := by
  have hsize : source.utf8ByteSize = byteSize before + byteSize after := by
    rw [← byteSize_toList, htext, byteSize_append]
  refine Nat.findGreatest_eq_iff.mpr ⟨by omega, fun _ => ?_, fun n hn hmax hvalid => ?_⟩
  · exact isValid_iff_boundary.mpr ⟨before, after, htext, rfl⟩
  · -- a further boundary would be behind the next character
    obtain ⟨before', after', htext', rfl⟩ := isValid_iff_boundary.mp hvalid
    obtain ⟨c, more, rfl, rfl⟩ := exists_append_of_byteSize_lt htext htext' hn
    have := hlt c rfl
    simp only [byteSize_append, byteSize_cons] at hmax
    omega

theorem lastNewline?_concat (cs : List Char) (c : Char) : lastNewline? (cs ++ [c]) =
    if c = '\n' then some (byteSize cs) else lastNewline? cs := by
  induction cs with
  | nil => simp [lastNewline?]
  | cons d cs ih =>
    rw [List.cons_append, lastNewline?, ih]
    by_cases hc : c = '\n'
    · simp [hc]
    · rw [if_neg hc, if_neg hc, lastNewline?]

theorem lineStart_eq (text : List Char) :
    lineStart text = byteSize (text.rdropWhile (· != '\n')) := by
  induction text using List.reverseRecOn with
  | nil => rfl
  | append_singleton cs c ih =>
    rw [lineStart] at ih
    rw [lineStart, lastNewline?_concat, List.rdropWhile_concat]
    by_cases hc : c = '\n'
    · have hone : '\n'.utf8Size = 1 := rfl
      simp [hc, hone]
    · simp [hc, ih]

theorem sliced?_eq (source : String) (offset : Nat) :
    sliced? source offset = some (ofOffset source.toList offset) := by
  obtain ⟨before, after, htext, hle, hlt⟩ := exists_cut source.toList offset
  obtain ⟨n, rfl⟩ := Nat.exists_eq_add_of_le hle
  have hbefore : Span.slice? ⟨0, byteSize before⟩ source.toList = some before := by
    simpa [htext] using Span.slice?_append [] before after
  have hline : Span.slice? ⟨lineStart before, byteSize before⟩ before =
      some (before.rtakeWhile (· != '\n')) := by
    have hcut := Span.slice?_append (before.rdropWhile (· != '\n'))
      (before.rtakeWhile (· != '\n')) []
    rwa [← byteSize_append, List.append_nil, List.rdropWhile_append_rtakeWhile, ← lineStart_eq]
      at hcut
  have hposition : ofOffset source.toList (byteSize before + n) = before.foldl next first := by
    rw [htext]
    exact ofOffset_append fun c hc => Nat.lt_of_add_lt_add_left (hlt c hc)
  rw [sliced?, floorOffset_eq htext hle hlt, hbefore, hposition, foldl_next]
  simp [hline]

end Position

/-- A later place between two characters of a text is later by line and column, so a position, as
the diagnostics of a text report it, belongs to one place. The line is one plus the newlines before
the place, the column one plus the characters since the last of them. An offset in a character has
the position of the character, one past the end that of the end, and no slice from which the
position is read cuts through a character. -/
theorem position_identifies_place (source : String) :
    (∀ s t : Span, IsValid source ⟨s.start⟩ → IsValid source ⟨t.start⟩ → s.start < t.start →
      (s.position source).lex < (t.position source).lex) ∧
    (∀ s t : Span, IsValid source ⟨s.start⟩ → IsValid source ⟨t.start⟩ →
      s.position source = t.position source → s.start = t.start) ∧
    (∀ d ∈ diagnosticsOf source, ∀ e ∈ diagnosticsOf source, ∀ l ∈ d.labels, ∀ m ∈ e.labels,
      l.span.position source = m.span.position source → l.span.start = m.span.start) ∧
    (∀ (s : Span) (before after : String), source = before ++ after →
      s.start = before.utf8ByteSize → s.position source =
        ⟨before.toList.count '\n' + 1, (before.toList.rtakeWhile (· != '\n')).length + 1⟩) ∧
    (∀ (s t : Span) (before after : String) (c : Char),
      source = before ++ String.singleton c ++ after → s.start = before.utf8ByteSize →
      s.start ≤ t.start → t.start < s.start + c.utf8Size →
      t.position source = s.position source) ∧
    (∀ s t : Span, s.start = source.utf8ByteSize → s.start ≤ t.start →
      t.position source = s.position source) ∧
    ∀ s : Span, Position.sliced? source s.start = some (s.position source) := by
  refine ⟨fun s t hs ht => ?_, fun s t hs ht => ?_, fun d hd e he l hl m hm => ?_,
    fun s before after hsource hs => ?_, fun s t before after c hsource hs hle hlt => ?_,
    fun s t hs hle => ?_, fun s => Position.sliced?_eq source s.start⟩
  · exact Position.lex_ofOffset_lt (isValid_iff_boundary.mp hs) (isValid_iff_boundary.mp ht)
  · exact Position.boundary_unique (isValid_iff_boundary.mp hs) (isValid_iff_boundary.mp ht)
  · exact Position.boundary_unique ((diagnosticsOf_placed hd).within l hl).boundary
      ((diagnosticsOf_placed he).within m hm).boundary
  · rw [Span.position, hs, hsource, String.toList_append, ← byteSize_toList,
      Position.ofOffset_boundary, Position.foldl_next]
  · obtain ⟨n, hn⟩ := Nat.exists_eq_add_of_le hle
    have htext : source.toList = before.toList ++ c :: after.toList := by simp [hsource]
    rw [Span.position, Span.position, hn, hs, ← byteSize_toList, htext,
      Position.ofOffset_boundary]
    refine Position.ofOffset_append fun d hd => ?_
    cases hd
    omega
  · obtain ⟨n, hn⟩ := Nat.exists_eq_add_of_le hle
    have hend := Position.ofOffset_boundary source.toList []
    have hpast : Position.ofOffset (source.toList ++ []) (byteSize source.toList + n) = _ :=
      Position.ofOffset_append (by simp)
    rw [List.append_nil, byteSize_toList] at hend hpast
    rw [Span.position, Span.position, hn, hs, hpast, hend]

/-- Two lines with characters of one, two and three bytes, of which two start no token. -/
def wideSource : String := "é\n€x"

theorem position_identifies_place_wide :
    IsValid wideSource ⟨2⟩ ∧ IsValid wideSource ⟨6⟩ ∧ wideSource.utf8ByteSize = 7 ∧
      ((Span.point 2).position wideSource).lex < ((Span.point 6).position wideSource).lex ∧
      (Span.point 2).position wideSource ≠ (Span.point 6).position wideSource ∧
      (∃ d ∈ diagnosticsOf wideSource, ∃ e ∈ diagnosticsOf wideSource, ∃ l ∈ d.labels,
        ∃ m ∈ e.labels, l.span.position wideSource ≠ m.span.position wideSource) ∧
      (Span.point 6).position wideSource = ⟨2, 2⟩ ∧
      (Span.point 5).position wideSource = (Span.point 3).position wideSource ∧
      (Span.point 40).position wideSource = (Span.point 7).position wideSource := by
  have htext : wideSource.toList = ['é', '\n', '€', 'x'] := String.toList_ofList
  have hnewline : IsValid wideSource ⟨2⟩ :=
    isValid_iff_boundary.mpr ⟨['é'], ['\n', '€', 'x'], htext, by decide⟩
  have hletter : IsValid wideSource ⟨6⟩ :=
    isValid_iff_boundary.mpr ⟨['é', '\n', '€'], ['x'], htext, by decide⟩
  have hsize : wideSource.utf8ByteSize = 7 := by
    rw [← byteSize_toList, htext]
    decide
  have hreports : ∃ d ∈ diagnosticsOf wideSource, ∃ e ∈ diagnosticsOf wideSource, ∃ l ∈ d.labels,
      ∃ m ∈ e.labels, l.span.start ≠ m.span.start := by
    rw [diagnosticsOf_of_scan htext]
    decide
  obtain ⟨hlt, hone, hreported, hposition, hinside, hpast, -⟩ :=
    position_identifies_place wideSource
  refine ⟨hnewline, hletter, hsize, hlt _ _ hnewline hletter (by decide), fun he => ?_, ?_, ?_, ?_,
    ?_⟩
  · exact absurd (hone _ _ hnewline hletter he) (by decide)
  · obtain ⟨d, hd, e, he, l, hl, m, hm, hne⟩ := hreports
    exact ⟨d, hd, e, he, l, hl, m, hm, fun hp => hne (hreported d hd e he l hl m hm hp)⟩
  · exact hposition (.point 6) "é\n€" "x" rfl rfl
  · exact hinside (.point 3) (.point 5) "é\n" "x" '€' rfl rfl (by decide) (by decide)
  · exact hpast (.point 7) (.point 40) hsize.symm (by decide)

end DocSchema
