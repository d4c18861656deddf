import DocSchema.Proofs.Pattern.Brackets
import DocSchema.Proofs.Pattern.Complete

/-!
# How an accepted pattern is read

The pieces that the characters of a pattern are read as, within the text around it. If the check of
a pattern finds nothing, these are pieces that both pattern languages have, apart from classes that
start with a closing bracket and go up to an opening one: what stands between these brackets the
check takes for text outside classes, so it does not see nested classes and set operations there.
-/
namespace DocSchema.Pattern

def ClassTree.hasPortableAtoms (t : ClassTree) : Bool :=
  t.leaves.all fun leaf => leaf.atoms.all Atom.isPortable

/-- Both languages have the piece, and read it in the same way. -/
def Piece.isPortable : Piece → Bool
  | .atom a => a.isPortable
  | .charClass _ inner => inner.isFlat && inner.hasPortableAtoms
  | .opening kind => kind == .plain
  | .repetition _ _ lazy => !lazy
  | .dot | .closing | .bar => true
  | .anchor _ | .flags _ => false

def Piece.startsClosed : Piece → Bool
  | .charClass _ inner => Pattern.startsClosed inner.leaves
  | _ => false

/-- A class that can hide nested classes and set operations from the check: from the closing bracket
at its start the check is outside classes, up to a range that ends in an opening bracket. -/
def Piece.isDisguised : Piece → Bool
  | .charClass _ inner =>
    Pattern.startsClosed inner.leaves && reachesBracket inner.leaves && inner.hasPortableAtoms
  | _ => false

/-- Whether a place is within the pattern, which starts behind the four bytes of an anchor and a
group. -/
def isWithin (pattern : String) (span : Span) : Bool :=
  4 ≤ span.start && span.start < 4 + byteSize pattern.toList

/-- The pieces that the characters of a pattern are read as, where it stands for whole values. -/
def reading (pattern : String) : Except Fault (List (Located Piece)) :=
  (readPieces (anchored pattern)).map fun pieces => pieces.filter fun p => isWithin pattern p.span

def Piece.Passed (p : Piece) : Prop :=
  p.startsClosed = false ∧ p.isPortable = true ∨ p.isDisguised = true

section Places

theorem offset_le_start {fuel offset : Nat} {s : ReaderState} {cs : List Char}
    {pieces : List (Located Piece)} (h : readPiecesAux fuel s offset cs = .ok pieces) :
    ∀ p ∈ pieces, offset ≤ p.span.start := by
  induction fuel generalizing s offset cs pieces with
  | zero =>
    cases h
    simp
  | succ fuel ih =>
    rw [readPiecesAux] at h
    dsimp only at h
    split at h
    · cases h
      simp
    next c after hstart =>
      obtain ⟨⟨piece, rest⟩, -, h⟩ := bind_eq_ok.1 h
      obtain ⟨later, hlater, heq⟩ := bind_eq_ok.1 h
      cases heq
      refine List.forall_mem_cons.2 ⟨Nat.le_add_right .., fun p hp => ?_⟩
      exact (Nat.le_add_right ..).trans (ih hlater p hp)

theorem exists_pieces_of_compile {pattern : String} {r : Regex} (h : compile pattern = .ok r) :
    ∃ later, readPiecesAux ((pattern.toList ++ groupEnd).length + 2) insideGroup 4
        (pattern.toList ++ groupEnd) = .ok later ∧
      reading pattern = .ok (later.filter fun p => isWithin pattern p.span) ∧
      ∀ p ∈ later, p.value.Known := by
  obtain ⟨tree, flags, htree, hregex⟩ := compile_eq_ok h
  obtain ⟨pieces, hpieces, hassemble⟩ := bind_eq_ok.1 htree
  obtain ⟨tree', htree', hdepth⟩ := bind_eq_ok.1 hassemble
  obtain rfl : tree' = tree := by
    split at hdepth
    · cases hdepth
    · exact Except.ok.inj hdepth
  obtain ⟨later, hlater, rfl⟩ := readPieces_anchored hpieces
  refine ⟨later, hlater, ?_, fun p hp => ?_⟩
  · simp [reading, hpieces, Except.map, isWithin]
  · refine Tree.known_of_regex tree' hregex p.value ?_
    rw [pieces_of_assemble htree']
    simp [List.mem_map_of_mem hp]

end Places

section Pieces

variable {s : ReaderState} {c : Char} {q rest : List Char} {piece : Piece}

theorem isPortable_of_counted (hp : Portable false ('\x7b' :: q))
    (h : readCounted false q = .ok (piece, rest)) :
    piece.startsClosed = false ∧ piece.isPortable = true := by
  obtain ⟨body, after, rfl, hb⟩ := List.eq_append_cons_of_mem (brace_mem_of_readCounted h)
  obtain ⟨min, max, hbounds, rfl, rfl⟩ := (readCounted_eq_ok hb).1 h
  have hbrace : Portable false ('\x7d' :: after) :=
    Portable.of_plain (plain_of_bounds hbounds) (hp.cons (by decide)).2
  have hhead : after.head? ≠ some '?' := (portable_brace_iff.1 hbrace).1 rfl
  rw [readLazy_of_head hhead]
  exact ⟨rfl, rfl⟩

theorem passed_of_class (hp : Portable false ('[' :: q))
    (h : readClass false q = .ok (piece, rest)) (hk : piece.Known) : piece.Passed := by
  obtain ⟨negated, inner, rfl⟩ := exists_charClass h
  obtain ⟨hportable, hclosed, hflat⟩ := classScanned_of_readClass h hk hp
  have hatoms : inner.hasPortableAtoms = true := by
    simp only [ClassTree.hasPortableAtoms, List.all_eq_true]
    exact hportable
  cases hstarts : startsClosed inner.leaves with
  | true => exact .inr (by simp [Piece.isDisguised, hstarts, hclosed hstarts, hatoms])
  | false => exact .inl ⟨hstarts, by simp [Piece.isPortable, hflat hstarts, hatoms]⟩

theorem isPortable_of_quantifier {min : Nat} {max : Option Nat} (hp : Portable false (c :: q))
    (hc : c = '?' ∨ c = '*' ∨ c = '+') :
    (Piece.repetition min max (readLazy q).1).isPortable = true := by
  rw [readLazy_of_head (head_of_quantifier hp hc)]
  rfl

theorem passed_of_readPiece (hs : s.spaced = false) (hp : Portable false (c :: q))
    (h : readPiece s c q = .ok (piece, rest)) (hk : piece.Known) : piece.Passed := by
  unfold readPiece at h
  rw [hs] at h
  split at h
  next =>
    have hhead : q.head? ≠ some '?' := by
      intro hq
      simpa [characterIssue?, hq] using (hp.cons (by decide)).1
    rw [readGroup_plain hhead] at h
    cases h
    exact .inl ⟨rfl, rfl⟩
  next =>
    cases h
    exact .inl ⟨rfl, rfl⟩
  next =>
    cases h
    exact .inl ⟨rfl, rfl⟩
  next => exact passed_of_class hp h hk
  next =>
    cases h
    exact .inl ⟨rfl, isPortable_of_quantifier hp (by simp)⟩
  next =>
    cases h
    exact .inl ⟨rfl, isPortable_of_quantifier hp (by simp)⟩
  next =>
    cases h
    exact .inl ⟨rfl, isPortable_of_quantifier hp (by simp)⟩
  next => exact .inl (isPortable_of_counted hp h)
  next =>
    obtain ⟨⟨atom, rest'⟩, hatom, heq⟩ := bind_eq_ok.1 h
    cases heq
    cases q with
    | nil => cases hatom
    | cons letter q =>
      have ha := not_isAssertion_of_portable (hp.escape).1 hatom
      exact .inl ⟨rfl, ((portable_atom_of_escape hatom hk ha).1 hp).1⟩
  next =>
    cases h
    exact .inl ⟨rfl, rfl⟩
  next => simpa [characterIssue?] using (hp.cons (by decide)).1
  next => simpa [characterIssue?] using (hp.cons (by decide)).1
  next =>
    cases h
    exact .inl ⟨rfl, rfl⟩

theorem passed_of_readPiecesAux {fuel offset : Nat} {pieces : List (Located Piece)}
    (hs : s.Quiet) (hp : Portable false q)
    (h : readPiecesAux fuel s offset (q ++ groupEnd) = .ok pieces)
    (hk : ∀ p ∈ pieces, p.value.Known) :
    ∀ p ∈ pieces, p.span.start < offset + byteSize q → p.value.Passed := by
  induction fuel generalizing q s offset pieces with
  | zero =>
    cases h
    simp
  | succ fuel ih =>
    cases q with
    | nil =>
      intro p hp' hlt
      have := offset_le_start h p hp'
      simp only [byteSize_nil] at hlt
      omega
    | cons c q =>
      rw [List.cons_append, readPiecesAux_cons hs.spaced] at h
      obtain ⟨⟨piece, rest⟩, hpiece, hrest⟩ := bind_eq_ok.1 h
      obtain ⟨later, hlater, heq⟩ := bind_eq_ok.1 hrest
      cases heq
      obtain ⟨hknown, hlaterKnown⟩ := List.forall_mem_cons.1 hk
      obtain ⟨q', rfl, hstarts⟩ | ⟨rfl, rfl, rfl, rfl⟩ :=
        startsWith_of_readPiece hs.spaced hp hpiece hknown
      · refine List.forall_mem_cons.2 ⟨fun _ => ?_, fun p hp' hlt => ?_⟩
        · exact passed_of_readPiece hs.spaced hp (hstarts.read s hs.spaced) hknown
        · refine ih (hs.after hstarts.quiet) hstarts.portable hlater hlaterKnown p hp' ?_
          simp only [byteSize_cons, byteSize_append] at hlt ⊢
          omega
      · -- The backslash at the end takes the parenthesis of the group with it.
        refine List.forall_mem_cons.2 ⟨fun _ => .inl ⟨rfl, rfl⟩, fun p hp' hlt => ?_⟩
        have hle := offset_le_start hlater p hp'
        have hsize : byteSize ('\\' :: ([] ++ groupEnd)) - byteSize ['$'] = 2 := rfl
        have hslash : byteSize ['\\'] = 1 := rfl
        rw [hsize] at hle
        omega

end Pieces

/-- All that an accepted pattern is read as is portable: literals, dots, alternatives, greedy
repetitions, plain groups, escapes of the portable list with categories in braces, and classes
without classes or set operations within. Only a class that starts with a closing bracket can be
otherwise, and it has a range to an opening bracket then. -/
theorem accepted_portable_or_disguised {owner : String} {pattern : Located String}
    (h : Link.patternProblems owner pattern = []) :
    ∃ own, reading pattern.value = .ok own ∧ ∀ p ∈ own,
      (p.value.startsClosed = false ∧ p.value.isPortable = true) ∨ p.value.isDisguised = true := by
  obtain ⟨r, hr, hd⟩ := exists_compile_of_patternProblems h
  obtain ⟨later, hlater, hreading, hk⟩ := exists_pieces_of_compile hr
  refine ⟨_, hreading, fun p hp => ?_⟩
  obtain ⟨hmem, hwithin⟩ := List.mem_filter.1 hp
  simp only [isWithin, Bool.and_eq_true, decide_eq_true_eq] at hwithin
  exact passed_of_readPiecesAux insideGroup_quiet ⟨0, hd⟩ hlater hk p hmem hwithin.2

/-- A class that starts with a closing bracket and has a range to an opening one. -/
def guardedPattern : Located String := ⟨"([]A-[a]|\\.)+", ⟨0, 0⟩⟩

theorem accepted_portable_or_disguised_guarded :
    Link.patternProblems "w" guardedPattern = [] ∧
      ∃ own, reading guardedPattern.value = .ok own ∧ own.length = 6 ∧ ∀ p ∈ own,
        (p.value.startsClosed = false ∧ p.value.isPortable = true) ∨
          p.value.isDisguised = true := by
  have haccepted : Link.patternProblems "w" guardedPattern = [] := List.isEmpty_iff.1 (by cbv)
  obtain ⟨own, hown, hall⟩ := accepted_portable_or_disguised haccepted
  refine ⟨haccepted, own, hown, ?_, hall⟩
  have hlength : (reading guardedPattern.value).map List.length = .ok 6 := rfl
  simpa [hown, Except.map] using hlength

/-- A set operation between the brackets passes. The first bracket ends the class for the scan, so
that the two hyphens are outside, and the end of the range opens it again. -/
theorem accepted_of_hidden_difference :
    Link.patternProblems "w" ⟨"[]--!-[]", ⟨0, 0⟩⟩ = [] ∧
      reading "[]--!-[]" = .ok [⟨.charClass false (.binary .difference (.item (.verbatim ']'))
        (.range (.verbatim '!') (.verbatim '['))), ⟨4, 12⟩⟩] ∧
      (Piece.charClass false (.binary .difference (.item (.verbatim ']'))
        (.range (.verbatim '!') (.verbatim '[')))).isPortable = false :=
  ⟨List.isEmpty_iff.1 (by cbv), rfl, rfl⟩

end DocSchema.Pattern
