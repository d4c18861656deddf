import DocSchema.Proofs.Pattern.Reading

/-!
# Portable patterns that look foreign

The scan for foreign constructs judges a character by the next one, without knowing what it belongs
to. Some portable patterns look foreign to it: a question mark behind the brace of a category or
behind a brace that stands for itself looks like a lazy repetition, two hyphens, ampersands or
tildes in a class look like a set operation, and an opening bracket at the end of a range looks like
a nested class. Where no class starts with a closing bracket, these are the only false alarms.
-/
namespace DocSchema.Pattern

/-! ## Classes -/

/-- The signs that combine sets where they stand twice. -/
def doubled : List Char := ['&', '-', '~']

/-- In a class, the names of the category have no two hyphens side by side. -/
def Atom.HyphensApart : Atom → Prop
  | .escape _ (.property query _) => query.HyphensApart
  | _ => True

namespace ClassTree

def firstAtom? : ClassTree → Option Atom
  | .item a => some a
  | .range first _ => some first
  | _ => none

def lastAtom? : ClassTree → Option Atom
  | .item a => some a
  | .range _ last => some last
  | _ => none

def firstChar (t : ClassTree) : Char := (t.firstAtom?.map Atom.firstChar).getD '['

end ClassTree

/-- The last character of one leaf and the first of the next look like a set operation. -/
def Doubles (x y : ClassTree) : Prop :=
  ∃ c ∈ doubled, x.lastAtom? = some (.verbatim c) ∧ y.firstAtom? = some (.verbatim c)

/-- Nothing in a flat class looks foreign. -/
structure ClearClass (leaves : List ClassTree) : Prop where
  apart : leaves.IsChain fun x y => ¬Doubles x y
  reach : reachesBracket leaves = false
  names : ∀ leaf ∈ leaves, ∀ a ∈ leaf.atoms, a.HyphensApart

def ClassTree.ClearBefore (t : ClassTree) (d : Char) : Prop :=
  (∀ a ∈ t.atoms, a.HyphensApart) ∧ t.isRangeToBracket = false ∧
    ¬(d ∈ doubled ∧ t.lastAtom? = some (.verbatim d))

def headChar (leaves : List ClassTree) : Char := (leaves.head?.map ClassTree.firstChar).getD ']'

section Classes

variable {cs rest : List Char} {item : ClassTree} {leaves : List ClassTree}
  {current read : OpenClass} {outer : List OpenClass}

theorem clearClass_nil : ClearClass [] := ⟨.nil, rfl, by simp⟩

theorem doubles_iff {x y : ClassTree} (hy : y.isSimple = true) :
    Doubles x y ↔ y.firstChar ∈ doubled ∧ x.lastAtom? = some (.verbatim y.firstChar) := by
  obtain ⟨b, hb⟩ : ∃ b, y.firstAtom? = some b := by
    cases y <;> simp_all [ClassTree.isSimple, ClassTree.firstAtom?]
  simp only [Doubles, ClassTree.firstChar, hb, Option.map_some, Option.getD_some, Option.some.injEq]
  cases b with
  | verbatim d =>
    simp only [Atom.firstChar, Atom.verbatim.injEq]
    constructor
    · rintro ⟨c, hc, hlast, rfl⟩
      exact ⟨hc, hlast⟩
    · rintro ⟨hd, hlast⟩
      exact ⟨d, hd, hlast, rfl⟩
  | escape letter m =>
    simp [Atom.firstChar, doubled]

theorem clearClass_cons (hleaves : ∀ y ∈ leaves, y.isSimple = true) :
    ClearClass (item :: leaves) ↔ item.ClearBefore (headChar leaves) ∧ ClearClass leaves := by
  have hnext : (∀ y ∈ leaves.head?, ¬Doubles item y) ↔
      ¬(headChar leaves ∈ doubled ∧ item.lastAtom? = some (.verbatim (headChar leaves))) := by
    cases leaves with
    | nil => simp [headChar, doubled]
    | cons y leaves =>
      have hy := hleaves y (by simp)
      simp only [List.head?_cons, Option.mem_def, Option.some.injEq, forall_eq', headChar,
        Option.map_some, Option.getD_some, doubles_iff hy]
  constructor
  · rintro ⟨hapart, hreach, hnames⟩
    rw [List.isChain_cons, hnext] at hapart
    simp only [reachesBracket, List.any_cons, Bool.or_eq_false_iff] at hreach
    obtain ⟨hname, hnames⟩ := List.forall_mem_cons.1 hnames
    exact ⟨⟨hname, hreach.1, hapart.1⟩, hapart.2, hreach.2, hnames⟩
  · rintro ⟨⟨hname, hrange, hhead⟩, hapart, hreach, hnames⟩
    refine ⟨?_, ?_, List.forall_mem_cons.2 ⟨hname, hnames⟩⟩
    · rw [List.isChain_cons, hnext]
      exact ⟨hhead, hapart⟩
    · simp only [reachesBracket, List.any_cons, Bool.or_eq_false_iff]
      exact ⟨hrange, hreach⟩

theorem Atom.passes_iff {a : Atom} {d : Char} :
    a.Passes true (some d) ↔
      a.HyphensApart ∧ a ≠ .verbatim '[' ∧ ¬(d ∈ doubled ∧ a = .verbatim d) := by
  cases a with
  | verbatim c =>
    by_cases hbracket : c = '['
    · simp [Atom.Passes, characterIssue?, hbracket]
    · simp only [Atom.Passes, characterIssue?, Atom.HyphensApart, Atom.verbatim.injEq, doubled]
      by_cases hcd : c = d
      · subst hcd
        simp [hbracket]
        tauto
      · simp [hcd, Ne.symm hcd]
  | escape letter m =>
    cases m <;> simp [Atom.Passes, Atom.HyphensApart]

theorem Atom.classAfter_true {a : Atom} (hclose : a.firstChar ≠ ']') :
    a.classAfter true = true := by
  cases a with
  | verbatim c => simpa [classAfter, Pattern.classAfter, firstChar] using hclose
  | escape letter m => rfl

theorem eq_cons_of_verbatim {c : Char} (h : readClassAtom false cs = .ok (.verbatim c, rest)) :
    cs = c :: rest := by
  unfold readClassAtom at h
  split at h
  · cases h
  next cs =>
    cases cs with
    | nil => cases h
    | cons letter cs =>
      obtain ⟨m, heq⟩ := exists_escape h
      cases heq
  · cases h
    rfl

theorem isSimple_of_readClassItem (h : readClassItem false cs = .ok (item, rest)) :
    item.isSimple = true := by
  obtain ⟨a, rfl, -⟩ | ⟨first, last, after, rfl, -⟩ := readClassItem_cases h <;> rfl

theorem portable_item_iff {d : Char} (h : readClassItem false cs = .ok (item, d :: rest))
    (hk : item.Known) (hatoms : ∀ a ∈ item.atoms, a.isPortable = true)
    (hopen : cs.head? ≠ some '[') (hclose : cs.head? ≠ some ']')
    (hminus : ∀ tail, cs ≠ '-' :: '-' :: tail) :
    cs.head? = some item.firstChar ∧
      (Portable true cs ↔ item.ClearBefore d ∧ Portable true (d :: rest)) := by
  obtain ⟨a, rfl, ha, hread⟩ | ⟨first, last, after, rfl, hfirst, hlast, hread, hread', hbracket,
    hhyphen⟩ := readClassItem_cases h
  · have hhead := head_of_readClassAtom hread
    rw [hhead, ne_eq, Option.some.injEq] at hopen hclose
    have hne : a ≠ .verbatim '[' := by
      rintro rfl
      exact hopen rfl
    have hportable : a.isPortable = true := hatoms a (by simp [ClassTree.atoms])
    refine ⟨hhead, ?_⟩
    rw [portable_atom_iff hread hk ha, Atom.classAfter_true hclose, List.head?_cons,
      Atom.passes_iff]
    simp [hportable, hne, ClassTree.ClearBefore, ClassTree.atoms, ClassTree.isRangeToBracket,
      ClassTree.lastAtom?]
  · have hhead := head_of_readClassAtom hread
    rw [hhead, ne_eq, Option.some.injEq] at hopen hclose
    have hportable : first.isPortable = true ∧ last.isPortable = true := by
      simpa [ClassTree.atoms] using hatoms
    have hne : first ≠ .verbatim '[' := by
      rintro rfl
      exact hopen rfl
    -- A hyphen in front of the hyphen would be an operation.
    have hne' : first ≠ .verbatim '-' := by
      rintro rfl
      exact hminus after (eq_cons_of_verbatim hread)
    have hsign : Portable true ('-' :: after) ↔ Portable true after := by
      rw [portable_cons_iff (by decide)]
      simp [characterIssue?, classAfter, hhyphen]
    have hreach : (ClassTree.range first last).isRangeToBracket = false ↔ last ≠ .verbatim '[' := by
      cases last <;> simp [ClassTree.isRangeToBracket]
    rw [head_of_readClassAtom hread', ne_eq, Option.some.injEq] at hbracket
    refine ⟨hhead, ?_⟩
    rw [portable_atom_iff hread hfirst.1 hfirst.2, Atom.classAfter_true hclose, List.head?_cons,
      Atom.passes_iff, hsign, portable_atom_iff hread' hlast.1 hlast.2,
      Atom.classAfter_true hbracket, List.head?_cons, Atom.passes_iff, ClassTree.ClearBefore,
      hreach]
    simp only [hportable.1, hportable.2, hne', ClassTree.atoms, ClassTree.lastAtom?,
      List.forall_mem_cons, List.not_mem_nil, Option.some.injEq, and_false, not_false_iff]
    tauto

theorem flat_of_readClassAux {n : Nat}
    (h : readClassAux false n outer current cs = .ok (read, rest)) (hf : read.Flat) :
    outer = [] ∧ current.Flat := by
  induction n generalizing outer current cs with
  | zero => cases h
  | succ n ih =>
    have hoperate : ∀ {op : ClassOp}, ¬(current.operate op).Flat := by
      rintro op ⟨hleft, -⟩
      cases hleft
    rw [readClassAux, skip_false] at h
    split at h
    · cases h
    next cs =>
      split at h
      next item rest' hnamed =>
        obtain ⟨ranges, negated, rfl⟩ := exists_named hnamed
        cases (OpenClass.flat_push.1 (ih h).2).1
      next hnamed =>
        obtain ⟨⟨inner, rest'⟩, -, hread⟩ := bind_eq_ok.1 h
        cases (ih hread).1
    next cs =>
      split at h
      next =>
        cases h
        exact ⟨rfl, hf⟩
      next parent outer => cases (OpenClass.flat_push.1 (ih h).2).1
    next cs => exact absurd (ih h).2 hoperate
    next cs => exact absurd (ih h).2 hoperate
    next cs => exact absurd (ih h).2 hoperate
    next =>
      obtain ⟨⟨item, rest'⟩, -, hread⟩ := bind_eq_ok.1 h
      obtain ⟨houter, hflat⟩ := ih hread
      exact ⟨houter, (OpenClass.flat_push.1 hflat).2⟩

theorem portable_leaves_iff {n : Nat} (h : readClassAux false n [] current cs = .ok (read, rest))
    (hk : read.Known) (hf : read.Flat)
    (hatoms : ∀ leaf ∈ read.leaves, ∀ a ∈ leaf.atoms, a.isPortable = true) :
    ∃ more, read.leaves = current.leaves ++ more ∧ (∀ leaf ∈ more, leaf.isSimple = true) ∧
      cs.head? = some (headChar more) ∧
      (Portable true cs ↔ ClearClass more ∧ Portable false rest) := by
  induction n generalizing current cs with
  | zero => cases h
  | succ n ih =>
    rw [readClassAux, skip_false] at h
    split at h
    · cases h
    next cs =>
      split at h
      next item rest' hnamed =>
        obtain ⟨ranges, negated, rfl⟩ := exists_named hnamed
        cases (OpenClass.flat_push.1 (flat_of_readClassAux h hf).2).1
      next hnamed =>
        obtain ⟨⟨inner, rest'⟩, -, hread⟩ := bind_eq_ok.1 h
        cases (flat_of_readClassAux hread hf).1
    next cs =>
      cases h
      refine ⟨[], by simp, by simp, rfl, ?_⟩
      rw [portable_cons_iff (by decide)]
      simp [characterIssue?, classAfter, clearClass_nil]
    next cs => cases (flat_of_readClassAux h hf).2.1
    next cs => cases (flat_of_readClassAux h hf).2.1
    next cs => cases (flat_of_readClassAux h hf).2.1
    next hnil hopen hclose hand hminus htilde =>
      obtain ⟨⟨item, rest'⟩, hitem, hread⟩ := bind_eq_ok.1 h
      have hknown := (OpenClass.known_push.1 (classTaken_of_readClassAux hread hk).current_known).1
      obtain ⟨more, hleaves, hsimple, hhead, hiff⟩ := ih hread
      obtain ⟨tail, rfl⟩ := List.head?_eq_some_iff.1 hhead
      have hitemSimple := isSimple_of_readClassItem hitem
      have hall : read.leaves = current.leaves ++ item :: more := by
        rw [hleaves, OpenClass.leaves_push, ClassTree.leaves_of_isSimple hitemSimple]
        simp
      have hitemAtoms : ∀ a ∈ item.atoms, a.isPortable = true := hatoms item (by simp [hall])
      obtain ⟨hfirst, hstep⟩ := portable_item_iff hitem hknown hitemAtoms
        (fun hc => by
          obtain ⟨tail, rfl⟩ := List.head?_eq_some_iff.1 hc
          exact hopen tail rfl)
        (fun hc => by
          obtain ⟨tail, rfl⟩ := List.head?_eq_some_iff.1 hc
          exact hclose tail rfl)
        hminus
      refine ⟨item :: more, hall, List.forall_mem_cons.2 ⟨hitemSimple, hsimple⟩, ?_, ?_⟩
      · simpa [headChar] using hfirst
      · rw [hstep, hiff, clearClass_cons hsimple, and_assoc]

theorem portable_hyphens_iff (k : Nat) (hsimple : ∀ leaf ∈ leaves, leaf.isSimple = true)
    (hhead : cs.head? = some (headChar leaves))
    (h : Portable true cs ↔ ClearClass leaves ∧ Portable false rest) :
    Portable true (List.replicate k '-' ++ cs) ↔
      ClearClass (List.replicate k (ClassTree.item (.verbatim '-')) ++ leaves) ∧
        Portable false rest := by
  induction k with
  | zero => simpa using h
  | succ k ih =>
    have hall : ∀ leaf ∈ List.replicate k (ClassTree.item (.verbatim '-')) ++ leaves,
        leaf.isSimple = true := by
      refine List.forall_mem_append.2 ⟨fun leaf hleaf => ?_, hsimple⟩
      rw [List.eq_of_mem_replicate hleaf]
      rfl
    have hnext : (List.replicate k '-' ++ cs).head? =
        some (headChar (List.replicate k (ClassTree.item (.verbatim '-')) ++ leaves)) := by
      cases k with
      | zero => exact hhead
      | succ k => rfl
    have hissue : characterIssue? true '-' (List.replicate k '-' ++ cs).head? = none ↔
        (ClassTree.item (.verbatim '-')).ClearBefore
          (headChar (List.replicate k (ClassTree.item (.verbatim '-')) ++ leaves)) := by
      rw [hnext]
      generalize headChar _ = d
      by_cases hd : d = '-'
      · simp [hd, characterIssue?, ClassTree.ClearBefore, doubled, ClassTree.lastAtom?]
      · simp [hd, Ne.symm hd, characterIssue?, ClassTree.ClearBefore, ClassTree.lastAtom?,
          ClassTree.atoms, Atom.HyphensApart, ClassTree.isRangeToBracket]
    rw [List.replicate_succ, List.replicate_succ, List.cons_append, List.cons_append,
      portable_cons_iff (by decide), hissue, show classAfter true '-' = true from rfl, ih,
      clearClass_cons hall, and_assoc]

theorem portable_class_iff {negated : Bool} {inner : ClassTree}
    (h : readClass false cs = .ok (.charClass negated inner, rest)) (hk : inner.Known)
    (hflat : inner.isFlat = true) (hatoms : inner.hasPortableAtoms = true)
    (hstart : startsClosed inner.leaves = false) :
    Portable false ('[' :: cs) ↔ ClearClass inner.leaves ∧ Portable false rest := by
  obtain ⟨⟨start, rest₁⟩, hopen, h⟩ := bind_eq_ok.1 h
  obtain ⟨⟨read, rest₂⟩, hread, heq⟩ := bind_eq_ok.1 h
  cases heq
  simp only [ClassTree.hasPortableAtoms, List.all_eq_true] at hatoms
  rw [OpenClass.leaves_tree] at hatoms hstart ⊢
  obtain ⟨more, hleaves, hsimple, hhead, hiff⟩ := portable_leaves_iff hread
    (OpenClass.known_tree.1 hk) (OpenClass.isFlat_tree_iff.1 hflat) hatoms
  obtain ⟨mark, lead, rfl, hmark, hlead, -, hstartLeaves⟩ := openClass_cases hopen
  have hinside : Portable false ('[' :: (mark ++ (lead ++ rest₁))) ↔
      Portable true (lead ++ rest₁) := by
    rw [portable_cons_iff (by decide)]
    obtain rfl | rfl := hmark
    · simp [characterIssue?, classAfter]
    · rw [List.cons_append, List.nil_append, show classAfter false '[' = true from rfl,
        portable_cons_iff (by decide)]
      simp [characterIssue?, classAfter]
  rw [hinside, hleaves, hstartLeaves]
  obtain rfl | ⟨k, rfl, -, -⟩ := hlead
  · rw [hleaves, hstartLeaves] at hstart
    cases hstart
  · rw [List.map_replicate]
    exact portable_hyphens_iff k hsimple hhead hiff

end Classes

/-! ## Pieces -/

namespace Piece

/-- A closing bracket outside classes. -/
def isClosingBracket : Piece → Bool
  | .atom (.verbatim c) => c == ']'
  | _ => false

/-- The piece ends in a closing brace that is not that of a repetition. -/
def endsInBrace : Piece → Bool
  | .atom (.verbatim c) => c == '\x7d'
  | .atom (.escape _ (.property _ _)) => true
  | _ => false

def isOption : Piece → Bool
  | .repetition 0 (some 1) _ => true
  | _ => false

/-- Nothing within the piece looks foreign. -/
def Clear : Piece → Prop
  | .charClass _ inner => ClearClass inner.leaves
  | _ => True

end Piece

/-- A question mark, and not a repetition with the same bounds in braces. -/
def isOptionMark (p : Located Piece) : Bool := p.value.isOption && p.span.stop == p.span.start + 1

/-- Nothing in the pieces of a pattern looks foreign. -/
structure ClearReading (own : List (Located Piece)) : Prop where
  apart : own.IsChain fun x y => ¬(x.value.endsInBrace = true ∧ isOptionMark y = true)
  clear : ∀ p ∈ own, p.value.Clear

/-- The text starts with a piece, and the scan goes on behind the piece if that is clear. -/
structure ScansAs (c : Char) (q : List Char) (piece : Piece) (q' : List Char) : Prop where
  quiet : piece.Quiet
  suffix : q' <:+ q
  option : c = '?' ↔ piece.isOption = true ∧ byteSize (c :: q) = byteSize q' + 1
  portable : Portable false (c :: q) ↔
    (piece.Clear ∧ ¬(piece.endsInBrace = true ∧ q'.head? = some '?')) ∧ Portable false q'

section Pieces

variable {s : ReaderState} {c : Char} {q rest : List Char} {piece : Piece}

theorem clearReading_cons {p : Located Piece} {own : List (Located Piece)} :
    ClearReading (p :: own) ↔
      (p.value.Clear ∧ ¬(p.value.endsInBrace = true ∧ own.head?.any isOptionMark = true)) ∧
        ClearReading own := by
  have hnext : (∀ y ∈ own.head?, ¬(p.value.endsInBrace = true ∧ isOptionMark y = true)) ↔
      ¬(p.value.endsInBrace = true ∧ own.head?.any isOptionMark = true) := by
    cases own.head? <;> simp
  constructor
  · rintro ⟨hapart, hclear⟩
    rw [List.isChain_cons, hnext] at hapart
    obtain ⟨hp, hclear⟩ := List.forall_mem_cons.1 hclear
    exact ⟨⟨hp, hapart.1⟩, hapart.2, hclear⟩
  · rintro ⟨⟨hp, hhead⟩, hapart, hclear⟩
    refine ⟨?_, List.forall_mem_cons.2 ⟨hp, hclear⟩⟩
    rw [List.isChain_cons, hnext]
    exact ⟨hhead, hapart⟩

theorem scansAs_of_char (hslash : c ≠ '\\') (hbracket : c ≠ '[') (hquiet : piece.Quiet)
    (hclear : piece.Clear) (hoption : c = '?' ↔ piece.isOption = true)
    (hissue : characterIssue? false c q.head? = none ↔
      ¬(piece.endsInBrace = true ∧ q.head? = some '?')) :
    ScansAs c q piece q := by
  refine ⟨hquiet, List.suffix_rfl, ?_, ?_⟩
  · refine ⟨?_, fun h => hoption.2 h.1⟩
    rintro rfl
    exact ⟨hoption.1 rfl, Nat.add_comm ..⟩
  · rw [portable_cons_iff hslash, hissue,
      show classAfter false c = false by simp [classAfter, hbracket]]
    simp [hclear]

theorem head_of_greedy (h : (readLazy (q ++ groupEnd)).1 = false) : q.head? ≠ some '?' := by
  intro hq
  obtain ⟨tail, rfl⟩ := List.head?_eq_some_iff.1 hq
  cases h

theorem head_of_portable_group {names : List String}
    (h : readGroup false names q = .ok (piece, rest)) (hp : piece.isPortable = true) :
    q.head? ≠ some '?' := by
  intro hq
  obtain ⟨tail, rfl⟩ := List.head?_eq_some_iff.1 hq
  unfold readGroup at h
  rw [skip_false] at h
  split at h
  · cases h
  · cases h
  · cases h
  · cases h
  next =>
    obtain ⟨x, -, heq⟩ := bind_eq_ok.1 h
    cases heq
    cases hp
  next =>
    obtain ⟨x, -, heq⟩ := bind_eq_ok.1 h
    cases heq
    cases hp
  next =>
    obtain ⟨⟨change, after⟩, -, heq⟩ := bind_eq_ok.1 h
    dsimp only at heq
    split at heq
    · cases heq
      cases hp
    · split at heq <;> cases heq
      cases hp
  next hplain => exact absurd rfl (hplain tail)

theorem scansAs_of_quantifier {min : Nat} {max : Option Nat} (hc : c = '?' ∨ c = '*' ∨ c = '+')
    (hoption : c = '?' ↔ (Piece.repetition min max false).isOption = true)
    (h : readPiece s c (q ++ groupEnd) = .ok (piece, rest))
    (hread : ∀ cs, readPiece s c cs = .ok (.repetition min max (readLazy cs).1, (readLazy cs).2))
    (hp : piece.isPortable = true) :
    ∃ q', rest = q' ++ groupEnd ∧ ScansAs c q piece q' := by
  rw [hread] at h
  cases h
  have hlazy : (readLazy (q ++ groupEnd)).1 = false := by simpa [Piece.isPortable] using hp
  have hhead := head_of_greedy hlazy
  rw [readLazy_of_head (head_append_groupEnd hhead)]
  have hissue : characterIssue? false c q.head? = none := by
    obtain rfl | rfl | rfl := hc <;> simp [characterIssue?, hhead]
  have hchar : c ≠ '\\' ∧ c ≠ '[' := by
    obtain rfl | rfl | rfl := hc <;> decide
  exact ⟨q, rfl, scansAs_of_char hchar.1 hchar.2 trivial trivial hoption (by simp [hissue, hhead])⟩

theorem scansAs_of_counted (h : readCounted false (q ++ groupEnd) = .ok (piece, rest))
    (hp : piece.isPortable = true) :
    ∃ q', rest = q' ++ groupEnd ∧ ScansAs '\x7b' q piece q' := by
  obtain ⟨body, after, hbody, hb⟩ := List.eq_append_cons_of_mem (brace_mem_of_readCounted h)
  obtain ⟨q', rfl, rfl⟩ := exists_of_append_groupEnd hbody (by decide)
  rw [hbody] at h
  obtain ⟨min, max, hbounds, rfl, rfl⟩ := (readCounted_eq_ok hb).1 h
  have hlazy : (readLazy (q' ++ groupEnd)).1 = false := by simpa [Piece.isPortable] using hp
  have hhead := head_of_greedy hlazy
  rw [readLazy_of_head (head_append_groupEnd hhead)]
  have hfirst : Portable false ('\x7b' :: (body ++ '\x7d' :: q')) ↔ Portable false q' := by
    rw [portable_cons_iff (by decide), show classAfter false '\x7b' = false from rfl,
      portable_append_iff (fun c hc => not_mem_of_bounds hbounds hc) (by simp), portable_brace_iff]
    simp [characterIssue?, hhead]
  refine ⟨q', rfl, trivial, ⟨body ++ ['\x7d'], by simp⟩, ?_, by simp [hfirst, Piece.Clear, hhead]⟩
  -- The braces take two bytes.
  refine iff_of_false (by decide) ?_
  rintro ⟨-, hsize⟩
  have hopen : '\x7b'.utf8Size = 1 := rfl
  have hclose : '\x7d'.utf8Size = 1 := rfl
  simp only [byteSize_cons, byteSize_append] at hsize
  omega

theorem Atom.passes_false_iff {letter : Char} {m : Meaning} {next : Option Char} :
    (Atom.escape letter m).Passes false next ↔
      ¬((Piece.atom (.escape letter m)).endsInBrace = true ∧ next = some '?') := by
  cases m <;> simp [Atom.Passes, Piece.endsInBrace]

theorem scansAs_of_escape {letter : Char} {atom : Atom}
    (h : readEscape false (letter :: q ++ groupEnd) = .ok (atom, rest)) (hk : atom.Known)
    (hp : atom.isPortable = true) :
    ∃ q', rest = q' ++ groupEnd ∧ ScansAs '\\' (letter :: q) (.atom atom) q' := by
  obtain ⟨m, rfl⟩ := exists_escape h
  have hletter : isPortable letter (some '\x7b') = true := by
    have : letter ∈ portableEscapes := by
      unfold Atom.isPortable at hp
      split at hp <;> simp_all
    simpa [isPortable] using this
  have ha := not_isAssertion_of_portable hletter h
  obtain ⟨d, w, hw, hplain, htakes⟩ := readEscape_takes h hk ha
  obtain ⟨rfl, hq⟩ := List.cons.inj hw
  obtain ⟨q', rfl, rfl⟩ := exists_of_append_plain hq hplain
  have hread : readEscape false (letter :: (w ++ q')) = .ok (.escape letter m, q') := htakes q'
  refine ⟨q', rfl, trivial, ⟨letter :: w, rfl⟩, by simp [Piece.isOption], ?_⟩
  rw [portable_atom_of_escape hread hk ha, Atom.passes_false_iff]
  simp [hp, Piece.Clear, Atom.classAfter]

theorem scansAs_of_class (h : readClass false (q ++ groupEnd) = .ok (piece, rest))
    (hk : piece.Known) (hp : piece.isPortable = true) (hstart : piece.startsClosed = false) :
    ∃ q', rest = q' ++ groupEnd ∧ ScansAs '[' q piece q' := by
  obtain ⟨w, hw, -, htakes⟩ := readClass_takes h hk
  obtain ⟨q', rfl, rfl⟩ := exists_of_append_groupEnd hw (by decide)
  have hread : readClass false (w ++ ']' :: q') = .ok (piece, q') := by
    simpa using htakes q'
  obtain ⟨negated, inner, rfl⟩ := exists_charClass hread
  obtain ⟨hflat, hatoms⟩ : inner.isFlat = true ∧ inner.hasPortableAtoms = true := by
    simpa [Piece.isPortable] using hp
  refine ⟨q', rfl, trivial, ⟨w ++ [']'], by simp⟩, by simp [Piece.isOption], ?_⟩
  rw [portable_class_iff hread hk hflat hatoms hstart]
  simp [Piece.Clear, Piece.endsInBrace]

theorem scansAs_of_readPiece (hs : s.spaced = false)
    (h : readPiece s c (q ++ groupEnd) = .ok (piece, rest)) (hk : piece.Known)
    (hp : piece.isPortable = true) (hclose : piece.isClosingBracket = false)
    (hstart : piece.startsClosed = false) :
    (∃ q', rest = q' ++ groupEnd ∧ ScansAs c q piece q') ∨
      c = '\\' ∧ q = [] ∧ piece = .atom (.escape ')' (.character ')')) ∧ rest = ['$'] := by
  by_cases hescape : c = '\\'
  · subst hescape
    obtain ⟨letter, q', atom, rfl, rfl, hatom⟩ | hend := escape_of_readPiece hs h
    · exact .inl (scansAs_of_escape hatom hk hp)
    · exact .inr ⟨rfl, hend⟩
  left
  -- A character that stands for itself, or for a piece without further text.
  have hchar : ∀ {p : Piece}, c ≠ '[' → p.Quiet → p.Clear → (c = '?' ↔ p.isOption = true) →
      (characterIssue? false c q.head? = none ↔
        ¬(p.endsInBrace = true ∧ q.head? = some '?')) →
      ∃ q', q ++ groupEnd = q' ++ groupEnd ∧ ScansAs c q p q' :=
    fun hbracket hquiet hclear hoption hissue =>
      ⟨q, rfl, scansAs_of_char hescape hbracket hquiet hclear hoption hissue⟩
  unfold readPiece at h
  rw [hs] at h
  split at h
  next =>
    have hhead : q.head? ≠ some '?' := by
      have hwhole := head_of_portable_group h hp
      cases q with
      | nil => simp
      | cons d q => exact hwhole
    rw [readGroup_plain (head_append_groupEnd hhead)] at h
    cases h
    exact hchar (by decide) rfl trivial (by decide)
      (by simp [characterIssue?, Piece.endsInBrace, hhead])
  next =>
    cases h
    exact hchar (by decide) trivial trivial (by decide)
      (by simp [characterIssue?, Piece.endsInBrace])
  next =>
    cases h
    exact hchar (by decide) trivial trivial (by decide)
      (by simp [characterIssue?, Piece.endsInBrace])
  next => exact scansAs_of_class h hk hp hstart
  next => exact scansAs_of_quantifier (s := s) (by simp) (by decide) h (fun _ => rfl) hp
  next => exact scansAs_of_quantifier (s := s) (by simp) (by decide) h (fun _ => rfl) hp
  next => exact scansAs_of_quantifier (s := s) (by simp) (by decide) h (fun _ => rfl) hp
  next => exact scansAs_of_counted h hp
  next => exact absurd rfl hescape
  next =>
    cases h
    exact hchar (by decide) trivial trivial (by decide)
      (by simp [characterIssue?, Piece.endsInBrace])
  next =>
    cases h
    cases hp
  next =>
    cases h
    cases hp
  next hopen _ _ hbracket hoption hstar hplus _ _ _ hcaret hdollar =>
    cases h
    have hclose : c ≠ ']' := by simpa [Piece.isClosingBracket] using hclose
    have hsigns : c ≠ '(' ∧ c ≠ '?' ∧ c ≠ '*' ∧ c ≠ '+' ∧ c ≠ '^' ∧ c ≠ '$' :=
      ⟨hopen, hoption, hstar, hplus, hcaret, hdollar⟩
    refine hchar hbracket trivial trivial (by simpa [Piece.isOption] using hoption) ?_
    simp [characterIssue?, Piece.endsInBrace, hclose, hsigns]

theorem clearReading_of_readPiecesAux {fuel offset : Nat} {pieces : List (Located Piece)}
    (hs : s.Quiet) (hfuel : q.length ≤ fuel)
    (h : readPiecesAux fuel s offset (q ++ groupEnd) = .ok pieces)
    (hk : ∀ p ∈ pieces, p.value.Known) {own : List (Located Piece)}
    (hown : own = pieces.filter fun p => p.span.start < offset + byteSize q)
    (hp : ∀ p ∈ own, p.value.isPortable = true ∧ p.value.isClosingBracket = false ∧
      p.value.startsClosed = false) :
    (own.head?.any isOptionMark = true ↔ q.head? = some '?') ∧
      (Portable false q ↔ ClearReading own) := by
  induction fuel generalizing q s offset pieces own with
  | zero =>
    cases h
    obtain rfl := List.length_eq_zero_iff.1 (Nat.le_zero.1 hfuel)
    subst hown
    exact ⟨by simp, iff_of_true portable_nil ⟨.nil, by simp⟩⟩
  | succ fuel ih =>
    cases q with
    | nil =>
      have hnone : own = [] := by
        rw [hown, List.filter_eq_nil_iff]
        intro p hp
        have := offset_le_start h p hp
        simpa using this
      subst hnone
      exact ⟨by simp, iff_of_true portable_nil ⟨.nil, by simp⟩⟩
    | cons c q =>
      rw [List.cons_append, readPiecesAux_cons hs.spaced] at h
      obtain ⟨⟨piece, rest⟩, hpiece, hrest⟩ := bind_eq_ok.1 h
      obtain ⟨later, hlater, heq⟩ := bind_eq_ok.1 hrest
      cases heq
      obtain ⟨hknown, hlaterKnown⟩ := List.forall_mem_cons.1 hk
      have hpos : 0 < c.utf8Size := c.utf8Size_pos
      rw [List.filter_cons_of_pos (by simp; omega)] at hown
      subst hown
      obtain ⟨⟨hportable, hclose, hstart⟩, hlaterPortable⟩ := List.forall_mem_cons.1 hp
      obtain ⟨q', rfl, hscans⟩ | ⟨rfl, rfl, rfl, rfl⟩ :=
        scansAs_of_readPiece hs.spaced hpiece hknown hportable hclose hstart
      · obtain ⟨w, rfl⟩ := hscans.suffix
        have hlast : offset + byteSize (c :: (w ++ q')) = offset +
            (byteSize (c :: (w ++ q' ++ groupEnd)) - byteSize (q' ++ groupEnd)) + byteSize q' := by
          simp only [byteSize_cons, byteSize_append]
          omega
        simp only [List.length_cons, List.length_append] at hfuel
        rw [hlast] at hlaterPortable ⊢
        obtain ⟨hhead, hiff⟩ := ih (hs.after hscans.quiet) (by omega) hlater hlaterKnown rfl
          hlaterPortable
        refine ⟨?_, by rw [clearReading_cons, hscans.portable, hiff, hhead]⟩
        rw [List.head?_cons, List.head?_cons, Option.some.injEq, hscans.option]
        simp only [Option.any_some, isOptionMark, Bool.and_eq_true, beq_iff_eq, byteSize_cons,
          byteSize_append]
        refine and_congr_right fun _ => ?_
        omega
      · -- The backslash at the end takes the parenthesis of the group with it.
        have hnone : later.filter (fun p => p.span.start < offset + byteSize ['\\']) = [] := by
          rw [List.filter_eq_nil_iff]
          intro p hp
          have hle := offset_le_start hlater p hp
          have hsize : byteSize ('\\' :: ([] ++ groupEnd)) - byteSize ['$'] = 2 := rfl
          have hslash : byteSize ['\\'] = 1 := rfl
          rw [hsize] at hle
          simp only [decide_eq_true_eq]
          omega
        rw [hnone]
        refine ⟨by simp [isOptionMark, Piece.isOption], iff_of_true portable_backslash ?_⟩
        exact ⟨.singleton _, by simp [Piece.Clear]⟩

end Pieces

/-- The pieces of a pattern that compiles, where they are portable and no closing bracket stands
outside a class. If no class starts with a closing bracket, the scan finds something just where two
neighbours look foreign. If it finds nothing, a class that starts with a closing bracket has a range
to an opening one. -/
theorem unflagged_iff_clearReading {pattern : String} {r : Regex} (h : compile pattern = .ok r) :
    ∃ own, reading pattern = .ok own ∧
      ((∀ p ∈ own, p.value.isPortable = true ∧ p.value.isClosingBracket = false) →
        ((∀ p ∈ own, p.value.startsClosed = false) →
          (dialectIssue? pattern = none ↔ ClearReading own)) ∧
        (dialectIssue? pattern = none →
          ∀ p ∈ own, p.value.startsClosed = true → p.value.isDisguised = true)) := by
  obtain ⟨later, hlater, hreading, hk⟩ := exists_pieces_of_compile h
  refine ⟨_, hreading, fun hp => ⟨fun hstart => ?_, fun hd p hmem hstart => ?_⟩⟩
  · have hown : later.filter (fun p => isWithin pattern p.span) =
        later.filter fun p => p.span.start < 4 + byteSize pattern.toList := by
      refine List.filter_congr fun p hmem => ?_
      simp [isWithin, offset_le_start hlater p hmem]
    rw [dialectIssue?_eq_none_iff]
    exact (clearReading_of_readPiecesAux insideGroup_quiet (by simp; omega) hlater hk hown
      fun p hmem => ⟨(hp p hmem).1, (hp p hmem).2, hstart p hmem⟩).2
  · obtain ⟨hmem, hwithin⟩ := List.mem_filter.1 hmem
    simp only [isWithin, Bool.and_eq_true, decide_eq_true_eq] at hwithin
    have hpassed := passed_of_readPiecesAux insideGroup_quiet ⟨0, hd⟩ hlater hk p hmem hwithin.2
    refine hpassed.resolve_left ?_
    rw [hstart]
    simp

/-- A category that is optional twice, by bounds in braces and as a group. -/
def optionalPattern : Located String := ⟨"(\\p\x7bZl\x7d\x7b0,1\x7d)?[&]", ⟨0, 0⟩⟩

theorem unflagged_iff_clearReading_optional :
    (∃ own, reading optionalPattern.value = .ok own ∧ own.length = 6 ∧ ClearReading own ∧
      ∀ p ∈ own, p.value.isPortable = true ∧ p.value.isClosingBracket = false ∧
        p.value.startsClosed = false) ∧
    ∃ own, reading guardedPattern.value = .ok own ∧
      (∀ p ∈ own, p.value.isPortable = true ∧ p.value.isClosingBracket = false) ∧
      ∃ p ∈ own, p.value.startsClosed = true ∧ p.value.isDisguised = true := by
  have haccepted : Link.patternProblems "w" optionalPattern = [] :=
    List.isEmpty_iff.1 (by with_unfolding_all decide)
  have hguarded : Link.patternProblems "w" guardedPattern = [] := List.isEmpty_iff.1 (by cbv)
  have hpieces : (reading guardedPattern.value).map (fun own => (own.all fun p =>
      p.value.isPortable && !p.value.isClosingBracket,
        own.any fun p => p.value.startsClosed)) = .ok (true, true) := by cbv
  constructor
  · obtain ⟨r, hr, hd⟩ := exists_compile_of_patternProblems haccepted
    obtain ⟨own, hown, hjudged⟩ := unflagged_iff_clearReading hr
    have hpieces : (reading optionalPattern.value).map (fun own => (own.length, own.all fun p =>
        p.value.isPortable && !p.value.isClosingBracket && !p.value.startsClosed)) =
          .ok (6, true) := rfl
    simp only [hown, Except.map, Except.ok.injEq, Prod.mk.injEq, List.all_eq_true,
      Bool.and_eq_true, Bool.not_eq_true', and_assoc] at hpieces
    obtain ⟨hlength, hall⟩ := hpieces
    refine ⟨own, hown, hlength, ?_, hall⟩
    exact ((hjudged fun p hp => ⟨(hall p hp).1, (hall p hp).2.1⟩).1
      fun p hp => (hall p hp).2.2).1 hd
  · obtain ⟨r, hr, hd⟩ := exists_compile_of_patternProblems hguarded
    obtain ⟨own, hown, hjudged⟩ := unflagged_iff_clearReading hr
    simp only [hown, Except.map, Except.ok.injEq, Prod.mk.injEq, List.all_eq_true,
      List.any_eq_true, Bool.and_eq_true, Bool.not_eq_true'] at hpieces
    obtain ⟨hall, p, hp, hstart⟩ := hpieces
    exact ⟨own, hown, hall, p, hp, hstart, (hjudged hall).2 hd p hp hstart⟩

/-- An optional category looks like a lazy repetition. -/
theorem flagged_of_optional_category :
    (compile "\\p\x7bZl\x7d?").toBool = true ∧
      reading "\\p\x7bZl\x7d?" = .ok [
        ⟨.atom (.escape 'p' (.property (.name ['Z', 'l']) false)), ⟨4, 10⟩⟩,
        ⟨.repetition 0 (some 1) false, ⟨10, 11⟩⟩] ∧
      (Piece.atom (.escape 'p' (.property (.name ['Z', 'l']) false))).isPortable = true ∧
      (Piece.repetition 0 (some 1) false).isPortable = true ∧
      dialectIssue? "\\p\x7bZl\x7d?" = some (5, .lazyRepetition) :=
  ⟨by with_unfolding_all decide, rfl, rfl, rfl, by decide⟩

end DocSchema.Pattern
