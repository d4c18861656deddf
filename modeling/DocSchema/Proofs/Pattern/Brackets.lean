import DocSchema.Proofs.Pattern.Atoms

/-!
# The scan over a class

The scan takes the first closing bracket after an opening one for the end of the class. The reader
takes a closing bracket right after the opening one, or after the negation sign, for a character.
From such a bracket on the scan is outside while the reader is still inside, and they agree again
at the end of the class only if a range ends in an opening bracket. In all other classes that pass,
nothing is nested and no sets are combined.
-/
namespace DocSchema.Pattern

mutual

/-- The single characters, escapes, ranges and named classes in a class, from left to right. -/
def ClassTree.leaves : ClassTree → List ClassTree
  | .empty => []
  | .bracketed _ inner => inner.leaves
  | .union items => ClassTree.leavesOf items
  | .binary _ left right => left.leaves ++ right.leaves
  | leaf => [leaf]

def ClassTree.leavesOf : List ClassTree → List ClassTree
  | [] => []
  | t :: ts => t.leaves ++ ClassTree.leavesOf ts

end

mutual

/-- Nothing is nested, and no sets are combined. -/
def ClassTree.isFlat : ClassTree → Bool
  | .empty | .item _ | .range _ _ => true
  | .union items => ClassTree.areFlat items
  | .named _ _ | .bracketed _ _ | .binary _ _ _ => false

def ClassTree.areFlat : List ClassTree → Bool
  | [] => true
  | t :: ts => t.isFlat && ClassTree.areFlat ts

end

namespace ClassTree

/-- The atoms that a leaf is written with. -/
def atoms : ClassTree → List Atom
  | .item a => [a]
  | .range first last => [first, last]
  | _ => []

def isSimple : ClassTree → Bool
  | .item _ | .range _ _ => true
  | _ => false

/-- A closing bracket that stands for itself. -/
def isClosingBracket : ClassTree → Bool
  | .item (.verbatim c) => c == ']'
  | _ => false

/-- A range to an opening bracket as written. -/
def isRangeToBracket : ClassTree → Bool
  | .range _ (.verbatim c) => c == '['
  | _ => false

theorem leavesOf_eq (ts : List ClassTree) : leavesOf ts = ts.flatMap leaves := by
  induction ts with
  | nil => rfl
  | cons t ts ih => simp [leavesOf, ih]

theorem areFlat_eq (ts : List ClassTree) : areFlat ts = ts.all isFlat := by
  induction ts with
  | nil => rfl
  | cons t ts ih => simp [areFlat, ih]

theorem isFlat_of_isSimple {t : ClassTree} (h : t.isSimple = true) : t.isFlat = true := by
  cases t <;> simp_all [isSimple, isFlat]

theorem leaves_of_isSimple {t : ClassTree} (h : t.isSimple = true) : t.leaves = [t] := by
  cases t <;> simp_all [isSimple, leaves]

end ClassTree

def startsClosed (leaves : List ClassTree) : Bool := leaves.head?.any (·.isClosingBracket)

/-- Some range ends in an opening bracket. -/
def reachesBracket (leaves : List ClassTree) : Bool := leaves.any (·.isRangeToBracket)

namespace OpenClass

def leaves (c : OpenClass) : List ClassTree :=
  c.left.elim [] (fun side => side.2.leaves) ++ c.items.reverse.flatMap ClassTree.leaves

theorem leaves_push (c : OpenClass) (t : ClassTree) : (c.push t).leaves = c.leaves ++ t.leaves := by
  simp [leaves, push]

theorem leaves_tree (c : OpenClass) : c.tree.leaves = c.leaves := by
  obtain ⟨negated, left, items⟩ := c
  have hright : (OpenClass.tree ⟨negated, none, items⟩).leaves =
      items.reverse.flatMap ClassTree.leaves := by
    rcases items with _ | ⟨t, _ | ⟨u, ts⟩⟩
    · rfl
    · simp [tree]
    · simp [tree, ClassTree.leaves, ClassTree.leavesOf_eq]
  rcases left with _ | ⟨op, left⟩
  · simpa [leaves] using hright
  · rw [show OpenClass.tree ⟨negated, some (op, left), items⟩
      = .binary op left (OpenClass.tree ⟨negated, none, items⟩) from rfl]
    simp [ClassTree.leaves, hright, leaves]

theorem leaves_operate (c : OpenClass) (op : ClassOp) : (c.operate op).leaves = c.leaves := by
  rw [← leaves_tree c]
  simp [operate, leaves]

def Flat (c : OpenClass) : Prop := c.left = none ∧ ∀ t ∈ c.items, t.isFlat = true

theorem isFlat_tree_iff {c : OpenClass} : c.tree.isFlat = true ↔ c.Flat := by
  obtain ⟨negated, left, items⟩ := c
  rcases left with _ | ⟨op, left⟩
  · rcases items with _ | ⟨t, _ | ⟨u, ts⟩⟩
    · simp [tree, Flat, ClassTree.isFlat]
    · simp [tree, Flat]
    · simp only [tree, ClassTree.isFlat, ClassTree.areFlat_eq, List.all_reverse, List.all_eq_true,
        Flat, true_and]
  · simp [tree, Flat, ClassTree.isFlat]

theorem flat_push {c : OpenClass} {t : ClassTree} :
    (c.push t).Flat ↔ t.isFlat = true ∧ c.Flat := by
  simp only [Flat, push, List.forall_mem_cons]
  tauto

end OpenClass

def openLeaves : List OpenClass → List ClassTree
  | [] => []
  | c :: outer => openLeaves outer ++ c.leaves

section Items

variable {cs rest : List Char} {item : ClassTree}

theorem readClassItem_cases (h : readClassItem false cs = .ok (item, rest)) :
    (∃ a, item = .item a ∧ ¬a.IsAssertion ∧ readClassAtom false cs = .ok (a, rest)) ∨
      ∃ first last after, item = .range first last ∧
        (first.Known ∧ ¬first.IsAssertion) ∧ (last.Known ∧ ¬last.IsAssertion) ∧
        readClassAtom false cs = .ok (first, '-' :: after) ∧
        readClassAtom false after = .ok (last, rest) ∧
        after.head? ≠ some ']' ∧ after.head? ≠ some '-' := by
  obtain ⟨⟨first, rest₁⟩, hfirst, hitem⟩ := bind_eq_ok.1 h
  simp only [skip_false] at hitem
  have hsingle : ∀ {t : ClassTree}, classItem first = .ok t → t = item → rest₁ = rest →
      ∃ a, item = .item a ∧ ¬a.IsAssertion ∧ readClassAtom false cs = .ok (a, rest) := by
    rintro t ht rfl rfl
    obtain ⟨rfl, ha⟩ := classItem_eq_ok ht
    exact ⟨first, rfl, ha, hfirst⟩
  split at hitem
  · cases hitem
  next after =>
    split at hitem
    next tail =>
      obtain ⟨t, ht, heq⟩ := bind_eq_ok.1 hitem
      cases heq
      exact .inl (hsingle ht rfl rfl)
    next tail =>
      obtain ⟨t, ht, heq⟩ := bind_eq_ok.1 hitem
      cases heq
      exact .inl (hsingle ht rfl rfl)
    next hbracket hhyphen =>
      obtain ⟨⟨last, rest₂⟩, hlast, hrange⟩ := bind_eq_ok.1 hitem
      obtain ⟨t, ht, heq⟩ := bind_eq_ok.1 hrange
      cases heq
      obtain ⟨rfl, ⟨c, hc⟩, d, hd⟩ := classRange_eq_ok ht
      refine .inr ⟨first, last, after, rfl, Atom.known_of_character hc, Atom.known_of_character hd,
        hfirst, hlast, ?_, ?_⟩
      · intro hhead
        obtain ⟨tail, rfl⟩ := List.head?_eq_some_iff.1 hhead
        exact hbracket tail rfl
      · intro hhead
        obtain ⟨tail, rfl⟩ := List.head?_eq_some_iff.1 hhead
        exact hhyphen tail rfl
  next hnil hhyphen =>
    obtain ⟨t, ht, heq⟩ := bind_eq_ok.1 hitem
    cases heq
    exact .inl (hsingle ht rfl rfl)

/-- The characters that a class can start with: one bracket that stands for itself, or hyphens. -/
def IsLead (lead rest : List Char) : Prop :=
  lead = [']'] ∨ ∃ k, lead = List.replicate k '-' ∧ rest.head? ≠ some '-' ∧
    (k = 0 → rest.head? ≠ some ']')

theorem IsLead.reverse_eq {lead : List Char} (h : IsLead lead rest) : lead.reverse = lead := by
  obtain rfl | ⟨k, rfl, -, -⟩ := h
  · rfl
  · exact List.reverse_replicate

theorem openItems_cases {negated : Bool} {start : OpenClass}
    (h : openItems false negated cs = .ok (start, rest)) :
    ∃ lead, cs = lead ++ rest ∧ IsLead lead rest ∧
      start = ⟨negated, none, lead.map fun c => .item (.verbatim c)⟩ := by
  have hsplit := List.takeWhile_append_dropWhile (p := (· == '-')) (l := cs)
  unfold openItems at h
  rw [leading_eq] at h
  split at h
  · cases h
  next rest' hlead =>
    cases h
    obtain ⟨hnone, hrest⟩ := Prod.mk.injEq .. ▸ hlead
    rw [hnone, hrest] at hsplit
    exact ⟨[']'], hsplit.symm, .inl rfl, rfl⟩
  next hyphens rest' hnil hbracket hlead =>
    cases h
    obtain ⟨hhyphens, hrest⟩ := Prod.mk.injEq .. ▸ hlead
    rw [hhyphens, hrest] at hsplit
    refine ⟨hyphens, hsplit.symm, .inr ⟨hyphens.length, ?_, ?_, ?_⟩, rfl⟩
    · refine List.eq_replicate_iff.2 ⟨rfl, fun c hc => ?_⟩
      rw [← hhyphens] at hc
      simpa using List.mem_takeWhile_imp hc
    · intro hhead
      have := List.head?_dropWhile_not (· == '-') cs
      simp [hrest, hhead] at this
    · intro hzero hhead
      obtain ⟨tail, rfl⟩ := List.head?_eq_some_iff.1 hhead
      exact hbracket tail (by rw [List.eq_nil_of_length_eq_zero hzero]) rfl

theorem flat_start (negated : Bool) (lead : List Char) :
    OpenClass.Flat ⟨negated, none, lead.map fun c => .item (.verbatim c)⟩ := by
  refine ⟨rfl, fun t ht => ?_⟩
  obtain ⟨c, -, rfl⟩ := List.mem_map.1 ht
  rfl

theorem leaves_start {lead : List Char} (h : IsLead lead rest) (negated : Bool) :
    OpenClass.leaves ⟨negated, none, lead.map fun c => .item (.verbatim c)⟩ =
      lead.map fun c => .item (.verbatim c) := by
  have hsimple : ∀ cs : List Char,
      (cs.map fun c => ClassTree.item (.verbatim c)).flatMap ClassTree.leaves =
        cs.map fun c => .item (.verbatim c) := by
    intro cs
    induction cs with
    | nil => rfl
    | cons c cs ih => simpa [ClassTree.leaves] using ih
  simp only [OpenClass.leaves, Option.elim_none, List.nil_append, ← List.map_reverse, h.reverse_eq,
    hsimple]

theorem openClass_cases {start : OpenClass} (h : openClass false cs = .ok (start, rest)) :
    ∃ mark lead, cs = mark ++ (lead ++ rest) ∧ (mark = [] ∨ mark = ['^']) ∧ IsLead lead rest ∧
      start.Flat ∧ start.leaves = lead.map fun c => .item (.verbatim c) := by
  cases cs with
  | nil => cases h
  | cons c cs =>
    by_cases hc : c = '^'
    · subst hc
      rw [openClass_negated] at h
      obtain ⟨lead, rfl, hlead, rfl⟩ := openItems_cases h
      exact ⟨['^'], lead, rfl, .inr rfl, hlead, flat_start .., leaves_start hlead true⟩
    · rw [openClass_plain cs hc] at h
      obtain ⟨lead, heq, hlead, rfl⟩ := openItems_cases h
      exact ⟨[], lead, heq, .inl rfl, hlead, flat_start .., leaves_start hlead false⟩

end Items

section Scan

variable {inClass : Bool} {outer : List OpenClass} {current read : OpenClass} {cs rest : List Char}
  {item : ClassTree} {log : List ClassTree}

theorem startsClosed_append (h : startsClosed log = true) (more : List ClassTree) :
    startsClosed (log ++ more) = true := by
  cases log with
  | nil => cases h
  | cons leaf log => exact h

theorem startsClosed_concat (log : List ClassTree) (h : item.isClosingBracket = false) :
    startsClosed (log ++ [item]) = startsClosed log := by
  cases log with
  | nil => exact h
  | cons leaf log => rfl

/-- What the scan has let pass of the open classes. It is inside a class where nothing started with
a closing bracket; otherwise it is behind the reader, unless a range has taken it in again. -/
structure Watched (inClass : Bool) (outer : List OpenClass) (current : OpenClass) : Prop where
  portable : ∀ leaf ∈ openLeaves (current :: outer), ∀ a ∈ leaf.atoms, a.isPortable = true
  closed : startsClosed (openLeaves (current :: outer)) = true →
    reachesBracket (openLeaves (current :: outer)) = true ∨ inClass = false ∨ outer ≠ []
  plain : startsClosed (openLeaves (current :: outer)) = false →
    inClass = true ∧ outer = [] ∧ current.Flat

structure ClassScanned (leaves : List ClassTree) (flat : Prop) : Prop where
  portable : ∀ leaf ∈ leaves, ∀ a ∈ leaf.atoms, a.isPortable = true
  closed : startsClosed leaves = true → reachesBracket leaves = true
  plain : startsClosed leaves = false → flat

theorem Watched.startsClosed_of_not (h : Watched inClass outer current)
    (hout : inClass = false ∨ outer ≠ []) :
    startsClosed (openLeaves (current :: outer)) = true := by
  by_contra hno
  obtain ⟨hin, hnil, -⟩ := h.plain (by simpa using hno)
  obtain hfalse | hne := hout
  · rw [hin] at hfalse
    cases hfalse
  · exact hne hnil

theorem Watched.step {inClass' : Bool} {outer' : List OpenClass} {current' : OpenClass}
    (h : Watched inClass outer current) (hout : inClass = false ∨ outer ≠ [])
    (more : List ClassTree)
    (hlog : openLeaves (current' :: outer') = openLeaves (current :: outer) ++ more)
    (hmore : ∀ leaf ∈ more, ∀ a ∈ leaf.atoms, a.isPortable = true)
    (hout' : inClass' = false ∨ outer' ≠ []) : Watched inClass' outer' current' := by
  have hstarts := startsClosed_append (h.startsClosed_of_not hout) more
  rw [← hlog] at hstarts
  refine ⟨?_, fun _ => .inr hout', fun hno => ?_⟩
  · rw [hlog]
    exact List.forall_mem_append.2 ⟨h.portable, hmore⟩
  · rw [hstarts] at hno
    cases hno

theorem openLeaves_push (outer : List OpenClass) (current : OpenClass) (h : item.isSimple = true) :
    openLeaves (current.push item :: outer) = openLeaves (current :: outer) ++ [item] := by
  simp [openLeaves, OpenClass.leaves_push, ClassTree.leaves_of_isSimple h]

theorem Watched.push (h : Watched inClass outer current) (hsimple : item.isSimple = true)
    (hclosing : item.isClosingBracket = false) (hatoms : ∀ a ∈ item.atoms, a.isPortable = true) :
    Watched inClass outer (current.push item) := by
  have hlog := openLeaves_push outer current hsimple
  have hstarts := startsClosed_concat (openLeaves (current :: outer)) hclosing
  refine ⟨?_, fun hs => ?_, fun hs => ?_⟩
  · rw [hlog]
    exact List.forall_mem_append.2 ⟨h.portable, by simpa using hatoms⟩
  · rw [hlog, hstarts] at hs
    refine (h.closed hs).imp (fun hreaches => ?_) id
    rw [hlog]
    simp only [reachesBracket, List.any_append, Bool.or_eq_true]
    exact .inl hreaches
  · rw [hlog, hstarts] at hs
    obtain ⟨hin, hnil, hflat⟩ := h.plain hs
    exact ⟨hin, hnil, OpenClass.flat_push.2 ⟨ClassTree.isFlat_of_isSimple hsimple, hflat⟩⟩

theorem Atom.classAfter_eq {a : Atom} (hopen : a.firstChar ≠ '[') (hclose : a.firstChar ≠ ']') :
    a.classAfter inClass = inClass := by
  cases a with
  | verbatim c =>
    simp only [firstChar] at hopen hclose
    cases inClass <;> simp [classAfter, Pattern.classAfter, hopen, hclose]
  | escape letter m => rfl

theorem Watched.push_item (h : Watched inClass outer current) (hp : Portable inClass cs)
    (hitem : readClassItem false cs = .ok (item, rest)) (hk : item.Known)
    (hopen : cs.head? ≠ some '[') (hclose : cs.head? ≠ some ']') :
    ∃ inClass', Portable inClass' rest ∧ Watched inClass' outer (current.push item) := by
  obtain ⟨a, rfl, ha, hread⟩ |
    ⟨first, last, after, rfl, hfirst, hlast, hread, hread', hbracket, -⟩ :=
    readClassItem_cases hitem
  · have hhead := head_of_readClassAtom hread
    rw [hhead, ne_eq, Option.some.injEq] at hopen hclose
    obtain ⟨hportable, -, hrest⟩ := (portable_atom_iff hread hk ha).1 hp
    rw [Atom.classAfter_eq hopen hclose] at hrest
    refine ⟨inClass, hrest, h.push rfl ?_ (by simpa [ClassTree.atoms] using hportable)⟩
    cases a with
    | verbatim c => simpa [ClassTree.isClosingBracket, Atom.firstChar] using hclose
    | escape letter m => rfl
  · have hhead := head_of_readClassAtom hread
    rw [hhead, ne_eq, Option.some.injEq] at hopen hclose
    obtain ⟨hportable, -, hhyphen⟩ := (portable_atom_iff hread hfirst.1 hfirst.2).1 hp
    rw [Atom.classAfter_eq hopen hclose] at hhyphen
    have hafter : Portable inClass after := by
      have := (hhyphen.cons (by decide)).2
      rwa [show Pattern.classAfter inClass '-' = inClass by cases inClass <;> rfl] at this
    obtain ⟨hportable', hpasses, hrest⟩ := (portable_atom_iff hread' hlast.1 hlast.2).1 hafter
    have hatoms : ∀ a ∈ [first, last], a.isPortable = true := by simp [hportable, hportable']
    rw [head_of_readClassAtom hread', ne_eq, Option.some.injEq] at hbracket
    by_cases hreach : last.firstChar = '['
    · -- The scan takes the end of the range for the start of a class.
      cases last with
      | escape letter m => cases hreach
      | verbatim c =>
        obtain rfl : c = '[' := hreach
        have hout : inClass = false := by
          cases inClass with
          | false => rfl
          | true => simp [Atom.Passes, characterIssue?] at hpasses
        subst hout
        have hlog := openLeaves_push outer current
          (rfl : (ClassTree.range first (.verbatim '[')).isSimple = true)
        have hstarts := startsClosed_append (h.startsClosed_of_not (.inl rfl))
          [.range first (.verbatim '[')]
        refine ⟨true, hrest, ?_, fun _ => .inl ?_, fun hno => ?_⟩
        · rw [hlog]
          exact List.forall_mem_append.2 ⟨h.portable, by simpa [ClassTree.atoms] using hatoms⟩
        · rw [hlog]
          simp [reachesBracket, ClassTree.isRangeToBracket]
        · rw [hlog, hstarts] at hno
          cases hno
    · rw [Atom.classAfter_eq hreach hbracket] at hrest
      exact ⟨inClass, hrest, h.push rfl rfl hatoms⟩

theorem eq_false_of_bracket (h : Portable inClass ('[' :: cs)) : inClass = false := by
  cases inClass with
  | false => rfl
  | true => simpa [characterIssue?] using (h.cons (by decide)).1

theorem eq_false_of_operation {c : Char} (hc : c = '&' ∨ c = '-' ∨ c = '~')
    (h : Portable inClass (c :: c :: cs)) : inClass = false ∧ Portable false cs := by
  have hslash : c ≠ '\\' := by obtain rfl | rfl | rfl := hc <;> decide
  have hafter : Pattern.classAfter false c = false := by obtain rfl | rfl | rfl := hc <;> rfl
  obtain ⟨hissue, hrest⟩ := h.cons hslash
  cases inClass with
  | true => obtain rfl | rfl | rfl := hc <;> simp [characterIssue?] at hissue
  | false =>
    rw [hafter] at hrest
    have hrest' := (hrest.cons hslash).2
    rw [hafter] at hrest'
    exact ⟨rfl, hrest'⟩

theorem Watched.operate (h : Watched false outer current) (op : ClassOp) :
    Watched false outer (current.operate op) :=
  h.step (.inl rfl) [] (by simp [openLeaves, OpenClass.leaves_operate]) (by simp) (.inl rfl)

theorem exists_named (h : readNamed? cs = some (item, rest)) :
    ∃ ranges negated, item = .named ranges negated := by
  unfold readNamed? at h
  split at h
  · obtain ⟨name, ranges, -, -, rfl⟩ := readName_eq_some.1 h
    exact ⟨_, _, rfl⟩
  · obtain ⟨name, ranges, -, -, rfl⟩ := readName_eq_some.1 h
    exact ⟨_, _, rfl⟩
  · cases h

theorem isPortable_of_mem_start {lead : List Char} :
    ∀ leaf ∈ lead.map (fun c => ClassTree.item (.verbatim c)), ∀ a ∈ leaf.atoms,
      a.isPortable = true := by
  intro leaf hleaf a ha
  obtain ⟨c, -, rfl⟩ := List.mem_map.1 hleaf
  obtain rfl : a = .verbatim c := by simpa [ClassTree.atoms] using ha
  rfl

/-- What passes of a class, from any point on. Every step keeps `Watched`. -/
theorem classScanned_of_readClassAux {n : Nat}
    (h : readClassAux false n outer current cs = .ok (read, rest)) (hk : read.Known)
    (hp : Portable inClass cs) (hw : Watched inClass outer current) :
    ClassScanned read.leaves read.Flat := by
  induction n generalizing outer current cs inClass with
  | zero => cases h
  | succ n ih =>
    rw [readClassAux, skip_false] at h
    split at h
    · cases h
    next cs =>
      obtain rfl := eq_false_of_bracket hp
      have hinside := (hp.cons (by decide)).2
      split at h
      next item rest' hnamed =>
        obtain ⟨w, rfl, hplain, -, -⟩ := readNamed_takes hnamed
        have hrest := (Portable.of_plain hplain hinside).after_bracket
        obtain ⟨ranges, negated, rfl⟩ := exists_named hnamed
        refine ih h hrest (hw.step (.inl rfl) [.named ranges negated] ?_ ?_ (.inl rfl))
        · simp [openLeaves, OpenClass.leaves_push, ClassTree.leaves]
        · simp [ClassTree.atoms]
      next hnamed =>
        obtain ⟨⟨inner, rest'⟩, hinner, hread⟩ := bind_eq_ok.1 h
        obtain ⟨w, rfl, hpaired, -⟩ := openClass_takes hinner
        obtain ⟨inClass', hrest⟩ := Portable.of_paired hpaired hinside
        obtain ⟨-, lead, -, -, -, -, hleaves⟩ := openClass_cases hinner
        refine ih hread hrest (hw.step (.inl rfl) _ rfl ?_ (.inr (by simp)))
        rw [hleaves]
        exact isPortable_of_mem_start
    next cs =>
      split at h
      next =>
        cases h
        have hin : inClass = true := by
          cases inClass with
          | true => rfl
          | false => simpa [characterIssue?] using (hp.cons (by decide)).1
        obtain ⟨hportable, hclosed, hplain⟩ := hw
        simp only [openLeaves, List.nil_append] at hportable hclosed hplain
        refine ⟨hportable, fun hs => ?_, fun hs => (hplain hs).2.2⟩
        simpa [hin] using hclosed hs
      next parent outer =>
        refine ih h hp.after_bracket (hw.step (.inr (by simp)) [] ?_ (by simp) (.inl rfl))
        simp [openLeaves, OpenClass.leaves_push, ClassTree.leaves, OpenClass.leaves_tree]
    next cs =>
      obtain ⟨rfl, hrest⟩ := eq_false_of_operation (by simp) hp
      exact ih h hrest (hw.operate _)
    next cs =>
      obtain ⟨rfl, hrest⟩ := eq_false_of_operation (by simp) hp
      exact ih h hrest (hw.operate _)
    next cs =>
      obtain ⟨rfl, hrest⟩ := eq_false_of_operation (by simp) hp
      exact ih h hrest (hw.operate _)
    next hnil hopen hclose hand hminus htilde =>
      obtain ⟨⟨item, rest'⟩, hitem, hread⟩ := bind_eq_ok.1 h
      have hknown := (OpenClass.known_push.1 (classTaken_of_readClassAux hread hk).current_known).1
      obtain ⟨inClass', hrest, hw'⟩ := hw.push_item hp hitem hknown
        (fun hhead => by
          obtain ⟨tail, rfl⟩ := List.head?_eq_some_iff.1 hhead
          exact hopen tail rfl)
        (fun hhead => by
          obtain ⟨tail, rfl⟩ := List.head?_eq_some_iff.1 hhead
          exact hclose tail rfl)
      exact ih hread hrest hw'

/-- What passes of a class: its atoms are portable, and it is flat unless it starts with a closing
bracket and a range ends in an opening one. -/
theorem classScanned_of_readClass {negated : Bool} {inner : ClassTree}
    (h : readClass false cs = .ok (.charClass negated inner, rest)) (hk : inner.Known)
    (hp : Portable false ('[' :: cs)) : ClassScanned inner.leaves (inner.isFlat = true) := by
  obtain ⟨⟨start, rest₁⟩, hstart, h⟩ := bind_eq_ok.1 h
  obtain ⟨⟨read, rest₂⟩, hread, heq⟩ := bind_eq_ok.1 h
  cases heq
  have hinside : Portable true cs := (hp.cons (by decide)).2
  obtain ⟨mark, lead, rfl, hmark, hlead, hflat, hleaves⟩ := openClass_cases hstart
  have hopened : Portable true (lead ++ rest₁) := by
    obtain rfl | rfl := hmark
    · exact hinside
    · exact (hinside.cons (by decide)).2
  have hlog : openLeaves [start] = lead.map fun c => .item (.verbatim c) := by
    rw [openLeaves, openLeaves, List.nil_append, hleaves]
  have hscanned : ClassScanned read.leaves read.Flat := by
    obtain rfl | ⟨k, rfl, -, -⟩ := hlead
    · refine classScanned_of_readClassAux hread (OpenClass.known_tree.1 hk)
        (hopened.cons (by decide)).2 ⟨?_, fun _ => .inr (.inl rfl), fun hno => ?_⟩
      · rw [hlog]
        exact isPortable_of_mem_start
      · rw [hlog] at hno
        cases hno
    · have hplain : Plain (List.replicate k '-') := by
        intro c hc
        rw [List.eq_of_mem_replicate hc]
        decide
      refine classScanned_of_readClassAux hread (OpenClass.known_tree.1 hk)
        (Portable.of_plain hplain hopened) ⟨?_, fun hs => ?_, fun _ => ⟨rfl, rfl, hflat⟩⟩
      · rw [hlog]
        exact isPortable_of_mem_start
      · rw [hlog] at hs
        cases k <;> cases hs
  obtain ⟨hportable, hclosed, hplain⟩ := hscanned
  rw [← OpenClass.leaves_tree] at hportable hclosed hplain
  exact ⟨hportable, hclosed, fun hno => OpenClass.isFlat_tree_iff.2 (hplain hno)⟩

end Scan

end DocSchema.Pattern
