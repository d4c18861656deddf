import DocSchema.Proofs.Pattern.Escapes

/-!
# Classes end themselves

A class is over at a bracket that depends on nothing behind it. The parts of a class look one or two
characters ahead, and the bracket that ends the class is still to come then.
-/
namespace DocSchema.Pattern

open Unicode (structural)

/-- The reader takes a text, provided that what follows starts as `rest` does up to a closing
bracket. -/
def TakesBefore {α : Type} (read : List Char → Except Fault (α × List Char)) (text rest : List Char)
    (a : α) : Prop :=
  ∀ u, ']' ∈ u → u <+: rest → ∀ after, read (text ++ (u ++ after)) = .ok (a, u ++ after)

theorem Atom.known_of_character {a : Atom} {c : Char} (h : a.character? = some c) :
    a.Known ∧ ¬a.IsAssertion := by
  rcases a with _ | ⟨letter, _ | _ | _ | _ | _⟩ <;>
    simp_all [Atom.character?, Atom.Known, Atom.IsAssertion]

theorem classItem_eq_ok {a : Atom} {item : ClassTree} (h : classItem a = .ok item) :
    item = .item a ∧ ¬a.IsAssertion := by
  unfold classItem at h
  split at h
  · cases h
  next hne =>
    cases h
    refine ⟨rfl, fun ha => ?_⟩
    rcases a with _ | ⟨letter, _ | _ | _ | _ | _⟩ <;> simp_all [Atom.IsAssertion]

theorem classRange_eq_ok {first last : Atom} {item : ClassTree}
    (h : classRange first last = .ok item) :
    item = .range first last ∧ (∃ c, first.character? = some c) ∧
      ∃ c, last.character? = some c := by
  unfold classRange at h
  split at h
  next a b ha hb =>
    split at h
    · cases h
      exact ⟨rfl, ⟨a, ha⟩, b, hb⟩
    · cases h
  · cases h

theorem readClassAtom_takes {cs rest : List Char} {atom : Atom}
    (h : readClassAtom false cs = .ok (atom, rest)) (hk : atom.Known) (ha : ¬atom.IsAssertion) :
    ∃ w, cs = w ++ rest ∧ w ≠ [] ∧ Paired w ∧ Takes (readClassAtom false) w atom := by
  unfold readClassAtom at h
  split at h
  · cases h
  next cs =>
    obtain ⟨c, w, rfl, hplain, htakes⟩ := readEscape_takes h hk ha
    exact ⟨'\\' :: c :: w, rfl, by simp, .escape hplain.paired, htakes⟩
  next c cs hc =>
    cases h
    have hne : c ≠ '\\' := by
      rintro rfl
      exact hc rfl
    exact ⟨[c], rfl, by simp, .char hne .nil, fun after => by simp [readClassAtom]⟩

theorem exists_cons_of_prefix {u : List Char} {c : Char} {cs : List Char} (hu : ']' ∈ u)
    (hp : u <+: c :: cs) : ∃ v, u = c :: v ∧ v <+: cs := by
  cases u with
  | nil => cases hu
  | cons d v =>
    obtain ⟨rfl, hv⟩ := List.cons_prefix_cons.1 hp
    exact ⟨v, rfl, hv⟩

theorem readClassItem_takes_first {cs tail : List Char} {first : Atom} {item : ClassTree} {d : Char}
    (hd : d = ']' ∨ d = '-') (hfirst : readClassAtom false cs = .ok (first, '-' :: d :: tail))
    (hitem : classItem first = .ok item) (hk : item.Known) :
    ∃ w, cs = w ++ '-' :: d :: tail ∧ w ≠ [] ∧ Paired w ∧
      TakesBefore (readClassItem false) w ('-' :: d :: tail) item := by
  obtain ⟨rfl, ha⟩ := classItem_eq_ok hitem
  obtain ⟨w, rfl, hne, hpaired, htakes⟩ := readClassAtom_takes hfirst hk ha
  refine ⟨w, rfl, hne, hpaired, fun u hu hp after => ?_⟩
  obtain ⟨v, rfl, hv⟩ := exists_cons_of_prefix hu hp
  obtain ⟨v, rfl, -⟩ := exists_cons_of_prefix (by simpa using hu) hv
  have hread := htakes ('-' :: d :: (v ++ after))
  obtain rfl | rfl := hd <;> simp [readClassItem, hread, hitem]

theorem readClassItem_takes {cs rest : List Char} {item : ClassTree}
    (h : readClassItem false cs = .ok (item, rest)) (hk : item.Known) :
    ∃ w, cs = w ++ rest ∧ w ≠ [] ∧ Paired w ∧ TakesBefore (readClassItem false) w rest item := by
  obtain ⟨⟨first, rest₁⟩, hfirst, hitem⟩ := bind_eq_ok.1 h
  simp only [skip_false] at hitem
  split at hitem
  · cases hitem
  next after =>
    split at hitem
    next tail =>
      obtain ⟨t, ht, heq⟩ := bind_eq_ok.1 hitem
      cases heq
      exact readClassItem_takes_first (.inl rfl) hfirst ht hk
    next tail =>
      obtain ⟨t, ht, heq⟩ := bind_eq_ok.1 hitem
      cases heq
      exact readClassItem_takes_first (.inr rfl) hfirst ht hk
    next hbracket hhyphen =>
      obtain ⟨⟨last, rest₂⟩, hlast, hrange⟩ := bind_eq_ok.1 hitem
      obtain ⟨t, ht, heq⟩ := bind_eq_ok.1 hrange
      cases heq
      obtain ⟨-, ⟨c, hc⟩, d, hd⟩ := classRange_eq_ok ht
      obtain ⟨hk₁, ha₁⟩ := Atom.known_of_character hc
      obtain ⟨hk₂, ha₂⟩ := Atom.known_of_character hd
      obtain ⟨w₁, rfl, hne₁, hpaired₁, htakes₁⟩ := readClassAtom_takes hfirst hk₁ ha₁
      obtain ⟨w₂, rfl, hne₂, hpaired₂, htakes₂⟩ := readClassAtom_takes hlast hk₂ ha₂
      refine ⟨w₁ ++ '-' :: w₂, by simp, by simp, hpaired₁.append (.char (by decide) hpaired₂),
        fun u hu hp after => ?_⟩
      obtain ⟨e, w₂, rfl⟩ := List.exists_cons_of_ne_nil hne₂
      have he : e ≠ ']' ∧ e ≠ '-' :=
        ⟨fun he => hbracket _ (by rw [he]; rfl), fun he => hhyphen _ (by rw [he]; rfl)⟩
      have hread₁ := htakes₁ ('-' :: e :: w₂ ++ (u ++ after))
      have hread₂ := htakes₂ (u ++ after)
      simp only [List.cons_append, List.append_assoc] at hread₁ hread₂ ⊢
      simp [readClassItem, hread₁, he, hread₂, ht]
  next hnil hhyphen =>
    obtain ⟨t, ht, heq⟩ := bind_eq_ok.1 hitem
    cases heq
    obtain ⟨rfl, ha⟩ := classItem_eq_ok ht
    obtain ⟨w, rfl, hne, hpaired, htakes⟩ := readClassAtom_takes hfirst hk ha
    refine ⟨w, rfl, hne, hpaired, fun u hu hp after => ?_⟩
    obtain ⟨c, cs, rfl⟩ := List.exists_cons_of_ne_nil hnil
    obtain ⟨v, rfl, -⟩ := exists_cons_of_prefix hu hp
    have hc : c ≠ '-' := fun hc => hhyphen _ (by rw [hc])
    have hread := htakes (c :: (v ++ after))
    simp [readClassItem, hread, ht, hc]

/-! ## Classes within classes -/

def OpenClass.Known (c : OpenClass) : Prop :=
  (∀ t ∈ c.items, t.Known) ∧ ∀ op left, c.left = some (op, left) → left.Known

namespace OpenClass

theorem known_push {c : OpenClass} {item : ClassTree} :
    (c.push item).Known ↔ item.Known ∧ c.Known := by
  simp only [Known, push, List.mem_cons, forall_eq_or_imp]
  tauto

theorem known_tree {c : OpenClass} : c.tree.Known ↔ c.Known := by
  obtain ⟨negated, left, items⟩ := c
  have hright : (OpenClass.tree ⟨negated, none, items⟩).Known ↔ ∀ t ∈ items, t.Known := by
    rcases items with _ | ⟨t, _ | ⟨u, ts⟩⟩
    · simp [tree, ClassTree.Known]
    · simp [tree]
    · simp only [tree, ClassTree.Known, ClassTree.allKnown_iff, List.mem_reverse]
  rcases left with _ | ⟨op, left⟩
  · simp [hright, Known]
  · rw [show OpenClass.tree ⟨negated, some (op, left), items⟩
      = .binary op left (OpenClass.tree ⟨negated, none, items⟩) from rfl]
    simp [ClassTree.Known, hright, Known, and_comm]

theorem known_operate {c : OpenClass} {op : ClassOp} : (c.operate op).Known ↔ c.Known := by
  have htree := known_tree (c := c)
  simpa [operate, Known] using htree

end OpenClass

theorem isAlpha_of_namedClass {name : List Char} {ranges : String}
    (h : namedClass? (String.ofList name) = some ranges) : ∀ c ∈ name, c.isAlpha = true := by
  obtain ⟨before, after, htable, -⟩ := List.lookup_eq_some_iff.1 h
  have hall : (before ++ (String.ofList name, ranges) :: after).all
      (fun row => row.1.toList.all Char.isAlpha) = true := by
    rw [← htable]
    decide +kernel
  have hname := List.all_eq_true.1 hall (String.ofList name, ranges) (by simp)
  simpa using hname

theorem readName_eq_some {negated : Bool} {cs rest : List Char} {item : ClassTree} :
    readName? negated cs = some (item, rest) ↔
      ∃ name ranges, namedClass? (String.ofList name) = some ranges ∧
        cs = name ++ ':' :: ']' :: rest ∧
        item = .named (Unicode.readRanges ranges) negated := by
  constructor
  · intro h
    unfold readName? at h
    split at h
    next rest' hdrop =>
      obtain ⟨ranges, hname, heq⟩ := Option.map_eq_some_iff.1 h
      cases heq
      refine ⟨_, ranges, hname, ?_, rfl⟩
      rw [← hdrop, List.takeWhile_append_dropWhile]
    · cases h
  · rintro ⟨name, ranges, hname, rfl, rfl⟩
    have hcolon : ∀ c ∈ name, (c != ':') = true := by
      intro c hc
      rw [bne_iff_ne]
      rintro rfl
      exact absurd (isAlpha_of_namedClass hname _ hc) (by decide)
    simp [readName?, List.dropWhile_append_of_pos hcolon, List.takeWhile_append_of_pos hcolon,
      hname]

theorem readNamed_takes {cs rest : List Char} {item : ClassTree}
    (h : readNamed? cs = some (item, rest)) :
    ∃ w, cs = w ++ ']' :: rest ∧ Plain w ∧ item.Known ∧
      ∀ after, readNamed? (w ++ ']' :: after) = some (item, after) := by
  have hplain : ∀ {name : List Char} {ranges : String},
      namedClass? (String.ofList name) = some ranges → Plain (name ++ [':']) := by
    intro name ranges hname
    refine Plain.append (fun c hc hs => ?_) (by simp [Plain, structural])
    have hletters : structural.all (fun c => !c.isAlpha) = true := by decide
    have := List.all_eq_true.1 hletters c hs
    simp [isAlpha_of_namedClass hname c hc] at this
  unfold readNamed? at h
  split at h
  next cs =>
    obtain ⟨name, ranges, hname, rfl, rfl⟩ := readName_eq_some.1 h
    refine ⟨':' :: '^' :: (name ++ [':']), by simp, ?_, trivial, fun after => ?_⟩
    · exact ((hplain hname).cons (by decide)).cons (by decide)
    · exact readName_eq_some.2 ⟨name, ranges, hname, by simp, rfl⟩
  next cs hmark =>
    obtain ⟨name, ranges, hname, rfl, rfl⟩ := readName_eq_some.1 h
    refine ⟨':' :: (name ++ [':']), by simp, (hplain hname).cons (by decide), trivial,
      fun after => ?_⟩
    have hread : readName? false (name ++ ':' :: ']' :: after) =
        some (.named (Unicode.readRanges ranges) false, after) :=
      readName_eq_some.2 ⟨name, ranges, hname, rfl, rfl⟩
    simp only [List.cons_append, List.append_assoc, List.nil_append]
    unfold readNamed?
    split
    next heq => rcases name with _ | ⟨c, name⟩ <;> simp_all
    next heq => simp_all
    next hne => exact absurd rfl (hne _)
  · cases h

theorem readNamed_none {cs u : List Char} (h : readNamed? cs = none) (hu : ']' ∈ u)
    (hp : u <+: cs) (after : List Char) : readNamed? (u ++ after) = none := by
  cases hnamed : readNamed? (u ++ after) with
  | none => rfl
  | some found =>
    obtain ⟨w, hw, hplain, -, htakes⟩ := readNamed_takes hnamed
    have hbracket : ']' ∉ w := fun hmem => hplain _ hmem (by decide)
    have hu' : u <+: u ++ after := List.prefix_append u after
    have hw' : w ++ [']'] <+: u ++ after := ⟨found.2, by simp [hw]⟩
    obtain ⟨v, rfl⟩ : w ++ [']'] <+: u := by
      refine List.prefix_of_prefix_length_le hw' hu' ?_
      by_contra hlt
      have hle : u.length ≤ w.length := by simpa using hlt
      have huw : u <+: w :=
        List.prefix_of_prefix_length_le hu' ((List.prefix_append w _).trans hw') hle
      exact hbracket (huw.subset hu)
    obtain ⟨t, rfl⟩ := hp
    have := htakes (v ++ t)
    simp_all

theorem openClass_negated (cs : List Char) :
    openClass false ('^' :: cs) = openItems false true cs := rfl

theorem openClass_plain {c : Char} (cs : List Char) (hc : c ≠ '^') :
    openClass false (c :: cs) = openItems false false (c :: cs) := by
  simp [openClass, hc]

theorem openItems_takes {negated : Bool} {cs rest : List Char} {start : OpenClass}
    (h : openItems false negated cs = .ok (start, rest)) :
    ∃ w, cs = w ++ rest ∧ Paired w ∧ TakesBefore (openItems false negated) w rest start := by
  have hsplit := List.takeWhile_append_dropWhile (p := (· == '-')) (l := cs)
  have hhyphens : ∀ c ∈ cs.takeWhile (· == '-'), (c == '-') = true := by
    intro c hc
    simpa using List.mem_takeWhile_imp hc
  unfold openItems at h
  rw [leading_eq] at h
  split at h
  · cases h
  next rest' hlead =>
    cases h
    obtain ⟨hnone, hrest⟩ := Prod.mk.injEq .. ▸ hlead
    refine ⟨[']'], by simpa [hnone, hrest] using hsplit.symm, .char (by decide) .nil, ?_⟩
    intro u hu hp after
    simp [openItems, leading_eq]
  next hyphens rest' hnil hbracket hlead =>
    cases h
    obtain ⟨rfl, rfl⟩ := Prod.mk.injEq .. ▸ hlead
    refine ⟨cs.takeWhile (· == '-'), hsplit.symm, .of_forall fun c hc => ?_, ?_⟩
    · rw [eq_of_beq (hhyphens c hc)]
      decide
    · intro u hu hp after
      cases hdrop : cs.dropWhile (· == '-') with
      | nil => exact absurd hdrop hnil
      | cons c rest =>
        have hc : (c == '-') = false := by
          have := List.head?_dropWhile_not (· == '-') cs
          simpa [hdrop] using this
        rw [hdrop] at hp
        obtain ⟨v, rfl, -⟩ := exists_cons_of_prefix hu hp
        unfold openItems
        rw [leading_eq, List.takeWhile_append_of_pos hhyphens,
          List.dropWhile_append_of_pos hhyphens]
        simp only [List.cons_append, List.takeWhile_cons, List.dropWhile_cons, hc,
          Bool.false_eq_true, if_false, List.append_nil]
        split
        next heq => simp_all
        next heq => simp_all
        next => simp_all

theorem openClass_takes {cs rest : List Char} {start : OpenClass}
    (h : openClass false cs = .ok (start, rest)) :
    ∃ w, cs = w ++ rest ∧ Paired w ∧ TakesBefore (openClass false) w rest start := by
  cases cs with
  | nil => cases h
  | cons c cs =>
    by_cases hc : c = '^'
    · subst hc
      rw [openClass_negated] at h
      obtain ⟨w, rfl, hpaired, htakes⟩ := openItems_takes h
      refine ⟨'^' :: w, rfl, .char (by decide) hpaired, fun u hu hp after => ?_⟩
      rw [List.cons_append, openClass_negated]
      exact htakes u hu hp after
    · rw [openClass_plain cs hc] at h
      obtain ⟨w, hw, hpaired, htakes⟩ := openItems_takes h
      refine ⟨w, hw, hpaired, fun u hu hp after => ?_⟩
      obtain ⟨t, ht⟩ : ∃ t, w ++ (u ++ after) = c :: t := by
        cases w with
        | nil =>
          rw [← hw.trans (List.nil_append _)] at hp
          obtain ⟨v, rfl, -⟩ := exists_cons_of_prefix hu hp
          exact ⟨v ++ after, rfl⟩
        | cons d w =>
          cases hw
          exact ⟨_, rfl⟩
      rw [ht, openClass_plain t hc, ← ht]
      exact htakes u hu hp after

/-! ## Whole classes -/

/-- Two characters that start neither a class nor an operation, and end nothing. -/
def StartsItem (c d : Char) : Prop :=
  c ≠ '[' ∧ c ≠ ']' ∧ ¬(c = '&' ∧ d = '&') ∧ ¬(c = '-' ∧ d = '-') ∧ ¬(c = '~' ∧ d = '~')

theorem readClassAux_item {c d : Char} (h : StartsItem c d) (n : Nat) (outer : List OpenClass)
    (current : OpenClass) (cs : List Char) :
    readClassAux false (n + 1) outer current (c :: d :: cs) =
      readClassItem false (c :: d :: cs) >>= fun x =>
        readClassAux false n outer (current.push x.1) x.2 := by
  obtain ⟨hopen, hclose, hand, hminus, htilde⟩ := h
  rw [readClassAux, skip_false]
  split <;> simp_all

/-- From `cs` the outermost class is read up to its closing bracket, whatever follows it. -/
structure ClassTaken (outer : List OpenClass) (current : OpenClass) (cs : List Char)
    (read : OpenClass) (rest : List Char) : Prop where
  current_known : current.Known
  outer_known : ∀ o ∈ outer, o.Known
  taken : ∃ w, cs = w ++ ']' :: rest ∧ Paired w ∧ ∀ m after, w.length < m →
    readClassAux false m outer current (w ++ ']' :: after) = .ok (read, after)

variable {outer outer' : List OpenClass} {current current' read : OpenClass} {cs rest : List Char}

theorem ClassTaken.step {v : List Char} (h : ClassTaken outer' current' cs read rest)
    (hv : v ≠ []) (hpaired : Paired v) (hcurrent : current.Known) (houter : ∀ o ∈ outer, o.Known)
    (hstep : ∀ w, cs = w ++ ']' :: rest → ∀ m after,
      readClassAux false (m + 1) outer current (v ++ (w ++ ']' :: after)) =
        readClassAux false m outer' current' (w ++ ']' :: after)) :
    ClassTaken outer current (v ++ cs) read rest := by
  obtain ⟨w, hw, hpaired', htakes⟩ := h.taken
  refine ⟨hcurrent, houter, v ++ w, by simp [hw], hpaired.append hpaired', ?_⟩
  intro m after hm
  have hpos : 0 < v.length := List.length_pos_of_ne_nil hv
  rw [List.length_append] at hm
  obtain ⟨m, rfl⟩ : ∃ k, m = k + 1 := ⟨m - 1, by omega⟩
  rw [List.append_assoc, hstep w hw m after]
  exact htakes m after (by omega)

theorem ClassTaken.operate {c : Char} {op : ClassOp}
    (h : ClassTaken outer (current.operate op) cs read rest) (hc : c ≠ '\\')
    (hstep : ∀ m cs, readClassAux false (m + 1) outer current (c :: c :: cs) =
      readClassAux false m outer (current.operate op) cs) :
    ClassTaken outer current (c :: c :: cs) read rest :=
  h.step (v := [c, c]) (by simp) (.char hc (.char hc .nil))
    (OpenClass.known_operate.1 h.current_known) h.outer_known fun _ _ m _ => hstep m _

theorem ClassTaken.named {item : ClassTree} {cs rest' : List Char}
    (h : ClassTaken outer (current.push item) rest' read rest)
    (hnamed : readNamed? cs = some (item, rest')) :
    ClassTaken outer current ('[' :: cs) read rest := by
  obtain ⟨w, rfl, hplain, -, htakes⟩ := readNamed_takes hnamed
  have hpaired : Paired ('[' :: w ++ [']']) :=
    (Paired.char (by decide) hplain.paired).append (.char (by decide) .nil)
  have hcurrent := (OpenClass.known_push.1 h.current_known).2
  have := h.step (by simp) hpaired hcurrent h.outer_known fun w' hw' m after => by
    have := htakes (w' ++ ']' :: after)
    simp [readClassAux, this]
  simpa using this

theorem ClassTaken.nested {inner : OpenClass} {cs rest' : List Char}
    (h : ClassTaken (current :: outer) inner rest' read rest) (hnamed : readNamed? cs = none)
    (hinner : openClass false cs = .ok (inner, rest')) :
    ClassTaken outer current ('[' :: cs) read rest := by
  obtain ⟨hcurrent, houter⟩ := List.forall_mem_cons.1 h.outer_known
  obtain ⟨w, rfl, hpaired, htakes⟩ := openClass_takes hinner
  refine h.step (v := '[' :: w) (by simp) (.char (by decide) hpaired) hcurrent houter
    fun w' hw' m after => ?_
  have hstart : w' ++ [']'] <+: rest' := ⟨rest, by simp [hw']⟩
  have hnone := readNamed_none (u := w ++ (w' ++ [']'])) hnamed (by simp)
    ((List.prefix_append_right_inj w).2 hstart) after
  have hopen := htakes (w' ++ [']']) (by simp) hstart after
  simp only [List.append_assoc, List.cons_append, List.nil_append] at hnone hopen
  simp [readClassAux, hnone, hopen]

theorem ClassTaken.closed {parent : OpenClass} {cs : List Char}
    (h : ClassTaken outer (parent.push (.bracketed current.negated current.tree)) cs read rest) :
    ClassTaken (parent :: outer) current (']' :: cs) read rest := by
  obtain ⟨hcurrent, hparent⟩ := OpenClass.known_push.1 h.current_known
  exact h.step (v := [']']) (by simp) (.char (by decide) .nil)
    (OpenClass.known_tree.1 hcurrent) (List.forall_mem_cons.2 ⟨hparent, h.outer_known⟩)
    fun w' hw' m after => by simp [readClassAux]

theorem ClassTaken.item {item : ClassTree} {cs rest' : List Char}
    (h : ClassTaken outer (current.push item) rest' read rest)
    (hitem : readClassItem false cs = .ok (item, rest'))
    (hstarts : ∀ c d tail, cs = c :: d :: tail → StartsItem c d) :
    ClassTaken outer current cs read rest := by
  obtain ⟨hknown, hcurrent⟩ := OpenClass.known_push.1 h.current_known
  obtain ⟨w, rfl, hne, hpaired, htakes⟩ := readClassItem_takes hitem hknown
  refine h.step hne hpaired hcurrent h.outer_known fun w' hw' m after => ?_
  -- The first two characters are the same with any continuation.
  obtain ⟨c, d, tail, htext⟩ : ∃ c d tail, w ++ (w' ++ [']']) = c :: d :: tail := by
    obtain ⟨c, w, rfl⟩ := List.exists_cons_of_ne_nil hne
    obtain ⟨d, tail, htail⟩ := List.exists_cons_of_ne_nil (show w ++ (w' ++ [']']) ≠ [] by simp)
    exact ⟨c, d, tail, by simp [htail]⟩
  have hrest : w ++ rest' = c :: d :: (tail ++ rest) := by
    simpa [hw'] using congrArg (· ++ rest) htext
  have hafter : w ++ (w' ++ ']' :: after) = c :: d :: (tail ++ after) := by
    simpa using congrArg (· ++ after) htext
  have hagain := htakes (w' ++ [']']) (by simp) ⟨rest, by simp [hw']⟩ after
  simp only [List.append_assoc, List.cons_append, List.nil_append] at hagain
  rw [hafter, readClassAux_item (hstarts c d _ hrest), ← hafter, hagain]
  rfl

theorem classTaken_of_readClassAux {n : Nat}
    (h : readClassAux false n outer current cs = .ok (read, rest)) (hk : read.Known) :
    ClassTaken outer current cs read rest := by
  induction n generalizing outer current cs with
  | zero => cases h
  | succ n ih =>
    rw [readClassAux, skip_false] at h
    split at h
    · cases h
    next cs =>
      split at h
      next item rest' hnamed => exact (ih h).named hnamed
      next hnamed =>
        obtain ⟨⟨inner, rest'⟩, hinner, hread⟩ := bind_eq_ok.1 h
        exact (ih hread).nested hnamed hinner
    next cs =>
      split at h
      next =>
        cases h
        refine ⟨hk, by simp, [], rfl, .nil, fun m after hm => ?_⟩
        obtain ⟨m, rfl⟩ : ∃ k, m = k + 1 := ⟨m - 1, by omega⟩
        simp [readClassAux]
      next parent outer => exact (ih h).closed
    next cs => exact (ih h).operate (by decide) fun m cs => by simp [readClassAux]
    next cs => exact (ih h).operate (by decide) fun m cs => by simp [readClassAux]
    next cs => exact (ih h).operate (by decide) fun m cs => by simp [readClassAux]
    next hnil hopen hclose hand hminus htilde =>
      obtain ⟨⟨item, rest'⟩, hitem, hread⟩ := bind_eq_ok.1 h
      refine (ih hread).item hitem ?_
      rintro c d tail rfl
      exact ⟨fun hc => hopen _ (by rw [hc]), fun hc => hclose _ (by rw [hc]),
        fun hc => hand _ (by rw [hc.1, hc.2]), fun hc => hminus _ (by rw [hc.1, hc.2]),
        fun hc => htilde _ (by rw [hc.1, hc.2])⟩

/-- A class is read in the same way whatever follows its closing bracket. -/
theorem readClass_takes {piece : Piece} (h : readClass false cs = .ok (piece, rest))
    (hk : piece.Known) :
    ∃ w, cs = w ++ ']' :: rest ∧ Paired w ∧ Takes (readClass false) (w ++ [']']) piece := by
  obtain ⟨⟨start, rest₁⟩, hstart, h⟩ := bind_eq_ok.1 h
  obtain ⟨⟨read, rest₂⟩, hread, heq⟩ := bind_eq_ok.1 h
  cases heq
  obtain ⟨-, -, w', hw', hpaired', htakes'⟩ :=
    classTaken_of_readClassAux hread (OpenClass.known_tree.1 hk)
  obtain ⟨w, rfl, hpaired, htakes⟩ := openClass_takes hstart
  refine ⟨w ++ w', by simp [hw'], hpaired.append hpaired', fun after => ?_⟩
  have hopen := htakes (w' ++ [']']) (by simp) ⟨rest, by simp [hw']⟩ after
  simp only [List.append_assoc, List.cons_append, List.nil_append] at hopen ⊢
  have hclass := htakes' (w'.length + (after.length + 1) + 1) after (by omega)
  simp [readClass, hopen, hclass]

end DocSchema.Pattern
