import DocSchema.Proofs.Collapse
import DocSchema.Proofs.Quantifier
import Mathlib

/-!
# What a content list allows

The child sequences that a content list allows as it is written, and those that its checked form
allows. Checking a list leaves out marks for text and lists without elements, and in a list without
order it puts elements before groups. In a sequence and in a list without order that changes
nothing. In a choice, an option without elements is lost: as written it allows to leave the choice
empty.
-/
namespace DocSchema

def Quantifier.Holds : Quantifier → Nat → Prop
  | .optional, n => n ≤ 1
  | .exactly k, n => (n : Int) = k
  | .bounds b none, n => b.comparison.Holds n b.value
  | .bounds b (some b'), n => b.comparison.Holds n b.value ∧ b'.comparison.Holds n b'.value

theorem Quantifier.admits_iff_holds {q : Quantifier} {c : Cardinality}
    (h : q.cardinality = .ok c) (n : Nat) : c.admits n = true ↔ q.Holds n := by
  cases q with
  | optional =>
    obtain rfl := Except.ok.inj h
    exact Cardinality.admits_optional
  | exactly k =>
    obtain ⟨m, hm, hc⟩ := bind_eq_ok.mp h
    have hk := count_outcome k
    rw [hm] at hk
    obtain rfl := Except.ok.inj hc
    obtain ⟨rfl, -⟩ := hk
    exact Cardinality.admits_exactly.trans Int.ofNat_inj.symm
  | bounds b b' =>
    cases b' with
    | none =>
      have hb := bound_outcome b
      rw [h] at hb
      exact hb.1 n
    | some b' =>
      have hb := bounds_outcome b b'
      rw [h] at hb
      exact hb.1 n

section Languages

variable {α : Type}

def copies (name : String) (admits : Nat → Prop) : Language String :=
  {w | ∃ n, admits n ∧ w = List.replicate n name}

/-- What a list with a compositor allows, given what its members allow. An empty list allows the
empty sequence. -/
def Compositor.words : Compositor → List (Language α) → Language α
  | .sequence, languages => languages.prod
  | .unordered, languages =>
    {w | ∃ order : List (Language α), order.Perm languages ∧ w ∈ order.prod}
  | .choice, [] => 1
  | .choice, language :: languages => (language :: languages).sum

/-- Lists of languages that differ by members that allow the empty sequence alone, none of them an
option of a choice. -/
inductive Pads (compositor : Compositor) : List (Language α) → List (Language α) → Prop where
  | nil : Pads compositor [] []
  | keep {ls ls' : List (Language α)} (l : Language α) (h : Pads compositor ls ls') :
      Pads compositor (l :: ls) (l :: ls')
  | one {ls ls' : List (Language α)} (hc : compositor ≠ .choice) (h : Pads compositor ls ls') :
      Pads compositor ls (1 :: ls')

theorem Pads.prod_eq {c : Compositor} {ls ls' : List (Language α)} (h : Pads c ls ls') :
    ls.prod = ls'.prod := by
  induction h with
  | nil => rfl
  | keep l _ ih => rw [List.prod_cons, List.prod_cons, ih]
  | one _ _ ih => rw [List.prod_cons, one_mul, ih]

theorem Pads.eq_of_choice {ls ls' : List (Language α)} (h : Pads .choice ls ls') : ls = ls' := by
  induction h with
  | nil => rfl
  | keep l _ ih => rw [ih]
  | one hc _ _ => exact absurd rfl hc

theorem words_unordered_perm {ls ls' : List (Language α)} (h : ls.Perm ls') :
    Compositor.unordered.words ls = Compositor.unordered.words ls' := by
  ext w
  constructor
  · rintro ⟨order, ho, hw⟩
    exact ⟨order, ho.trans h, hw⟩
  · rintro ⟨order, ho, hw⟩
    exact ⟨order, ho.trans h.symm, hw⟩

theorem words_unordered_one (ls : List (Language α)) :
    Compositor.unordered.words (1 :: ls) = Compositor.unordered.words ls := by
  ext w
  constructor
  · rintro ⟨order, ho, hw⟩
    have hm : 1 ∈ order := ho.symm.subset (by simp)
    obtain ⟨before, after, rfl⟩ := List.append_of_mem hm
    refine ⟨before ++ after, (List.perm_cons 1).mp (List.perm_middle.symm.trans ho), ?_⟩
    simpa using hw
  · rintro ⟨order, ho, hw⟩
    exact ⟨1 :: order, ho.cons 1, by simpa using hw⟩

theorem Pads.perm {c : Compositor} {ls ls' : List (Language α)} (h : Pads c ls ls') :
    ∃ k, ls'.Perm (List.replicate k 1 ++ ls) := by
  induction h with
  | nil => exact ⟨0, .refl _⟩
  | keep l _ ih =>
    obtain ⟨k, hk⟩ := ih
    exact ⟨k, (hk.cons l).trans List.perm_middle.symm⟩
  | one _ _ ih =>
    obtain ⟨k, hk⟩ := ih
    exact ⟨k + 1, hk.cons 1⟩

theorem Pads.words_eq {c : Compositor} {ls ls' : List (Language α)} (h : Pads c ls ls') :
    c.words ls = c.words ls' := by
  cases c with
  | sequence => exact h.prod_eq
  | unordered =>
    obtain ⟨k, hk⟩ := h.perm
    rw [words_unordered_perm hk]
    clear hk
    induction k with
    | zero => rfl
    | succ k ih => rw [List.replicate_succ, List.cons_append, words_unordered_one, ih]
  | choice => rw [h.eq_of_choice]

theorem Compositor.mem_words_choice {ls : List (Language α)} (hne : ls ≠ []) {w : List α} :
    w ∈ Compositor.choice.words ls ↔ ∃ l ∈ ls, w ∈ l := by
  have hsum : ∀ ls : List (Language α), w ∈ ls.sum ↔ ∃ l ∈ ls, w ∈ l := by
    intro ls
    induction ls with
    | nil => simp
    | cons l ls ih => simp [Language.mem_add, ih]
  cases ls with
  | nil => exact absurd rfl hne
  | cons l ls => exact hsum (l :: ls)

theorem Compositor.words_mono {c : Compositor} {ls ls' : List (Language α)}
    (h : List.Forall₂ (· ≤ ·) ls ls') : c.words ls ≤ c.words ls' := by
  cases c with
  | sequence => exact h.prod_le_prod'
  | unordered =>
    rintro w ⟨order, ho, hw⟩
    obtain ⟨order', hle, hperm⟩ := List.perm_comp_forall₂ ho h
    exact ⟨order', hperm, hle.prod_le_prod' hw⟩
  | choice =>
    cases h with
    | nil => exact le_rfl
    | cons hl hls => exact add_le_add hl hls.sum_le_sum

theorem Compositor.words_of_forall_one {c : Compositor} {ls : List (Language α)}
    (h : ∀ l ∈ ls, l = 1) : c.words ls = 1 := by
  cases c with
  | sequence => exact List.prod_eq_one h
  | unordered =>
    ext w
    constructor
    · rintro ⟨order, ho, hw⟩
      rwa [List.prod_eq_one fun l hl => h l (ho.subset hl)] at hw
    · intro hw
      exact ⟨ls, .refl _, by rwa [List.prod_eq_one h]⟩
  | choice =>
    cases ls with
    | nil => rfl
    | cons l ls =>
      ext w
      rw [mem_words_choice (by simp)]
      constructor
      · rintro ⟨l', hl, hw⟩
        rwa [h l' hl] at hw
      · intro hw
        exact ⟨l, by simp, by rwa [h l (by simp)]⟩

end Languages

/-- Whether `n` occurrences of an item are allowed. Without a quantifier it occurs once. -/
def Item.Admits (i : Item) (n : Nat) : Prop := i.quantifier.elim (n = 1) fun q => q.value.Holds n

namespace Entry

mutual

/-- Whether an entry names an element, at some depth. -/
def hasElement : Entry → Bool
  | .item _ => true
  | .list _ entries _ => anyElement entries
  | .string _ | .integer _ | .anyText _ => false

def anyElement : List Entry → Bool
  | [] => false
  | e :: es => e.hasElement || anyElement es

end

mutual

/-- Whether an entry allows any text, at some depth. -/
def hasText : Entry → Bool
  | .anyText _ => true
  | .list _ entries _ => anyHasText entries
  | .item _ | .string _ | .integer _ => false

def anyHasText : List Entry → Bool
  | [] => false
  | e :: es => e.hasText || anyHasText es

end

mutual

/-- The child sequences that an entry allows as it is written: marks for text and empty lists stand
for the empty sequence. Unless `bare` is set, an option without elements is no option of a choice.
-/
def words (bare : Bool) : Entry → Language String
  | .item i => copies i.name.value i.Admits
  | .list compositor entries _ => compositor.words (wordsOf bare compositor entries)
  | .string _ | .integer _ | .anyText _ => 1

def wordsOf (bare : Bool) (compositor : Compositor) : List Entry → List (Language String)
  | [] => []
  | e :: es =>
    if compositor = .choice ∧ bare = false ∧ e.hasElement = false then wordsOf bare compositor es
    else e.words bare :: wordsOf bare compositor es

end

mutual

/-- No choice has an option without elements beside one with elements. -/
def isSettled : Entry → Bool
  | .list compositor entries _ =>
    (compositor != .choice || !anyElement entries || entries.all hasElement) && areSettled entries
  | .item _ | .string _ | .integer _ | .anyText _ => true

def areSettled : List Entry → Bool
  | [] => true
  | e :: es => e.isSettled && areSettled es

end

theorem wordsOf_cons_true (c : Compositor) (e : Entry) (es : List Entry) :
    wordsOf true c (e :: es) = e.words true :: wordsOf true c es := by
  simp [wordsOf]

theorem wordsOf_ne_nil {bare : Bool} {c : Compositor} {es : List Entry}
    (h : anyElement es = true) : wordsOf bare c es ≠ [] := by
  induction es with
  | nil => simp [anyElement] at h
  | cons e es ih =>
    rw [wordsOf]
    split_ifs with hbare
    · refine ih ?_
      simpa [anyElement, hbare.2.2] using h
    · simp

mutual

theorem words_of_bare (bare : Bool) : (e : Entry) → e.hasElement = false → e.words bare = 1
  | .item i => fun h => by simp [hasElement] at h
  | .list c es span => fun h => by
    rw [words]
    rw [hasElement] at h
    exact Compositor.words_of_forall_one (wordsOf_of_bare bare c es h)
  | .string s => fun _ => by rw [words]
  | .integer n => fun _ => by rw [words]
  | .anyText span => fun _ => by rw [words]

theorem wordsOf_of_bare (bare : Bool) (c : Compositor) : (es : List Entry) →
    anyElement es = false → ∀ l ∈ wordsOf bare c es, l = 1
  | [] => fun _ l hl => by simp [wordsOf] at hl
  | e :: es => fun h l hl => by
    simp only [anyElement, Bool.or_eq_false_iff] at h
    rw [wordsOf] at hl
    split_ifs at hl
    · exact wordsOf_of_bare bare c es h.2 l hl
    · rcases List.mem_cons.mp hl with rfl | hl
      · exact words_of_bare bare e h.1
      · exact wordsOf_of_bare bare c es h.2 l hl

end

mutual

theorem words_false_le : (e : Entry) → e.words false ≤ e.words true
  | .item i => by rw [words, words]
  | .list c es span => by
    by_cases he : anyElement es = false
    · rw [words_of_bare false (.list c es span) he, words_of_bare true (.list c es span) he]
    · have hes : anyElement es = true := by simpa using he
      obtain ⟨hall, hsome⟩ := wordsOf_false_le c es
      rw [words, words]
      by_cases hc : c = .choice
      · subst hc
        intro w hw
        obtain ⟨l, hl, hw⟩ := (Compositor.mem_words_choice (wordsOf_ne_nil hes)).mp hw
        obtain ⟨l', hl', hle⟩ := hsome l hl
        exact (Compositor.mem_words_choice (wordsOf_ne_nil hes)).mpr ⟨l', hl', hle hw⟩
      · exact Compositor.words_mono (hall hc)
  | .string s => by rw [words, words]
  | .integer n => by rw [words, words]
  | .anyText span => by rw [words, words]

theorem wordsOf_false_le (c : Compositor) : (es : List Entry) →
    (c ≠ .choice → List.Forall₂ (· ≤ ·) (wordsOf false c es) (wordsOf true c es)) ∧
      ∀ l ∈ wordsOf false c es, ∃ l' ∈ wordsOf true c es, l ≤ l'
  | [] => by simp [wordsOf]
  | e :: es => by
    obtain ⟨hall, hsome⟩ := wordsOf_false_le c es
    have hmore : ∀ l ∈ wordsOf false c es, ∃ l' ∈ wordsOf true c (e :: es), l ≤ l' := by
      intro l hl
      obtain ⟨l', hl', hle⟩ := hsome l hl
      exact ⟨l', by simp [wordsOf_cons_true, hl'], hle⟩
    constructor
    · intro hc
      rw [wordsOf_cons_true, wordsOf, if_neg (by simp [hc])]
      exact .cons (words_false_le e) (hall hc)
    · intro l hl
      rw [wordsOf] at hl
      split_ifs at hl
      · exact hmore l hl
      · rcases List.mem_cons.mp hl with rfl | hl
        · exact ⟨e.words true, by simp [wordsOf_cons_true], words_false_le e⟩
        · exact hmore l hl

end

mutual

theorem words_of_isSettled : (e : Entry) → e.isSettled = true → e.words false = e.words true
  | .item i => fun _ => by rw [words, words]
  | .list c es span => fun h => by
    simp only [isSettled, Bool.and_eq_true, Bool.or_eq_true, bne_iff_ne, Bool.not_eq_true'] at h
    obtain ⟨hc, hes⟩ := h
    by_cases he : anyElement es = false
    · rw [words_of_bare false (.list c es span) he, words_of_bare true (.list c es span) he]
    · have hall : c = .choice → es.all hasElement = true := fun hchoice => by simp_all
      rw [words, words, wordsOf_of_areSettled c es hes hall]
  | .string s => fun _ => by rw [words, words]
  | .integer n => fun _ => by rw [words, words]
  | .anyText span => fun _ => by rw [words, words]

theorem wordsOf_of_areSettled (c : Compositor) : (es : List Entry) → areSettled es = true →
    (c = .choice → es.all hasElement = true) → wordsOf false c es = wordsOf true c es
  | [] => fun _ _ => by rw [wordsOf, wordsOf]
  | e :: es => fun h hall => by
    simp only [areSettled, Bool.and_eq_true] at h
    simp only [List.all_cons, Bool.and_eq_true] at hall
    have hkeep : ¬(c = .choice ∧ false = false ∧ e.hasElement = false) := by
      rintro ⟨hc, -, he⟩
      simp [he] at hall
      exact hall hc
    rw [wordsOf_cons_true, wordsOf, if_neg hkeep, words_of_isSettled e h.1,
      wordsOf_of_areSettled c es h.2 fun hc => (hall hc).2]

end

end Entry

namespace Definition

def occurrenceWords (o : Occurrence) : Language String :=
  copies o.name.value fun n => o.cardinality.admits n = true

mutual

def Member.words : Member → Language String
  | .element o => occurrenceWords o
  | .group compositor members => compositor.words (Member.wordsOf members)

def Member.wordsOf : List Member → List (Language String)
  | [] => []
  | m :: ms => m.words :: Member.wordsOf ms

end

theorem Member.wordsOf_eq_map (ms : List Member) : Member.wordsOf ms = ms.map Member.words := by
  induction ms with
  | nil => rfl
  | cons m ms ih => rw [Member.wordsOf, ih, List.map_cons]

/-- The child sequences that a content allows. -/
def Content.words : Content → Language String
  | .empty | .text => 1
  | .single target _ => occurrenceWords target
  | .group compositor members _ => compositor.words (Member.wordsOf members)

/-- Whether a content allows text between children, or in their place. -/
def Content.allowsText : Content → Bool
  | .empty | .single .. => false
  | .text => true
  | .group _ _ mixed => mixed

theorem Content.words_ofMembers (c : Compositor) (ms : List Member) (mixed : Bool) :
    (Content.ofMembers c ms mixed).words = c.words (Member.wordsOf ms) := by
  cases ms with
  | nil =>
    have hnil : c.words (Member.wordsOf []) = 1 :=
      Compositor.words_of_forall_one (by simp [Member.wordsOf])
    rw [hnil]
    cases mixed <;> rfl
  | cons m ms => rfl

theorem Content.allowsText_ofMembers (c : Compositor) (ms : List Member) (mixed : Bool) :
    (Content.ofMembers c ms mixed).allowsText = mixed := by
  cases ms with
  | nil => cases mixed <;> rfl
  | cons m ms => rfl

section Checking

theorem occurrence_words {i : Item} (h : (occurrence i).problems = []) :
    ∃ o, (occurrence i).value = some o ∧ occurrenceWords o = copies i.name.value i.Admits := by
  unfold occurrence at h ⊢
  cases hq : i.quantifier with
  | none =>
    refine ⟨⟨i.name, .one⟩, rfl, ?_⟩
    have hone : ∀ n, Cardinality.one.admits n = true ↔ i.Admits n := by
      intro n
      simp only [Cardinality.admits_one, Item.Admits, hq, Option.elim_none]
    simp only [occurrenceWords, hone]
  | some q =>
    simp only [hq] at h ⊢
    cases hc : q.value.cardinality with
    | error fault => simp [hc] at h
    | ok c =>
      refine ⟨⟨i.name, c⟩, rfl, ?_⟩
      have hadmits : ∀ n, c.admits n = true ↔ i.Admits n := by
        intro n
        rw [Quantifier.admits_iff_holds hc, Item.Admits, hq, Option.elim_some]
      simp only [occurrenceWords, hadmits]

theorem map_element_occurrences (ms : List Member) :
    (ms.filterMap Member.occurrence?).map Member.element = ms.filter fun m => !m.isGroup := by
  induction ms with
  | nil => rfl
  | cons m ms ih =>
    cases m with
    | element o =>
      have ho : (Member.element o).occurrence? = some o := rfl
      rw [List.filterMap_cons_some ho, List.map_cons, ih]
      rfl
    | group c members =>
      have hn : (Member.group c members).occurrence? = none := rfl
      rw [List.filterMap_cons_none hn, ih]
      rfl

theorem arrange_words {owner : String} {c : Compositor} {ms : List Member}
    (h : (arrange owner c ms).problems = []) :
    c.words (Member.wordsOf (arrange owner c ms).value) = c.words (Member.wordsOf ms) ∧
      (arrange owner c ms).value.isEmpty = ms.isEmpty := by
  cases c with
  | sequence => exact ⟨rfl, rfl⟩
  | choice => exact ⟨rfl, rfl⟩
  | unordered =>
    have hcollapse : (collapse owner (ms.filterMap Member.occurrence?)).value =
        ms.filterMap Member.occurrence? := by
      simp only [arrange, Checked.problems_bind, Checked.problems_pure, List.append_nil,
        collapse, List.map_eq_nil_iff] at h
      exact Occurrence.collapse_value_of_problems_eq_nil h
    -- elements come before groups, where order has no meaning
    have hperm : (arrange owner .unordered ms).value.Perm ms := by
      simp only [arrange, Checked.value_bind, Checked.value_pure, hcollapse,
        map_element_occurrences]
      exact List.perm_append_comm.trans (List.filter_append_perm Member.isGroup ms)
    refine ⟨?_, ?_⟩
    · rw [Member.wordsOf_eq_map, Member.wordsOf_eq_map]
      exact words_unordered_perm (hperm.map Member.words)
    · exact hperm.isEmpty_eq

mutual

/-- An entry with elements becomes one member with the same meaning, and another one no member. -/
theorem entryMembers_words (owner : String) : (e : Entry) →
    (entryMembers owner e).problems = [] →
      (e.hasElement = true → ∃ m, (entryMembers owner e).value.1 = [m] ∧
          m.words = e.words false) ∧
        (e.hasElement = false → (entryMembers owner e).value.1 = []) ∧
        (entryMembers owner e).value.2 = e.hasText
  | .item i => fun h => by
    have hi : (occurrence i).problems = [] := by simpa [entryMembers] using h
    obtain ⟨o, ho, hw⟩ := occurrence_words hi
    refine ⟨fun _ => ⟨.element o, by simp [entryMembers, ho], ?_⟩, ?_, ?_⟩
    · rw [Member.words, hw, Entry.words]
    · simp [Entry.hasElement]
    · simp [entryMembers, Entry.hasText]
  | .list c es span => fun h => by
    simp only [entryMembers, Checked.problems_bind, Checked.problems_pure, List.append_nil,
      List.append_eq_nil_iff] at h
    obtain ⟨hwords, hempty, htext⟩ := entriesMembers_words owner es h.1
    obtain ⟨harrange, hsize⟩ := arrange_words h.2
    rw [hempty] at hsize
    simp only [entryMembers, Checked.value_bind, Checked.value_pure, Entry.hasElement]
    refine ⟨fun he => ⟨_, by rw [hsize, he]; rfl, ?_⟩, fun he => by rw [hsize, he]; rfl, ?_⟩
    · rw [Member.words, harrange, (hwords c).words_eq, Entry.words]
    · rw [htext, Entry.hasText]
  | .anyText span => fun _ => by simp [entryMembers, Entry.hasElement, Entry.hasText]
  | .string s => fun h => by simp [entryMembers] at h
  | .integer n => fun h => by simp [entryMembers] at h

theorem entriesMembers_words (owner : String) : (es : List Entry) →
    (entriesMembers owner es).problems = [] →
      (∀ c, Pads c (Member.wordsOf (entriesMembers owner es).value.1) (Entry.wordsOf false c es)) ∧
        (entriesMembers owner es).value.1.isEmpty = !Entry.anyElement es ∧
        (entriesMembers owner es).value.2 = Entry.anyHasText es
  | [] => fun _ => by
    simp only [entriesMembers, Checked.value_pure, Member.wordsOf, Entry.wordsOf]
    exact ⟨fun _ => .nil, rfl, rfl⟩
  | e :: es => fun h => by
    simp only [entriesMembers, Checked.problems_bind, Checked.problems_pure, List.append_nil,
      List.append_eq_nil_iff] at h
    obtain ⟨hfull, hbare, htext⟩ := entryMembers_words owner e h.1
    obtain ⟨hwords, hempty, htexts⟩ := entriesMembers_words owner es h.2
    simp only [entriesMembers, Checked.value_bind, Checked.value_pure, Entry.anyElement,
      Entry.anyHasText, Entry.wordsOf]
    refine ⟨fun c => ?_, ?_, by rw [htext, htexts]⟩
    · cases he : e.hasElement with
      | true =>
        obtain ⟨m, hm, hw⟩ := hfull he
        rw [hm, if_neg (by simp), ← hw]
        exact .keep m.words (hwords c)
      | false =>
        rw [hbare he, List.nil_append]
        split_ifs with hc
        · exact hwords c
        · rw [Entry.words_of_bare false e he]
          exact .one (by simpa using hc) (hwords c)
    · cases he : e.hasElement with
      | true =>
        obtain ⟨m, hm, -⟩ := hfull he
        simp [hm]
      | false => simp [hbare he, hempty]

end

end Checking

/-- Checking a content list keeps what it allows, except that an option without elements is no
option of a choice: the checked form allows what the list allows without such options, so nothing
that the list does not allow as written, and all of that unless some choice has one beside an option
with elements. Text is allowed exactly if the list allows it at some depth. -/
theorem contentOf_list_words {d : Declaration} {compositor : Compositor} {entries : List Entry}
    {span : Span} (hd : given d .allowedContent = some (.list compositor entries span))
    (hp : (contentOf d).problems = []) :
    (contentOf d).value.words = (Entry.list compositor entries span).words false ∧
      (contentOf d).value.words ≤ (Entry.list compositor entries span).words true ∧
      ((Entry.list compositor entries span).isSettled = true →
        (contentOf d).value.words = (Entry.list compositor entries span).words true) ∧
      ((contentOf d).value.allowsText = true ↔
        (Entry.list compositor entries span).hasText = true) := by
  simp only [contentOf, hd, Checked.problems_bind, Checked.problems_pure, List.append_nil,
    List.append_eq_nil_iff] at hp
  obtain ⟨hwords, -, htext⟩ := entriesMembers_words d.name.value entries hp.1
  have heq : (contentOf d).value.words = (Entry.list compositor entries span).words false := by
    simp only [contentOf, hd, Checked.value_bind, Checked.value_pure]
    rw [Content.words_ofMembers, (arrange_words hp.2).1, (hwords compositor).words_eq, Entry.words]
  refine ⟨heq, heq ▸ Entry.words_false_le _, fun hs => ?_, ?_⟩
  · rw [heq, Entry.words_of_isSettled _ hs]
  · simp only [contentOf, hd, Checked.value_bind, Checked.value_pure]
    rw [Content.allowsText_ofMembers, htext, Entry.hasText]

def listDeclaration (compositor : Compositor) (entries : List Entry) : Declaration :=
  ⟨none, ⟨.element, .point 0⟩, ⟨"r", .point 0⟩, .point 0,
    [⟨⟨"allowedContent", .point 0⟩, .list compositor entries (.point 0)⟩], .point 0⟩

/-- The options of `{[b (n > 1), *any text*, []] / {[a], c}}`. -/
def settledEntries : List Entry :=
  [.list .sequence [.item ⟨⟨"b", .point 0⟩, some ⟨.bounds ⟨.greater, 1⟩ none, .point 0⟩⟩,
      .anyText (.point 0), .list .sequence [] (.point 0)] (.point 0),
    .list .unordered [.list .sequence [.item ⟨⟨"a", .point 0⟩, none⟩] (.point 0),
      .item ⟨⟨"c", .point 0⟩, none⟩] (.point 0)]

theorem contentOf_list_words_settled :
    (contentOf (listDeclaration .choice settledEntries)).problems = [] ∧
      (Entry.list .choice settledEntries (.point 0)).isSettled = true ∧
      (contentOf (listDeclaration .choice settledEntries)).value.words =
        (Entry.list .choice settledEntries (.point 0)).words true ∧
      (contentOf (listDeclaration .choice settledEntries)).value.allowsText = true := by
  have hp : (contentOf (listDeclaration .choice settledEntries)).problems = [] := by decide
  have hs : (Entry.list .choice settledEntries (.point 0)).isSettled = true := by decide
  have hd : given (listDeclaration .choice settledEntries) .allowedContent =
      some (.list .choice settledEntries (.point 0)) := rfl
  obtain ⟨-, -, hwords, htext⟩ := contentOf_list_words hd hp
  exact ⟨hp, hs, hwords hs, htext.mpr (by decide)⟩

/-- The options of `{a / []}`. -/
def bareEntries : List Entry :=
  [.item ⟨⟨"a", .point 0⟩, none⟩, .list .sequence [] (.point 0)]

/-- As written the choice may stay empty, but not once the list is checked. -/
theorem contentOf_choice_drops_option :
    (contentOf (listDeclaration .choice bareEntries)).problems = [] ∧
      [] ∈ (Entry.list .choice bareEntries (.point 0)).words true ∧
      [] ∉ (contentOf (listDeclaration .choice bareEntries)).value.words := by
  refine ⟨by decide, ?_, ?_⟩
  · have hempty : (Entry.list .sequence [] (.point 0)).words true = 1 :=
      Entry.words_of_bare true _ rfl
    rw [Entry.words, Compositor.mem_words_choice (Entry.wordsOf_ne_nil rfl)]
    refine ⟨_, ?_, Language.nil_mem_one⟩
    simp [bareEntries, Entry.wordsOf_cons_true, hempty]
  · have hvalue : (contentOf (listDeclaration .choice bareEntries)).value =
        .group .choice [.element ⟨⟨"a", .point 0⟩, .one⟩] false := rfl
    rw [hvalue, Content.words, Compositor.mem_words_choice (by simp [Member.wordsOf])]
    rintro ⟨l, hl, hw⟩
    obtain rfl : l = occurrenceWords ⟨⟨"a", .point 0⟩, .one⟩ := by
      simpa [Member.wordsOf, Member.words] using hl
    obtain ⟨n, hn, hnil⟩ := hw
    obtain rfl : n = 0 := by simpa using congrArg List.length hnil.symm
    exact absurd hn (by decide)

end Definition

end DocSchema
