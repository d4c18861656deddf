import DocSchema.Proofs.Pattern.Classes
import DocSchema.Proofs.Pattern.Dialect

/-!
# The scan over one atom

An atom is a character or an escape. What the scan for foreign constructs says about it depends on
the next character and on whether a class is open, and after it the scan goes on as if the atom
were a single character.
-/
namespace DocSchema.Pattern

open Unicode (structural signs)

/-- Both languages have the atom, and read it in the same way. -/
def Atom.isPortable : Atom → Bool
  | .verbatim _ => true
  | .escape _ (.property (.letter _) _) => false
  | .escape letter _ => letter ∈ portableEscapes

/-- No two hyphens stand side by side. -/
def HyphensApart (text : List Char) : Prop := text.IsChain fun a b => ¬(a = '-' ∧ b = '-')

instance (text : List Char) : Decidable (HyphensApart text) :=
  inferInstanceAs (Decidable (List.IsChain _ text))

def PropertyQuery.HyphensApart : PropertyQuery → Prop
  | .letter _ => True
  | .name text => Pattern.HyphensApart text
  | .value before after _ => Pattern.HyphensApart before ∧ Pattern.HyphensApart after

/-- The scan finds nothing in a portable atom before the next character. -/
def Atom.Passes (inClass : Bool) (next : Option Char) : Atom → Prop
  | .verbatim c => characterIssue? inClass c next = none
  | .escape _ (.property query _) => if inClass then query.HyphensApart else next ≠ some '?'
  | .escape _ _ => True

def Atom.classAfter (inClass : Bool) : Atom → Bool
  | .verbatim c => Pattern.classAfter inClass c
  | .escape _ _ => inClass

def Atom.firstChar : Atom → Char
  | .verbatim c => c
  | .escape _ _ => '\\'

section Braces

variable {inClass : Bool} {cs : List Char}

theorem hyphensApart_append {v w : List Char} {c : Char} (hc : c ≠ '-') :
    HyphensApart (v ++ c :: w) ↔ HyphensApart v ∧ HyphensApart w := by
  rw [HyphensApart, List.isChain_append, List.isChain_cons]
  simp [HyphensApart, hc]

theorem hyphensApart_ofBraced (text : List Char) :
    (PropertyQuery.ofBraced text).HyphensApart ↔ HyphensApart text := by
  have hcut : ∀ {d : Char} {mark before after : List Char} {equal : Bool}, d ≠ '-' →
      '-' ∉ mark → cutAt (d :: mark) text = some (before, after) →
      ((PropertyQuery.value before after equal).HyphensApart ↔ HyphensApart text) := by
    intro d mark before after equal hd hmark hcut
    have htext : text = before ++ d :: (mark ++ after) := by simpa using eq_of_cutAt hcut
    have htail : HyphensApart (mark ++ after) ↔ HyphensApart after := by
      clear htext hcut
      induction mark with
      | nil => rfl
      | cons e mark ih =>
        simp only [List.mem_cons, not_or] at hmark
        rw [List.cons_append, ← ih hmark.2]
        have := hyphensApart_append (v := []) (w := mark ++ after) (Ne.symm hmark.1)
        simpa [HyphensApart] using this
    rw [htext, hyphensApart_append hd, htail]
    rfl
  unfold PropertyQuery.ofBraced
  split
  next before after hba => exact hcut (by decide) (by decide) hba
  split
  next before after hba =>
    cases hcolon : cutAt [':'] text with
    | some parts =>
      rw [hcolon] at hba
      cases hba
      exact hcut (by decide) (by decide) hcolon
    | none =>
      rw [hcolon] at hba
      exact hcut (by decide) (by decide) hba
  next => rfl

theorem portable_append_iff {text : List Char} (ht : ∀ c ∈ signs, c ∉ text)
    (hcs : cs.head? ≠ some '-') :
    Portable inClass (text ++ cs) ↔
      (inClass = true → HyphensApart text) ∧ Portable inClass cs := by
  induction text with
  | nil => simp [HyphensApart]
  | cons d text ih =>
    have hd : d ∉ signs := fun hs => ht d hs (by simp)
    have hrest : ∀ c ∈ signs, c ∉ text := fun c hc hmem => ht c hc (by simp [hmem])
    simp only [signs, structural, List.cons_append, List.nil_append, List.mem_cons,
      List.not_mem_nil, or_false, not_or] at hd
    have hafter : Pattern.classAfter inClass d = inClass := by
      cases inClass <;> simp [Pattern.classAfter, hd]
    have hhead : (text ++ cs).head? = some '-' ↔ text.head? = some '-' := by
      cases text with
      | nil => simpa using hcs
      | cons e text => rfl
    have hissue : characterIssue? inClass d (text ++ cs).head? = none ↔
        (inClass = true → ∀ e ∈ text.head?, ¬(d = '-' ∧ e = '-')) := by
      cases inClass with
      | false => simp [characterIssue?, hd]
      | true =>
        by_cases hhyphen : d = '-'
        · subst hhyphen
          have : characterIssue? true '-' (text ++ cs).head? = none ↔
              ¬(text ++ cs).head? = some '-' := by
            simp [characterIssue?]
          rw [this, hhead]
          cases text.head? <;> simp
        · simp [characterIssue?, hd, hhyphen]
    rw [List.cons_append, portable_cons_iff hd.2.2.2.2.1, hissue, hafter, ih hrest]
    simp only [HyphensApart, List.isChain_cons, imp_and, and_assoc]

end Braces

section Escapes

variable {inClass : Bool} {letter : Char} {cs rest : List Char} {atom : Atom}

theorem exists_escape (h : readEscape false (letter :: cs) = .ok (atom, rest)) :
    ∃ m, atom = .escape letter m := by
  rw [readEscape] at h
  split at h
  · cases h
  split at h
  · obtain ⟨x, -, heq⟩ := bind_eq_ok.1 h
    cases heq
    exact ⟨_, rfl⟩
  split at h
  · obtain ⟨x, -, heq⟩ := bind_eq_ok.1 h
    cases heq
    exact ⟨_, rfl⟩
  split at h
  · obtain ⟨x, -, heq⟩ := bind_eq_ok.1 h
    cases heq
    exact ⟨_, rfl⟩
  split at h
  · cases h
    exact ⟨_, rfl⟩
  split at h <;> cases h
  all_goals exact ⟨_, rfl⟩

theorem head_of_readClassAtom (h : readClassAtom false cs = .ok (atom, rest)) :
    cs.head? = some atom.firstChar := by
  unfold readClassAtom at h
  split at h
  · cases h
  next cs =>
    cases cs with
    | nil => cases h
    | cons letter cs =>
      obtain ⟨m, rfl⟩ := exists_escape h
      rfl
  next c cs hc =>
    cases h
    rfl

theorem portable_brace_iff :
    Portable inClass ('\x7d' :: cs) ↔
      (inClass = false → cs.head? ≠ some '?') ∧ Portable inClass cs := by
  rw [portable_cons_iff (by decide)]
  cases inClass <;> simp [characterIssue?, Pattern.classAfter]

/-- A category passes if it is in braces; in a class its name must not look like a difference, and
elsewhere its last brace must not look like the end of a repetition. -/
theorem portable_property_iff {query : PropertyQuery} (hletter : letter = 'p' ∨ letter = 'P')
    (h : readProperty false cs = .ok (query, rest)) (hk : query.find?.isSome) (negated : Bool) :
    Portable inClass ('\\' :: letter :: cs) ↔
      (Atom.escape letter (.property query negated)).isPortable = true ∧
        (Atom.escape letter (.property query negated)).Passes inClass rest.head? ∧
          Portable inClass rest := by
  have hmem : letter ∈ portableEscapes := by obtain rfl | rfl := hletter <;> decide
  have hp : (letter == 'p' || letter == 'P') = true := by simpa using hletter
  rw [portable_escape_iff]
  unfold readProperty at h
  rw [skip_false] at h
  split at h
  · cases h
  next cs =>
    split at h
    · cases h
    next text rest' hbraced =>
      obtain ⟨rfl, -⟩ := braced_eq_some.1 hbraced
      cases h
      have hsigns : ∀ c ∈ signs, c ∉ text := fun c hc => not_mem_of_ofBraced hk hc
      have hfirst : Portable inClass ('\x7b' :: (text ++ '\x7d' :: rest)) ↔
          Portable inClass (text ++ '\x7d' :: rest) := by
        rw [portable_cons_iff (by decide)]
        cases inClass <;> simp [characterIssue?, Pattern.classAfter]
      have hatom : (Atom.escape letter (.property (.ofBraced text) negated)).isPortable = true := by
        have hne : ∀ d, PropertyQuery.ofBraced text ≠ .letter d := by
          intro d
          unfold PropertyQuery.ofBraced
          split
          · simp
          · split <;> simp
        cases hq : PropertyQuery.ofBraced text with
        | letter d => exact absurd hq (hne d)
        | name _ => simpa [Atom.isPortable] using hmem
        | value _ _ _ => simpa [Atom.isPortable] using hmem
      rw [hfirst, portable_append_iff hsigns (by simp), portable_brace_iff]
      simp only [isPortable, hmem, hatom, Atom.Passes, hyphensApart_ofBraced]
      cases inClass <;> simp
  · cases h
  next d rest' hbrace hslash =>
    cases h
    have hd : d ≠ '\x7b' := hbrace
    refine iff_of_false ?_ (by simp [Atom.isPortable])
    simp [isPortable, hp, hd]

theorem portable_atom_of_escape (h : readEscape false (letter :: cs) = .ok (atom, rest))
    (hk : atom.Known) (ha : ¬atom.IsAssertion) :
    Portable inClass ('\\' :: letter :: cs) ↔
      atom.isPortable = true ∧ atom.Passes inClass rest.head? ∧
        Portable (atom.classAfter inClass) rest := by
  -- Escapes of one letter are portable by that letter.
  have hsingle : ∀ {m : Meaning}, (∀ query negated, m ≠ .property query negated) →
      ¬(letter == 'p' || letter == 'P') = true → cs = rest → atom = .escape letter m →
      (Portable inClass ('\\' :: letter :: cs) ↔
        atom.isPortable = true ∧ atom.Passes inClass rest.head? ∧
          Portable (atom.classAfter inClass) rest) := by
    rintro m hm hp rfl rfl
    rw [portable_escape_iff]
    have hpasses : (Atom.escape letter m).Passes inClass cs.head? := by
      cases m with
      | property query negated => exact absurd rfl (hm query negated)
      | _ => trivial
    have hportable : (Atom.escape letter m).isPortable = isPortable letter cs.head? := by
      cases m with
      | property query negated => exact absurd rfl (hm query negated)
      | _ => simp [Atom.isPortable, isPortable, hp]
    simp [hpasses, hportable, Atom.classAfter]
  rw [readEscape] at h
  split at h
  · cases h
  split at h
  next hhex =>
    obtain ⟨⟨m, rest'⟩, hm, heq⟩ := bind_eq_ok.1 h
    cases heq
    have hletter : letter ∉ portableEscapes := by
      have hnone : ['x', 'u', 'U'].all (fun c => c ∉ portableEscapes) = true := by decide
      refine of_decide_eq_true (List.all_eq_true.1 hnone letter ?_)
      simpa [or_assoc] using hhex
    refine iff_of_false ?_ ?_
    · rw [portable_escape_iff]
      simp [isPortable, hletter]
    · rintro ⟨hportable, -⟩
      unfold Atom.isPortable at hportable
      split at hportable <;> simp_all
  next hhex =>
  split at h
  next hp =>
    obtain ⟨⟨query, rest'⟩, hquery, heq⟩ := bind_eq_ok.1 h
    cases heq
    exact portable_property_iff (by simpa using hp) hquery hk _
  next hp =>
  split at h
  next hb =>
    obtain ⟨⟨a, rest'⟩, -, heq⟩ := bind_eq_ok.1 h
    cases heq
    exact absurd trivial ha
  next hb =>
  split at h
  next hesc =>
    cases h
    exact hsingle (by simp) hp rfl rfl
  next hesc =>
  split at h
  next hshort =>
    cases h
    refine hsingle (fun query negated => ?_) hp rfl rfl
    rintro rfl
    unfold short? at hshort
    split at hshort <;> cases hshort
  next =>
    cases h
    exact hsingle (by simp) hp rfl rfl
  next =>
    cases h
    exact absurd trivial ha
  next => cases h

theorem portable_atom_iff (h : readClassAtom false cs = .ok (atom, rest)) (hk : atom.Known)
    (ha : ¬atom.IsAssertion) :
    Portable inClass cs ↔
      atom.isPortable = true ∧ atom.Passes inClass rest.head? ∧
        Portable (atom.classAfter inClass) rest := by
  unfold readClassAtom at h
  split at h
  · cases h
  next cs =>
    cases cs with
    | nil => cases h
    | cons letter cs => exact portable_atom_of_escape h hk ha
  next c cs hc =>
    cases h
    have hne : c ≠ '\\' := hc
    simp [portable_cons_iff hne, Atom.isPortable, Atom.Passes, Atom.classAfter]

end Escapes

end DocSchema.Pattern
