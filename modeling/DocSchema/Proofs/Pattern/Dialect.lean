import DocSchema.Pattern.Dialect
import DocSchema.Proofs.Pattern.Escapes

/-!
# The scan for foreign constructs, step by step

The scan knows only whether a class is open. After a bracket that it lets pass, no class is open,
whatever the scan took the text before for.
-/
namespace DocSchema.Pattern

open Unicode (structural)

/-- The scan finds nothing from here on. -/
def Portable (inClass : Bool) (cs : List Char) : Prop :=
  ∃ offset, dialectIssueAux offset inClass cs = none

variable {inClass : Bool} {c : Char} {cs w : List Char}

theorem dialectIssueAux_eq_none {m n : Nat} (h : dialectIssueAux m inClass cs = none) :
    dialectIssueAux n inClass cs = none := by
  -- the offset is passed on for reports only
  fun_induction dialectIssueAux m inClass cs generalizing n with
  | case1 => rfl
  | case2 => rfl
  | case3 m inClass letter cs hletter ih =>
    rw [dialectIssueAux, if_pos hletter]
    exact ih h
  | case4 => cases h
  | case5 => cases h
  | case6 m inClass cs hclass ih =>
    rw [dialectIssueAux, if_neg hclass]
    exact ih h
  | case7 => cases h
  | case8 m inClass c cs hlast hescape hnegated hissue ih =>
    rw [dialectIssueAux]
    · simp only [hissue]
      exact ih h
    · exact hlast
    · exact hescape
    · exact hnegated

theorem portable_nil : Portable inClass [] := ⟨0, rfl⟩

theorem portable_backslash : Portable inClass ['\\'] := ⟨0, rfl⟩

theorem portable_escape_iff :
    Portable inClass ('\\' :: c :: cs) ↔ isPortable c cs.head? = true ∧ Portable inClass cs := by
  constructor
  · rintro ⟨offset, h⟩
    rw [dialectIssueAux] at h
    split at h
    next hc => exact ⟨hc, _, h⟩
    · cases h
  · rintro ⟨hc, offset, h⟩
    refine ⟨0, ?_⟩
    rw [dialectIssueAux, if_pos hc]
    exact dialectIssueAux_eq_none h

theorem portable_cons_iff (hc : c ≠ '\\') :
    Portable inClass (c :: cs) ↔
      characterIssue? inClass c cs.head? = none ∧ Portable (classAfter inClass c) cs := by
  by_cases hmark : c = '[' ∧ cs.head? = some '^'
  · -- The negation sign is skipped with the bracket; scanned by itself it would pass as well.
    obtain ⟨rfl, hhead⟩ := hmark
    obtain ⟨rest, rfl⟩ := List.head?_eq_some_iff.1 hhead
    cases inClass with
    | true =>
      refine iff_of_false ?_ (by simp [characterIssue?])
      rintro ⟨offset, h⟩
      cases h
    | false =>
      have hsign (offset : Nat) : dialectIssueAux offset true ('^' :: rest) =
          dialectIssueAux (offset + '^'.utf8Size) true rest := by
        simp [dialectIssueAux, characterIssue?, classAfter]
      constructor
      · rintro ⟨offset, h⟩
        refine ⟨rfl, 0, ?_⟩
        rw [show classAfter false '[' = true from rfl, hsign]
        exact dialectIssueAux_eq_none (by simpa [dialectIssueAux] using h)
      · rintro ⟨-, offset, h⟩
        rw [show classAfter false '[' = true from rfl, hsign] at h
        refine ⟨0, ?_⟩
        rw [dialectIssueAux, if_neg (by decide)]
        exact dialectIssueAux_eq_none h
  · have hstep (offset : Nat) : dialectIssueAux offset inClass (c :: cs) =
        (characterIssue? inClass c cs.head?).elim
          (dialectIssueAux (offset + c.utf8Size) (classAfter inClass c) cs)
          fun issue => some (offset, issue) := by
      rw [dialectIssueAux]
      · cases characterIssue? inClass c cs.head? <;> rfl
      all_goals
        intros
        simp_all
    cases hissue : characterIssue? inClass c cs.head? with
    | some issue =>
      refine iff_of_false ?_ (by simp)
      rintro ⟨offset, h⟩
      simp [hstep, hissue] at h
    | none =>
      simp only [hissue, Option.elim_none] at hstep
      constructor
      · rintro ⟨offset, h⟩
        exact ⟨rfl, _, (hstep offset) ▸ h⟩
      · rintro ⟨-, offset, h⟩
        refine ⟨0, ?_⟩
        rw [hstep]
        exact dialectIssueAux_eq_none h

theorem dialectIssue?_eq_none_iff {pattern : String} :
    dialectIssue? pattern = none ↔ Portable false pattern.toList :=
  ⟨fun h => ⟨0, h⟩, fun ⟨_, h⟩ => dialectIssueAux_eq_none h⟩

namespace Portable

theorem cons (h : Portable inClass (c :: cs)) (hc : c ≠ '\\') :
    characterIssue? inClass c cs.head? = none ∧ Portable (classAfter inClass c) cs :=
  (portable_cons_iff hc).1 h

theorem escape (h : Portable inClass ('\\' :: c :: cs)) :
    isPortable c cs.head? = true ∧ Portable inClass cs :=
  portable_escape_iff.1 h

theorem of_paired (hw : Paired w) (h : Portable inClass (w ++ cs)) :
    ∃ inClass', Portable inClass' cs := by
  induction hw generalizing inClass with
  | nil => exact ⟨inClass, h⟩
  | char hc _ ih => exact ih (h.cons hc).2
  | escape _ ih => exact ih h.escape.2

theorem after_bracket (h : Portable inClass (']' :: cs)) : Portable false cs := by
  obtain ⟨hissue, hrest⟩ := h.cons (by decide)
  cases inClass with
  | true => exact hrest
  | false => simp [characterIssue?] at hissue

theorem of_plain (hw : Plain w) (h : Portable inClass (w ++ cs)) : Portable inClass cs := by
  induction w with
  | nil => exact h
  | cons d w ih =>
    obtain ⟨hd, hw⟩ := List.forall_mem_cons.1 hw
    simp only [structural, List.mem_cons, List.not_mem_nil, or_false, not_or] at hd
    have hrest := (h.cons hd.2.2.2.2).2
    rw [show classAfter inClass d = inClass by cases inClass <;> simp [classAfter, hd]] at hrest
    exact ih hw hrest

end Portable

end DocSchema.Pattern
