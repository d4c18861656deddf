import DocSchema.Definition.Check
import DocSchema.Proofs.Result

/-!
# Members that are listed again

Where order has no meaning, the first listing of every name is kept and every other one is reported
with the first. Collapsing takes one occurrence after the other, so everything about it is shown for
one more occurrence at the end of the list.
-/
namespace DocSchema

namespace Occurrence

/-- No occurrence before the one at `i` has its name. -/
def IsFirst (os : List Occurrence) (i : Nat) : Prop :=
  ∀ o ∈ os[i]?, ∀ p ∈ os.take i, p.name.value ≠ o.name.value

instance (os : List Occurrence) : DecidablePred (IsFirst os) := fun i =>
  inferInstanceAs (Decidable (∀ o ∈ os[i]?, ∀ p ∈ os.take i, p.name.value ≠ o.name.value))

def firstIndices (os : List Occurrence) : List Nat := (List.range os.length).filter (IsFirst os ·)

def repeatedIndices (os : List Occurrence) : List Nat :=
  (List.range os.length).filter (¬IsFirst os ·)

variable {os : List Occurrence} {o : Occurrence}

/-! ### One more occurrence -/

theorem isFirst_concat {i : Nat} (h : i < os.length) (o : Occurrence) :
    IsFirst (os ++ [o]) i ↔ IsFirst os i := by
  rw [IsFirst, IsFirst, List.getElem?_append_left h, List.take_append_of_le_length h.le]

theorem isFirst_last (os : List Occurrence) (o : Occurrence) :
    IsFirst (os ++ [o]) os.length ↔ os.find? (·.sameName o) = none := by
  simp [IsFirst, sameName]

theorem firstIndices_concat (os : List Occurrence) (o : Occurrence) : firstIndices (os ++ [o]) =
    firstIndices os ++ if os.find? (·.sameName o) = none then [os.length] else [] := by
  rw [firstIndices, List.length_append, List.length_singleton,
    filter_range_succ fun i hi => isFirst_concat hi o, firstIndices]
  simp only [isFirst_last]

theorem repeatedIndices_concat (os : List Occurrence) (o : Occurrence) :
    repeatedIndices (os ++ [o]) =
      repeatedIndices os ++ if os.find? (·.sameName o) = none then [] else [os.length] := by
  rw [repeatedIndices, List.length_append, List.length_singleton,
    filter_range_succ fun i hi => not_congr (isFirst_concat hi o), repeatedIndices]
  simp only [isFirst_last, ite_not]

theorem collapseAux_append (kept os ps : List Occurrence) :
    collapseAux kept (os ++ ps) = collapseAux kept os >>= (collapseAux · ps) := by
  induction os generalizing kept with
  | nil => rfl
  | cons o os ih =>
    rw [List.cons_append, collapseAux, collapseAux]
    cases kept.find? (·.sameName o) with
    | none => exact ih (kept ++ [o])
    | some first => exact congrArg (Checked.note [⟨first, o⟩] >>= fun _ => ·) (ih kept)

theorem collapse_concat_of_kept (os : List Occurrence) (o : Occurrence) : collapse (os ++ [o]) =
    ((collapse os).value.find? (·.sameName o)).elim
      ⟨(collapse os).value ++ [o], (collapse os).problems⟩
      fun first => ⟨(collapse os).value, (collapse os).problems ++ [⟨first, o⟩]⟩ := by
  rw [collapse, collapseAux_append, ← collapse]
  change Checked.mk (collapseAux (collapse os).value [o]).value
    ((collapse os).problems ++ (collapseAux (collapse os).value [o]).problems) = _
  rw [collapseAux]
  cases (collapse os).value.find? (·.sameName o) with
  | none => simp [collapseAux]
  | some first => simp [collapseAux, Checked.note]

theorem find?_collapse (os : List Occurrence) (o : Occurrence) :
    (collapse os).value.find? (·.sameName o) = os.find? (·.sameName o) := by
  induction os using List.reverseRecOn generalizing o with
  | nil => rfl
  | append_singleton os p ih =>
    rw [collapse_concat_of_kept, ih p, List.find?_append]
    cases hp : os.find? (·.sameName p) with
    | none => rw [Option.elim_none, List.find?_append, ih o]
    | some first =>
      rw [Option.elim_some, ih o]
      cases ho : os.find? (·.sameName o) with
      | some found => rfl
      | none =>
        -- an earlier occurrence has the name of `p`, and none has that of `o`
        have hfirst := List.find?_some hp
        have hother := List.find?_eq_none.mp ho first (List.mem_of_find?_eq_some hp)
        simp_all [sameName]

theorem collapse_concat (os : List Occurrence) (o : Occurrence) : collapse (os ++ [o]) =
    (os.find? (·.sameName o)).elim ⟨(collapse os).value ++ [o], (collapse os).problems⟩
      fun first => ⟨(collapse os).value, (collapse os).problems ++ [⟨first, o⟩]⟩ := by
  rw [collapse_concat_of_kept, find?_collapse]

/-! ### The whole list -/

theorem collapse_value (os : List Occurrence) :
    (collapse os).value = (firstIndices os).filterMap (os[·]?) := by
  induction os using List.reverseRecOn with
  | nil => rfl
  | append_singleton os o ih =>
    have hbefore : (firstIndices os).filterMap ((os ++ [o])[·]?) =
        (firstIndices os).filterMap (os[·]?) := by
      refine List.filterMap_congr fun i hi => List.getElem?_append_left ?_
      exact List.mem_range.mp (List.mem_of_mem_filter hi)
    rw [collapse_concat, firstIndices_concat, List.filterMap_append, hbefore, ← ih]
    cases os.find? (·.sameName o) with
    | none => simp
    | some first => simp

def Repeats (os : List Occurrence) (i : Nat) (r : Repetition) : Prop :=
  os[i]? = some r.again ∧ os.find? (·.sameName r.again) = some r.first

theorem Repeats.concat {i : Nat} {r : Repetition} (h : Repeats os i r) (o : Occurrence) :
    Repeats (os ++ [o]) i r := by
  obtain ⟨hagain, hfirst⟩ := h
  have hlt := (List.getElem?_eq_some_iff.mp hagain).1
  exact ⟨by rw [List.getElem?_append_left hlt, hagain], by rw [List.find?_append, hfirst]; rfl⟩

theorem collapse_problems (os : List Occurrence) :
    List.Forall₂ (Repeats os) (repeatedIndices os) (collapse os).problems := by
  induction os using List.reverseRecOn with
  | nil => exact .nil
  | append_singleton os o ih =>
    have hbefore := ih.imp fun i r hr => hr.concat o
    rw [collapse_concat, repeatedIndices_concat]
    cases hf : os.find? (·.sameName o) with
    | none => simpa using hbefore
    | some first =>
      have hlast : Repeats (os ++ [o]) os.length ⟨first, o⟩ :=
        ⟨List.getElem?_concat_length, by rw [List.find?_append, hf]; rfl⟩
      simpa using List.rel_append hbefore (.cons hlast .nil)

theorem mem_of_mem_collapse (h : o ∈ (collapse os).value) : o ∈ os := by
  rw [collapse_value] at h
  obtain ⟨i, -, hi⟩ := List.mem_filterMap.mp h
  exact List.mem_of_getElem? hi

theorem mem_of_mem_collapse_problems {r : Repetition} (h : r ∈ (collapse os).problems) :
    r.first ∈ os ∧ r.again ∈ os ∧ r.first.name.value = r.again.name.value := by
  obtain ⟨i, -, hagain, hfirst⟩ := exists_of_mem_right (collapse_problems os) h
  exact ⟨List.mem_of_find?_eq_some hfirst, List.mem_of_getElem? hagain,
    by simpa [sameName] using List.find?_some hfirst⟩

theorem collapse_names_nodup (os : List Occurrence) :
    ((collapse os).value.map (·.name.value)).Nodup := by
  rw [collapse_value, List.Nodup, List.pairwise_map, List.pairwise_filterMap]
  refine (List.pairwise_lt_range.filter _).imp_of_mem fun {i j} _ hj hlt o ho p hp => ?_
  -- the later of two first listings has no earlier one with its name
  have hfirst : IsFirst os j := by simpa using (List.mem_filter.mp hj).2
  refine hfirst p hp o (List.mem_of_getElem? (i := i) ?_)
  rw [List.getElem?_take_of_lt hlt, ho]

theorem collapse_eq_self (h : (os.map (·.name.value)).Nodup) : collapse os = ⟨os, []⟩ := by
  induction os using List.reverseRecOn with
  | nil => rfl
  | append_singleton os o ih =>
    rw [List.map_append, List.nodup_append] at h
    have hnew : os.find? (·.sameName o) = none := by
      refine List.find?_eq_none.mpr fun p hp => ?_
      simpa [sameName] using h.2.2 _ (List.mem_map_of_mem hp) o.name.value (by simp)
    rw [collapse_concat, hnew, ih h.1, Option.elim_none]

theorem collapse_value_of_problems_eq_nil (h : (collapse os).problems = []) :
    (collapse os).value = os := by
  induction os using List.reverseRecOn with
  | nil => rfl
  | append_singleton os o ih =>
    rw [collapse_concat] at h ⊢
    cases hf : os.find? (·.sameName o) with
    | none =>
      rw [hf] at h
      exact congrArg (· ++ [o]) (ih h)
    | some first => simp [hf] at h

/-! ### Conflicts -/

/-- All occurrences of a name have one range. -/
def Agree (os : List Occurrence) : Prop :=
  ∀ o ∈ os, ∀ p ∈ os, o.name.value = p.name.value → o.cardinality = p.cardinality

theorem find?_eq_or_mem_problems (h : o ∈ os) : os.find? (·.sameName o) = some o ∨
    ∃ r ∈ (collapse os).problems, r.again = o ∧ os.find? (·.sameName o) = some r.first := by
  obtain ⟨i, hi⟩ := List.mem_iff_getElem?.mp h
  have hlt := (List.getElem?_eq_some_iff.mp hi).1
  by_cases hfirst : IsFirst os i
  · refine .inl (List.find?_eq_some_iff_append.mpr ⟨by simp [sameName], os.take i,
      os.drop (i + 1), ?_, fun p hp => by simpa [sameName] using hfirst o hi p hp⟩)
    obtain ⟨_, rfl⟩ := List.getElem?_eq_some_iff.mp hi
    rw [List.getElem_cons_drop, List.take_append_drop]
  · have hrepeated : i ∈ repeatedIndices os :=
      List.mem_filter.mpr ⟨List.mem_range.mpr hlt, by simpa using hfirst⟩
    obtain ⟨r, hr, hagain, hfound⟩ := exists_of_mem_left (collapse_problems os) hrepeated
    obtain rfl := Option.some.inj (hagain.symm.trans hi)
    exact .inr ⟨r, hr, rfl, hfound⟩

/-- No repetition is a conflict exactly if all occurrences of a name have one range: each has that
of the first. -/
theorem no_conflict_iff (os : List Occurrence) :
    (∀ r ∈ (collapse os).problems, r.isConflict = false) ↔ Agree os := by
  constructor
  · intro h
    have hfirst (o : Occurrence) (ho : o ∈ os) : ∃ first, os.find? (·.sameName o) = some first ∧
        first.cardinality = o.cardinality := by
      rcases find?_eq_or_mem_problems ho with hself | ⟨r, hr, rfl, hfound⟩
      · exact ⟨o, hself, rfl⟩
      · exact ⟨r.first, hfound, by simpa [Repetition.isConflict] using h r hr⟩
    intro o ho p hp hname
    obtain ⟨first, hfound, hfirsto⟩ := hfirst o ho
    obtain ⟨first', hfound', hfirstp⟩ := hfirst p hp
    simp only [sameName, hname] at hfound hfound'
    obtain rfl := Option.some.inj (hfound.symm.trans hfound')
    rw [← hfirsto, hfirstp]
  · intro h r hr
    obtain ⟨hfirst, hagain, hname⟩ := mem_of_mem_collapse_problems hr
    simpa [Repetition.isConflict] using h _ hfirst _ hagain hname

theorem exists_kept_of_agree (h : Agree os) (ho : o ∈ os) :
    ∃ p ∈ (collapse os).value, p.name.value = o.name.value ∧ p.cardinality = o.cardinality := by
  obtain ⟨first, hfirst⟩ : ∃ first, os.find? (·.sameName o) = some first := by
    rw [← Option.isSome_iff_exists, List.find?_isSome]
    exact ⟨o, ho, by simp [sameName]⟩
  have hname : first.name.value = o.name.value := by
    simpa [sameName] using List.find?_some hfirst
  have hkept : first ∈ (collapse os).value := by
    rw [← find?_collapse] at hfirst
    exact List.mem_of_find?_eq_some hfirst
  exact ⟨first, hkept, hname, h first (mem_of_mem_collapse hkept) o ho hname⟩

end Occurrence

namespace Definition

open Occurrence (firstIndices repeatedIndices Agree)

/-- What is said about an occurrence whose name was listed before: a warning if it has the same
range, an error if it has another one. Either points at both. -/
structure TellsRepeated (first again : Occurrence) (d : Diagnostic) : Prop where
  warning : again.cardinality = first.cardinality → d.severity = .warning ∧ d.code = none
  error : again.cardinality ≠ first.cardinality →
    d.severity = .error ∧ d.code.map Code.name = some "E201"
  places : ∃ m m', d.labels = [.main again.span m, .related first.span m']

theorem tellsRepeated_diagnostic (owner : String) (r : Repetition) :
    TellsRepeated r.first r.again (Problem.repeatedMember owner r).diagnostic := by
  by_cases hc : r.first.cardinality = r.again.cardinality
  · have hconflict : r.isConflict = false := by simpa [Repetition.isConflict] using hc
    refine ⟨fun _ => ?_, fun hne => absurd hc.symm hne, ?_⟩ <;>
      simp [Problem.diagnostic, hconflict, Diagnostic.warning]
  · have hconflict : r.isConflict = true := by simpa [Repetition.isConflict] using hc
    refine ⟨fun he => absurd he.symm hc, fun _ => ?_, ?_⟩ <;>
      simp [Problem.diagnostic, hconflict, Diagnostic.error, Code.name]

theorem isError_repeatedMember (owner : String) (r : Repetition) :
    (Problem.repeatedMember owner r).diagnostic.isError = r.isConflict := by
  cases hc : r.isConflict <;>
    simp [Problem.diagnostic, hc, Diagnostic.isError, Diagnostic.warning, Diagnostic.error]

def collapseDiagnostics (owner : String) (os : List Occurrence) : List Diagnostic :=
  (collapse owner os).problems.map (·.diagnostic)

/-- The first listing of every name is kept, in order, and no name twice. For every other listing
there is one diagnostic, in order: a warning if it has the range of the first, an error if not. So
there is no error exactly if all listings of a name have one range, and then each of them equals one
that is kept, but for its place. What is kept stays as it is, without a diagnostic. -/
theorem collapse_keeps_first_listings (owner : String) (os : List Occurrence) :
    (collapse owner os).value = (firstIndices os).filterMap (os[·]?) ∧
    ((collapse owner os).value.map (·.name.value)).Nodup ∧
    List.Forall₂ (fun i d => ∃ again first, os[i]? = some again ∧
        os.find? (·.sameName again) = some first ∧ TellsRepeated first again d)
      (repeatedIndices os) (collapseDiagnostics owner os) ∧
    (anyError (collapseDiagnostics owner os) = false ↔ Agree os) ∧
    (Agree os → ∀ o ∈ os, ∃ p ∈ (collapse owner os).value,
      p.name.value = o.name.value ∧ p.cardinality = o.cardinality) ∧
    collapse owner (collapse owner os).value = ⟨(collapse owner os).value, []⟩ := by
  have htold : collapseDiagnostics owner os =
      (Occurrence.collapse os).problems.map fun r => (Problem.repeatedMember owner r).diagnostic :=
    List.map_map
  refine ⟨Occurrence.collapse_value os, Occurrence.collapse_names_nodup os, ?_, ?_,
    fun h o => Occurrence.exists_kept_of_agree h, ?_⟩
  · rw [htold, List.forall₂_map_right_iff]
    refine (Occurrence.collapse_problems os).imp fun i r hr => ?_
    exact ⟨r.again, r.first, hr.1, hr.2, tellsRepeated_diagnostic owner r⟩
  · rw [← Occurrence.no_conflict_iff, htold]
    simp [anyError, isError_repeatedMember]
  · have hagain := Occurrence.collapse_eq_self (Occurrence.collapse_names_nodup os)
    simp [collapse, hagain]

def memberAt (place : Nat) (name : String) (cardinality : Cardinality) : Occurrence :=
  ⟨⟨name, .point place⟩, cardinality⟩

/-- Two names in turn, one of them with the same range and one with another. -/
def alternating : List Occurrence :=
  [memberAt 0 "title" .one, memberAt 10 "author" .one, memberAt 20 "title" .one,
   memberAt 30 "author" .optional, memberAt 40 "author" .one]

theorem collapse_keeps_first_listings_alternating :
    firstIndices alternating = [0, 1] ∧ repeatedIndices alternating = [2, 3, 4] ∧
      (collapse "book" alternating).value = alternating.take 2 ∧
      (collapseDiagnostics "book" alternating).map (·.severity) = [.warning, .error, .warning] ∧
      anyError (collapseDiagnostics "book" alternating) = true ∧ ¬Agree alternating ∧
      Agree (alternating.take 3) ∧
      anyError (collapseDiagnostics "book" (alternating.take 3)) = false ∧
      (∀ o ∈ alternating.take 3, ∃ p ∈ (collapse "book" (alternating.take 3)).value,
        p.name.value = o.name.value ∧ p.cardinality = o.cardinality) ∧
      collapse "book" (collapse "book" alternating).value =
        ⟨(collapse "book" alternating).value, []⟩ := by
  obtain ⟨hvalue, -, -, herror, -, hstays⟩ := collapse_keeps_first_listings "book" alternating
  obtain ⟨-, -, -, hnone, hkept, -⟩ := collapse_keeps_first_listings "book" (alternating.take 3)
  have hfirst : firstIndices alternating = [0, 1] := by decide
  have hagree : Agree (alternating.take 3) := by
    unfold Agree
    decide
  have hdiffer : ¬Agree alternating := by
    unfold Agree
    decide
  refine ⟨hfirst, by decide, by rw [hvalue, hfirst]; rfl, by decide, ?_, hdiffer, hagree,
    hnone.mpr hagree, hkept hagree, hstays⟩
  rw [← Bool.not_eq_false, herror]
  exact hdiffer

end Definition

end DocSchema
