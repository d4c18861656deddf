import DocSchema.Proofs.Pattern.Tree
import DocSchema.Proofs.Unicode.Names

/-!
# Escapes end themselves

What follows a backslash is read in the same way whatever comes after it, conditions on places
apart. Where the properties asked for are known, an escape has no bracket, parenthesis or backslash
beyond its first character.
-/
namespace DocSchema.Pattern

open Unicode (structural signs structural_subset_signs)

/-- The reader takes the text whatever follows. -/
def Takes {α : Type} (read : List Char → Except Fault (α × List Char)) (text : List Char) (a : α) :
    Prop :=
  ∀ rest, read (text ++ rest) = .ok (a, rest)

/-- No character opens or closes anything, or escapes another. -/
def Plain (text : List Char) : Prop := ∀ c ∈ text, c ∉ structural

theorem Plain.append {v w : List Char} (hv : Plain v) (hw : Plain w) : Plain (v ++ w) :=
  List.forall_mem_append.2 ⟨hv, hw⟩

theorem Plain.cons {c : Char} {w : List Char} (hc : c ∉ structural) (hw : Plain w) :
    Plain (c :: w) :=
  List.forall_mem_cons.2 ⟨hc, hw⟩

/-- Every backslash is followed by the character that it escapes. -/
inductive Paired : List Char → Prop
  | nil : Paired []
  | char {c : Char} {cs : List Char} : c ≠ '\\' → Paired cs → Paired (c :: cs)
  | escape {c : Char} {cs : List Char} : Paired cs → Paired ('\\' :: c :: cs)

theorem Paired.append {v w : List Char} (hv : Paired v) (hw : Paired w) : Paired (v ++ w) := by
  induction hv with
  | nil => exact hw
  | char hc _ ih => exact .char hc ih
  | escape _ ih => exact .escape ih

theorem Paired.of_forall {w : List Char} (h : ∀ c ∈ w, c ≠ '\\') : Paired w := by
  induction w with
  | nil => exact .nil
  | cons c cs ih =>
    obtain ⟨hc, hcs⟩ := List.forall_mem_cons.1 h
    exact .char hc (ih hcs)

theorem Plain.paired {w : List Char} (h : Plain w) : Paired w :=
  .of_forall fun c hc heq => h c hc (by simp [heq, structural])

@[simp] theorem skip_false (cs : List Char) : skip false cs = cs := rfl

theorem braced_eq_some {cs inner rest : List Char} :
    braced false cs = some (inner, rest) ↔ cs = inner ++ '\x7d' :: rest ∧ '\x7d' ∉ inner := by
  unfold braced
  induction cs generalizing inner with
  | nil => simp [bracedAux]
  | cons c cs ih =>
    by_cases hc : c = '\x7d'
    · subst hc
      cases inner with
      | nil => simp [bracedAux]
      | cons d inner => simp [bracedAux, eq_comm]; tauto
    · cases inner with
      | nil => simp [bracedAux, hc]
      | cons d inner =>
        simp [bracedAux, hc, ih]
        grind

theorem leading_eq (p : Char → Bool) (cs : List Char) :
    leading false p cs = (cs.takeWhile p, cs.dropWhile p) := by
  unfold leading
  induction cs with
  | nil => rfl
  | cons c cs ih =>
    by_cases hc : p c = true
    · simp [leadingAux, hc, ih]
    · simp [leadingAux, hc]

theorem not_mem_structural_of_hexDigit {c : Char} (h : (hexDigit? c).isSome) : c ∉ structural := by
  have hnone : structural.all (fun c => (hexDigit? c).isNone) = true := by decide
  intro hc
  have := List.all_eq_true.1 hnone c hc
  simp_all

theorem hexDigits_takes {count : Nat} {cs digits rest : List Char}
    (h : hexDigits false count cs = .ok (digits, rest)) :
    cs = digits ++ rest ∧ digits.length = count ∧ Plain digits ∧
      Takes (hexDigits false count) digits digits := by
  induction count generalizing cs digits with
  | zero =>
    cases h
    exact ⟨rfl, rfl, by simp [Plain], fun rest => rfl⟩
  | succ count ih =>
    cases cs with
    | nil => cases h
    | cons c cs =>
      rw [hexDigits] at h
      split at h
      next hc =>
        obtain ⟨⟨ds, rest'⟩, hds, h⟩ := bind_eq_ok.1 h
        cases h
        obtain ⟨rfl, hlen, hplain, htakes⟩ := ih hds
        refine ⟨rfl, by simp [hlen], hplain.cons (not_mem_structural_of_hexDigit hc), ?_⟩
        intro after
        have := htakes after
        simp [hexDigits, hc, this]
      · cases h

theorem plain_of_codeChar {digits : List Char} {c : Char} (h : codeChar? digits = some c) :
    Plain digits := by
  obtain ⟨values, hvalues, -⟩ := Option.bind_eq_some_iff.1 h
  exact fun d hd => not_mem_structural_of_hexDigit (isSome_of_mem_mapM hvalues hd)

theorem eq_of_cutAt {mark text before after : List Char}
    (h : cutAt mark text = some (before, after)) :
    text = before ++ mark ++ after := by
  induction text generalizing before with
  | nil => cases h
  | cons c cs ih =>
    rw [cutAt] at h
    split at h
    next hmark =>
      cases h
      obtain ⟨rest, hrest⟩ := List.isPrefixOf_iff_prefix.1 hmark
      simp [← hrest]
    next hmark =>
      obtain ⟨⟨b, a⟩, hba, h⟩ := Option.map_eq_some_iff.1 h
      cases h
      simp [ih hba]

theorem not_mem_of_ofBraced {text : List Char} (h : (PropertyQuery.ofBraced text).find?.isSome)
    {c : Char} (hc : c ∈ signs) : c ∉ text := by
  have hcut : ∀ {mark before after : List Char} {equal : Bool}, c ∉ mark →
      cutAt mark text = some (before, after) →
      (PropertyQuery.value before after equal).find?.isSome → c ∉ text := by
    intro mark before after equal hmark hcut hfound
    have hfound : (Unicode.valued? before after).isSome := by
      simpa [PropertyQuery.find?] using hfound
    obtain ⟨hbefore, hafter⟩ := Unicode.not_mem_of_valued hfound hc
    rw [eq_of_cutAt hcut]
    simp [hbefore, hmark, hafter]
  have hmarks : signs.all (fun c => c ∉ ['!', '=', ':']) = true := by decide
  have hmark := of_decide_eq_true (List.all_eq_true.1 hmarks c hc)
  simp only [List.mem_cons, List.not_mem_nil, or_false, not_or] at hmark
  unfold PropertyQuery.ofBraced at h
  split at h
  next before after hba => exact hcut (by simp [hmark]) hba h
  split at h
  next before after hba =>
    cases hcolon : cutAt [':'] text with
    | some parts =>
      rw [hcolon] at hba
      cases hba
      exact hcut (by simp [hmark]) hcolon h
    | none =>
      rw [hcolon] at hba
      exact hcut (by simp [hmark]) hba h
  next =>
    have hfound : (Unicode.named? text).isSome := by simpa [PropertyQuery.find?] using h
    exact Unicode.not_mem_of_named hfound hc

theorem plain_of_ofBraced {text : List Char} (h : (PropertyQuery.ofBraced text).find?.isSome) :
    Plain text :=
  fun _ hc hs => not_mem_of_ofBraced h (structural_subset_signs hs) hc

theorem two_le_hexWidth (letter : Char) : 2 ≤ hexWidth letter := by
  unfold hexWidth
  split_ifs <;> decide

theorem readHex_takes {letter : Char} {cs rest : List Char} {m : Meaning}
    (h : readHex false letter cs = .ok (m, rest)) :
    ∃ w, cs = w ++ rest ∧ Plain w ∧ Takes (readHex false letter) w m := by
  unfold readHex at h
  rw [skip_false] at h
  split at h
  next cs =>
    split at h
    · cases h
    next digits rest' hb =>
      obtain ⟨rfl, hbrace⟩ := braced_eq_some.1 hb
      split at h
      next c hc =>
        cases h
        refine ⟨'\x7b' :: digits ++ ['\x7d'], by simp, ?_, ?_⟩
        · exact ((plain_of_codeChar hc).cons (by decide)).append (by simp [Plain, structural])
        · intro after
          have hb : braced false (digits ++ '\x7d' :: after) = some (digits, after) :=
            braced_eq_some.2 ⟨rfl, hbrace⟩
          simp [readHex, hb, hc]
      next => cases h
  next cs hne =>
    obtain ⟨⟨digits, rest'⟩, hdigits, hcode⟩ := bind_eq_ok.1 h
    obtain ⟨rfl, hlen, hplain, htakes⟩ := hexDigits_takes hdigits
    cases hc : codeChar? digits with
    | none => simp [hc] at hcode
    | some c =>
      simp only [hc, pure_eq_ok, Except.ok.injEq, Prod.mk.injEq] at hcode
      obtain ⟨rfl, rfl⟩ := hcode
      refine ⟨digits, rfl, hplain, fun after => ?_⟩
      have hwidth := two_le_hexWidth letter
      obtain ⟨d, ds, rfl⟩ := List.exists_cons_of_length_pos (by omega : 0 < digits.length)
      have hd : d ≠ '\x7b' := by
        rintro rfl
        exact hne _ rfl
      have := htakes after
      simp only [readHex, skip_false, List.cons_append] at this ⊢
      split
      next heq => simp_all
      next => simp [this, hc]

theorem readProperty_takes {cs rest : List Char} {query : PropertyQuery}
    (h : readProperty false cs = .ok (query, rest)) (hk : query.find?.isSome) :
    ∃ w, cs = w ++ rest ∧ Plain w ∧ Takes (readProperty false) w query := by
  unfold readProperty at h
  rw [skip_false] at h
  split at h
  · cases h
  next cs =>
    split at h
    · cases h
    next text rest' hb =>
      obtain ⟨rfl, hbrace⟩ := braced_eq_some.1 hb
      cases h
      refine ⟨'\x7b' :: text ++ ['\x7d'], by simp, ?_, ?_⟩
      · exact ((plain_of_ofBraced hk).cons (by decide)).append (by simp [Plain, structural])
      · intro after
        have hb : braced false (text ++ '\x7d' :: after) = some (text, after) :=
          braced_eq_some.2 ⟨rfl, hbrace⟩
        simp [readProperty, hb]
  · cases h
  next c rest' hbrace hslash =>
    cases h
    have hfound : (Unicode.named? [c]).isSome := by simpa [PropertyQuery.find?] using hk
    refine ⟨[c], rfl, ?_, ?_⟩
    · intro d hd hs
      exact Unicode.not_mem_of_named hfound (structural_subset_signs hs) hd
    · intro after
      simp only [readProperty, skip_false, List.cons_append, List.nil_append]

def Atom.IsAssertion : Atom → Prop
  | .escape _ (.assertion _) => True
  | _ => False

theorem readEscape_takes {cs rest : List Char} {atom : Atom}
    (h : readEscape false cs = .ok (atom, rest)) (hk : atom.Known) (ha : ¬atom.IsAssertion) :
    ∃ c w, cs = c :: w ++ rest ∧ Plain w ∧ Takes (readEscape false) (c :: w) atom := by
  cases cs with
  | nil => cases h
  | cons c cs =>
    rw [readEscape] at h
    split at h
    · cases h
    next hdigit =>
    split at h
    next hhex =>
      obtain ⟨⟨m, rest'⟩, hm, h⟩ := bind_eq_ok.1 h
      cases h
      obtain ⟨w, rfl, hplain, htakes⟩ := readHex_takes hm
      refine ⟨c, w, rfl, hplain, fun after => ?_⟩
      simp [readEscape, hdigit, hhex, htakes after]
    next hhex =>
    split at h
    next hp =>
      obtain ⟨⟨query, rest'⟩, hq, h⟩ := bind_eq_ok.1 h
      cases h
      obtain ⟨w, rfl, hplain, htakes⟩ := readProperty_takes hq hk
      refine ⟨c, w, rfl, hplain, fun after => ?_⟩
      simp [readEscape, hdigit, hhex, hp, htakes after]
    next hp =>
    split at h
    next hb =>
      obtain ⟨⟨a, rest'⟩, -, h⟩ := bind_eq_ok.1 h
      cases h
      exact absurd trivial ha
    next hb =>
    -- The other escapes are single characters.
    refine ⟨c, [], ?_⟩
    split at h
    next hesc =>
      cases h
      exact ⟨rfl, by simp [Plain], fun after => by simp [readEscape, *]⟩
    next hesc =>
    split at h
    next hs =>
      cases h
      exact ⟨rfl, by simp [Plain], fun after => by simp [readEscape, *]⟩
    next hs hc =>
      cases h
      exact ⟨rfl, by simp [Plain], fun after => by simp [readEscape, *]⟩
    next =>
      cases h
      exact absurd trivial ha
    next => cases h

end DocSchema.Pattern
