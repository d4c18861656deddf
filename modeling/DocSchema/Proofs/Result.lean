import DocSchema.Checked
import Mathlib

/-!
# Results of steps

How the two ways of composing steps behave: checks that go on after a problem, and readers and
writers that stop at the first failure. Writers of lists give one result for each member, and what
has a name of its own is found by it. Facts about lists that no one part of the program owns stand
here too.
-/
namespace DocSchema

namespace Checked

variable {ε α β : Type}

@[simp] theorem value_pure (a : α) : (pure a : Checked ε α).value = a := rfl

@[simp] theorem problems_pure (a : α) : (pure a : Checked ε α).problems = [] := rfl

@[simp] theorem value_bind (x : Checked ε α) (f : α → Checked ε β) :
    (x >>= f).value = (f x.value).value := rfl

@[simp] theorem problems_bind (x : Checked ε α) (f : α → Checked ε β) :
    (x >>= f).problems = x.problems ++ (f x.value).problems := rfl

@[simp] theorem value_report (problem : ε) (a : α) : (report problem a).value = a := rfl

@[simp] theorem problems_report (problem : ε) (a : α) : (report problem a).problems = [problem] :=
  rfl

@[simp] theorem value_note (problems : List ε) : (note problems).value = () := rfl

@[simp] theorem problems_note (problems : List ε) : (note problems).problems = problems := rfl

variable {δ γ ζ : Type} {p : ε → δ}

def bimap (p : ε → δ) (f : α → β) (x : Checked ε α) : Checked δ β :=
  ⟨f x.value, x.problems.map p⟩

theorem bimap_pure (p : ε → δ) (f : α → β) (a : α) :
    (pure a : Checked ε α).bimap p f = pure (f a) := rfl

theorem bimap_bind {f : α → β} {g : γ → ζ} {k : α → Checked ε γ} {k' : β → Checked δ ζ}
    (h : ∀ a, k' (f a) = (k a).bimap p g) (x : Checked ε α) :
    (x.bimap p f >>= k') = (x >>= k).bimap p g := by
  simp only [bind, bimap, h, List.map_append]

theorem note_bind {g : γ → ζ} {x : Checked ε γ} {y : Checked δ ζ} (problems : List ε)
    (h : y = x.bimap p g) :
    (note (problems.map p) >>= fun _ => y) = (note problems >>= fun _ => x).bimap p g := by
  subst h
  simp only [bind, note, bimap, List.map_append]

/-- A check that gives a value with `P` and only problems with `Q`. -/
structure Keeps (P : α → Prop) (Q : ε → Prop) (x : Checked ε α) : Prop where
  value : P x.value
  problems : ∀ p ∈ x.problems, Q p

namespace Keeps

variable {P : α → Prop} {R : β → Prop} {Q : ε → Prop}

theorem pure {a : α} (h : P a) : Keeps P Q (Pure.pure a) := ⟨h, by simp⟩

theorem report {problem : ε} {a : α} (hq : Q problem) (h : P a) :
    Keeps P Q (.report problem a) :=
  ⟨h, List.forall_mem_singleton.mpr hq⟩

theorem bind {x : Checked ε α} {f : α → Checked ε β} (hx : Keeps P Q x)
    (hf : ∀ a, P a → Keeps R Q (f a)) : Keeps R Q (x >>= f) where
  value := (hf x.value hx.value).value
  problems := List.forall_mem_append.mpr ⟨hx.problems, (hf x.value hx.value).problems⟩

theorem note {problems : List ε} {x : Checked ε β} (hp : ∀ p ∈ problems, Q p)
    (hx : Keeps R Q x) : Keeps R Q (Checked.note problems >>= fun _ => x) :=
  ⟨hx.value, List.forall_mem_append.mpr ⟨hp, hx.problems⟩⟩

end Keeps

end Checked

section Except

variable {ε α β : Type}

@[simp] theorem ok_bind (a : α) (f : α → Except ε β) : (Except.ok a >>= f) = f a := rfl

@[simp] theorem error_bind (e : ε) (f : α → Except ε β) :
    (Except.error e >>= f) = (Except.error e : Except ε β) := rfl

@[simp] theorem pure_eq_ok (a : α) : (pure a : Except ε α) = .ok a := rfl

theorem bind_eq_ok {x : Except ε α} {f : α → Except ε β} {b : β} :
    x >>= f = .ok b ↔ ∃ a, x = .ok a ∧ f a = .ok b := by
  cases x with
  | error e => simp
  | ok a => simp

theorem bind_eq_error {x : Except ε α} {f : α → Except ε β} {e : ε} :
    x >>= f = .error e ↔ x = .error e ∨ ∃ a, x = .ok a ∧ f a = .error e := by
  cases x with
  | error e => simp
  | ok a => simp

theorem map_eq_ok {x : Except ε α} {f : α → β} {b : β} :
    x.map f = .ok b ↔ ∃ a, x = .ok a ∧ f a = b := by
  cases x with
  | error e => simp [Except.map]
  | ok a => simp [Except.map]

theorem check_bind_eq_ok {c : Prop} [Decidable c] {check : Except ε Unit}
    {rest : Unit → Except ε α} {a : α} :
    (if c then check >>= rest else rest ()) = .ok a ↔
      (c → check = .ok ()) ∧ rest () = .ok a := by
  split_ifs with hc
  · cases check <;> simp [hc]
  · simp [hc]

/-- A step that gives only values with `P` and fails only for a reason in `R`. -/
def Outcome (x : Except ε α) (P : α → Prop) (R : ε → Prop) : Prop :=
  match x with
  | .ok a => P a
  | .error e => R e

namespace Outcome

variable {x : Except ε α} {P P' : α → Prop} {Q : β → Prop} {R R' : ε → Prop}

theorem weaken (h : Outcome x P R) (hp : ∀ a, P a → P' a) : Outcome x P' R := by
  cases x with
  | ok a => exact hp a h
  | error e => exact h

theorem explain (h : Outcome x P R) (hr : ∀ e, R e → R' e) : Outcome x P R' := by
  cases x with
  | ok a => exact h
  | error e => exact hr e h

theorem bind {f : α → Except ε β} (hx : Outcome x P R) (hf : ∀ a, P a → Outcome (f a) Q R) :
    Outcome (x >>= f) Q R := by
  cases x with
  | ok a => exact hf a hx
  | error e => exact hx

theorem map {f : α → β} (hx : Outcome x P R) (hf : ∀ a, P a → Q (f a)) :
    Outcome (x.map f) Q R := by
  cases x with
  | ok a => exact hf a hx
  | error e => exact hx

theorem check {c C : Prop} [Decidable c] {step : Except ε Unit} {rest : Unit → Except ε β}
    (hs : c → Outcome step (fun _ => C) R) (hr : (c → C) → Outcome (rest ()) Q R) :
    Outcome (if c then step >>= rest else rest ()) Q R := by
  split_ifs with hc
  · exact (hs hc).bind fun _ h => hr fun _ => h
  · exact hr fun h => absurd h hc

end Outcome

def bimapResult {δ : Type} (e : ε → δ) (f : α → β) : Except ε α → Except δ β
  | .ok a => .ok (f a)
  | .error x => .error (e x)

theorem bimapResult_bind {δ γ ζ : Type} {e : ε → δ} {f : α → β} {g : γ → ζ}
    {k : α → Except ε γ} {k' : β → Except δ ζ} (h : ∀ a, k' (f a) = bimapResult e g (k a))
    (x : Except ε α) : (bimapResult e f x >>= k') = bimapResult e g (x >>= k) := by
  cases x with
  | ok a => exact h a
  | error x => rfl

theorem toOption_eq_some {x : Except ε α} {a : α} : x.toOption = some a ↔ x = .ok a := by
  cases x <;> simp [Except.toOption]

def failsWith [DecidableEq ε] (x : Except ε α) (e : ε) : Bool :=
  match x with
  | .ok _ => false
  | .error e' => e' == e

@[simp] theorem failsWith_iff [DecidableEq ε] {x : Except ε α} {e : ε} :
    failsWith x e = true ↔ x = .error e := by
  cases x <;> simp [failsWith]

end Except

section Lists

variable {α β γ : Type}

section Related

variable {R : α → β → Prop} {as : List α} {bs : List β}

theorem exists_of_mem_left (h : List.Forall₂ R as bs) {a : α} (ha : a ∈ as) :
    ∃ b ∈ bs, R a b := by
  induction h with
  | nil => simp at ha
  | @cons a' b as bs hr _ ih =>
    rcases List.mem_cons.mp ha with rfl | ha
    · exact ⟨b, by simp, hr⟩
    · obtain ⟨b', hb, hr'⟩ := ih ha
      exact ⟨b', by simp [hb], hr'⟩

theorem exists_of_mem_right (h : List.Forall₂ R as bs) {b : β} (hb : b ∈ bs) :
    ∃ a ∈ as, R a b :=
  exists_of_mem_left h.flip hb

theorem forall₂_imp_of_mem {S : α → β → Prop} (h : List.Forall₂ R as bs)
    (hs : ∀ a ∈ as, ∀ b, R a b → S a b) : List.Forall₂ S as bs := by
  induction h with
  | nil => exact .nil
  | cons hr _ ih => exact .cons (hs _ (by simp) _ hr) (ih fun a ha => hs a (by simp [ha]))

theorem map_zip_of_forall₂ (h : List.Forall₂ R as bs) :
    (as.zip bs).map (·.1) = as ∧ (as.zip bs).map (·.2) = bs ∧ ∀ d ∈ as.zip bs, R d.1 d.2 := by
  induction h with
  | nil => simp
  | cons hr _ ih => simpa [hr] using ih

/-- What a member gives does not depend on the members beside it. -/
theorem zip_filter_of_forall₂ (hf : ∀ a b b', R a b → R a b' → b = b') (p : α → Bool)
    (h : List.Forall₂ R as bs) {bs' : List β} (h' : List.Forall₂ R (as.filter p) bs') :
    (as.filter p).zip bs' = (as.zip bs).filter fun d => p d.1 := by
  induction h generalizing bs' with
  | nil => simp
  | @cons a b as bs hr _ ih =>
    cases hp : p a with
    | false =>
      rw [List.filter_cons_of_neg (by simp [hp])] at h' ⊢
      rw [ih h', List.zip_cons_cons, List.filter_cons_of_neg (by simp [hp])]
    | true =>
      rw [List.filter_cons_of_pos hp] at h' ⊢
      obtain ⟨b', rest, hb, hrest, rfl⟩ := List.forall₂_cons_left_iff.mp h'
      obtain rfl := hf a b b' hr hb
      rw [List.zip_cons_cons, List.zip_cons_cons, ih hrest]
      simp [hp]

end Related

section Readers

variable {f g : α → Option β} {as : List α} {bs : List β}

theorem mapM_eq_some_iff :
    as.mapM f = some bs ↔ List.Forall₂ (fun a b => f a = some b) as bs := by
  induction as generalizing bs with
  | nil => cases bs <;> simp
  | cons a as ih =>
    simp only [List.mapM_cons, Option.bind_eq_bind, Option.bind_eq_some_iff, Option.pure_def,
      Option.some.injEq, ih, List.forall₂_cons_left_iff, eq_comm (a := bs), exists_and_left]

theorem mapM_of_forall₂ {k : γ → β} {cs : List γ}
    (h : List.Forall₂ (fun c a => f a = some (k c)) cs as) : as.mapM f = some (cs.map k) :=
  mapM_eq_some_iff.mpr (List.forall₂_map_right_iff.mpr h.flip)

theorem mapM_eq_map {k : α → β} (h : ∀ a ∈ as, f a = some (k a)) : as.mapM f = some (as.map k) :=
  mapM_of_forall₂ (List.forall₂_same.mpr h)

theorem mapM_imp (h : ∀ a b, f a = some b → g a = some b) (hf : as.mapM f = some bs) :
    as.mapM g = some bs :=
  mapM_eq_some_iff.mpr ((mapM_eq_some_iff.mp hf).imp h)

theorem isSome_of_mem_mapM (h : as.mapM f = some bs) {a : α} (ha : a ∈ as) : (f a).isSome := by
  obtain ⟨b, -, hb⟩ := exists_of_mem_left (mapM_eq_some_iff.mp h) ha
  exact Option.isSome_of_mem hb

theorem isSome_of_isSome_orElse {a : Option α} {b : Unit → Option α} (h : (a.orElse b).isSome) :
    a.isSome ∨ (b ()).isSome := by
  cases a with
  | some a => exact .inl rfl
  | none => exact .inr h

end Readers

theorem find?_eq_some_of_nodup [BEq β] [LawfulBEq β] {f : α → β} {as : List α}
    (hd : (as.map f).Nodup) {a : α} (ha : a ∈ as) : as.find? (f · == f a) = some a := by
  induction as with
  | nil => simp at ha
  | cons b as ih =>
    rw [List.map_cons, List.nodup_cons] at hd
    rcases List.mem_cons.mp ha with rfl | ha
    · simp
    · have hne : f b ≠ f a := fun he => hd.1 (he ▸ List.mem_map_of_mem ha)
      rw [List.find?_cons_of_neg (by simpa using hne), ih hd.2 ha]

/-- With distinct keys, a search by key finds the same member in every order. -/
theorem find?_of_perm {key : α → String} {as bs : List α} (h : as.Perm bs)
    (hd : (as.map key).Nodup) (name : String) :
    bs.find? (key · == name) = as.find? (key · == name) := by
  have found {l : List α} (hl : (l.map key).Nodup) (a : α) :
      l.find? (key · == name) = some a ↔ a ∈ l ∧ key a = name := by
    constructor
    · intro ha
      exact ⟨List.mem_of_find?_eq_some ha, by simpa using List.find?_some ha⟩
    · rintro ⟨ha, rfl⟩
      exact find?_eq_some_of_nodup hl ha
  ext a
  rw [found hd, found ((h.map key).nodup_iff.mp hd), h.mem_iff]

theorem map_fst_filterMap_sublist (f : α → Option β) (as : List α) :
    ((as.filterMap fun a => (f a).map fun b => (a, b)).map (·.1)).Sublist as := by
  induction as with
  | nil => simp
  | cons a as ih =>
    cases hf : f a with
    | none => simpa [hf] using ih.cons a
    | some b => simpa [hf] using ih.cons_cons a

theorem filter_range_succ {P Q : Nat → Prop} [DecidablePred P] [DecidablePred Q] {n : Nat}
    (h : ∀ i < n, (P i ↔ Q i)) : (List.range (n + 1)).filter (P ·) =
      (List.range n).filter (Q ·) ++ if P n then [n] else [] := by
  have hbefore : (List.range n).filter (P ·) = (List.range n).filter (Q ·) :=
    List.filter_congr fun i hi => decide_eq_decide.mpr (h i (List.mem_range.mp hi))
  rw [List.range_succ, List.filter_append, hbefore, List.filter_singleton, Bool.cond_decide]

theorem eq_of_settled {r : Nat → α} {enough n : Nat} (h : ∀ n, enough ≤ n → r (n + 1) = r n)
    (hn : enough ≤ n) : r n = r enough := by
  induction n, hn using Nat.le_induction with
  | base => rfl
  | succ n hn ih => rw [h n hn, ih]

section Pieces

variable {p : α → Bool} {a b : α} {as bs cs ds : List α}

theorem head?_dropWhile (p : α → Bool) (as : List α) :
    ∀ a ∈ (as.dropWhile p).head?, p a = false := by
  intro a ha
  have hhead := List.head?_dropWhile_not p as
  rw [ha] at hhead
  exact hhead

theorem takeWhile_dropWhile_append (has : ∀ a ∈ as, p a = true)
    (hbs : ∀ b ∈ bs.head?, p b = false) :
    (as ++ bs).takeWhile p = as ∧ (as ++ bs).dropWhile p = bs := by
  rw [List.takeWhile_append_of_pos has, List.dropWhile_append_of_pos has]
  cases bs with
  | nil => simp
  | cons b bs => simp [hbs b rfl]

theorem takeWhile_append_cons (hb : p b = false) (as bs : List α) :
    (as ++ b :: bs).takeWhile p = as.takeWhile p := by
  induction as with
  | nil => simp [hb]
  | cons a as ih => by_cases ha : p a = true <;> simp [ha, ih]

theorem dropWhile_append_cons (hb : p b = false) (as bs : List α) :
    (as ++ b :: bs).dropWhile p = as.dropWhile p ++ b :: bs := by
  induction as with
  | nil => simp [hb]
  | cons a as ih => by_cases ha : p a = true <;> simp [ha, ih]

theorem split_append (h : as ++ bs = cs ++ a :: ds) :
    (∃ more, as = cs ++ a :: more) ∨ ∃ skipped, cs = as ++ skipped ∧ bs = skipped ++ a :: ds := by
  rcases List.append_eq_append_iff.mp h with ⟨skipped, hcs, hbs⟩ | ⟨more, has, hds⟩
  · exact .inr ⟨skipped, hcs, hbs⟩
  · cases more with
    | nil => exact .inr ⟨[], by simp [has], by simpa using hds.symm⟩
    | cons d more =>
      obtain ⟨rfl, -⟩ := List.cons.inj hds
      exact .inl ⟨more, has⟩

theorem forall_append_eq_cons {P : List α → Prop} :
    (∀ before after, a :: as = before ++ after → P before) ↔
      P [] ∧ ∀ before after, as = before ++ after → P (a :: before) := by
  constructor
  · intro h
    exact ⟨h [] (a :: as) rfl, fun before after heq => h (a :: before) after (by simp [heq])⟩
  · rintro ⟨hnil, hcons⟩ before after heq
    cases before with
    | nil => exact hnil
    | cons d before =>
      obtain ⟨rfl, hrest⟩ := List.cons.inj heq
      exact hcons before after hrest

end Pieces

end Lists

end DocSchema
