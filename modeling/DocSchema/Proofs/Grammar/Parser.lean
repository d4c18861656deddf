import DocSchema.Proofs.Grammar
import DocSchema.Proofs.Result

/-!
# The reader reads the grammar

Soundness: what a reader takes is derived by its nonterminal, with the tree it returns.
Completeness: a reader takes whatever its nonterminal derives, if what follows cannot continue it.
Only an item can be continued, by an opening parenthesis.
-/
namespace DocSchema.Grammar

variable {ts rest : Tokens}

theorem enclosed?_sound {k : Int} {s : Span} {q : Quantifier}
    (h : Parser.enclosed? k ts = some (q, rest)) :
    ∃ used, ts = used ++ rest ∧ DerivesQuantifier (⟨.integer k, s⟩ :: used) q := by
  unfold Parser.enclosed? at h
  split at h
  · rename_i c s₂ name s₃ ts
    split_ifs at h with hn
    subst hn
    split at h
    · rename_i c' s₄ k' s₅ ts
      cases h
      exact ⟨[_, _, _, _], rfl, .enclosed k c c' k' s s₂ s₃ s₄ s₅⟩
    · cases h
      exact ⟨[_, _], rfl, .reversed k c s s₂ s₃⟩
  · cases h

theorem quantifier?_sound {q : Quantifier} (h : Parser.quantifier? ts = some (q, rest)) :
    ∃ used, ts = used ++ rest ∧ DerivesQuantifier used q := by
  unfold Parser.quantifier? at h
  split at h
  · rename_i name s ts
    split_ifs at h with ho hn
    · subst ho
      cases h
      exact ⟨[_], rfl, .optional s⟩
    · subst hn
      split at h
      · rename_i c s₂ k s₃ ts
        cases h
        exact ⟨[_, _, _], rfl, .bound c k s s₂ s₃⟩
      · cases h
  · rename_i k s ts
    cases he : Parser.enclosed? k ts with
    | none =>
      simp only [he, Option.getD_none, Option.some.injEq, Prod.mk.injEq] at h
      obtain ⟨rfl, rfl⟩ := h
      exact ⟨[_], rfl, .count k s⟩
    | some found =>
      simp only [he, Option.getD_some, Option.some.injEq] at h
      subst h
      obtain ⟨used, rfl, hq⟩ := enclosed?_sound (s := s) he
      exact ⟨_ :: used, rfl, hq⟩
  · cases h

theorem item_sound {name : Located String} {i : Item}
    (h : Parser.item name ts = .ok (i, rest)) :
    ∃ used, ts = used ++ rest ∧ DerivesItem (⟨.identifier name.value, name.span⟩ :: used) i := by
  simp only [Parser.item, bind_eq_ok, pure_eq_ok, Except.ok.injEq, Prod.mk.injEq] at h
  obtain ⟨⟨quantifier, ts'⟩, hg, rfl, rfl⟩ := h
  unfold Parser.quantifierGroup at hg
  split at hg
  · rename_i left ts
    split at hg
    · cases hg
    · rename_i q right ts' hq
      cases hg
      obtain ⟨used, rfl, hd⟩ := quantifier?_sound hq
      refine ⟨⟨.leftParen, left⟩ :: used ++ [⟨.rightParen, right⟩], by simp, ?_⟩
      exact .quantified name.value name.span left right hd
    · cases hg
  · cases hg
    exact ⟨[], rfl, .plain name.value name.span⟩

def opening (ordered : Bool) : Token := if ordered then .leftBracket else .leftBrace

def closing (ordered : Bool) : Token := if ordered then .rightBracket else .rightBrace

theorem listEnd_sound {ordered : Bool} {used : Option Separator} {right : Span}
    (h : Parser.listEnd ordered used ts = .ok (right, rest)) :
    ts = ⟨closing ordered, right⟩ :: rest := by
  unfold Parser.listEnd at h
  split at h
  · split_ifs at h with ho
    cases h
    simp [closing, ho]
  · split_ifs at h with ho
    cases h
    simp [closing, ho]
  · cases h

theorem separator?_sound {ordered : Bool} {used : Option Separator} {separator : Separator}
    (h : Parser.separator? ordered used ts = some (separator, rest)) :
    (∃ s, ts = ⟨separatorToken separator, s⟩ :: rest) ∧ (∀ u, used = some u → u = separator) ∧
      (ordered = true → separator = .comma) := by
  unfold Parser.separator? at h
  split at h
  · rename_i s ts
    split_ifs at h with hu
    cases h
    refine ⟨⟨s, rfl⟩, ?_, fun _ => rfl⟩
    rintro (_ | _) rfl
    · rfl
    · exact absurd rfl hu
  · rename_i s ts
    split_ifs at h with hu
    cases h
    simp only [Bool.or_eq_true, decide_eq_true_eq, not_or] at hu
    refine ⟨⟨s, rfl⟩, ?_, fun ho => absurd ho hu.1⟩
    rintro (_ | _) rfl
    · exact absurd rfl hu.2
    · rfl
  · cases h

/-- What the entries after the first one say about the separator in use: none as long as there is no
entry, and then the same one throughout. -/
def Continues (ordered : Bool) (before after : Option Separator) (ts : Tokens) (es : List Entry) :
    Prop :=
  (ts = [] ∧ es = [] ∧ after = before) ∨
    ∃ separator, after = some separator ∧ (∀ u, before = some u → u = separator) ∧
      (ordered = true → separator = .comma) ∧ es ≠ [] ∧ DerivesFurther separator ts es

theorem Continues.cons {ordered : Bool} {before after : Option Separator} {separator : Separator}
    {ts ts' : Tokens} {e : Entry} {es : List Entry} (hb : ∀ u, before = some u → u = separator)
    (ho : ordered = true → separator = .comma) (s : Span) (first : DerivesEntry ts e)
    (others : Continues ordered (some separator) after ts' es) :
    Continues ordered before after (⟨separatorToken separator, s⟩ :: ts ++ ts') (e :: es) := by
  right
  -- the separator in use binds the later entries, so that theirs is this one
  obtain ⟨rfl, rfl, rfl⟩ | ⟨separator', rfl, hs, -, -, hf⟩ := others
  · exact ⟨separator, rfl, hb, ho, by simp, .cons s first .nil⟩
  · rw [← hs separator rfl] at hf ⊢
    exact ⟨separator, rfl, hb, ho, by simp, .cons s first hf⟩

theorem DerivesList.of_continues {ordered : Bool} {used : Option Separator} {left right : Span}
    {ts ts' : Tokens} {e : Entry} {es : List Entry} (first : DerivesEntry ts e)
    (others : Continues ordered none used ts' es) :
    DerivesList (⟨opening ordered, left⟩ :: (ts ++ ts') ++ [⟨closing ordered, right⟩])
      (Parser.compositorOf ordered used) (e :: es) (left.union right) := by
  obtain ⟨rfl, rfl, rfl⟩ | ⟨separator, rfl, -, ho, hne, hf⟩ := others
  · have hs : DerivesEntries (ts ++ []) [e] := .some first .nil
    cases ordered with
    | true => exact .sequence left right hs
    | false => exact .unordered left right hs
  · cases ordered with
    | true =>
      rw [ho rfl] at hf
      exact .sequence left right (.some first hf)
    | false =>
      cases separator with
      | comma => exact .unordered left right (.some first hf)
      | slash => exact .choice left right first hf hne

structure ListsSound (fuel : Nat) : Prop where
  entry {ts rest : Tokens} {e : Entry} : Parser.entry? fuel ts = .ok (some (e, rest)) →
    ∃ used, ts = used ++ rest ∧ DerivesEntry used e
  list {ordered : Bool} {ts rest : Tokens} {c : Compositor} {es : List Entry} {right : Span} :
    Parser.list fuel ordered ts = .ok ((c, es, right), rest) →
      ∃ used, ts = used ++ rest ∧
        ∀ left, DerivesList (⟨opening ordered, left⟩ :: used) c es (left.union right)
  more {ordered : Bool} {before after : Option Separator} {ts rest : Tokens} {es : List Entry} :
    Parser.moreEntries fuel ordered before ts = .ok ((after, es), rest) →
      ∃ used, ts = used ++ rest ∧ Continues ordered before after used es

theorem ListsSound.entry_succ {fuel : Nat} (h : ListsSound fuel) {e : Entry}
    (he : Parser.entry? (fuel + 1) ts = .ok (some (e, rest))) :
    ∃ used, ts = used ++ rest ∧ DerivesEntry used e := by
  simp only [Parser.entry?] at he
  split at he
  · rename_i left ts
    simp only [bind_eq_ok, pure_eq_ok, Except.ok.injEq, Option.some.injEq, Prod.mk.injEq] at he
    obtain ⟨⟨⟨c, es, right⟩, ts'⟩, hl, rfl, rfl⟩ := he
    obtain ⟨used, rfl, hd⟩ := h.list hl
    exact ⟨_ :: used, rfl, .list (hd left)⟩
  · rename_i left ts
    simp only [bind_eq_ok, pure_eq_ok, Except.ok.injEq, Option.some.injEq, Prod.mk.injEq] at he
    obtain ⟨⟨⟨c, es, right⟩, ts'⟩, hl, rfl, rfl⟩ := he
    obtain ⟨used, rfl, hd⟩ := h.list hl
    exact ⟨_ :: used, rfl, .list (hd left)⟩
  · rename_i name s ts
    simp only [bind_eq_ok, pure_eq_ok, Except.ok.injEq, Option.some.injEq, Prod.mk.injEq] at he
    obtain ⟨⟨i, ts'⟩, hi, rfl, rfl⟩ := he
    obtain ⟨used, rfl, hd⟩ := item_sound hi
    exact ⟨_ :: used, rfl, .item hd⟩
  · rename_i text s ts
    cases he
    exact ⟨[_], rfl, .string text s⟩
  · rename_i k s ts
    cases he
    exact ⟨[_], rfl, .integer k s⟩
  · rename_i s ts
    cases he
    exact ⟨[_], rfl, .anyText s⟩
  · simp at he

theorem ListsSound.list_succ {fuel : Nat} (h : ListsSound fuel) {ordered : Bool} {c : Compositor}
    {es : List Entry} {right : Span}
    (hl : Parser.list (fuel + 1) ordered ts = .ok ((c, es, right), rest)) :
    ∃ used, ts = used ++ rest ∧
      ∀ left, DerivesList (⟨opening ordered, left⟩ :: used) c es (left.union right) := by
  simp only [Parser.list, bind_eq_ok] at hl
  obtain ⟨found, he, hl⟩ := hl
  cases found with
  | none =>
    simp only [bind_eq_ok, pure_eq_ok, Except.ok.injEq, Prod.mk.injEq] at hl
    obtain ⟨⟨right', ts'⟩, hr, ⟨rfl, rfl, rfl⟩, rfl⟩ := hl
    refine ⟨[⟨closing ordered, right'⟩], listEnd_sound hr, fun left => ?_⟩
    cases ordered with
    | true => exact .sequence left right' .none
    | false => exact .unordered left right' .none
  | some found =>
    obtain ⟨first, ts₁⟩ := found
    simp only [bind_eq_ok, pure_eq_ok, Except.ok.injEq, Prod.mk.injEq] at hl
    obtain ⟨⟨⟨used, others⟩, ts₂⟩, hm, ⟨right', ts₃⟩, hr, ⟨rfl, rfl, rfl⟩, rfl⟩ := hl
    obtain ⟨u₁, rfl, hd₁⟩ := h.entry he
    obtain ⟨u₂, rfl, hd₂⟩ := h.more hm
    obtain rfl : ts₂ = _ := listEnd_sound hr
    refine ⟨u₁ ++ u₂ ++ [⟨closing ordered, right'⟩], by simp, fun left => ?_⟩
    exact .of_continues hd₁ hd₂

theorem ListsSound.more_succ {fuel : Nat} (h : ListsSound fuel) {ordered : Bool}
    {before after : Option Separator} {es : List Entry}
    (hm : Parser.moreEntries (fuel + 1) ordered before ts = .ok ((after, es), rest)) :
    ∃ used, ts = used ++ rest ∧ Continues ordered before after used es := by
  simp only [Parser.moreEntries] at hm
  split at hm
  · cases hm
    exact ⟨[], rfl, .inl ⟨rfl, rfl, rfl⟩⟩
  · rename_i separator ts₁ hs
    simp only [bind_eq_ok] at hm
    obtain ⟨found, he, hm⟩ := hm
    cases found with
    | none => cases hm
    | some found =>
      obtain ⟨e, ts₂⟩ := found
      simp only [bind_eq_ok, pure_eq_ok, Except.ok.injEq, Prod.mk.injEq] at hm
      obtain ⟨⟨⟨used, others⟩, ts₃⟩, hm, ⟨rfl, rfl⟩, rfl⟩ := hm
      obtain ⟨⟨s, rfl⟩, hu, ho⟩ := separator?_sound hs
      obtain ⟨u₁, rfl, hd₁⟩ := h.entry he
      obtain ⟨u₂, rfl, hd₂⟩ := h.more hm
      exact ⟨⟨separatorToken separator, s⟩ :: u₁ ++ u₂, by simp, .cons hu ho s hd₁ hd₂⟩

theorem lists_sound (fuel : Nat) : ListsSound fuel := by
  -- each reader calls the others with less fuel, so the three go through one induction
  induction fuel with
  | zero =>
    refine ⟨fun h => ?_, fun h => ?_, fun h => ?_⟩
    · simp [Parser.entry?] at h
    · simp [Parser.list] at h
    · simp only [Parser.moreEntries, Except.ok.injEq, Prod.mk.injEq] at h
      obtain ⟨⟨rfl, rfl⟩, rfl⟩ := h
      exact ⟨[], rfl, .inl ⟨rfl, rfl, rfl⟩⟩
  | succ fuel ih => exact ⟨ih.entry_succ, ih.list_succ, ih.more_succ⟩

theorem propertyValue_sound {v : Value} (h : Parser.propertyValue ts = .ok (v, rest)) :
    ∃ used, ts = used ++ rest ∧ DerivesValue used v := by
  have list {ordered : Bool} {left : Span} {ts : Tokens}
      (h : Parser.listValue ordered left ts = .ok (v, rest)) :
      ∃ used, ⟨opening ordered, left⟩ :: ts = used ++ rest ∧ DerivesValue used v := by
    simp only [Parser.listValue, bind_eq_ok, pure_eq_ok, Except.ok.injEq, Prod.mk.injEq] at h
    obtain ⟨⟨⟨c, es, right⟩, ts'⟩, hl, rfl, rfl⟩ := h
    obtain ⟨used, rfl, hd⟩ := (lists_sound _).list hl
    exact ⟨_ :: used, rfl, .list (hd left)⟩
  unfold Parser.propertyValue at h
  split at h
  · rename_i s ts
    cases h
    exact ⟨[_], rfl, .anyText s⟩
  · exact list h
  · exact list h
  · rename_i name s ts
    simp only [bind_eq_ok, pure_eq_ok, Except.ok.injEq, Prod.mk.injEq] at h
    obtain ⟨⟨i, ts'⟩, hi, rfl, rfl⟩ := h
    obtain ⟨used, rfl, hd⟩ := item_sound hi
    exact ⟨_ :: used, rfl, .item hd⟩
  · rename_i text s ts
    cases h
    exact ⟨[_], rfl, .string text s⟩
  · rename_i text s ts
    cases h
    exact ⟨[_], rfl, .pattern text s⟩
  · rename_i k s ts
    cases h
    exact ⟨[_], rfl, .integer k s⟩
  · cases h

theorem expect_sound {token : Token} {expected : Expected} {s : Span}
    (h : Parser.expect token expected ts = .ok (s, rest)) : ts = ⟨token, s⟩ :: rest := by
  cases ts with
  | nil => cases h
  | cons t ts =>
    simp only [Parser.expect] at h
    split_ifs at h with ht
    cases h
    rw [← ht]

theorem property_sound {name : Located String} {p : Property}
    (h : Parser.property name ts = .ok (p, rest)) :
    ∃ used, ts = used ++ rest ∧
      DerivesProperty (⟨.identifier name.value, name.span⟩ :: used) p := by
  simp only [Parser.property, bind_eq_ok, pure_eq_ok, Except.ok.injEq, Prod.mk.injEq] at h
  obtain ⟨⟨colon, ts₁⟩, hc, ⟨v, ts₂⟩, hv, ⟨semicolon, ts₃⟩, hs, rfl, rfl⟩ := h
  obtain rfl : ts = _ := expect_sound hc
  obtain ⟨used, rfl, hd⟩ := propertyValue_sound hv
  obtain rfl : ts₂ = _ := expect_sound hs
  refine ⟨⟨.colon, colon⟩ :: used ++ [⟨.semicolon, semicolon⟩], by simp, ?_⟩
  exact .mk name.value name.span colon semicolon hd

theorem properties_sound {fuel : Nat} {ps : List Property}
    (h : Parser.properties fuel ts = .ok (ps, rest)) :
    ∃ used, ts = used ++ rest ∧ DerivesProperties used ps := by
  induction fuel generalizing ts ps with
  | zero =>
    cases h
    exact ⟨[], rfl, .nil⟩
  | succ fuel ih =>
    simp only [Parser.properties] at h
    split at h
    · simp only [bind_eq_ok, pure_eq_ok, Except.ok.injEq, Prod.mk.injEq] at h
      obtain ⟨⟨p, ts₁⟩, hp, ⟨ps', ts₂⟩, hps, rfl, rfl⟩ := h
      obtain ⟨u₁, rfl, hd₁⟩ := property_sound hp
      obtain ⟨u₂, rfl, hd₂⟩ := ih hps
      exact ⟨_ :: u₁ ++ u₂, by simp, .cons hd₁ hd₂⟩
    · cases h
      exact ⟨[], rfl, .nil⟩

theorem declarationBody_sound {root : Option Span} {kind : Located Kind} {d : Declaration}
    (h : Parser.declarationBody root kind ts = .ok (d, rest)) :
    ∃ name ns left right inner ps,
      ts = ⟨.identifier name, ns⟩ :: ⟨.leftBrace, left⟩ :: inner ++ ⟨.rightBrace, right⟩ :: rest ∧
      DerivesProperties inner ps ∧
      d = ⟨root, kind, ⟨name, ns⟩, left, ps, (root.getD kind.span).union right⟩ := by
  simp only [Parser.declarationBody, bind_eq_ok, pure_eq_ok, Except.ok.injEq, Prod.mk.injEq] at h
  obtain ⟨⟨name, ts₁⟩, hn, ⟨left, ts₂⟩, hl, ⟨ps, ts₃⟩, hp, ⟨right, ts₄⟩, hr, rfl, rfl⟩ := h
  unfold Parser.structureName at hn
  split at hn
  · cases hn
    obtain rfl : ts₁ = _ := expect_sound hl
    obtain ⟨inner, rfl, hd⟩ := properties_sound hp
    obtain rfl : ts₃ = _ := expect_sound hr
    exact ⟨_, _, left, right, inner, ps, rfl, hd, rfl⟩
  · cases hn

theorem body_eq_ok {root : Option Span} {kind : Located Kind} {r : Declaration × Tokens} :
    Parser.body root kind ts = .ok r ↔ Parser.declarationBody root kind ts = .ok r := by
  unfold Parser.body
  split <;> simp_all

theorem takesRoot_iff {k : Kind} : Parser.takesRoot k = true ↔ k = .element ∨ k = .object := by
  simp [Parser.takesRoot]

theorem declarations_sound {fuel : Nat} {ds : List Declaration}
    (h : Parser.declarations fuel ts = .ok ds) : DerivesFile ts ds := by
  fun_induction Parser.declarations fuel ts generalizing ds with
  | case1 fuel =>
    cases h
    exact .nil
  | case3 fuel root k s ts hk ih =>
    simp only [bind_eq_ok, pure_eq_ok, Except.ok.injEq] at h
    obtain ⟨⟨d, ts'⟩, hb, ds', hds, rfl⟩ := h
    obtain ⟨name, ns, left, right, inner, ps, rfl, hd, rfl⟩ :=
      declarationBody_sound (body_eq_ok.mp hb)
    have hf := DerivesFile.cons (.root k name root s ns left right (takesRoot_iff.mp hk) hd)
      (ih _ hds)
    simpa using hf
  | case6 fuel k s ts ih =>
    simp only [bind_eq_ok, pure_eq_ok, Except.ok.injEq] at h
    obtain ⟨⟨d, ts'⟩, hb, ds', hds, rfl⟩ := h
    obtain ⟨name, ns, left, right, inner, ps, rfl, hd, rfl⟩ :=
      declarationBody_sound (body_eq_ok.mp hb)
    have hf := DerivesFile.cons (.plain k name s ns left right hd) (ih _ hds)
    simpa using hf
  | _ => cases h

/-- What may follow an item without becoming its quantifier. -/
def NoParen (rest : Tokens) : Prop := ∀ s r, rest ≠ ⟨.leftParen, s⟩ :: r

theorem noParen_cons {t : Located Token} (h : t.value ≠ .leftParen) : NoParen (t :: rest) := by
  rintro s r he
  cases he
  exact h rfl

theorem noParen_closing (ordered : Bool) (right : Span) :
    NoParen (⟨closing ordered, right⟩ :: rest) :=
  noParen_cons (by cases ordered <;> simp [closing])

theorem quantifier?_complete {q : Quantifier} (h : DerivesQuantifier ts q) (right : Span) :
    Parser.quantifier? (ts ++ ⟨.rightParen, right⟩ :: rest) =
      some (q, ⟨.rightParen, right⟩ :: rest) := by
  cases h <;> simp [Parser.quantifier?, Parser.enclosed?]

theorem item_complete {i : Item} (h : DerivesItem ts i) (hr : NoParen rest) :
    ∃ name s tail, ts = ⟨.identifier name, s⟩ :: tail ∧
      Parser.item ⟨name, s⟩ (tail ++ rest) = .ok (i, rest) := by
  cases h with
  | plain name s =>
    refine ⟨name, s, [], rfl, ?_⟩
    have hg : Parser.quantifierGroup rest = .ok (none, rest) := by
      unfold Parser.quantifierGroup
      split
      · exact absurd rfl (hr _ _)
      · rfl
    simp [Parser.item, hg]
  | quantified name s left right inner =>
    refine ⟨name, s, _, rfl, ?_⟩
    simp [Parser.item, Parser.quantifierGroup, quantifier?_complete inner]

theorem entry?_closing (fuel : Nat) (ordered : Bool) (right : Span) :
    Parser.entry? fuel (⟨closing ordered, right⟩ :: rest) = .ok none := by
  cases fuel with
  | zero => rfl
  | succ fuel => cases ordered <;> rfl

theorem separator?_closing (ordered : Bool) (used : Option Separator) (right : Span) :
    Parser.separator? ordered used (⟨closing ordered, right⟩ :: rest) = none := by
  cases ordered <;> rfl

theorem listEnd_closing (ordered : Bool) (used : Option Separator) (right : Span) :
    Parser.listEnd ordered used (⟨closing ordered, right⟩ :: rest) = .ok (right, rest) := by
  cases ordered <;> rfl

theorem separator?_complete {ordered : Bool} {before : Option Separator} {separator : Separator}
    (s : Span) (hb : ∀ u, before = some u → u = separator)
    (ho : ordered = true → separator = .comma) :
    Parser.separator? ordered before (⟨separatorToken separator, s⟩ :: rest) =
      some (separator, rest) := by
  cases separator with
  | comma =>
    have hne : before ≠ some .slash := fun h => by cases hb _ h
    simp [Parser.separator?, separatorToken, hne]
  | slash =>
    have hne : before ≠ some .comma := fun h => by cases hb _ h
    have hf : ordered = false := by
      cases ordered with
      | false => rfl
      | true => cases ho rfl
    simp [Parser.separator?, separatorToken, hne, hf]

theorem DerivesFurther.noParen {separator : Separator} {es : List Entry}
    (h : DerivesFurther separator ts es) (hr : NoParen rest) : NoParen (ts ++ rest) := by
  cases h with
  | nil => exact hr
  | cons s first others => exact noParen_cons (by cases separator <;> simp [separatorToken])

def usedAfter (before : Option Separator) (separator : Separator) (es : List Entry) :
    Option Separator :=
  if es.isEmpty then before else some separator

theorem list_of_entries {fuel : Nat} {ordered : Bool} {right : Span} {e : Entry} {es : List Entry}
    {used : Option Separator} {ts ts₁ : Tokens}
    (he : Parser.entry? fuel ts = .ok (some (e, ts₁)))
    (hm : Parser.moreEntries fuel ordered none ts₁ =
      .ok ((used, es), ⟨closing ordered, right⟩ :: rest)) :
    Parser.list (fuel + 1) ordered ts =
      .ok ((Parser.compositorOf ordered used, e :: es, right), rest) := by
  simp [Parser.list, he, hm, listEnd_closing]

theorem exists_fuel {t : Located Token} {fuel : Nat} (h : (t :: ts).length ≤ fuel) :
    ∃ n, fuel = n + 1 ∧ ts.length ≤ n := by
  simp only [List.length_cons] at h
  exact ⟨fuel - 1, by omega, by omega⟩

mutual

theorem entry?_complete {ts : Tokens} {e : Entry} : DerivesEntry ts e → ∀ (fuel : Nat)
    (rest : Tokens), ts.length ≤ fuel → NoParen rest →
    Parser.entry? fuel (ts ++ rest) = .ok (some (e, rest))
  | .item inner => by
    intro fuel rest hf hr
    obtain ⟨name, s, tail, rfl, hi⟩ := item_complete inner hr
    obtain ⟨fuel, rfl, -⟩ := exists_fuel hf
    simp [Parser.entry?, hi]
  | .list inner => by
    intro fuel rest hf hr
    obtain ⟨ordered, left, right, tail, rfl, rfl, hl⟩ := list_complete inner
    obtain ⟨fuel, rfl, hn⟩ := exists_fuel hf
    have hl := hl fuel rest hn
    cases ordered <;> simp [Parser.entry?, opening, hl]
  | .string text s => by
    intro fuel rest hf hr
    obtain ⟨fuel, rfl, -⟩ := exists_fuel hf
    rfl
  | .integer k s => by
    intro fuel rest hf hr
    obtain ⟨fuel, rfl, -⟩ := exists_fuel hf
    rfl
  | .anyText s => by
    intro fuel rest hf hr
    obtain ⟨fuel, rfl, -⟩ := exists_fuel hf
    rfl

theorem list_complete {ts : Tokens} {c : Compositor} {es : List Entry} {s : Span} :
    DerivesList ts c es s →
    ∃ ordered left right tail, ts = ⟨opening ordered, left⟩ :: tail ∧ s = left.union right ∧
      ∀ fuel rest, tail.length ≤ fuel →
        Parser.list fuel ordered (tail ++ rest) = .ok ((c, es, right), rest)
  | .sequence left right inner => by
    refine ⟨true, left, right, _, rfl, rfl, fun fuel rest hf => ?_⟩
    have hl := entries_complete inner true fuel right rest (by simpa using hf)
    simpa [closing] using hl
  | .unordered left right inner => by
    refine ⟨false, left, right, _, rfl, rfl, fun fuel rest hf => ?_⟩
    have hl := entries_complete inner false fuel right rest (by simpa using hf)
    simpa [closing] using hl
  | @DerivesList.choice left right ts ts' e es first others more => by
    refine ⟨false, left, right, ts ++ ts' ++ [⟨.rightBrace, right⟩], rfl, rfl,
      fun fuel rest hf => ?_⟩
    simp only [List.length_append, List.length_cons, List.length_nil] at hf
    obtain ⟨fuel, rfl⟩ : ∃ n, fuel = n + 1 := ⟨fuel - 1, by omega⟩
    have he := entry?_complete first fuel (ts' ++ ⟨closing false, right⟩ :: rest) (by omega)
      (others.noParen (noParen_closing false right))
    have hm := moreEntries_complete others false none fuel right rest (by omega) (by simp) (by simp)
    have hl := list_of_entries he hm
    simpa [closing, usedAfter, more, Parser.compositorOf] using hl

theorem entries_complete {ts : Tokens} {es : List Entry} : DerivesEntries ts es →
    ∀ (ordered : Bool) (fuel : Nat) (right : Span) (rest : Tokens), ts.length + 1 ≤ fuel →
    Parser.list fuel ordered (ts ++ ⟨closing ordered, right⟩ :: rest) =
      .ok ((if ordered then .sequence else .unordered, es, right), rest)
  | .none => by
    intro ordered fuel right rest hf
    obtain ⟨fuel, rfl⟩ : ∃ n, fuel = n + 1 := ⟨fuel - 1, by omega⟩
    cases ordered <;>
      simp [Parser.list, entry?_closing, listEnd_closing, Parser.compositorOf]
  | @DerivesEntries.some ts ts' e es first others => by
    intro ordered fuel right rest hf
    simp only [List.length_append] at hf
    obtain ⟨fuel, rfl⟩ : ∃ n, fuel = n + 1 := ⟨fuel - 1, by omega⟩
    have he := entry?_complete first fuel (ts' ++ ⟨closing ordered, right⟩ :: rest) (by omega)
      (others.noParen (noParen_closing ordered right))
    have hm := moreEntries_complete others ordered none fuel right rest (by omega) (by simp)
      (by simp)
    have hl := list_of_entries he hm
    have hc : Parser.compositorOf ordered (usedAfter none .comma es) =
        if ordered then .sequence else .unordered := by
      unfold usedAfter Parser.compositorOf
      split_ifs <;> simp_all
    rw [hc] at hl
    simpa using hl

theorem moreEntries_complete {separator : Separator} {ts : Tokens} {es : List Entry} :
    DerivesFurther separator ts es → ∀ (ordered : Bool) (before : Option Separator) (fuel : Nat)
    (right : Span) (rest : Tokens), ts.length ≤ fuel →
    (∀ u, before = some u → u = separator) → (ordered = true → separator = .comma) →
    Parser.moreEntries fuel ordered before (ts ++ ⟨closing ordered, right⟩ :: rest) =
      .ok ((usedAfter before separator es, es), ⟨closing ordered, right⟩ :: rest)
  | .nil => by
    intro ordered before fuel right rest hf hb ho
    cases fuel with
    | zero => rfl
    | succ fuel => simp [Parser.moreEntries, separator?_closing, usedAfter]
  | @DerivesFurther.cons _ s ts ts' e es first others => by
    intro ordered before fuel right rest hf hb ho
    simp only [List.length_append, List.length_cons] at hf
    obtain ⟨fuel, rfl⟩ : ∃ n, fuel = n + 1 := ⟨fuel - 1, by omega⟩
    have he := entry?_complete first fuel (ts' ++ ⟨closing ordered, right⟩ :: rest) (by omega)
      (others.noParen (noParen_closing ordered right))
    have hm := moreEntries_complete others ordered (some separator) fuel right rest (by omega)
      (by simp) ho
    simp [Parser.moreEntries, separator?_complete s hb ho, he, hm, usedAfter]

end

theorem propertyValue_complete {v : Value} (h : DerivesValue ts v) (hr : NoParen rest) :
    Parser.propertyValue (ts ++ rest) = .ok (v, rest) := by
  cases h with
  | list inner =>
    obtain ⟨ordered, left, right, tail, rfl, rfl, hl⟩ := list_complete inner
    have hfuel : tail.length ≤ Parser.listFuel (tail ++ rest) := by
      simp only [Parser.listFuel, List.length_append]
      omega
    cases ordered <;> simp [Parser.propertyValue, Parser.listValue, opening, hl _ rest hfuel]
  | item inner =>
    obtain ⟨name, s, tail, rfl, hi⟩ := item_complete inner hr
    simp [Parser.propertyValue, hi]
  | anyText s => rfl
  | string text s => rfl
  | pattern text s => rfl
  | integer k s => rfl

@[simp] theorem expect_self (token : Token) (expected : Expected) (s : Span) (rest : Tokens) :
    Parser.expect token expected (⟨token, s⟩ :: rest) = .ok (s, rest) := by
  simp [Parser.expect]

theorem property_complete {p : Property} (h : DerivesProperty ts p) :
    ∃ name s tail, ts = ⟨.identifier name, s⟩ :: tail ∧
      ∀ rest, Parser.property ⟨name, s⟩ (tail ++ rest) = .ok (p, rest) := by
  obtain ⟨name, s, colon, semicolon, inner⟩ := h
  refine ⟨name, s, _, rfl, fun rest => ?_⟩
  have hr : NoParen (⟨.semicolon, semicolon⟩ :: rest) := noParen_cons (by simp)
  simp [Parser.property, propertyValue_complete inner hr]

theorem properties_complete {ps : List Property} (h : DerivesProperties ts ps) (fuel : Nat)
    (hf : ts.length ≤ fuel) (right : Span) (rest : Tokens) :
    Parser.properties fuel (ts ++ ⟨.rightBrace, right⟩ :: rest) =
      .ok (ps, ⟨.rightBrace, right⟩ :: rest) := by
  induction h generalizing fuel with
  | nil => cases fuel <;> rfl
  | @cons ts ts' p ps first others ih =>
    obtain ⟨name, s, tail, rfl, hp⟩ := property_complete first
    simp only [List.length_append, List.length_cons] at hf
    obtain ⟨fuel, rfl⟩ : ∃ n, fuel = n + 1 := ⟨fuel - 1, by omega⟩
    simp [Parser.properties, hp, ih fuel (by omega)]

theorem body_complete (root : Option Span) (kind : Located Kind) (name : String)
    (ns left right : Span) {ps : List Property} (inner : DerivesProperties ts ps) :
    Parser.body root kind
        (⟨.identifier name, ns⟩ :: ⟨.leftBrace, left⟩ :: (ts ++ ⟨.rightBrace, right⟩ :: rest)) =
      .ok (⟨root, kind, ⟨name, ns⟩, left, ps, (root.getD kind.span).union right⟩, rest) := by
  rw [body_eq_ok]
  have hp := properties_complete inner (ts ++ ⟨.rightBrace, right⟩ :: rest).length (by simp) right
    rest
  simp only [Parser.declarationBody, Parser.structureName, ok_bind, expect_self, hp, pure_eq_ok]

theorem declarations_complete {ds : List Declaration} (h : DerivesFile ts ds) (fuel : Nat)
    (hf : ts.length ≤ fuel) : Parser.declarations fuel ts = .ok ds := by
  induction h generalizing fuel with
  | nil => cases fuel <;> rfl
  | @cons ts ts' d ds first others ih =>
    cases first with
    | plain k name ks ns left right inner =>
      simp only [List.length_append, List.length_cons] at hf
      obtain ⟨fuel, rfl⟩ : ∃ n, fuel = n + 1 := ⟨fuel - 1, by omega⟩
      simp [Parser.declarations, body_complete none _ name ns left right inner,
        ih fuel (by omega)]
    | root k name rs ks ns left right takesRoot inner =>
      simp only [List.length_append, List.length_cons] at hf
      obtain ⟨fuel, rfl⟩ : ∃ n, fuel = n + 1 := ⟨fuel - 1, by omega⟩
      simp [Parser.declarations, takesRoot_iff.mpr takesRoot,
        body_complete (some rs) _ name ns left right inner, ih fuel (by omega)]

theorem parseDeclarations_eq_ok_iff {ds : List Declaration} :
    parseDeclarations ts = .ok ds ↔ DerivesFile ts ds :=
  ⟨declarations_sound, fun h => declarations_complete h ts.length le_rfl⟩

/-- Exactly the derivable token lists are read, each as its only syntax tree. -/
theorem parseDeclarations_reads_file (ts : Tokens) :
    ((∃ ds, parseDeclarations ts = .ok ds) ↔ ∃ ds, DerivesFile ts ds) ∧
      (∀ ds, parseDeclarations ts = .ok ds ↔ DerivesFile ts ds) ∧
      ∀ ds ds', DerivesFile ts ds → DerivesFile ts ds' → ds = ds' := by
  refine ⟨exists_congr fun _ => parseDeclarations_eq_ok_iff,
    fun _ => parseDeclarations_eq_ok_iff, ?_⟩
  intro ds ds' h h'
  have he := parseDeclarations_eq_ok_iff.mpr h
  rw [parseDeclarations_eq_ok_iff.mpr h', Except.ok.injEq] at he
  exact he.symm

end DocSchema.Grammar
