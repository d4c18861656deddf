import DocSchema.Proofs.Grammar.Beginnings

/-!
# The first offending token

Outside of quantifiers a reader decides by the next token alone, so what it does up to a token does
not depend on the tokens behind. Fuel is never missed. So a token that is refused after some
tokens is refused after them whatever follows, and these tokens are a beginning of a file.
-/
namespace DocSchema.Grammar

abbrev Reader (α : Type) := Tokens → Except Parser.Failure (α × Tokens)

variable {α β : Type}

/-- A reader that takes tokens from the left, and does the same up to a token whatever stands behind
this token. Only inside a quantifier it may look further. -/
structure Forward (r : Reader α) : Prop where
  ok_suffix {ts rest : Tokens} {a : α} : r ts = .ok (a, rest) → rest <:+ ts
  error_suffix {ts : Tokens} {f : Parser.Failure} : r ts = .error f → f.rest <:+ ts
  ok_swap {us us' rest : Tokens} {t : Located Token} {a : α} (rest' : Tokens) :
    r (us ++ t :: rest) = .ok (a, us' ++ t :: rest) →
      r (us ++ t :: rest') = .ok (a, us' ++ t :: rest')
  error_swap {us rest : Tokens} {t : Located Token} {e : Expected} (rest' : Tokens) :
    ¬InQuantifier e → r (us ++ t :: rest) = .error ⟨e, t :: rest⟩ →
      r (us ++ t :: rest') = .error ⟨e, t :: rest'⟩

theorem not_suffix_of_cons (us : Tokens) {t : Located Token} {rest : Tokens} :
    ¬us ++ t :: rest <:+ rest := by
  intro h
  have hl := h.length_le
  simp only [List.length_append, List.length_cons] at hl
  omega

/-- What a reader does that looks at its first token: it takes the token and goes on, or it stops in
front of it with a result or a failure. -/
inductive Peek (r : Reader α) (t : Located Token) : Prop
  | take {next : Reader α} (h : ∀ ts, r (t :: ts) = next ts) (hn : Forward next)
  | stop (a : α) (h : ∀ ts, r (t :: ts) = .ok (a, t :: ts))
  | fail (e : Expected) (h : ∀ ts, r (t :: ts) = .error ⟨e, t :: ts⟩)

namespace Forward

theorem of_peek {r : Reader α} (nil : (∃ a, r [] = .ok (a, [])) ∨ ∃ e, r [] = .error ⟨e, []⟩)
    (cons : ∀ t, Peek r t) : Forward r where
  ok_suffix {ts rest a} h := by
    cases ts with
    | nil =>
      obtain ⟨a', hn⟩ | ⟨e, hn⟩ := nil <;> rw [hn] at h <;> cases h
      exact List.suffix_rfl
    | cons t ts =>
      obtain ⟨ht, hn⟩ | ⟨a', ht⟩ | ⟨e, ht⟩ := cons t <;> rw [ht] at h
      · exact (hn.ok_suffix h).trans (List.suffix_cons t ts)
      · cases h
        exact List.suffix_rfl
      · cases h
  error_suffix {ts f} h := by
    cases ts with
    | nil =>
      obtain ⟨a', hn⟩ | ⟨e, hn⟩ := nil <;> rw [hn] at h <;> cases h
      exact List.suffix_rfl
    | cons t ts =>
      obtain ⟨ht, hn⟩ | ⟨a', ht⟩ | ⟨e, ht⟩ := cons t <;> rw [ht] at h
      · exact (hn.error_suffix h).trans (List.suffix_cons t ts)
      · cases h
      · cases h
        exact List.suffix_rfl
  ok_swap {us us' rest t a} rest' h := by
    cases us with
    | nil =>
      obtain ⟨ht, hn⟩ | ⟨a', ht⟩ | ⟨e, ht⟩ := cons t <;>
        simp only [List.nil_append, ht] at h ⊢
      · exact absurd (hn.ok_suffix h) (not_suffix_of_cons us')
      · simp only [Except.ok.injEq, Prod.mk.injEq, List.self_eq_append_left] at h
        obtain ⟨rfl, rfl⟩ := h
        rfl
      · cases h
    | cons u us =>
      obtain ⟨ht, hn⟩ | ⟨a', ht⟩ | ⟨e, ht⟩ := cons u <;>
        simp only [List.cons_append, ht] at h ⊢
      · exact hn.ok_swap rest' h
      · rw [Except.ok.injEq, Prod.mk.injEq, ← List.cons_append, List.append_cancel_right_eq] at h
        obtain ⟨rfl, rfl⟩ := h
        rfl
      · cases h
  error_swap {us rest t e} rest' he h := by
    cases us with
    | nil =>
      obtain ⟨ht, hn⟩ | ⟨a', ht⟩ | ⟨e', ht⟩ := cons t <;>
        simp only [List.nil_append, ht] at h ⊢
      · exact absurd (hn.error_suffix h) (not_suffix_of_cons [])
      · cases h
      · cases h
        rfl
    | cons u us =>
      obtain ⟨ht, hn⟩ | ⟨a', ht⟩ | ⟨e', ht⟩ := cons u <;>
        simp only [List.cons_append, ht] at h ⊢
      · exact hn.error_swap rest' he h
      · cases h
      · have hl := congrArg List.length (congrArg Parser.Failure.rest (Except.error.inj h))
        simp only [List.length_cons, List.length_append] at hl
        omega

theorem pure (a : α) : Forward fun ts => .ok (a, ts) :=
  .of_peek (.inl ⟨a, rfl⟩) fun _ => .stop a fun _ => rfl

theorem fail (e : Expected) : Forward fun ts => (.error ⟨e, ts⟩ : Except _ (α × Tokens)) :=
  .of_peek (.inr ⟨e, rfl⟩) fun _ => .fail e fun _ => rfl

theorem bind {r : Reader α} {s : α → Reader β} (hr : Forward r) (hs : ∀ a, Forward (s a)) :
    Forward fun ts => r ts >>= fun x => s x.1 x.2 where
  ok_suffix h := by
    obtain ⟨⟨a, rest⟩, ha, hb⟩ := bind_eq_ok.mp h
    exact ((hs a).ok_suffix hb).trans (hr.ok_suffix ha)
  error_suffix h := by
    obtain ha | ⟨⟨a, rest⟩, ha, hb⟩ := bind_eq_error.mp h
    · exact hr.error_suffix ha
    · exact ((hs a).error_suffix hb).trans (hr.ok_suffix ha)
  ok_swap rest' h := by
    obtain ⟨⟨a, middle⟩, ha, hb⟩ := bind_eq_ok.mp h
    -- the second reader ends before the token, so the first one does
    obtain ⟨used, rfl⟩ := (hs a).ok_suffix hb
    rw [← List.append_assoc] at ha hb
    exact bind_eq_ok.mpr ⟨_, hr.ok_swap rest' ha, (hs a).ok_swap rest' hb⟩
  error_swap rest' he h := by
    obtain ha | ⟨⟨a, middle⟩, ha, hb⟩ := bind_eq_error.mp h
    · exact bind_eq_error.mpr (.inl (hr.error_swap rest' he ha))
    · obtain ⟨used, rfl⟩ := (hs a).error_suffix hb
      exact bind_eq_error.mpr
        (.inr ⟨_, hr.ok_swap rest' ha, (hs a).error_swap rest' he hb⟩)

theorem map {r : Reader α} (hr : Forward r) (g : α → β) :
    Forward fun ts => r ts >>= fun x => .ok (g x.1, x.2) :=
  hr.bind fun a => pure (g a)

theorem of_fuel {r : Nat → Reader α} {fuel : Tokens → Nat} (hr : ∀ n, Forward (r n))
    (hf : ∀ ts n, fuel ts ≤ n → r n ts = r (fuel ts) ts) : Forward fun ts => r (fuel ts) ts where
  ok_suffix h := (hr _).ok_suffix h
  error_suffix h := (hr _).error_suffix h
  ok_swap rest' h := by
    rw [← hf _ _ (le_max_left _ _)] at h
    rw [← hf _ _ (le_max_right _ _)]
    exact (hr _).ok_swap rest' h
  error_swap rest' he h := by
    rw [← hf _ _ (le_max_left _ _)] at h
    rw [← hf _ _ (le_max_right _ _)]
    exact (hr _).error_swap rest' he h

end Forward

theorem quantifierGroup_eq_ok {left : Span} {ts rest : Tokens} {g : Option (Located Quantifier)} :
    Parser.quantifierGroup (⟨.leftParen, left⟩ :: ts) = .ok (g, rest) ↔
      ∃ used q right, ts = used ++ ⟨.rightParen, right⟩ :: rest ∧ DerivesQuantifier used q ∧
        g = some ⟨q, left.union right⟩ := by
  constructor
  · intro h
    simp only [Parser.quantifierGroup] at h
    split at h
    · cases h
    · rename_i q right ts' hq
      cases h
      obtain ⟨used, rfl, hd⟩ := quantifier?_sound hq
      exact ⟨used, q, right, rfl, hd, rfl⟩
    · cases h
  · rintro ⟨used, q, right, rfl, hd, rfl⟩
    simp [Parser.quantifierGroup, quantifier?_complete hd]

theorem quantifierGroup_eq_error {left : Span} {ts : Tokens} {f : Parser.Failure}
    (h : Parser.quantifierGroup (⟨.leftParen, left⟩ :: ts) = .error f) :
    f.rest <:+ ts ∧ InQuantifier f.expected := by
  simp only [Parser.quantifierGroup] at h
  split at h
  · cases h
    exact ⟨List.suffix_rfl, .inl rfl⟩
  · cases h
  · rename_i q ts' _ hq
    cases h
    obtain ⟨used, rfl, -⟩ := quantifier?_sound hq
    exact ⟨List.suffix_append used _, .inr rfl⟩

theorem forward_quantifierGroup : Forward Parser.quantifierGroup := by
  refine .of_peek (.inl ⟨none, rfl⟩) fun t => ?_
  by_cases ht : t.value = .leftParen
  · obtain ⟨_, left⟩ := t
    obtain rfl : _ = Token.leftParen := ht
    refine .take (fun _ => rfl) ⟨fun h => ?_, fun h => (quantifierGroup_eq_error h).1, ?_, ?_⟩
    · obtain ⟨used, q, right, rfl, -⟩ := quantifierGroup_eq_ok.mp h
      exact (List.suffix_cons _ _).trans (List.suffix_append used _)
    · intro us us' rest t g rest' h
      obtain ⟨used, q, right, hts, hd, rfl⟩ := quantifierGroup_eq_ok.mp h
      have hus : us = used ++ ⟨.rightParen, right⟩ :: us' := by
        rw [← List.cons_append, ← List.append_assoc, List.append_cancel_right_eq] at hts
        exact hts
      exact quantifierGroup_eq_ok.mpr ⟨used, q, right, by simp [hus], hd, rfl⟩
    · intro us rest t e rest' he h
      exact absurd (quantifierGroup_eq_error h).2 he
  · refine .stop none fun ts => ?_
    unfold Parser.quantifierGroup
    split
    · rename_i h
      cases h
      exact absurd rfl ht
    · rfl

theorem forward_item (name : Located String) : Forward (Parser.item name) :=
  (forward_quantifierGroup.map fun q => (⟨name, q⟩ : Item) :)

theorem forward_listEnd (ordered : Bool) (used : Option Separator) :
    Forward (Parser.listEnd ordered used) := by
  refine .of_peek (.inr ⟨_, rfl⟩) fun t => ?_
  obtain ⟨token, span⟩ := t
  by_cases ht : token = closing ordered
  · subst ht
    exact .take (fun ts => listEnd_closing ordered used span) (.pure span)
  · refine .fail (if ordered then .sequenceEnd else .bracesEnd used) fun ts => ?_
    unfold Parser.listEnd
    cases ordered <;> split <;> simp_all [closing]

def separatorReader (ordered : Bool) (used : Option Separator) : Reader (Option Separator) :=
  fun ts => .ok ((Parser.separator? ordered used ts).elim (none, ts) fun x => (some x.1, x.2))

theorem forward_separator (ordered : Bool) (used : Option Separator) :
    Forward (separatorReader ordered used) := by
  refine .of_peek (.inl ⟨none, rfl⟩) fun t => ?_
  obtain ⟨token, span⟩ := t
  cases token with
  | comma =>
    by_cases hu : used = some .slash
    · exact .stop none fun ts => by simp [separatorReader, Parser.separator?, hu]
    · refine .take (fun ts => ?_) (.pure (some .comma))
      simp [separatorReader, Parser.separator?, hu]
  | slash =>
    by_cases hu : (ordered || used = some .comma) = true
    · exact .stop none fun ts => by simp only [separatorReader, Parser.separator?, hu]; rfl
    · refine .take (fun ts => ?_) (.pure (some .slash))
      simp only [separatorReader, Parser.separator?, hu]
      rfl
  | _ => exact .stop none fun _ => rfl

def entryReader (fuel : Nat) : Reader (Option Entry) := fun ts =>
  (Parser.entry? fuel ts).map fun found => found.elim (none, ts) fun x => (some x.1, x.2)

def listReader (fuel : Nat) (ordered : Bool) :
    Option Entry → Reader (Compositor × List Entry × Span)
  | none => fun ts => Parser.listEnd ordered none ts >>= fun x =>
      .ok ((Parser.compositorOf ordered none, [], x.1), x.2)
  | some first => fun ts => Parser.moreEntries fuel ordered none ts >>= fun x =>
      Parser.listEnd ordered x.1.1 x.2 >>= fun y =>
        .ok ((Parser.compositorOf ordered x.1.1, first :: x.1.2, y.1), y.2)

theorem list_succ_eq (fuel : Nat) (ordered : Bool) :
    Parser.list (fuel + 1) ordered =
      fun ts => entryReader fuel ts >>= fun x => listReader fuel ordered x.1 x.2 := by
  funext ts
  simp only [Parser.list, entryReader]
  cases Parser.entry? fuel ts with
  | error f => rfl
  | ok found => cases found <;> rfl

def furtherReader (fuel : Nat) (ordered : Bool) (separator : Separator) :
    Option Entry → Reader (Option Separator × List Entry)
  | none => fun ts => .error ⟨.listEntry, ts⟩
  | some e => fun ts => Parser.moreEntries fuel ordered (some separator) ts >>= fun x =>
      .ok ((x.1.1, e :: x.1.2), x.2)

def moreReader (fuel : Nat) (ordered : Bool) (used : Option Separator) :
    Option Separator → Reader (Option Separator × List Entry)
  | none => fun ts => .ok ((used, []), ts)
  | some separator => fun ts => entryReader fuel ts >>= fun x =>
      furtherReader fuel ordered separator x.1 x.2

theorem moreEntries_succ_eq (fuel : Nat) (ordered : Bool) (used : Option Separator) :
    Parser.moreEntries (fuel + 1) ordered used =
      fun ts => separatorReader ordered used ts >>= fun x =>
        moreReader fuel ordered used x.1 x.2 := by
  funext ts
  simp only [Parser.moreEntries, separatorReader, ok_bind]
  cases Parser.separator? ordered used ts with
  | none => rfl
  | some found =>
    simp only [Option.elim_some, moreReader, entryReader]
    cases Parser.entry? fuel found.2 with
    | error f => rfl
    | ok found => cases found <;> rfl

structure ListsForward (fuel : Nat) : Prop where
  entry : Forward (entryReader fuel)
  list (ordered : Bool) : Forward (Parser.list fuel ordered)
  more (ordered : Bool) (used : Option Separator) : Forward (Parser.moreEntries fuel ordered used)

theorem ListsForward.entry_succ {fuel : Nat} (h : ListsForward fuel) :
    Forward (entryReader (fuel + 1)) := by
  refine .of_peek (.inl ⟨none, rfl⟩) fun t => ?_
  obtain ⟨token, span⟩ := t
  cases token with
  | leftBracket =>
    refine .take (fun ts => ?_)
      ((h.list true).map fun x => some (.list x.1 x.2.1 (span.union x.2.2)))
    simp only [entryReader, Parser.entry?]
    cases Parser.list fuel true ts <;> rfl
  | leftBrace =>
    refine .take (fun ts => ?_)
      ((h.list false).map fun x => some (.list x.1 x.2.1 (span.union x.2.2)))
    simp only [entryReader, Parser.entry?]
    cases Parser.list fuel false ts <;> rfl
  | identifier name =>
    refine .take (fun ts => ?_) ((forward_item ⟨name, span⟩).map fun i => some (.item i))
    simp only [entryReader, Parser.entry?]
    cases Parser.item ⟨name, span⟩ ts <;> rfl
  | string s => exact .take (fun _ => by rfl) (.pure (some (.string ⟨s, span⟩)))
  | integer n => exact .take (fun _ => by rfl) (.pure (some (.integer ⟨n, span⟩)))
  | anyText => exact .take (fun _ => by rfl) (.pure (some (.anyText span)))
  | _ => exact .stop none fun _ => rfl

theorem ListsForward.list_succ {fuel : Nat} (h : ListsForward fuel) (ordered : Bool) :
    Forward (Parser.list (fuel + 1) ordered) := by
  rw [list_succ_eq]
  refine h.entry.bind fun first => ?_
  cases first with
  | none =>
    exact ((forward_listEnd ordered none).map fun right =>
      (Parser.compositorOf ordered none, ([] : List Entry), right) :)
  | some first =>
    exact ((h.more ordered none).bind fun others => (forward_listEnd ordered others.1).map
      fun right => (Parser.compositorOf ordered others.1, first :: others.2, right) :)

theorem ListsForward.more_succ {fuel : Nat} (h : ListsForward fuel) (ordered : Bool)
    (used : Option Separator) : Forward (Parser.moreEntries (fuel + 1) ordered used) := by
  rw [moreEntries_succ_eq]
  refine (forward_separator ordered used).bind fun separator => ?_
  cases separator with
  | none => exact .pure _
  | some separator =>
    refine h.entry.bind (s := furtherReader fuel ordered separator) fun first => ?_
    cases first with
    | none => exact .fail .listEntry
    | some first =>
      exact ((h.more ordered (some separator)).map fun others => (others.1, first :: others.2) :)

theorem lists_forward (fuel : Nat) : ListsForward fuel := by
  induction fuel with
  | zero => exact ⟨.pure none, fun _ => .fail _, fun _ used => .pure (used, [])⟩
  | succ fuel ih => exact ⟨ih.entry_succ, ih.list_succ, ih.more_succ⟩

/-- Nested lists need fuel for two calls a token, and a list one call more. -/
structure ListsSettled (fuel : Nat) : Prop where
  entry {ts : Tokens} : 2 * ts.length ≤ fuel →
    Parser.entry? (fuel + 1) ts = Parser.entry? fuel ts
  list {ordered : Bool} {ts : Tokens} : 2 * ts.length + 1 ≤ fuel →
    Parser.list (fuel + 1) ordered ts = Parser.list fuel ordered ts
  more {ordered : Bool} {used : Option Separator} {ts : Tokens} : 2 * ts.length ≤ fuel →
    Parser.moreEntries (fuel + 1) ordered used ts = Parser.moreEntries fuel ordered used ts

theorem ListsSettled.entry_succ {fuel : Nat} (h : ListsSettled fuel) {ts : Tokens}
    (hf : 2 * ts.length ≤ fuel + 1) :
    Parser.entry? (fuel + 2) ts = Parser.entry? (fuel + 1) ts := by
  cases ts with
  | nil => rfl
  | cons t ts =>
    simp only [List.length_cons] at hf
    obtain ⟨token, span⟩ := t
    cases token with
    | leftBracket =>
      simp only [Parser.entry?]
      rw [h.list (by omega)]
    | leftBrace =>
      simp only [Parser.entry?]
      rw [h.list (by omega)]
    | _ => rfl

theorem ListsSettled.list_succ {fuel : Nat} (h : ListsSettled fuel) {ordered : Bool} {ts : Tokens}
    (hf : 2 * ts.length + 1 ≤ fuel + 1) :
    Parser.list (fuel + 2) ordered ts = Parser.list (fuel + 1) ordered ts := by
  simp only [Parser.list, h.entry (show 2 * ts.length ≤ fuel by omega)]
  cases he : Parser.entry? fuel ts with
  | error f => rfl
  | ok found =>
    cases found with
    | none => rfl
    | some found =>
      obtain ⟨used, rfl, -⟩ := (lists_sound fuel).entry he
      simp only [List.length_append] at hf
      simp only [ok_bind, h.more (show 2 * found.2.length ≤ fuel by omega)]

theorem ListsSettled.more_succ {fuel : Nat} (h : ListsSettled fuel) {ordered : Bool}
    {used : Option Separator} {ts : Tokens} (hf : 2 * ts.length ≤ fuel + 1) :
    Parser.moreEntries (fuel + 2) ordered used ts =
      Parser.moreEntries (fuel + 1) ordered used ts := by
  rw [Parser.moreEntries, Parser.moreEntries]
  cases hs : Parser.separator? ordered used ts with
  | none => rfl
  | some found =>
    obtain ⟨separator, ts⟩ := found
    obtain ⟨⟨s, rfl⟩, -, -⟩ := separator?_sound hs
    simp only [List.length_cons] at hf
    simp only [h.entry (show 2 * ts.length ≤ fuel by omega)]
    cases he : Parser.entry? fuel ts with
    | error f => rfl
    | ok found =>
      cases found with
      | none => rfl
      | some found =>
        obtain ⟨used, rfl, -⟩ := (lists_sound fuel).entry he
        simp only [List.length_append] at hf
        simp only [ok_bind, h.more (show 2 * found.2.length ≤ fuel by omega)]

theorem lists_settled (fuel : Nat) : ListsSettled fuel := by
  induction fuel with
  | zero =>
    refine ⟨fun {ts} hf => ?_, fun hf => ?_, fun {_ _ ts} hf => ?_⟩
    · obtain rfl : ts = [] := List.eq_nil_of_length_eq_zero (by omega)
      rfl
    · omega
    · obtain rfl : ts = [] := List.eq_nil_of_length_eq_zero (by omega)
      rfl
  | succ fuel ih => exact ⟨ih.entry_succ, ih.list_succ, ih.more_succ⟩

theorem forward_listValue (ordered : Bool) (left : Span) :
    Forward (Parser.listValue ordered left) := by
  have hf : Forward fun ts => Parser.list (Parser.listFuel ts) ordered ts :=
    .of_fuel (r := fun n => Parser.list n ordered) (fun n => (lists_forward n).list ordered)
      fun ts n hn => eq_of_settled (r := fun n => Parser.list n ordered ts)
        (fun m hm => (lists_settled m).list (by simp only [Parser.listFuel] at hm; omega)) hn
  exact (hf.map fun x => Value.list x.1 x.2.1 (left.union x.2.2) :)

theorem forward_propertyValue : Forward Parser.propertyValue := by
  refine .of_peek (.inr ⟨_, rfl⟩) fun t => ?_
  obtain ⟨token, span⟩ := t
  cases token with
  | anyText => exact .take (fun _ => by rfl) (.pure (.anyText span))
  | leftBracket => exact .take (fun _ => rfl) (forward_listValue true span)
  | leftBrace => exact .take (fun _ => rfl) (forward_listValue false span)
  | identifier name =>
    exact .take (fun _ => by rfl) ((forward_item ⟨name, span⟩).map Value.item)
  | string s => exact .take (fun _ => by rfl) (.pure (.string ⟨s, span⟩))
  | pattern p => exact .take (fun _ => by rfl) (.pure (.pattern ⟨p, span⟩))
  | integer n => exact .take (fun _ => by rfl) (.pure (.integer ⟨n, span⟩))
  | _ => exact .fail .propertyValue fun _ => rfl

theorem forward_expect (token : Token) (expected : Expected) :
    Forward (Parser.expect token expected) := by
  refine .of_peek (.inr ⟨expected, rfl⟩) fun t => ?_
  by_cases ht : t.value = token
  · exact .take (fun ts => by simp [Parser.expect, ht]) (.pure t.span)
  · exact .fail expected fun ts => by simp [Parser.expect, ht]

theorem forward_property (name : Located String) : Forward (Parser.property name) :=
  ((forward_expect .colon .colon).bind fun _ => forward_propertyValue.bind fun v =>
    (forward_expect .semicolon .semicolon).map fun _ => (⟨name, v⟩ : Property) :)

theorem forward_properties (fuel : Nat) : Forward (Parser.properties fuel) := by
  induction fuel with
  | zero => exact .pure []
  | succ fuel ih =>
    refine .of_peek (.inl ⟨[], rfl⟩) fun t => ?_
    obtain ⟨token, span⟩ := t
    cases token with
    | identifier name =>
      exact .take (fun _ => by rfl)
        ((forward_property ⟨name, span⟩).bind fun p => ih.map fun ps => p :: ps)
    | _ => exact .stop [] fun _ => rfl

theorem properties_settled {fuel : Nat} {ts : Tokens} (hf : ts.length ≤ fuel) :
    Parser.properties (fuel + 1) ts = Parser.properties fuel ts := by
  induction fuel generalizing ts with
  | zero =>
    obtain rfl : ts = [] := List.eq_nil_of_length_eq_zero (by omega)
    rfl
  | succ fuel ih =>
    cases ts with
    | nil => rfl
    | cons t ts =>
      simp only [List.length_cons] at hf
      obtain ⟨token, span⟩ := t
      cases token with
      | identifier name =>
        rw [Parser.properties, Parser.properties]
        cases hp : Parser.property ⟨name, span⟩ ts with
        | error f => rfl
        | ok found =>
          obtain ⟨used, rfl, -⟩ := property_sound hp
          simp only [List.length_append] at hf
          simp only [ok_bind, ih (show found.2.length ≤ fuel by omega)]
      | _ => rfl

theorem forward_structureName : Forward Parser.structureName := by
  refine .of_peek (.inr ⟨_, rfl⟩) fun t => ?_
  obtain ⟨token, span⟩ := t
  cases token with
  | identifier name => exact .take (fun _ => by rfl) (.pure ⟨name, span⟩)
  | _ => exact .fail .structureName fun _ => rfl

theorem forward_declarationBody (root : Option Span) (kind : Located Kind) :
    Forward (Parser.declarationBody root kind) := by
  have hp : Forward fun ts => Parser.properties ts.length ts :=
    .of_fuel forward_properties fun ts n hn =>
      eq_of_settled (r := fun n => Parser.properties n ts) (fun m hm => properties_settled hm) hn
  exact (forward_structureName.bind fun name =>
    (forward_expect .leftBrace .leftBrace).bind fun opening => hp.bind fun ps =>
      (forward_expect .rightBrace .propertyOrEnd).map fun closing =>
        (⟨root, kind, name, opening, ps, (root.getD kind.span).union closing⟩ : Declaration) :)

def fileReader (fuel : Nat) : Reader (List Declaration) := fun ts =>
  bimapResult (fun e => ⟨e.expected, e.rest⟩) (fun ds => (ds, [])) (Parser.declarations fuel ts)

def bodyReader (fuel : Nat) (root : Option Span) (kind : Located Kind) :
    Reader (List Declaration) := fun ts =>
  Parser.declarationBody root kind ts >>= fun x => fileReader fuel x.2 >>= fun y =>
    .ok (x.1 :: y.1, y.2)

theorem bodyReader_eq (fuel : Nat) (root : Option Span) (kind : Located Kind) (ts : Tokens) :
    bodyReader fuel root kind ts =
      bimapResult (fun e => ⟨e.expected, e.rest⟩) (fun ds => (ds, []))
        (Parser.body root kind ts >>= fun x => Parser.declarations fuel x.2 >>= fun ds =>
          .ok (x.1 :: ds)) := by
  unfold bodyReader Parser.body
  cases Parser.declarationBody root kind ts with
  | error f => rfl
  | ok found =>
    simp only [ok_bind, fileReader]
    cases Parser.declarations fuel found.2 <;> rfl

theorem forward_file_fuel (fuel : Nat) : Forward (fileReader fuel) := by
  induction fuel with
  | zero => exact .of_peek (.inl ⟨[], rfl⟩) fun t => .fail .declaration fun _ => rfl
  | succ fuel ih =>
    have body (root : Option Span) (kind : Located Kind) : Forward (bodyReader fuel root kind) :=
      (forward_declarationBody root kind).bind fun d => ih.map fun ds => d :: ds
    refine .of_peek (.inl ⟨[], rfl⟩) fun t => ?_
    obtain ⟨token, span⟩ := t
    cases token with
    | root =>
      refine .take (fun _ => rfl) (.of_peek (.inr ⟨.rootKind, rfl⟩) fun t => ?_)
      obtain ⟨token, span'⟩ := t
      cases token with
      | kind k =>
        by_cases hk : Parser.takesRoot k
        · refine .take (fun ts => ?_) (body (some span) ⟨k, span'⟩)
          rw [bodyReader_eq]
          simp only [fileReader, Parser.declarations, hk, if_true, pure_eq_ok]
        · refine .fail .rootKind fun ts => ?_
          simp [fileReader, Parser.declarations, hk, bimapResult]
      | _ => exact .fail .rootKind fun _ => rfl
    | kind k =>
      refine .take (fun ts => ?_) (body none ⟨k, span⟩)
      rw [bodyReader_eq]
      rfl
    | _ => exact .fail .declaration fun _ => rfl

theorem body_settled {fuel : Nat} {root : Option Span} {kind : Located Kind} {ts : Tokens}
    (h : ∀ {ts : Tokens}, ts.length ≤ fuel →
      Parser.declarations (fuel + 1) ts = Parser.declarations fuel ts) (hf : ts.length ≤ fuel) :
    (Parser.body root kind ts >>= fun x => Parser.declarations (fuel + 1) x.2 >>= fun ds =>
        Except.ok (x.1 :: ds)) =
      Parser.body root kind ts >>= fun x => Parser.declarations fuel x.2 >>= fun ds =>
        .ok (x.1 :: ds) := by
  cases hb : Parser.body root kind ts with
  | error e => rfl
  | ok found =>
    obtain ⟨d, rest⟩ := found
    have hl := ((forward_declarationBody root kind).ok_suffix (body_eq_ok.mp hb)).length_le
    simp only [ok_bind, h (hl.trans hf)]

theorem declarations_settled {fuel : Nat} {ts : Tokens} (hf : ts.length ≤ fuel) :
    Parser.declarations (fuel + 1) ts = Parser.declarations fuel ts := by
  induction fuel generalizing ts with
  | zero =>
    obtain rfl : ts = [] := List.eq_nil_of_length_eq_zero (by omega)
    rfl
  | succ fuel ih =>
    cases ts with
    | nil => rfl
    | cons t ts =>
      obtain ⟨token, span⟩ := t
      simp only [List.length_cons] at hf
      cases token with
      | root =>
        cases ts with
        | nil => rfl
        | cons t ts =>
          obtain ⟨token, span'⟩ := t
          simp only [List.length_cons] at hf
          cases token with
          | kind k =>
            rw [Parser.declarations, Parser.declarations]
            split_ifs
            · exact body_settled ih (by omega)
            · rfl
          | _ => rfl
      | kind k =>
        rw [Parser.declarations, Parser.declarations]
        exact body_settled ih (by omega)
      | _ => rfl

theorem forward_file : Forward fun ts => fileReader ts.length ts :=
  .of_fuel forward_file_fuel fun ts n hn =>
    eq_of_settled (r := fun n => fileReader n ts)
      (fun m hm => by simp only [fileReader, declarations_settled hm]) hn

/-- A token that is refused outside of quantifiers is refused whatever follows it. -/
theorem parseDeclarations_refuses {before rest : Tokens} {t : Located Token} {e : SyntaxError}
    (h : parseDeclarations (before ++ t :: rest) = .error e) (hr : e.rest = t :: rest)
    (he : ¬InQuantifier e.expected) (more : Tokens) (ds : List Declaration) :
    parseDeclarations (before ++ t :: more) ≠ .ok ds := by
  intro hok
  have hf : fileReader (before ++ t :: rest).length (before ++ t :: rest) =
      .error ⟨e.expected, t :: rest⟩ := by
    rw [fileReader, ← parseDeclarations, h, ← hr]
    rfl
  have hf' := forward_file.error_swap more he hf
  rw [fileReader, ← parseDeclarations, hok] at hf'
  cases hf'

/-- The tokens before the place of a syntax error can be completed to declarations. An error at the
end of the input is told apart by its code. Any other names a token, and, outside of a quantifier
that is still open, no declarations begin with the tokens up to this one. -/
theorem parseDeclarations_first_error (ts : Tokens) (e : SyntaxError)
    (h : parseDeclarations ts = .error e) :
    ∃ before, ts = before ++ e.rest ∧
      (∃ more ds, parseDeclarations (before ++ more) = .ok ds) ∧
      ((e.diagnostic ts).code = some .incompleteInput ↔ e.rest = []) ∧
      ∀ t rest, e.rest = t :: rest →
        (e.diagnostic ts).code = some .unexpectedToken ∧
        (e.diagnostic ts).primarySpan = some t.span ∧
        (¬OpenQuantifier before → ∀ more ds, parseDeclarations (before ++ t :: more) ≠ .ok ds) := by
  obtain ⟨before, more, hts, ⟨ds, hd⟩, hq⟩ := declarations_stop h
  refine ⟨before, hts, ⟨more, ds, parseDeclarations_eq_ok_iff.mpr hd⟩, ?_, fun t rest hr => ?_⟩
  · cases hr : e.rest <;> simp [SyntaxError.diagnostic, SyntaxError.code, Diagnostic.error, hr]
  · refine ⟨?_, ?_, fun ho more => ?_⟩
    · simp [SyntaxError.diagnostic, SyntaxError.code, Diagnostic.error, hr]
    · simp [SyntaxError.diagnostic, Diagnostic.primarySpan, Diagnostic.error, Label.main, hr]
    · have hts : ts = before ++ t :: rest := by rw [hts, hr]
      rw [hts] at h
      exact parseDeclarations_refuses h hr (fun he => ho (hq he)) more

/-- `element a { x: [b / c` -/
def slashInBrackets : Tokens :=
  [⟨.kind .element, ⟨0, 7⟩⟩, ⟨.identifier "a", ⟨8, 9⟩⟩, ⟨.leftBrace, ⟨10, 11⟩⟩,
   ⟨.identifier "x", ⟨12, 13⟩⟩, ⟨.colon, ⟨13, 14⟩⟩, ⟨.leftBracket, ⟨15, 16⟩⟩,
   ⟨.identifier "b", ⟨16, 17⟩⟩, ⟨.slash, ⟨18, 19⟩⟩, ⟨.identifier "c", ⟨20, 21⟩⟩]

theorem parseDeclarations_first_error_slash :
    parseDeclarations slashInBrackets =
        .error ⟨.sequenceEnd, slashInBrackets.drop 7, some ⟨.identifier "a", ⟨8, 9⟩⟩⟩ ∧
      (∃ more ds, parseDeclarations (slashInBrackets.take 7 ++ more) = .ok ds) ∧
      ∀ more ds, parseDeclarations (slashInBrackets.take 8 ++ more) ≠ .ok ds := by
  have h : parseDeclarations slashInBrackets =
      .error ⟨.sequenceEnd, slashInBrackets.drop 7, some ⟨.identifier "a", ⟨8, 9⟩⟩⟩ := rfl
  obtain ⟨before, hts, hv, -, hr⟩ := parseDeclarations_first_error _ _ h
  obtain rfl : slashInBrackets.take 7 = before := by
    rw [← List.take_append_drop 7 slashInBrackets] at hts
    exact List.append_cancel_right hts
  refine ⟨h, hv, fun more => (hr _ _ rfl).2.2 ?_ more⟩
  rintro ⟨outer, s, inner, ho, -⟩
  have hmem : (⟨.leftParen, s⟩ : Located Token) ∈ slashInBrackets.take 7 := by simp [ho]
  simp [slashInBrackets] at hmem

end DocSchema.Grammar
