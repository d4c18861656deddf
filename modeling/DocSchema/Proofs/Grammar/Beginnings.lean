import DocSchema.Proofs.Grammar.Parser

/-!
# What was read before a failure

A reader that fails has taken a beginning of what its nonterminal derives: some tokens complete it.
A quantifier or its closing parenthesis is missed only behind a parenthesis that is still open.
-/
namespace DocSchema.Grammar

variable {ts rest : Tokens} {f : Parser.Failure}

/-- An opening parenthesis stands in the list, and no closing one behind it. -/
def OpenQuantifier (ts : Tokens) : Prop :=
  ∃ outer s inner, ts = outer ++ ⟨.leftParen, s⟩ :: inner ∧ ∀ t ∈ inner, t.value ≠ .rightParen

theorem OpenQuantifier.append_left (outer : Tokens) (h : OpenQuantifier ts) :
    OpenQuantifier (outer ++ ts) := by
  obtain ⟨outer', s, inner, rfl, hi⟩ := h
  exact ⟨outer ++ outer', s, inner, by simp, hi⟩

def InQuantifier (e : Expected) : Prop := e = .quantifier ∨ e = .rightParen

/-- The failure stands behind a beginning of a member of `L`. -/
def StopsIn (L : Tokens → Prop) (ts : Tokens) (f : Parser.Failure) : Prop :=
  ∃ used more, ts = used ++ f.rest ∧ L (used ++ more) ∧
    (InQuantifier f.expected → OpenQuantifier used)

namespace StopsIn

variable {L M : Tokens → Prop}

theorem here {e : Expected} {more : Tokens} (hm : L more) (he : ¬InQuantifier e) (ts : Tokens) :
    StopsIn L ts ⟨e, ts⟩ :=
  ⟨[], more, rfl, hm, fun h => absurd h he⟩

/-- A failure in a part stands behind a beginning of the whole, where every part can be completed
to a whole. -/
theorem behind (used : Tokens) (h : StopsIn L ts f)
    (hm : ∀ part, L part → ∃ more, M (used ++ (part ++ more))) : StopsIn M (used ++ ts) f := by
  obtain ⟨part, more, rfl, hl, hq⟩ := h
  obtain ⟨more', hw⟩ := hm _ hl
  exact ⟨used ++ part, more ++ more', by simp, by simpa using hw, fun he =>
    (hq he).append_left used⟩

end StopsIn

def anywhere : Span := .point 0

theorem DerivesQuantifier.no_rightParen {q : Quantifier} (h : DerivesQuantifier ts q) :
    ∀ t ∈ ts, t.value ≠ .rightParen := by
  cases h <;> simp

theorem item_stops {name : Located String} (h : Parser.item name ts = .error f) :
    StopsIn (fun w => ∃ i, DerivesItem (⟨.identifier name.value, name.span⟩ :: w) i) ts f := by
  simp only [Parser.item, bind_eq_error, pure_eq_ok, reduceCtorEq, and_false, exists_false,
    or_false] at h
  unfold Parser.quantifierGroup at h
  split at h
  · rename_i left ts
    split at h
    · cases h
      refine ⟨[⟨.leftParen, left⟩], [⟨.identifier "optional", anywhere⟩, ⟨.rightParen, anywhere⟩],
        rfl, ⟨_, .quantified name.value name.span left anywhere (.optional anywhere)⟩, fun _ => ?_⟩
      exact ⟨[], left, [], rfl, by simp⟩
    · cases h
    · rename_i q ts' _ hq
      cases h
      obtain ⟨used, rfl, hd⟩ := quantifier?_sound hq
      refine ⟨⟨.leftParen, left⟩ :: used, [⟨.rightParen, anywhere⟩], rfl,
        ⟨_, .quantified name.value name.span left anywhere hd⟩, fun _ => ?_⟩
      exact ⟨[], left, used, rfl, hd.no_rightParen⟩
  · cases h

theorem listEnd_error {ordered : Bool} {used : Option Separator}
    (h : Parser.listEnd ordered used ts = .error f) : f.rest = ts ∧ ¬InQuantifier f.expected := by
  unfold Parser.listEnd at h
  split at h <;> split_ifs at h <;> cases h <;> simp [InQuantifier]

def ListTail (ordered : Bool) (ts : Tokens) : Prop :=
  ∃ c es right, ∀ left, DerivesList (⟨opening ordered, left⟩ :: ts) c es (left.union right)

theorem listTail_empty (ordered : Bool) : ListTail ordered [⟨closing ordered, anywhere⟩] := by
  cases ordered with
  | true => exact ⟨_, _, anywhere, fun left => .sequence left anywhere .none⟩
  | false => exact ⟨_, _, anywhere, fun left => .unordered left anywhere .none⟩

theorem listTail_of_continues {ordered : Bool} {used : Option Separator} {ts ts' : Tokens}
    {e : Entry} {es : List Entry} (first : DerivesEntry ts e)
    (others : Continues ordered none used ts' es) :
    ListTail ordered (ts ++ (ts' ++ [⟨closing ordered, anywhere⟩])) := by
  refine ⟨Parser.compositorOf ordered used, e :: es, anywhere, fun left => ?_⟩
  rw [← List.append_assoc]
  exact .of_continues first others

/-- Where the three readers of nested lists fail with some fuel, they have read a beginning. -/
structure ListsStop (fuel : Nat) : Prop where
  entry {ts : Tokens} {f : Parser.Failure} : Parser.entry? fuel ts = .error f →
    StopsIn (fun w => ∃ e, DerivesEntry w e) ts f
  list {ordered : Bool} {ts : Tokens} {f : Parser.Failure} :
    Parser.list fuel ordered ts = .error f → StopsIn (ListTail ordered) ts f
  more {ordered : Bool} {before : Option Separator} {ts : Tokens} {f : Parser.Failure} :
    Parser.moreEntries fuel ordered before ts = .error f →
      StopsIn (fun w => ∃ after es, Continues ordered before after w es) ts f

theorem ListsStop.entry_succ {fuel : Nat} (h : ListsStop fuel)
    (he : Parser.entry? (fuel + 1) ts = .error f) :
    StopsIn (fun w => ∃ e, DerivesEntry w e) ts f := by
  have nested {ordered : Bool} {left : Span} {ts : Tokens}
      (hl : Parser.list fuel ordered ts = .error f) :
      StopsIn (fun w => ∃ e, DerivesEntry w e) (⟨opening ordered, left⟩ :: ts) f := by
    refine (h.list hl).behind [_] fun part hp => ⟨[], ?_⟩
    obtain ⟨c, es, right, hd⟩ := hp
    exact ⟨_, by simpa using .list (hd left)⟩
  simp only [Parser.entry?] at he
  split at he
  all_goals
    simp only [bind_eq_error, pure_eq_ok, reduceCtorEq, and_false, exists_false, or_false] at he
  · exact nested he
  · exact nested he
  · rename_i name s ts
    refine (item_stops he).behind [_] fun part hp => ⟨[], ?_⟩
    obtain ⟨i, hi⟩ := hp
    exact ⟨_, by simpa using .item hi⟩

theorem ListsStop.list_succ {fuel : Nat} (h : ListsStop fuel) {ordered : Bool}
    (hl : Parser.list (fuel + 1) ordered ts = .error f) : StopsIn (ListTail ordered) ts f := by
  simp only [Parser.list, bind_eq_error] at hl
  obtain he | ⟨found, he, hl⟩ := hl
  · refine (h.entry he).behind [] fun part hp => ⟨[⟨closing ordered, anywhere⟩], ?_⟩
    obtain ⟨e, hd⟩ := hp
    have hc : Continues ordered none none [] [] := .inl ⟨rfl, rfl, rfl⟩
    exact (listTail_of_continues hd hc :)
  cases found with
  | none =>
    simp only [bind_eq_error, pure_eq_ok, reduceCtorEq, and_false, exists_false, or_false] at hl
    obtain ⟨rfl, hq⟩ := listEnd_error hl
    exact .here (listTail_empty ordered) hq _
  | some found =>
    obtain ⟨first, ts₁⟩ := found
    obtain ⟨u₁, rfl, hd₁⟩ := (lists_sound fuel).entry he
    simp only [bind_eq_error, pure_eq_ok, reduceCtorEq, and_false, exists_false, or_false] at hl
    obtain hm | ⟨⟨⟨used, others⟩, ts₂⟩, hm, hr⟩ := hl
    · refine (h.more hm).behind u₁ fun part hp => ⟨[⟨closing ordered, anywhere⟩], ?_⟩
      obtain ⟨after, es, hc⟩ := hp
      exact listTail_of_continues hd₁ hc
    · obtain ⟨u₂, rfl, hd₂⟩ := (lists_sound fuel).more hm
      obtain ⟨hrest, hq⟩ := listEnd_error hr
      refine ⟨u₁ ++ u₂, [⟨closing ordered, anywhere⟩], by simp [hrest], ?_, fun h => absurd h hq⟩
      simpa using listTail_of_continues hd₁ hd₂

theorem ListsStop.more_succ {fuel : Nat} (h : ListsStop fuel) {ordered : Bool}
    {before : Option Separator} (hm : Parser.moreEntries (fuel + 1) ordered before ts = .error f) :
    StopsIn (fun w => ∃ after es, Continues ordered before after w es) ts f := by
  simp only [Parser.moreEntries] at hm
  split at hm
  · cases hm
  rename_i separator ts₁ hs
  obtain ⟨⟨s, rfl⟩, hb, ho⟩ := separator?_sound hs
  -- one entry more is enough behind the separator
  have single {part : Tokens} {e : Entry} (hd : DerivesEntry part e) :
      ∃ after es, Continues ordered before after (⟨separatorToken separator, s⟩ :: part) es :=
    ⟨some separator, [e], by simpa using Continues.cons hb ho s hd (.inl ⟨rfl, rfl, rfl⟩)⟩
  simp only [bind_eq_error] at hm
  obtain he | ⟨found, he, hm⟩ := hm
  · refine (h.entry he).behind [_] fun part hp => ⟨[], ?_⟩
    obtain ⟨e, hd⟩ := hp
    simpa using single hd
  cases found with
  | none =>
    cases hm
    exact ⟨[_], [⟨.integer 0, anywhere⟩], rfl, single (.integer 0 anywhere), by simp [InQuantifier]⟩
  | some found =>
    obtain ⟨e, ts₂⟩ := found
    simp only [bind_eq_error, pure_eq_ok, reduceCtorEq, and_false, exists_false, or_false] at hm
    obtain ⟨u₁, rfl, hd₁⟩ := (lists_sound fuel).entry he
    refine (h.more hm).behind (⟨separatorToken separator, s⟩ :: u₁) fun part hp => ⟨[], ?_⟩
    obtain ⟨after, es, hc⟩ := hp
    exact ⟨after, e :: es, by simpa using Continues.cons hb ho s hd₁ hc⟩

theorem lists_stop (fuel : Nat) : ListsStop fuel := by
  induction fuel with
  | zero =>
    refine ⟨fun h => ?_, fun h => ?_, fun h => ?_⟩
    · cases h
    · rename_i ordered ts f
      cases h
      exact .here (listTail_empty ordered) (by split <;> simp [InQuantifier]) ts
    · cases h
  | succ fuel ih => exact ⟨ih.entry_succ, ih.list_succ, ih.more_succ⟩

theorem propertyValue_stops (h : Parser.propertyValue ts = .error f) :
    StopsIn (fun w => ∃ v, DerivesValue w v) ts f := by
  have list {ordered : Bool} {left : Span} {ts : Tokens}
      (h : Parser.listValue ordered left ts = .error f) :
      StopsIn (fun w => ∃ v, DerivesValue w v) (⟨opening ordered, left⟩ :: ts) f := by
    simp only [Parser.listValue, bind_eq_error, pure_eq_ok, reduceCtorEq, and_false, exists_false,
      or_false] at h
    refine ((lists_stop _).list h).behind [_] fun part hp => ⟨[], ?_⟩
    obtain ⟨c, es, right, hd⟩ := hp
    exact ⟨_, by simpa using .list (hd left)⟩
  unfold Parser.propertyValue at h
  split at h
  · cases h
  · exact list h
  · exact list h
  · simp only [bind_eq_error, pure_eq_ok, reduceCtorEq, and_false, exists_false, or_false] at h
    refine (item_stops h).behind [_] fun part hp => ⟨[], ?_⟩
    obtain ⟨i, hi⟩ := hp
    exact ⟨_, by simpa using .item hi⟩
  · cases h
  · cases h
  · cases h
  · cases h
    exact .here ⟨_, .integer 0 anywhere⟩ (by simp [InQuantifier]) ts

theorem expect_error {token : Token} {expected : Expected}
    (h : Parser.expect token expected ts = .error f) : f = ⟨expected, ts⟩ := by
  cases ts with
  | nil =>
    cases h
    rfl
  | cons t ts =>
    simp only [Parser.expect] at h
    split_ifs at h
    cases h
    rfl

theorem property_stops {name : Located String} (h : Parser.property name ts = .error f) :
    StopsIn (fun w => ∃ p, DerivesProperty (⟨.identifier name.value, name.span⟩ :: w) p) ts f := by
  have whole (colon : Span) {part : Tokens} {v : Value} (hv : DerivesValue part v) :
      ∃ p, DerivesProperty (⟨.identifier name.value, name.span⟩ :: ⟨.colon, colon⟩ :: part ++
        [⟨.semicolon, anywhere⟩]) p :=
    ⟨_, .mk name.value name.span colon anywhere hv⟩
  simp only [Parser.property, bind_eq_error, pure_eq_ok, reduceCtorEq, and_false, exists_false,
    or_false] at h
  obtain hc | ⟨⟨colon, ts₁⟩, hc, hv | ⟨⟨v, ts₂⟩, hv, hs⟩⟩ := h
  · obtain rfl := expect_error hc
    exact .here (whole anywhere (.integer 0 anywhere)) (by simp [InQuantifier]) ts
  · obtain rfl : ts = _ := expect_sound hc
    refine (propertyValue_stops hv).behind [_] fun part hp => ⟨[⟨.semicolon, anywhere⟩], ?_⟩
    obtain ⟨v, hd⟩ := hp
    exact whole colon hd
  · obtain rfl : ts = _ := expect_sound hc
    obtain ⟨used, rfl, hd⟩ := propertyValue_sound hv
    obtain rfl := expect_error hs
    exact ⟨⟨.colon, colon⟩ :: used, [⟨.semicolon, anywhere⟩], rfl, whole colon hd,
      by simp [InQuantifier]⟩

theorem properties_stop {fuel : Nat} (h : Parser.properties fuel ts = .error f) :
    StopsIn (fun w => ∃ ps, DerivesProperties w ps) ts f := by
  induction fuel generalizing ts with
  | zero => cases h
  | succ fuel ih =>
    simp only [Parser.properties] at h
    split at h
    · simp only [bind_eq_error, pure_eq_ok, reduceCtorEq, and_false, exists_false, or_false] at h
      obtain hp | ⟨⟨p, ts₁⟩, hp, hps⟩ := h
      · refine (property_stops hp).behind [_] fun part hd => ⟨[], ?_⟩
        obtain ⟨p, hd⟩ := hd
        exact ⟨[p], by simpa using DerivesProperties.cons hd .nil⟩
      · obtain ⟨used, rfl, hd⟩ := property_sound hp
        refine (ih hps).behind (_ :: used) fun part hds => ⟨[], ?_⟩
        obtain ⟨ps, hds⟩ := hds
        exact ⟨p :: ps, by simpa using DerivesProperties.cons hd hds⟩
    · cases h

def IsBody (ts : Tokens) : Prop :=
  ∃ name ns left right inner ps, ts = ⟨.identifier name, ns⟩ :: ⟨.leftBrace, left⟩ :: inner ++
    [⟨.rightBrace, right⟩] ∧ DerivesProperties inner ps

def emptyBody : Tokens :=
  [⟨.identifier "a", anywhere⟩, ⟨.leftBrace, anywhere⟩, ⟨.rightBrace, anywhere⟩]

theorem isBody_empty : IsBody emptyBody :=
  ⟨"a", anywhere, anywhere, anywhere, [], [], rfl, .nil⟩

theorem declarationBody_stops {root : Option Span} {kind : Located Kind}
    (h : Parser.declarationBody root kind ts = .error f) : StopsIn IsBody ts f := by
  have whole (name : String) (ns left : Span) {inner : Tokens} {ps : List Property}
      (hd : DerivesProperties inner ps) : IsBody (⟨.identifier name, ns⟩ :: ⟨.leftBrace, left⟩ ::
        inner ++ [⟨.rightBrace, anywhere⟩]) :=
    ⟨name, ns, left, anywhere, inner, ps, rfl, hd⟩
  simp only [Parser.declarationBody, bind_eq_error, pure_eq_ok, reduceCtorEq, and_false,
    exists_false, or_false] at h
  obtain hn | ⟨⟨name, ts₁⟩, hn, h⟩ := h
  · unfold Parser.structureName at hn
    split at hn
    · cases hn
    · cases hn
      exact .here isBody_empty (by simp [InQuantifier]) ts
  unfold Parser.structureName at hn
  split at hn
  · rename_i name ns ts
    cases hn
    obtain hl | ⟨⟨left, ts₂⟩, hl, hp | ⟨⟨ps, ts₃⟩, hp, hr⟩⟩ := h
    · obtain rfl := expect_error hl
      exact ⟨[_], _, rfl, whole name ns anywhere .nil, by simp [InQuantifier]⟩
    · obtain rfl : ts₁ = _ := expect_sound hl
      refine (properties_stop hp).behind [_, _] fun part hd => ⟨[⟨.rightBrace, anywhere⟩], ?_⟩
      obtain ⟨ps, hd⟩ := hd
      exact whole name ns left hd
    · obtain rfl : ts₁ = _ := expect_sound hl
      obtain ⟨inner, rfl, hd⟩ := properties_sound hp
      obtain rfl := expect_error hr
      exact ⟨_ :: _ :: inner, [⟨.rightBrace, anywhere⟩], rfl, whole name ns left hd,
        by simp [InQuantifier]⟩
  · cases hn

theorem body_eq_error {root : Option Span} {kind : Located Kind} {e : SyntaxError}
    (h : Parser.body root kind ts = .error e) :
    Parser.declarationBody root kind ts = .error ⟨e.expected, e.rest⟩ := by
  unfold Parser.body at h
  split at h
  · cases h
  · rename_i f hf
    cases h
    exact hf

theorem IsBody.exists_plain (k : Kind) (ks : Span) (h : IsBody ts) :
    ∃ d, DerivesDeclaration (⟨.kind k, ks⟩ :: ts) d := by
  obtain ⟨name, ns, left, right, inner, ps, rfl, hd⟩ := h
  exact ⟨_, .plain k name ks ns left right hd⟩

theorem IsBody.exists_root {k : Kind} (hk : k = .element ∨ k = .object) (rs ks : Span)
    (h : IsBody ts) : ∃ d, DerivesDeclaration (⟨.root, rs⟩ :: ⟨.kind k, ks⟩ :: ts) d := by
  obtain ⟨name, ns, left, right, inner, ps, rfl, hd⟩ := h
  exact ⟨_, .root k name rs ks ns left right hk hd⟩

theorem StopsIn.first_declaration (used : Tokens) (h : StopsIn IsBody ts f)
    (hd : ∀ part, IsBody part → ∃ d, DerivesDeclaration (used ++ part) d) :
    StopsIn (fun w => ∃ ds, DerivesFile w ds) (used ++ ts) f :=
  h.behind used fun part hp => by
    obtain ⟨d, hd⟩ := hd part hp
    exact ⟨[], [d], by simpa using DerivesFile.cons hd .nil⟩

theorem StopsIn.further {used : Tokens} {d : Declaration}
    (h : StopsIn (fun w => ∃ ds, DerivesFile w ds) ts f) (hd : DerivesDeclaration used d) :
    StopsIn (fun w => ∃ ds, DerivesFile w ds) (used ++ ts) f :=
  h.behind used fun part hp => by
    obtain ⟨ds, hds⟩ := hp
    exact ⟨[], d :: ds, by simpa using DerivesFile.cons hd hds⟩

theorem declarations_stop {fuel : Nat} {e : SyntaxError}
    (h : Parser.declarations fuel ts = .error e) :
    StopsIn (fun w => ∃ ds, DerivesFile w ds) ts ⟨e.expected, e.rest⟩ := by
  have empty : ∃ ds, DerivesFile [] ds := ⟨[], .nil⟩
  have rooted (root : Span) (ts : Tokens) : StopsIn (fun w => ∃ ds, DerivesFile w ds)
      (⟨.root, root⟩ :: ts) ⟨.rootKind, ts⟩ := by
    obtain ⟨d, hd⟩ := isBody_empty.exists_root (.inl rfl) root anywhere
    exact ⟨[_], ⟨.kind .element, anywhere⟩ :: emptyBody, rfl,
      ⟨[d], by simpa using DerivesFile.cons hd .nil⟩, by simp [InQuantifier]⟩
  fun_induction Parser.declarations fuel ts generalizing e with
  | case1 fuel => cases h
  | case2 ts hne =>
    cases h
    exact .here empty (by simp [InQuantifier]) ts
  | case3 fuel root k s ts hk ih =>
    simp only [bind_eq_error, pure_eq_ok, reduceCtorEq, and_false, exists_false, or_false] at h
    obtain hb | ⟨⟨d, ts'⟩, hb, hds⟩ := h
    · exact (declarationBody_stops (body_eq_error hb)).first_declaration [_, _]
        fun part hp => hp.exists_root (takesRoot_iff.mp hk) root s
    · obtain ⟨name, ns, left, right, inner, ps, rfl, hd, rfl⟩ :=
        declarationBody_sound (body_eq_ok.mp hb)
      have hs := (ih _ hds).further (.root k name root s ns left right (takesRoot_iff.mp hk) hd)
      simpa using hs
  | case4 fuel root k s ts hk =>
    cases h
    exact rooted root _
  | case5 fuel root ts hk =>
    cases h
    exact rooted root ts
  | case6 fuel k s ts ih =>
    simp only [bind_eq_error, pure_eq_ok, reduceCtorEq, and_false, exists_false, or_false] at h
    obtain hb | ⟨⟨d, ts'⟩, hb, hds⟩ := h
    · exact (declarationBody_stops (body_eq_error hb)).first_declaration [_]
        fun part hp => hp.exists_plain k s
    · obtain ⟨name, ns, left, right, inner, ps, rfl, hd, rfl⟩ :=
        declarationBody_sound (body_eq_ok.mp hb)
      have hs := (ih _ hds).further (.plain k name s ns left right hd)
      simpa using hs
  | case7 fuel ts hnil hroot hkind =>
    cases h
    exact .here empty (by simp [InQuantifier]) ts

end DocSchema.Grammar
