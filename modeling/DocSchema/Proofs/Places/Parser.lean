import DocSchema.Declaration.Parser
import DocSchema.Proofs.Result

/-!
# Reading without places

Declarations keep the places they were read from, but no place decides how tokens are read. Tokens
with the same values give the same declarations up to their places, or the same error.
-/
namespace DocSchema

def Located.bare {α : Type} (x : Located α) : Located α := ⟨x.value, .point 0⟩

@[simp] theorem Located.value_bare {α : Type} (x : Located α) : x.bare.value = x.value := rfl

def Item.bare (i : Item) : Item := ⟨i.name.bare, i.quantifier.map Located.bare⟩

mutual

def Entry.bare : Entry → Entry
  | .item i => .item i.bare
  | .string s => .string s.bare
  | .integer n => .integer n.bare
  | .anyText _ => .anyText (.point 0)
  | .list compositor entries _ => .list compositor (Entry.bareAll entries) (.point 0)

def Entry.bareAll : List Entry → List Entry
  | [] => []
  | e :: es => e.bare :: Entry.bareAll es

end

def Value.bare : Value → Value
  | .anyText _ => .anyText (.point 0)
  | .list compositor entries _ => .list compositor (Entry.bareAll entries) (.point 0)
  | .item i => .item i.bare
  | .string s => .string s.bare
  | .pattern s => .pattern s.bare
  | .integer n => .integer n.bare

def Property.bare (p : Property) : Property := ⟨p.name.bare, p.value.bare⟩

def Declaration.bare (d : Declaration) : Declaration :=
  ⟨d.root.map fun _ => .point 0, d.kind.bare, d.name.bare, .point 0, d.properties.map Property.bare,
    .point 0⟩

namespace Parser

def bareRest (ts : Tokens) : Tokens := ts.map Located.bare

theorem bareRest_cons (t : Token) (span : Span) (ts : Tokens) :
    bareRest (⟨t, span⟩ :: ts) = ⟨t, .point 0⟩ :: bareRest ts := rfl

theorem length_bareRest (ts : Tokens) : (bareRest ts).length = ts.length := List.length_map _

def Failure.bare (f : Failure) : Failure := ⟨f.expected, bareRest f.rest⟩

abbrev bareRead {α β : Type} (f : α → β) :
    Except Failure (α × Tokens) → Except Failure (β × Tokens) :=
  bimapResult Failure.bare (Prod.map f bareRest)

theorem enclosed?_bare (k : Int) (ts : Tokens) :
    enclosed? k (bareRest ts) = (enclosed? k ts).map (Prod.map id bareRest) := by
  -- the readers look at values only, so the tokens decide both sides alike
  rcases ts with _ | ⟨⟨t, _⟩, _ | ⟨⟨t', _⟩, ts⟩⟩
  · rfl
  · cases t <;> rfl
  · cases t <;> try rfl
    cases t' <;> try rfl
    next c name =>
    by_cases hn : name = "n"
    · subst hn
      rcases ts with _ | ⟨⟨t, _⟩, _ | ⟨⟨t', _⟩, ts⟩⟩
      · rfl
      · cases t <;> rfl
      · cases t <;> try rfl
        cases t' <;> rfl
    · simp [bareRest_cons, enclosed?, hn]

theorem quantifier?_bare (ts : Tokens) :
    quantifier? (bareRest ts) = (quantifier? ts).map (Prod.map id bareRest) := by
  rcases ts with _ | ⟨⟨t, _⟩, ts⟩
  · rfl
  cases t <;> try rfl
  · next name =>
    by_cases ho : name = "optional"
    · subst ho
      rfl
    by_cases hn : name = "n"
    · subst hn
      rcases ts with _ | ⟨⟨t, _⟩, _ | ⟨⟨t', _⟩, ts⟩⟩
      · rfl
      · cases t <;> rfl
      · cases t <;> try rfl
        cases t' <;> rfl
    · simp [bareRest_cons, quantifier?, ho, hn]
  · next k =>
    simp only [bareRest_cons, quantifier?, enclosed?_bare]
    cases enclosed? k ts <;> rfl

theorem quantifierGroup_bare (ts : Tokens) :
    quantifierGroup (bareRest ts) =
      bareRead (Option.map Located.bare) (quantifierGroup ts) := by
  rcases ts with _ | ⟨⟨t, left⟩, ts⟩
  · rfl
  cases t <;> try rfl
  rw [bareRest_cons, quantifierGroup, quantifierGroup, quantifier?_bare]
  cases quantifier? ts with
  | none => rfl
  | some found =>
    obtain ⟨q, _ | ⟨⟨t, right⟩, rest⟩⟩ := found
    · rfl
    · cases t <;> rfl

theorem item_bare (name : String) (span : Span) (ts : Tokens) :
    item ⟨name, .point 0⟩ (bareRest ts) = bareRead Item.bare (item ⟨name, span⟩ ts) := by
  rw [item, quantifierGroup_bare]
  refine bimapResult_bind (fun found => ?_) _
  rfl

theorem separator?_bare (ordered : Bool) (used : Option Separator) (ts : Tokens) :
    separator? ordered used (bareRest ts) =
      (separator? ordered used ts).map (Prod.map id bareRest) := by
  rcases ts with _ | ⟨⟨t, _⟩, ts⟩
  · rfl
  cases t <;> try rfl
  · simp only [bareRest_cons, separator?]
    split_ifs <;> rfl
  · simp only [bareRest_cons, separator?]
    split_ifs <;> rfl

theorem listEnd_bare (ordered : Bool) (used : Option Separator) (ts : Tokens) :
    listEnd ordered used (bareRest ts) =
      bareRead (fun _ => .point 0) (listEnd ordered used ts) := by
  rcases ts with _ | ⟨⟨t, _⟩, ts⟩
  · rfl
  cases ordered <;> cases t <;> rfl

def bareList (l : Compositor × List Entry × Span) : Compositor × List Entry × Span :=
  (l.1, Entry.bareAll l.2.1, .point 0)

structure ListsBare (fuel : Nat) : Prop where
  entry : ∀ ts, entry? fuel (bareRest ts) =
    (bimapResult Failure.bare (Option.map (Prod.map Entry.bare bareRest)) <| entry? fuel ts)
  list : ∀ ordered ts,
    Parser.list fuel ordered (bareRest ts) = bareRead bareList (Parser.list fuel ordered ts)
  more : ∀ ordered used ts, moreEntries fuel ordered used (bareRest ts) =
    bareRead (Prod.map id Entry.bareAll) (moreEntries fuel ordered used ts)

theorem lists_bare (fuel : Nat) : ListsBare fuel := by
  induction fuel with
  | zero =>
    refine ⟨fun ts => rfl, fun ordered ts => ?_, fun ordered used ts => rfl⟩
    cases ordered <;> rfl
  | succ fuel ih =>
    refine ⟨fun ts => ?_, fun ordered ts => ?_, fun ordered used ts => ?_⟩
    · rcases ts with _ | ⟨⟨t, span⟩, ts⟩
      · rfl
      cases t <;> try rfl
      · next name =>
        simp only [bareRest_cons, entry?, item_bare name span]
        exact bimapResult_bind (fun _ => by rfl) _
      · simp only [bareRest_cons, entry?, ih.list]
        exact bimapResult_bind (fun _ => by rfl) _
      · simp only [bareRest_cons, entry?, ih.list]
        exact bimapResult_bind (fun _ => by rfl) _
    · rw [Parser.list, Parser.list, ih.entry]
      refine bimapResult_bind (fun found => ?_) _
      rcases found with _ | ⟨e, ts⟩
      · dsimp only [Option.map_none]
        rw [listEnd_bare]
        exact bimapResult_bind (fun _ => by rfl) _
      · dsimp only [Option.map_some, Prod.map_apply]
        rw [ih.more]
        refine bimapResult_bind (fun more => ?_) _
        obtain ⟨⟨used, others⟩, ts⟩ := more
        dsimp only [Prod.map_apply]
        rw [listEnd_bare]
        exact bimapResult_bind (fun _ => by rfl) _
    · rw [moreEntries, moreEntries, separator?_bare]
      rcases separator? ordered used ts with _ | ⟨separator, ts⟩
      · rfl
      dsimp only [Option.map_some, Prod.map_apply]
      rw [ih.entry]
      refine bimapResult_bind (fun found => ?_) _
      rcases found with _ | ⟨e, ts⟩
      · rfl
      dsimp only [Option.map_some, Prod.map_apply]
      rw [ih.more]
      exact bimapResult_bind (fun _ => by rfl) _

theorem listValue_bare (ordered : Bool) (left : Span) (ts : Tokens) :
    listValue ordered (.point 0) (bareRest ts) =
      bareRead Value.bare (listValue ordered left ts) := by
  rw [listValue, listFuel, length_bareRest, ← listFuel, (lists_bare _).list]
  refine bimapResult_bind (fun read => ?_) _
  rfl

theorem propertyValue_bare (ts : Tokens) :
    propertyValue (bareRest ts) = bareRead Value.bare (propertyValue ts) := by
  rcases ts with _ | ⟨⟨t, span⟩, ts⟩
  · rfl
  cases t <;> try rfl
  · next name =>
    simp only [bareRest_cons, propertyValue, item_bare name span]
    exact bimapResult_bind (fun _ => by rfl) _
  · exact listValue_bare false span ts
  · exact listValue_bare true span ts

theorem expect_bare (token : Token) (expected : Expected) (ts : Tokens) :
    expect token expected (bareRest ts) =
      bareRead (fun _ => .point 0) (expect token expected ts) := by
  rcases ts with _ | ⟨⟨t, span⟩, ts⟩
  · rfl
  rw [bareRest_cons, expect, expect]
  split_ifs <;> rfl

theorem property_bare (name : String) (span : Span) (ts : Tokens) :
    property ⟨name, .point 0⟩ (bareRest ts) =
      bareRead Property.bare (property ⟨name, span⟩ ts) := by
  rw [property, expect_bare]
  refine bimapResult_bind (fun colon => ?_) _
  obtain ⟨_, ts⟩ := colon
  dsimp only [Prod.map_apply]
  rw [propertyValue_bare]
  refine bimapResult_bind (fun value => ?_) _
  obtain ⟨value, ts⟩ := value
  dsimp only [Prod.map_apply]
  rw [expect_bare]
  exact bimapResult_bind (fun _ => by rfl) _

theorem properties_bare (fuel : Nat) (ts : Tokens) :
    properties fuel (bareRest ts) = bareRead (List.map Property.bare) (properties fuel ts) := by
  induction fuel generalizing ts with
  | zero => rfl
  | succ fuel ih =>
    rcases ts with _ | ⟨⟨t, span⟩, ts⟩
    · rfl
    cases t <;> try rfl
    next name =>
    simp only [bareRest_cons, properties, property_bare name span]
    refine bimapResult_bind (fun p => ?_) _
    obtain ⟨p, ts⟩ := p
    dsimp only [Prod.map_apply]
    rw [ih]
    exact bimapResult_bind (fun _ => by rfl) _

theorem structureName_bare (ts : Tokens) :
    structureName (bareRest ts) = bareRead Located.bare (structureName ts) := by
  rcases ts with _ | ⟨⟨t, span⟩, ts⟩
  · rfl
  cases t <;> rfl

theorem declarationBody_bare (root : Option Span) (kind : Located Kind) (ts : Tokens) :
    declarationBody (root.map fun _ => .point 0) kind.bare (bareRest ts) =
      bareRead Declaration.bare (declarationBody root kind ts) := by
  rw [declarationBody, structureName_bare]
  refine bimapResult_bind (fun name => ?_) _
  obtain ⟨name, ts⟩ := name
  dsimp only [Prod.map_apply]
  rw [expect_bare]
  refine bimapResult_bind (fun opening => ?_) _
  obtain ⟨opening, ts⟩ := opening
  dsimp only [Prod.map_apply]
  rw [length_bareRest, properties_bare]
  refine bimapResult_bind (fun ps => ?_) _
  obtain ⟨ps, ts⟩ := ps
  dsimp only [Prod.map_apply]
  rw [expect_bare]
  refine bimapResult_bind (fun closing => ?_) _
  cases root <;> rfl

end Parser

def SyntaxError.bare (e : SyntaxError) : SyntaxError :=
  ⟨e.expected, Parser.bareRest e.rest, e.within.map Located.bare⟩

namespace Parser

theorem body_bare (root : Option Span) (kind : Located Kind) (ts : Tokens) :
    body (root.map fun _ => .point 0) kind.bare (bareRest ts) =
      bimapResult SyntaxError.bare (Prod.map Declaration.bare bareRest) (body root kind ts) := by
  rw [body, body, declarationBody_bare]
  cases declarationBody root kind ts with
  | ok read => rfl
  | error f =>
    simp only [bimapResult, Failure.bare, length_bareRest, SyntaxError.bare]
    split_ifs
    · cases ts <;> rfl
    · rfl

theorem next_bare {fuel : Nat}
    (ih : ∀ ts, declarations fuel (bareRest ts) =
      bimapResult SyntaxError.bare (List.map Declaration.bare) (declarations fuel ts))
    (x : Except SyntaxError (Declaration × Tokens)) :
    (bimapResult SyntaxError.bare (Prod.map Declaration.bare bareRest) x >>= fun read =>
      declarations fuel read.2 >>= fun ds => pure (read.1 :: ds)) =
    bimapResult SyntaxError.bare (List.map Declaration.bare)
      (x >>= fun read => declarations fuel read.2 >>= fun ds => pure (read.1 :: ds)) := by
  refine bimapResult_bind (fun read => ?_) _
  rw [Prod.map_snd, ih]
  exact bimapResult_bind (fun _ => by rfl) _

theorem declarations_bare (fuel : Nat) (ts : Tokens) :
    declarations fuel (bareRest ts) =
      bimapResult SyntaxError.bare (List.map Declaration.bare) (declarations fuel ts) := by
  induction fuel generalizing ts with
  | zero => cases ts <;> rfl
  | succ fuel ih =>
    rcases ts with _ | ⟨⟨t, span⟩, ts⟩
    · rfl
    cases t <;> try rfl
    · rcases ts with _ | ⟨⟨t, place⟩, ts⟩
      · rfl
      cases t <;> try rfl
      next k =>
      have hbody := body_bare (some span) ⟨k, place⟩ ts
      simp only [bareRest_cons, declarations]
      split_ifs
      · exact (congrArg (· >>= _) hbody).trans (next_bare ih _)
      · rfl
    · next k =>
      have hbody := body_bare none ⟨k, span⟩ ts
      simp only [bareRest_cons, declarations]
      exact (congrArg (· >>= _) hbody).trans (next_bare ih _)

end Parser

/-- Tokens without places give declarations without places, or the error without places. -/
theorem parseDeclarations_bare (tokens : List (Located Token)) :
    parseDeclarations (Parser.bareRest tokens) =
      bimapResult SyntaxError.bare (List.map Declaration.bare) (parseDeclarations tokens) := by
  rw [parseDeclarations, Parser.length_bareRest, Parser.declarations_bare, parseDeclarations]

end DocSchema
