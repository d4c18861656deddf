import DocSchema.Proofs.Grammar.Parser
import DocSchema.Proofs.Places.Parser
import DocSchema.Proofs.Token.Joining

/-!
# Declarations further on in a text

Declarations are built from the places of their tokens, so tokens that all stand `n` bytes further
on derive the same declarations `n` bytes further on.
-/
namespace DocSchema

section Shift

variable (n : Nat)

def Item.shift (i : Item) : Item := ⟨i.name.shift n, i.quantifier.map (Located.shift n)⟩

mutual

def Entry.shift : Entry → Entry
  | .item i => .item (i.shift n)
  | .string s => .string (s.shift n)
  | .integer k => .integer (k.shift n)
  | .anyText span => .anyText (span.shift n)
  | .list compositor entries span => .list compositor (Entry.shiftAll entries) (span.shift n)

def Entry.shiftAll : List Entry → List Entry
  | [] => []
  | e :: es => e.shift :: Entry.shiftAll es

end

def Value.shift : Value → Value
  | .anyText span => .anyText (span.shift n)
  | .list compositor entries span => .list compositor (Entry.shiftAll n entries) (span.shift n)
  | .item i => .item (i.shift n)
  | .string s => .string (s.shift n)
  | .pattern s => .pattern (s.shift n)
  | .integer k => .integer (k.shift n)

def Property.shift (p : Property) : Property := ⟨p.name.shift n, p.value.shift n⟩

/-- A declaration with every place in it `n` bytes further on. -/
def Declaration.shift (d : Declaration) : Declaration :=
  ⟨d.root.map (Span.shift n), d.kind.shift n, d.name.shift n, d.opening.shift n,
    d.properties.map (Property.shift n), d.span.shift n⟩

end Shift

theorem Entry.shiftAll_eq_map (n : Nat) (es : List Entry) :
    Entry.shiftAll n es = es.map (Entry.shift n) := by
  induction es with
  | nil => rfl
  | cons e es ih => exact congrArg (e.shift n :: ·) ih

theorem Span.union_shift (n : Nat) (s t : Span) :
    (s.shift n).union (t.shift n) = (s.union t).shift n := by
  simp only [union, shift, mk.injEq]
  omega

section Bare

variable (n : Nat)

theorem Item.bare_shift (i : Item) : (i.shift n).bare = i.bare := by
  obtain ⟨name, _ | q⟩ := i <;> rfl

mutual

theorem Entry.bare_shift (e : Entry) : (e.shift n).bare = e.bare := by
  cases e with
  | item i => exact congrArg Entry.item (i.bare_shift n)
  | list compositor entries span =>
    exact congrArg (Entry.list compositor · _) (Entry.bareAll_shiftAll entries)
  | _ => rfl

theorem Entry.bareAll_shiftAll (es : List Entry) :
    Entry.bareAll (Entry.shiftAll n es) = Entry.bareAll es := by
  cases es with
  | nil => rfl
  | cons e es => exact congrArg₂ List.cons (Entry.bare_shift e) (Entry.bareAll_shiftAll es)

end

theorem Value.bare_shift (v : Value) : (v.shift n).bare = v.bare := by
  cases v with
  | item i => exact congrArg Value.item (i.bare_shift n)
  | list compositor entries span =>
    exact congrArg (Value.list compositor · _) (Entry.bareAll_shiftAll n entries)
  | _ => rfl

theorem Declaration.bare_shift (d : Declaration) : (d.shift n).bare = d.bare := by
  have hproperty (p : Property) : (p.shift n).bare = p.bare :=
    congrArg (Property.mk p.name.bare) (p.value.bare_shift n)
  simp only [bare, shift, List.map_map, Option.map_map, Function.comp_def, hproperty]
  rfl

end Bare

namespace Grammar

abbrev shiftTokens (n : Nat) (ts : Tokens) : Tokens := ts.map (Located.shift n)

variable {n : Nat}

theorem DerivesQuantifier.shift {ts : Tokens} {q : Quantifier} (h : DerivesQuantifier ts q) :
    DerivesQuantifier (shiftTokens n ts) q := by
  cases h with
  | optional s => exact .optional _
  | count k s => exact .count k _
  | bound c k => exact .bound c k _ _ _
  | reversed k c => exact .reversed k c _ _ _
  | enclosed k c c' k' => exact .enclosed k c c' k' _ _ _ _ _

theorem DerivesItem.shift {ts : Tokens} {i : Item} (h : DerivesItem ts i) :
    DerivesItem (shiftTokens n ts) (i.shift n) := by
  cases h with
  | plain name s => exact .plain name _
  | quantified name s left right inner =>
    simp only [shiftTokens, List.map_append, Item.shift, Option.map_some, Located.shift,
      ← Span.union_shift]
    exact .quantified name _ _ _ inner.shift

mutual

theorem DerivesEntry.shift {ts : Tokens} {e : Entry} :
    DerivesEntry ts e → DerivesEntry (shiftTokens n ts) (e.shift n)
  | .item inner => .item inner.shift
  | .list inner => .list inner.shift
  | .string text s => .string text _
  | .integer k s => .integer k _
  | .anyText s => .anyText _

theorem DerivesList.shift {ts : Tokens} {c : Compositor} {es : List Entry} {s : Span} :
    DerivesList ts c es s → DerivesList (shiftTokens n ts) c (Entry.shiftAll n es) (s.shift n)
  | .sequence left right inner => by
    rw [shiftTokens, List.map_append, ← Span.union_shift]
    exact .sequence _ _ inner.shift
  | .unordered left right inner => by
    rw [shiftTokens, List.map_append, ← Span.union_shift]
    exact .unordered _ _ inner.shift
  | .choice left right first others more => by
    rw [shiftTokens, List.map_append, List.map_cons, List.map_append, ← Span.union_shift]
    refine .choice _ _ first.shift others.shift ?_
    simpa [Entry.shiftAll_eq_map] using more

theorem DerivesEntries.shift {ts : Tokens} {es : List Entry} :
    DerivesEntries ts es → DerivesEntries (shiftTokens n ts) (Entry.shiftAll n es)
  | .none => .none
  | .some first others => by
    rw [shiftTokens, List.map_append]
    exact .some first.shift others.shift

theorem DerivesFurther.shift {separator : Separator} {ts : Tokens} {es : List Entry} :
    DerivesFurther separator ts es →
      DerivesFurther separator (shiftTokens n ts) (Entry.shiftAll n es)
  | .nil => .nil
  | .cons s first others => by
    rw [shiftTokens, List.map_append]
    exact .cons _ first.shift others.shift

end

theorem DerivesValue.shift {ts : Tokens} {v : Value} (h : DerivesValue ts v) :
    DerivesValue (shiftTokens n ts) (v.shift n) := by
  cases h with
  | anyText s => exact .anyText _
  | list inner => exact .list inner.shift
  | item inner => exact .item inner.shift
  | string text s => exact .string text _
  | pattern text s => exact .pattern text _
  | integer k s => exact .integer k _

theorem DerivesProperty.shift {ts : Tokens} {p : Property} (h : DerivesProperty ts p) :
    DerivesProperty (shiftTokens n ts) (p.shift n) := by
  obtain ⟨name, s, colon, semicolon, inner⟩ := h
  rw [shiftTokens, List.map_append]
  exact .mk name _ _ _ inner.shift

theorem DerivesProperties.shift {ts : Tokens} {ps : List Property} (h : DerivesProperties ts ps) :
    DerivesProperties (shiftTokens n ts) (ps.map (Property.shift n)) := by
  induction h with
  | nil => exact .nil
  | cons first _ ih =>
    rw [shiftTokens, List.map_append]
    exact .cons first.shift ih

theorem DerivesDeclaration.shift {ts : Tokens} {d : Declaration} (h : DerivesDeclaration ts d) :
    DerivesDeclaration (shiftTokens n ts) (d.shift n) := by
  cases h with
  | plain k name ks ns left right inner =>
    rw [shiftTokens, List.map_append, Declaration.shift, ← Span.union_shift]
    exact .plain k name _ _ _ _ inner.shift
  | root k name rs ks ns left right takesRoot inner =>
    rw [shiftTokens, List.map_append, Declaration.shift, ← Span.union_shift]
    exact .root k name _ _ _ _ _ takesRoot inner.shift

theorem DerivesFile.shift {ts : Tokens} {ds : List Declaration} (h : DerivesFile ts ds) :
    DerivesFile (shiftTokens n ts) (ds.map (Declaration.shift n)) := by
  induction h with
  | nil => exact .nil
  | cons first _ ih =>
    rw [shiftTokens, List.map_append]
    exact .cons first.shift ih

theorem DerivesFile.append {ts ts' : Tokens} {ds ds' : List Declaration} (h : DerivesFile ts ds)
    (h' : DerivesFile ts' ds') : DerivesFile (ts ++ ts') (ds ++ ds') := by
  induction h with
  | nil => exact h'
  | cons first _ ih =>
    rw [List.append_assoc]
    exact .cons first ih

theorem DerivesFile.getLast?_value {ts : Tokens} {ds : List Declaration} (h : DerivesFile ts ds) :
    ∀ t ∈ ts.getLast?, t.value = .rightBrace := by
  induction h with
  | nil => simp
  | @cons ts ts' d ds first _ ih =>
    intro t ht
    rw [List.getLast?_append] at ht
    cases hlast : ts'.getLast? with
    | some u =>
      rw [hlast] at ht
      exact ih t (hlast ▸ ht)
    | none =>
      rw [hlast] at ht
      cases first with
      | plain =>
        rw [List.getLast?_append] at ht
        cases ht
        rfl
      | root =>
        rw [List.getLast?_append] at ht
        cases ht
        rfl

end Grammar

end DocSchema
