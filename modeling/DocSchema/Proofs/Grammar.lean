import DocSchema.Declaration.Parser

/-!
# The grammar of declarations

Which token lists each nonterminal derives, with the syntax tree of the derivation:

    file        := declaration*
    declaration := ["root"] kind IDENT "{" property* "}"
    property    := IDENT ":" value ";"
    value       := "*any text*" | list | item | STRING | PATTERN | INTEGER
    list        := "[" [entry ("," entry)*] "]"
                 | "{" [entry ("," entry)*] "}"
                 | "{" entry ("/" entry)+ "}"
    entry       := item | list | STRING | INTEGER | "*any text*"
    item        := IDENT ["(" quantifier ")"]
    quantifier  := "optional" | INTEGER | "n" OP INTEGER | INTEGER OP "n" [OP INTEGER]

The word `root` stands before `element` and `object` only. A tree keeps the place of every part.
-/
namespace DocSchema.Grammar

abbrev Tokens := List (Located Token)

/-- A bound with the count on its right is kept with its sides swapped. -/
inductive DerivesQuantifier : Tokens → Quantifier → Prop
  | optional (s : Span) : DerivesQuantifier [⟨.identifier "optional", s⟩] .optional
  | count (k : Int) (s : Span) : DerivesQuantifier [⟨.integer k, s⟩] (.exactly k)
  | bound (c : Comparison) (k : Int) (s₁ s₂ s₃ : Span) :
      DerivesQuantifier [⟨.identifier "n", s₁⟩, ⟨.comparison c, s₂⟩, ⟨.integer k, s₃⟩]
        (.bounds ⟨c, k⟩ none)
  | reversed (k : Int) (c : Comparison) (s₁ s₂ s₃ : Span) :
      DerivesQuantifier [⟨.integer k, s₁⟩, ⟨.comparison c, s₂⟩, ⟨.identifier "n", s₃⟩]
        (.bounds ⟨c.flipped, k⟩ none)
  | enclosed (k : Int) (c c' : Comparison) (k' : Int) (s₁ s₂ s₃ s₄ s₅ : Span) :
      DerivesQuantifier [⟨.integer k, s₁⟩, ⟨.comparison c, s₂⟩, ⟨.identifier "n", s₃⟩,
        ⟨.comparison c', s₄⟩, ⟨.integer k', s₅⟩] (.bounds ⟨c.flipped, k⟩ (some ⟨c', k'⟩))

inductive DerivesItem : Tokens → Item → Prop
  | plain (name : String) (s : Span) : DerivesItem [⟨.identifier name, s⟩] ⟨⟨name, s⟩, none⟩
  | quantified (name : String) (s left right : Span) {ts : Tokens} {q : Quantifier}
      (inner : DerivesQuantifier ts q) :
      DerivesItem (⟨.identifier name, s⟩ :: ⟨.leftParen, left⟩ :: ts ++ [⟨.rightParen, right⟩])
        ⟨⟨name, s⟩, some ⟨q, left.union right⟩⟩

def separatorToken : Separator → Token
  | .comma => .comma
  | .slash => .slash

mutual

inductive DerivesEntry : Tokens → Entry → Prop
  | item {ts : Tokens} {i : Item} (inner : DerivesItem ts i) : DerivesEntry ts (.item i)
  | list {ts : Tokens} {c : Compositor} {es : List Entry} {s : Span}
      (inner : DerivesList ts c es s) : DerivesEntry ts (.list c es s)
  | string (text : String) (s : Span) : DerivesEntry [⟨.string text, s⟩] (.string ⟨text, s⟩)
  | integer (k : Int) (s : Span) : DerivesEntry [⟨.integer k, s⟩] (.integer ⟨k, s⟩)
  | anyText (s : Span) : DerivesEntry [⟨.anyText, s⟩] (.anyText s)

/-- A list with its compositor, its entries and its place. -/
inductive DerivesList : Tokens → Compositor → List Entry → Span → Prop
  | sequence (left right : Span) {ts : Tokens} {es : List Entry} (inner : DerivesEntries ts es) :
      DerivesList (⟨.leftBracket, left⟩ :: ts ++ [⟨.rightBracket, right⟩]) .sequence es
        (left.union right)
  | unordered (left right : Span) {ts : Tokens} {es : List Entry} (inner : DerivesEntries ts es) :
      DerivesList (⟨.leftBrace, left⟩ :: ts ++ [⟨.rightBrace, right⟩]) .unordered es
        (left.union right)
  | choice (left right : Span) {ts ts' : Tokens} {e : Entry} {es : List Entry}
      (first : DerivesEntry ts e) (others : DerivesFurther .slash ts' es) (more : es ≠ []) :
      DerivesList (⟨.leftBrace, left⟩ :: (ts ++ ts') ++ [⟨.rightBrace, right⟩]) .choice (e :: es)
        (left.union right)

/-- `[entry ("," entry)*]` -/
inductive DerivesEntries : Tokens → List Entry → Prop
  | none : DerivesEntries [] []
  | some {ts ts' : Tokens} {e : Entry} {es : List Entry} (first : DerivesEntry ts e)
      (others : DerivesFurther .comma ts' es) : DerivesEntries (ts ++ ts') (e :: es)

/-- Any number of entries, each behind the same separator. -/
inductive DerivesFurther : Separator → Tokens → List Entry → Prop
  | nil {separator : Separator} : DerivesFurther separator [] []
  | cons {separator : Separator} (s : Span) {ts ts' : Tokens} {e : Entry} {es : List Entry}
      (first : DerivesEntry ts e) (others : DerivesFurther separator ts' es) :
      DerivesFurther separator (⟨separatorToken separator, s⟩ :: ts ++ ts') (e :: es)

end

inductive DerivesValue : Tokens → Value → Prop
  | anyText (s : Span) : DerivesValue [⟨.anyText, s⟩] (.anyText s)
  | list {ts : Tokens} {c : Compositor} {es : List Entry} {s : Span}
      (inner : DerivesList ts c es s) : DerivesValue ts (.list c es s)
  | item {ts : Tokens} {i : Item} (inner : DerivesItem ts i) : DerivesValue ts (.item i)
  | string (text : String) (s : Span) : DerivesValue [⟨.string text, s⟩] (.string ⟨text, s⟩)
  | pattern (text : String) (s : Span) : DerivesValue [⟨.pattern text, s⟩] (.pattern ⟨text, s⟩)
  | integer (k : Int) (s : Span) : DerivesValue [⟨.integer k, s⟩] (.integer ⟨k, s⟩)

inductive DerivesProperty : Tokens → Property → Prop
  | mk (name : String) (s colon semicolon : Span) {ts : Tokens} {v : Value}
      (inner : DerivesValue ts v) :
      DerivesProperty
        (⟨.identifier name, s⟩ :: ⟨.colon, colon⟩ :: ts ++ [⟨.semicolon, semicolon⟩])
        ⟨⟨name, s⟩, v⟩

/-- `property*` -/
inductive DerivesProperties : Tokens → List Property → Prop
  | nil : DerivesProperties [] []
  | cons {ts ts' : Tokens} {p : Property} {ps : List Property} (first : DerivesProperty ts p)
      (others : DerivesProperties ts' ps) : DerivesProperties (ts ++ ts') (p :: ps)

inductive DerivesDeclaration : Tokens → Declaration → Prop
  | plain (k : Kind) (name : String) (ks ns left right : Span) {ts : Tokens} {ps : List Property}
      (inner : DerivesProperties ts ps) :
      DerivesDeclaration
        (⟨.kind k, ks⟩ :: ⟨.identifier name, ns⟩ :: ⟨.leftBrace, left⟩ :: ts
          ++ [⟨.rightBrace, right⟩])
        ⟨none, ⟨k, ks⟩, ⟨name, ns⟩, left, ps, ks.union right⟩
  | root (k : Kind) (name : String) (rs ks ns left right : Span) {ts : Tokens} {ps : List Property}
      (takesRoot : k = .element ∨ k = .object) (inner : DerivesProperties ts ps) :
      DerivesDeclaration
        (⟨.root, rs⟩ :: ⟨.kind k, ks⟩ :: ⟨.identifier name, ns⟩ :: ⟨.leftBrace, left⟩ :: ts
          ++ [⟨.rightBrace, right⟩])
        ⟨some rs, ⟨k, ks⟩, ⟨name, ns⟩, left, ps, rs.union right⟩

/-- `declaration*` -/
inductive DerivesFile : Tokens → List Declaration → Prop
  | nil : DerivesFile [] []
  | cons {ts ts' : Tokens} {d : Declaration} {ds : List Declaration}
      (first : DerivesDeclaration ts d) (others : DerivesFile ts' ds) :
      DerivesFile (ts ++ ts') (d :: ds)

end DocSchema.Grammar
