import DocSchema.Declaration
import DocSchema.Diagnostic

/-!
# From tokens to declarations

A recursive-descent reader that looks at the next tokens to decide what follows. It stops at the
first token that cannot continue the text read so far and says what was expected there.
-/
namespace DocSchema

inductive Separator where
  | comma
  | slash
  deriving DecidableEq, Repr

/-- What could have stood where reading failed. -/
inductive Expected where
  | declaration
  | rootKind
  | structureName
  | leftBrace
  | propertyOrEnd
  | colon
  | propertyValue
  | semicolon
  | quantifier
  | rightParen
  | listEntry
  | sequenceEnd
  /-- The end of a list in braces, where `separator` has been used so far. -/
  | bracesEnd (separator : Option Separator)
  deriving DecidableEq, Repr

def Expected.text : Expected → String
  | .declaration => "declaration"
  | .rootKind => "`element` or `object` after `root`"
  | .structureName => "structure name"
  | .leftBrace => "`\x7b`"
  | .propertyOrEnd => "property or `\x7d`"
  | .colon => "`:`"
  | .propertyValue => "property value"
  | .semicolon => "`;`"
  | .quantifier => "quantifier"
  | .rightParen => "`)`"
  | .listEntry => "list entry"
  | .sequenceEnd => "`,` or `]`"
  | .bracesEnd none => "`,`, `/` or `\x7d`"
  | .bracesEnd (some .slash) => "`/` or `\x7d`"
  | .bracesEnd (some .comma) => "`,` or `\x7d`"

namespace Parser

abbrev Tokens := List (Located Token)

/-- What was expected, and the tokens from the unexpected one on. -/
structure Failure where
  expected : Expected
  rest : Tokens
  deriving DecidableEq, Repr

/-- A count on the left: `k OP n`, or `k OP n OP k`. -/
def enclosed? (k : Int) : Tokens → Option (Quantifier × Tokens)
  | ⟨.comparison c, _⟩ :: ⟨.identifier name, _⟩ :: ts =>
    if name = "n" then
      match ts with
      | ⟨.comparison c', _⟩ :: ⟨.integer k', _⟩ :: ts =>
        some (.bounds ⟨c.flipped, k⟩ (some ⟨c', k'⟩), ts)
      | ts => some (.bounds ⟨c.flipped, k⟩ none, ts)
    else none
  | _ => none

/-- The inside of a quantifier: `optional`, `n OP k`, `k OP n`, `k OP n OP k` or a count. -/
def quantifier? : Tokens → Option (Quantifier × Tokens)
  | ⟨.identifier name, _⟩ :: ts =>
    if name = "optional" then some (.optional, ts)
    else if name = "n" then
      match ts with
      | ⟨.comparison c, _⟩ :: ⟨.integer k, _⟩ :: ts => some (.bounds ⟨c, k⟩ none, ts)
      | _ => none
    else none
  | ⟨.integer k, _⟩ :: ts => some ((enclosed? k ts).getD (.exactly k, ts))
  | _ => none

def quantifierGroup : Tokens → Except Failure ((Option (Located Quantifier)) × Tokens)
  | ⟨.leftParen, left⟩ :: ts =>
    match quantifier? ts with
    | none => .error ⟨.quantifier, ts⟩
    | some (q, ⟨.rightParen, right⟩ :: ts) => .ok (some ⟨q, left.union right⟩, ts)
    | some (_, ts) => .error ⟨.rightParen, ts⟩
  | ts => .ok (none, ts)

def item (name : Located String) (ts : Tokens) : Except Failure (Item × Tokens) := do
  let (quantifier, ts) ← quantifierGroup ts
  return (⟨name, quantifier⟩, ts)

/-- The next separator. Brackets take commas only; in braces the first separator decides which one
is used. -/
def separator? (ordered : Bool) (used : Option Separator) : Tokens → Option (Separator × Tokens)
  | ⟨.comma, _⟩ :: ts => if used = some .slash then none else some (.comma, ts)
  | ⟨.slash, _⟩ :: ts => if ordered || used = some .comma then none else some (.slash, ts)
  | _ => none

def listEnd (ordered : Bool) (used : Option Separator) : Tokens → Except Failure (Span × Tokens)
  | ⟨.rightBracket, span⟩ :: ts =>
    if ordered then .ok (span, ts) else .error ⟨.bracesEnd used, ⟨.rightBracket, span⟩ :: ts⟩
  | ⟨.rightBrace, span⟩ :: ts =>
    if ordered then .error ⟨.sequenceEnd, ⟨.rightBrace, span⟩ :: ts⟩ else .ok (span, ts)
  | ts => .error ⟨if ordered then .sequenceEnd else .bracesEnd used, ts⟩

def compositorOf (ordered : Bool) (used : Option Separator) : Compositor :=
  if ordered then .sequence
  else if used = some .slash then .choice
  else .unordered

mutual

def entry? : Nat → Tokens → Except Failure (Option (Entry × Tokens))
  | 0, _ => .ok none
  | fuel + 1, ts =>
    match ts with
    | ⟨.leftBracket, left⟩ :: ts => do
      let ((compositor, entries, right), ts) ← list fuel true ts
      return some (.list compositor entries (left.union right), ts)
    | ⟨.leftBrace, left⟩ :: ts => do
      let ((compositor, entries, right), ts) ← list fuel false ts
      return some (.list compositor entries (left.union right), ts)
    | ⟨.identifier name, span⟩ :: ts => do
      let (i, ts) ← item ⟨name, span⟩ ts
      return some (.item i, ts)
    | ⟨.string s, span⟩ :: ts => .ok (some (.string ⟨s, span⟩, ts))
    | ⟨.integer n, span⟩ :: ts => .ok (some (.integer ⟨n, span⟩, ts))
    | ⟨.anyText, span⟩ :: ts => .ok (some (.anyText span, ts))
    | _ => .ok none

/-- A list after its opening sign: the compositor, the entries and the place of the closing sign. -/
def list : Nat → Bool → Tokens → Except Failure ((Compositor × List Entry × Span) × Tokens)
  | 0, ordered, ts => .error ⟨if ordered then .sequenceEnd else .bracesEnd none, ts⟩
  | fuel + 1, ordered, ts => do
    match ← entry? fuel ts with
    | none =>
      let (right, ts) ← listEnd ordered none ts
      return ((compositorOf ordered none, [], right), ts)
    | some (first, ts) =>
      let ((used, others), ts) ← moreEntries fuel ordered none ts
      let (right, ts) ← listEnd ordered used ts
      return ((compositorOf ordered used, first :: others, right), ts)

/-- The entries after the first one, each behind a separator, and the separator in use. -/
def moreEntries : Nat → Bool → Option Separator → Tokens →
    Except Failure ((Option Separator × List Entry) × Tokens)
  | 0, _, used, ts => .ok ((used, []), ts)
  | fuel + 1, ordered, used, ts =>
    match separator? ordered used ts with
    | none => .ok ((used, []), ts)
    | some (separator, ts) => do
      match ← entry? fuel ts with
      | none => .error ⟨.listEntry, ts⟩
      | some (e, ts) =>
        let ((used, others), ts) ← moreEntries fuel ordered (some separator) ts
        return ((used, e :: others), ts)

end

/-- Fuel for a list: a call that takes no token is followed by one that does. -/
def listFuel (ts : Tokens) : Nat := 2 * ts.length + 2

def listValue (ordered : Bool) (left : Span) (ts : Tokens) : Except Failure (Value × Tokens) := do
  let ((compositor, entries, right), ts) ← list (listFuel ts) ordered ts
  return (.list compositor entries (left.union right), ts)

def propertyValue : Tokens → Except Failure (Value × Tokens)
  | ⟨.anyText, span⟩ :: ts => .ok (.anyText span, ts)
  | ⟨.leftBracket, left⟩ :: ts => listValue true left ts
  | ⟨.leftBrace, left⟩ :: ts => listValue false left ts
  | ⟨.identifier name, span⟩ :: ts => do
    let (i, ts) ← item ⟨name, span⟩ ts
    return (.item i, ts)
  | ⟨.string s, span⟩ :: ts => .ok (.string ⟨s, span⟩, ts)
  | ⟨.pattern p, span⟩ :: ts => .ok (.pattern ⟨p, span⟩, ts)
  | ⟨.integer n, span⟩ :: ts => .ok (.integer ⟨n, span⟩, ts)
  | ts => .error ⟨.propertyValue, ts⟩

def expect (token : Token) (expected : Expected) : Tokens → Except Failure (Span × Tokens)
  | [] => .error ⟨expected, []⟩
  | t :: ts => if t.value = token then .ok (t.span, ts) else .error ⟨expected, t :: ts⟩

def property (name : Located String) (ts : Tokens) : Except Failure (Property × Tokens) := do
  let (_, ts) ← expect .colon .colon ts
  let (value, ts) ← propertyValue ts
  let (_, ts) ← expect .semicolon .semicolon ts
  return (⟨name, value⟩, ts)

def properties : Nat → Tokens → Except Failure ((List Property) × Tokens)
  | 0, ts => .ok ([], ts)
  | fuel + 1, ts =>
    match ts with
    | ⟨.identifier name, span⟩ :: ts => do
      let (p, ts) ← property ⟨name, span⟩ ts
      let (ps, ts) ← properties fuel ts
      return (p :: ps, ts)
    | ts => .ok ([], ts)

def structureName : Tokens → Except Failure ((Located String) × Tokens)
  | ⟨.identifier name, span⟩ :: ts => .ok (⟨name, span⟩, ts)
  | ts => .error ⟨.structureName, ts⟩

def declarationBody (root : Option Span) (kind : Located Kind) (ts : Tokens) :
    Except Failure (Declaration × Tokens) := do
  let (name, ts) ← structureName ts
  let (opening, ts) ← expect .leftBrace .leftBrace ts
  let (properties, ts) ← properties ts.length ts
  let (closing, ts) ← expect .rightBrace .propertyOrEnd ts
  let start := root.getD kind.span
  return (⟨root, kind, name, opening, properties, start.union closing⟩, ts)

end Parser

structure SyntaxError where
  expected : Expected
  /-- The tokens from the unexpected one on. -/
  rest : Parser.Tokens
  /-- The first token after the kind of the declaration being read, if it was read. -/
  within : Option (Located Token)
  deriving DecidableEq, Repr

namespace Parser

/-- Reads a declaration after its kind; a failure behind its first token tells where it began. -/
def body (root : Option Span) (kind : Located Kind) (ts : Tokens) :
    Except SyntaxError (Declaration × Tokens) :=
  match declarationBody root kind ts with
  | .ok result => .ok result
  | .error f => .error ⟨f.expected, f.rest, if f.rest.length < ts.length then ts.head? else none⟩

def takesRoot (k : Kind) : Bool := k == .element || k == .object

def declarations : Nat → Tokens → Except SyntaxError (List Declaration)
  | _, [] => .ok []
  | 0, ts => .error ⟨.declaration, ts, none⟩
  | fuel + 1, ⟨.root, root⟩ :: ts =>
    match ts with
    | ⟨.kind k, span⟩ :: rest =>
      if takesRoot k then do
        let (d, rest) ← body (some root) ⟨k, span⟩ rest
        return d :: (← declarations fuel rest)
      else .error ⟨.rootKind, ts, none⟩
    | ts => .error ⟨.rootKind, ts, none⟩
  | fuel + 1, ⟨.kind k, span⟩ :: ts => do
    let (d, rest) ← body none ⟨k, span⟩ ts
    return d :: (← declarations fuel rest)
  | _ + 1, ts => .error ⟨.declaration, ts, none⟩

end Parser

def parseDeclarations (tokens : List (Located Token)) : Except SyntaxError (List Declaration) :=
  Parser.declarations tokens.length tokens

namespace SyntaxError

def endOf (tokens : List (Located Token)) : Nat :=
  match tokens.getLast? with
  | some t => t.span.stop
  | none => 0

def code (e : SyntaxError) : Code :=
  if e.rest.isEmpty then .incompleteInput else .unexpectedToken

def diagnostic (tokens : List (Located Token)) (e : SyntaxError) : Diagnostic :=
  let within := match e.within with
    | some t => [Label.related t.span "while parsing this"]
    | none => []
  match e.rest with
  | t :: _ =>
    .error e.code s!"expected {e.expected.text}, found `{t.value.text}`"
      (.main t.span "unexpected token" :: within) none
  | [] =>
    .error e.code s!"expected {e.expected.text}, found end of input"
      (.main (.point (endOf tokens)) "input ends here" :: within)
      (some "a declaration is incomplete; check for a missing `;` or `\x7d`")

end SyntaxError

end DocSchema
