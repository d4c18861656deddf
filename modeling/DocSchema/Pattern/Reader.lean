import DocSchema.Span
import DocSchema.Number.Integer
import DocSchema.Pattern.Fault
import DocSchema.Pattern.Piece
import DocSchema.Unicode.Alphabetic
import DocSchema.Unicode.Blank
import DocSchema.Unicode.Numeric

/-!
# From text to pieces

A pattern is read from left to right without looking back. With the flag `x` blanks between pieces
are skipped, and so is a comment from `#` to the end of the line; the argument `spaced` tells
whether the flag is on.
-/
namespace DocSchema.Pattern

/-- Skips blanks and comments; `inComment` while the line of a `#` lasts. -/
def skipAux : Bool → List Char → List Char
  | _, [] => []
  | true, c :: cs => skipAux (c != '\n') cs
  | false, c :: cs =>
    if c == '#' then skipAux true cs else if Unicode.isBlank c then skipAux false cs else c :: cs

def skip (spaced : Bool) (cs : List Char) : List Char := if spaced then skipAux false cs else cs

def bracedAux (spaced : Bool) : Bool → List Char → Option (List Char × List Char)
  | _, [] => none
  | true, c :: cs => bracedAux spaced (c != '\n') cs
  | false, c :: cs =>
    if spaced && c == '#' then bracedAux spaced true cs
    else if spaced && Unicode.isBlank c then bracedAux spaced false cs
    else if c == '\x7d' then some ([], cs)
    else (bracedAux spaced false cs).map fun (inner, rest) => (c :: inner, rest)

def braced (spaced : Bool) (cs : List Char) : Option (List Char × List Char) :=
  bracedAux spaced false cs

def leadingAux (spaced : Bool) (p : Char → Bool) : Bool → List Char → List Char × List Char
  | _, [] => ([], [])
  | true, c :: cs => leadingAux spaced p (c != '\n') cs
  | false, c :: cs =>
    if p c then
      let (taken, rest) := leadingAux spaced p false cs
      (c :: taken, rest)
    else if spaced && c == '#' then leadingAux spaced p true cs
    else if spaced && Unicode.isBlank c then leadingAux spaced p false cs
    else ([], c :: cs)

def leading (spaced : Bool) (p : Char → Bool) (cs : List Char) : List Char × List Char :=
  leadingAux spaced p false cs

def hexDigit? (c : Char) : Option Nat :=
  if c.isDigit then some (c.toNat - '0'.toNat)
  else if 'a' ≤ c && c ≤ 'f' then some (c.toNat - 'a'.toNat + 10)
  else if 'A' ≤ c && c ≤ 'F' then some (c.toNat - 'A'.toNat + 10)
  else none

def codeChar? (digits : List Char) : Option Char := do
  let values ← digits.mapM hexDigit?
  if values.isEmpty then none
  let code := values.foldl (fun n d => 16 * n + d) 0
  if h : code.isValidChar then some (Char.ofNatAux code h) else none

def hexDigits (spaced : Bool) : Nat → List Char → Except Fault (List Char × List Char)
  | 0, cs => .ok ([], cs)
  | _ + 1, [] => .error .escapeEnd
  | count + 1, c :: cs =>
    if (hexDigit? c).isSome then do
      let (digits, rest) ← hexDigits spaced count (skip spaced cs)
      return (c :: digits, rest)
    else .error .hexadecimal

def hexWidth (letter : Char) : Nat :=
  if letter == 'x' then 2 else if letter == 'u' then 4 else 8

def readHex (spaced : Bool) (letter : Char) (cs : List Char) :
    Except Fault (Meaning × List Char) := do
  match skip spaced cs with
  | '\x7b' :: cs =>
    match braced spaced cs with
    | none => throw .escapeEnd
    | some (digits, rest) =>
      match codeChar? digits with
      | some c => return (.character c, rest)
      | none => throw .hexadecimal
  | cs =>
    let (digits, rest) ← hexDigits spaced (hexWidth letter) cs
    match codeChar? digits with
    | some c => return (if letter == 'x' then .byte c else .character c, rest)
    | none => throw .hexadecimal

def cutAt (mark : List Char) : List Char → Option (List Char × List Char)
  | [] => none
  | c :: cs =>
    if mark.isPrefixOf (c :: cs) then some ([], (c :: cs).drop mark.length)
    else (cutAt mark cs).map fun (before, after) => (c :: before, after)

def PropertyQuery.ofBraced (text : List Char) : PropertyQuery :=
  match cutAt ['!', '='] text with
  | some (before, after) => .value before after false
  | none =>
    match (cutAt [':'] text).orElse fun _ => cutAt ['='] text with
    | some (before, after) => .value before after true
    | none => .name text

def readProperty (spaced : Bool) (cs : List Char) : Except Fault (PropertyQuery × List Char) :=
  match skip spaced cs with
  | [] => .error .escapeEnd
  | '\x7b' :: cs =>
    match braced spaced cs with
    | none => .error .escapeEnd
    | some (text, rest) => .ok (.ofBraced text, rest)
  | '\\' :: _ => .error .escapeUnknown
  | c :: rest => .ok (.letter c, rest)

def isMeta (c : Char) : Bool :=
  c ∈ ['\\', '.', '+', '*', '?', '(', ')', '|', '[', ']', '\x7b', '\x7d', '^', '$', '#', '&', '-',
    '~']

def isEscapable (c : Char) : Bool :=
  isMeta c || (c.toNat < 128 && !c.isAlphanum && c != '<' && c != '>')

def control? : Char → Option Char
  | 'a' => some '\x07'
  | 'f' => some '\x0c'
  | 't' => some '\t'
  | 'n' => some '\n'
  | 'r' => some '\r'
  | 'v' => some '\x0b'
  | _ => none

def assertion? : Char → Option Assertion
  | 'A' => some .textStart
  | 'z' => some .textEnd
  | 'B' => some .notBoundary
  | '<' => some .wordStart
  | '>' => some .wordEnd
  | _ => none

def short? : Char → Option Meaning
  | 'd' => some (.short .digit false)
  | 's' => some (.short .space false)
  | 'w' => some (.short .word false)
  | 'D' => some (.short .digit true)
  | 'S' => some (.short .space true)
  | 'W' => some (.short .word true)
  | _ => none

def specialBoundary? (name : String) : Option Assertion :=
  if name == "start" then some .wordStart
  else if name == "end" then some .wordEnd
  else if name == "start-half" then some .wordStartHalf
  else if name == "end-half" then some .wordEndHalf
  else none

def isBoundaryChar (c : Char) : Bool := c.isAlpha || c == '-'

/-- What follows `\b`: the name of a boundary in braces, or nothing of its own. A brace that starts
otherwise is a repetition. -/
def readBoundary (spaced : Bool) (cs : List Char) : Except Fault (Assertion × List Char) :=
  match cs with
  | '\x7b' :: inner =>
    match skip spaced inner with
    | [] => .error .wordBoundary
    | c :: rest =>
      if isBoundaryChar c then
        match leading spaced isBoundaryChar (c :: rest) with
        | (name, '\x7d' :: rest) =>
          match specialBoundary? (String.ofList name) with
          | some a => .ok (a, rest)
          | none => .error .wordBoundary
        | _ => .error .wordBoundary
      else .ok (.boundary, cs)
  | _ => .ok (.boundary, cs)

def readEscape (spaced : Bool) : List Char → Except Fault (Atom × List Char)
  | [] => .error .escapeEnd
  | c :: cs =>
    if c.isDigit then .error .backreference
    else if c == 'x' || c == 'u' || c == 'U' then do
      let (meaning, rest) ← readHex spaced c cs
      return (.escape c meaning, rest)
    else if c == 'p' || c == 'P' then do
      let (query, rest) ← readProperty spaced cs
      return (.escape c (.property query (c == 'P')), rest)
    else if c == 'b' then do
      let (a, rest) ← readBoundary spaced cs
      return (.escape c (.assertion a), rest)
    else if isEscapable c then .ok (.escape c (.character c), cs)
    else
      match short? c, control? c, assertion? c with
      | some meaning, _, _ => .ok (.escape c meaning, cs)
      | _, some d, _ => .ok (.escape c (.character d), cs)
      | _, _, some a => .ok (.escape c (.assertion a), cs)
      | _, _, _ => .error .escapeUnknown

/-! ## Classes -/

def namedClass? (name : String) : Option String :=
  [("alnum", "30-39 41-5A 61-7A"), ("alpha", "41-5A 61-7A"), ("ascii", "0-7F"), ("blank", "9 20"),
    ("cntrl", "0-1F 7F"), ("digit", "30-39"), ("graph", "21-7E"), ("lower", "61-7A"),
    ("print", "20-7E"), ("punct", "21-2F 3A-40 5B-60 7B-7E"), ("space", "9-D 20"),
    ("upper", "41-5A"), ("word", "30-39 41-5A 5F 61-7A"),
    ("xdigit", "30-39 41-46 61-66")].lookup name

def readName? (negated : Bool) (cs : List Char) : Option (ClassTree × List Char) :=
  match cs.dropWhile (· != ':') with
  | ':' :: ']' :: rest =>
    (namedClass? (String.ofList (cs.takeWhile (· != ':')))).map fun ranges =>
      (.named (Unicode.readRanges ranges) negated, rest)
  | _ => none

def readNamed? : List Char → Option (ClassTree × List Char)
  | ':' :: '^' :: cs => readName? true cs
  | ':' :: cs => readName? false cs
  | _ => none

structure OpenClass where
  negated : Bool
  /-- The left side of an operation whose right side is being read. -/
  left : Option (ClassOp × ClassTree)
  /-- The items read so far, the last one first. -/
  items : List ClassTree

namespace OpenClass

def push (c : OpenClass) (item : ClassTree) : OpenClass := { c with items := item :: c.items }

def tree (c : OpenClass) : ClassTree :=
  let right :=
    match c.items with
    | [] => .empty
    | [item] => item
    | items => .union items.reverse
  match c.left with
  | some (op, left) => .binary op left right
  | none => right

/-- All that has been read becomes the left side of an operation. -/
def operate (c : OpenClass) (op : ClassOp) : OpenClass := ⟨c.negated, some (op, c.tree), []⟩

end OpenClass

/-- Reads what has a meaning of its own at the start of a class: leading hyphens, or a closing
bracket that stands for itself. -/
def openItems (spaced negated : Bool) (cs : List Char) : Except Fault (OpenClass × List Char) :=
  match leading spaced (· == '-') cs with
  | (_, []) => .error .classUnclosed
  | ([], ']' :: rest) => .ok (⟨negated, none, [.item (.verbatim ']')]⟩, rest)
  | (hyphens, rest) => .ok (⟨negated, none, hyphens.map fun c => .item (.verbatim c)⟩, rest)

def openClass (spaced : Bool) (cs : List Char) : Except Fault (OpenClass × List Char) :=
  match skip spaced cs with
  | '^' :: cs => openItems spaced true (skip spaced cs)
  | cs => openItems spaced false cs

def readClassAtom (spaced : Bool) : List Char → Except Fault (Atom × List Char)
  | [] => .error .classUnclosed
  | '\\' :: cs => readEscape spaced cs
  | c :: cs => .ok (.verbatim c, cs)

/-- An atom as an item of a class. Conditions on places are none. -/
def classItem (atom : Atom) : Except Fault ClassTree :=
  match atom with
  | .escape _ (.assertion _) => .error .classEscape
  | _ => .ok (.item atom)

def classRange (first last : Atom) : Except Fault ClassTree :=
  match first.character?, last.character? with
  | some a, some b => if a ≤ b then .ok (.range first last) else .error .classRange
  | _, _ => .error .classRange

/-- An item or a range. A hyphen before a closing bracket or another hyphen makes no range. -/
def readClassItem (spaced : Bool) (cs : List Char) : Except Fault (ClassTree × List Char) := do
  let (first, rest) ← readClassAtom spaced cs
  match skip spaced rest with
  | [] => throw .classUnclosed
  | '-' :: after =>
    match skip spaced after with
    | ']' :: _ => return (← classItem first, '-' :: after)
    | '-' :: _ => return (← classItem first, '-' :: after)
    | after =>
      let (last, rest) ← readClassAtom spaced after
      return (← classRange first last, rest)
  | rest => return (← classItem first, rest)

/-- Reads up to the closing bracket of the outermost class. Every step takes a character. -/
def readClassAux (spaced : Bool) :
    Nat → List OpenClass → OpenClass → List Char → Except Fault (OpenClass × List Char)
  | 0, _, _, _ => .error .classUnclosed
  | fuel + 1, outer, current, cs =>
    match skip spaced cs with
    | [] => .error .classUnclosed
    | '[' :: cs =>
      match readNamed? cs with
      | some (item, rest) => readClassAux spaced fuel outer (current.push item) rest
      | none => do
        let (inner, rest) ← openClass spaced cs
        readClassAux spaced fuel (current :: outer) inner rest
    | ']' :: cs =>
      match outer with
      | [] => .ok (current, cs)
      | parent :: outer =>
        readClassAux spaced fuel outer (parent.push (.bracketed current.negated current.tree)) cs
    | '&' :: '&' :: cs => readClassAux spaced fuel outer (current.operate .intersection) cs
    | '-' :: '-' :: cs => readClassAux spaced fuel outer (current.operate .difference) cs
    | '~' :: '~' :: cs => readClassAux spaced fuel outer (current.operate .symmetricDifference) cs
    | cs => do
      let (item, rest) ← readClassItem spaced cs
      readClassAux spaced fuel outer (current.push item) rest

def readClass (spaced : Bool) (cs : List Char) : Except Fault (Piece × List Char) := do
  let (start, rest) ← openClass spaced cs
  let (read, rest) ← readClassAux spaced (rest.length + 1) [] start rest
  return (.charClass read.negated read.tree, rest)

/-! ## Repetitions -/

def maxRepetition : Nat := 4294967295

def readCount (spaced : Bool) (cs : List Char) : Except Fault (Nat × List Char) :=
  let (digits, rest) := leading spaced (·.isDigit) (cs.dropWhile Unicode.isBlank)
  if digits.isEmpty || maxRepetition < Number.digitsValue digits then .error .repetitionCount
  else .ok (Number.digitsValue digits, skip spaced (rest.dropWhile Unicode.isBlank))

def readLazy (cs : List Char) : Bool × List Char :=
  match cs with
  | '?' :: rest => (true, rest)
  | _ => (false, cs)

def readCounted (spaced : Bool) (cs : List Char) : Except Fault (Piece × List Char) := do
  let (first, rest) ← readCount spaced (skip spaced cs)
  let (max, rest) ←
    match rest with
    | ',' :: rest =>
      match skip spaced rest with
      | '\x7d' :: rest => pure (none, '\x7d' :: rest)
      | rest => do
        let (last, rest) ← readCount spaced rest
        pure (some last, rest)
    | rest => pure (some first, rest)
  match rest with
  | '\x7d' :: rest =>
    let (lazy, rest) := readLazy (skip spaced rest)
    match max with
    | some last => if last < first then throw .repetitionCount
    | none => pure ()
    return (.repetition first max lazy, rest)
  | _ => throw .repetitionUnclosed

/-! ## Groups -/

/-- Reads flags up to a colon or a closing parenthesis, which is returned with the rest. -/
def readFlags (negated lastNegated : Bool) (change : FlagChange) :
    List Char → Except Fault (FlagChange × List Char)
  | [] => .error .flag
  | c :: cs =>
    if c == ':' || c == ')' then
      if lastNegated then .error .flagNegation else .ok (change, c :: cs)
    else if c == '-' then
      if negated then .error .flagNegation else readFlags true true change cs
    else
      match Flag.ofChar? c with
      | none => .error .flag
      | some flag =>
        if flag ∈ change.on || flag ∈ change.off then .error .flagTwice
        else if negated then readFlags negated false { change with off := flag :: change.off } cs
        else readFlags negated false { change with on := flag :: change.on } cs

def isNameStart (c : Char) : Bool := c == '_' || Unicode.isAlphabetic c

def isNameChar (c : Char) : Bool :=
  c == '_' || c == '.' || c == '[' || c == ']' || Unicode.isAlphabetic c || Unicode.isNumeric c

def isGroupName : List Char → Bool
  | [] => false
  | c :: cs => isNameStart c && cs.all isNameChar

def readGroupName (names : List String) (cs : List Char) : Except Fault (String × List Char) :=
  let name := cs.takeWhile (· != '>')
  match cs.dropWhile (· != '>') with
  | [] => .error .groupName
  | _ :: rest =>
    if !isGroupName name then .error .groupName
    else if String.ofList name ∈ names then .error .groupNameTwice
    else .ok (String.ofList name, rest)

def readGroup (spaced : Bool) (names : List String) (cs : List Char) :
    Except Fault (Piece × List Char) :=
  match skip spaced cs with
  | '?' :: '=' :: _ => .error .lookAround
  | '?' :: '!' :: _ => .error .lookAround
  | '?' :: '<' :: '=' :: _ => .error .lookAround
  | '?' :: '<' :: '!' :: _ => .error .lookAround
  | '?' :: 'P' :: '<' :: cs => do
    let (name, rest) ← readGroupName names cs
    return (.opening (.named name), rest)
  | '?' :: '<' :: cs => do
    let (name, rest) ← readGroupName names cs
    return (.opening (.named name), rest)
  | '?' :: cs => do
    let (change, rest) ← readFlags false false ⟨[], []⟩ cs
    match rest with
    | ':' :: rest => return (.opening (.flagged change), rest)
    | rest => if change == ⟨[], []⟩ then throw .flagsEmpty else return (.flags change, rest.drop 1)
  | cs => .ok (.opening .plain, cs)

/-! ## The whole pattern -/

structure ReaderState where
  spaced : Bool
  /-- The state of the flag `x` around each open group. -/
  outer : List Bool
  names : List String

namespace ReaderState

def start : ReaderState := ⟨false, [], []⟩

def after (s : ReaderState) : Piece → ReaderState
  | .opening (.named name) => ⟨s.spaced, s.spaced :: s.outer, name :: s.names⟩
  | .opening (.flagged change) =>
    ⟨change.state .ignoreBlanks s.spaced, s.spaced :: s.outer, s.names⟩
  | .opening .plain => ⟨s.spaced, s.spaced :: s.outer, s.names⟩
  | .flags change => { s with spaced := change.state .ignoreBlanks s.spaced }
  | .closing =>
    match s.outer with
    | spaced :: outer => ⟨spaced, outer, s.names⟩
    | [] => s
  | _ => s

end ReaderState

def readPiece (s : ReaderState) (c : Char) (cs : List Char) : Except Fault (Piece × List Char) :=
  match c with
  | '(' => readGroup s.spaced s.names cs
  | ')' => .ok (.closing, cs)
  | '|' => .ok (.bar, cs)
  | '[' => readClass s.spaced cs
  | '?' => let (lazy, rest) := readLazy cs; .ok (.repetition 0 (some 1) lazy, rest)
  | '*' => let (lazy, rest) := readLazy cs; .ok (.repetition 0 none lazy, rest)
  | '+' => let (lazy, rest) := readLazy cs; .ok (.repetition 1 none lazy, rest)
  | '\x7b' => readCounted s.spaced cs
  | '\\' => do
    let (atom, rest) ← readEscape s.spaced cs
    return (.atom atom, rest)
  | '.' => .ok (.dot, cs)
  | '^' => .ok (.anchor .lineStart, cs)
  | '$' => .ok (.anchor .lineEnd, cs)
  | c => .ok (.atom (.verbatim c), cs)

/-- Reads pieces from a byte offset. Every piece takes a character. -/
def readPiecesAux : Nat → ReaderState → Nat → List Char → Except Fault (List (Located Piece))
  | 0, _, _, _ => .ok []
  | fuel + 1, s, offset, cs =>
    let start := skip s.spaced cs
    match start with
    | [] => .ok []
    | c :: after => do
      let (piece, rest) ← readPiece s c after
      let first := offset + (byteSize cs - byteSize start)
      let last := offset + (byteSize cs - byteSize rest)
      let pieces ← readPiecesAux fuel (s.after piece) last rest
      return ⟨piece, ⟨first, last⟩⟩ :: pieces

def readPieces (text : List Char) : Except Fault (List (Located Piece)) :=
  readPiecesAux text.length .start 0 text

end DocSchema.Pattern
