import DocSchema.Unicode.Range

/-!
# Pieces of a pattern

The parts of a pattern text, from left to right: characters and escapes, character classes,
repetitions, brackets of groups, bars. Each piece keeps how it was written, as far as that tells
constructs apart.
-/
namespace DocSchema.Pattern

inductive ShortClass where
  | digit
  | space
  | word
  deriving DecidableEq, Repr

inductive PropertyQuery where
  /-- One letter without braces. -/
  | letter (c : Char)
  /-- A name in braces. -/
  | name (text : List Char)
  /-- A property and a value in braces; with `!=` those without the value. -/
  | value (property value : List Char) (equal : Bool)
  deriving DecidableEq, Repr

/-- Conditions on a place between characters. -/
inductive Assertion where
  | lineStart
  | lineEnd
  | textStart
  | textEnd
  | boundary
  | notBoundary
  | wordStart
  | wordEnd
  | wordStartHalf
  | wordEndHalf
  deriving DecidableEq, Repr

inductive Meaning where
  | character (c : Char)
  /-- A character given by exactly two hexadecimal digits. -/
  | byte (c : Char)
  | short (short : ShortClass) (negated : Bool)
  | property (query : PropertyQuery) (negated : Bool)
  | assertion (a : Assertion)
  deriving DecidableEq, Repr

/-- One character as written, or an escape with the letter after the backslash. -/
inductive Atom where
  | verbatim (c : Char)
  | escape (letter : Char) (meaning : Meaning)
  deriving DecidableEq, Repr

def Atom.character? : Atom → Option Char
  | .verbatim c => some c
  | .escape _ (.character c) => some c
  | .escape _ (.byte c) => some c
  | _ => none

inductive ClassOp where
  | intersection
  | difference
  | symmetricDifference
  deriving DecidableEq, Repr

inductive ClassTree where
  | empty
  | item (atom : Atom)
  | range (first last : Atom)
  /-- A class such as `[:alpha:]`. -/
  | named (ranges : List Unicode.CodeRange) (negated : Bool)
  | bracketed (negated : Bool) (inner : ClassTree)
  | union (items : List ClassTree)
  | binary (op : ClassOp) (left right : ClassTree)
  deriving Repr

inductive Flag where
  | ignoreCase
  | multiLine
  | dotAll
  | swapGreed
  | unicode
  | crlf
  | ignoreBlanks
  deriving DecidableEq, Repr

def Flag.ofChar? : Char → Option Flag
  | 'i' => some .ignoreCase
  | 'm' => some .multiLine
  | 's' => some .dotAll
  | 'U' => some .swapGreed
  | 'u' => some .unicode
  | 'R' => some .crlf
  | 'x' => some .ignoreBlanks
  | _ => none

structure FlagChange where
  on : List Flag
  off : List Flag
  deriving DecidableEq, Repr

/-- The new state of a flag whose state was `old`. -/
def FlagChange.state (change : FlagChange) (flag : Flag) (old : Bool) : Bool :=
  if flag ∈ change.on then true else if flag ∈ change.off then false else old

inductive GroupKind where
  | plain
  | named (name : String)
  | flagged (change : FlagChange)
  deriving DecidableEq, Repr

inductive Piece where
  | atom (atom : Atom)
  /-- An unescaped dot. -/
  | dot
  /-- An unescaped `^` or `$`. -/
  | anchor (a : Assertion)
  | charClass (negated : Bool) (inner : ClassTree)
  | opening (kind : GroupKind)
  | closing
  /-- Flags for the rest of the group. -/
  | flags (change : FlagChange)
  | bar
  | repetition (min : Nat) (max : Option Nat) (lazy : Bool)
  deriving Repr

end DocSchema.Pattern
