import DocSchema.Number.Integer
import DocSchema.Toml.Table

/-!
# Reading a settings text

One line holds a table header or a key with its value. Values are strings, numbers, truth values,
dates, arrays and inline tables. A value may go on over several lines if it is a string between
three quotes, an array or an inline table.
-/
namespace DocSchema.Toml

def isGap (c : Char) : Bool := c == ' ' || c == '\t'

def skipGaps (cs : List Char) : List Char := cs.dropWhile isGap

def isPlain (c : Char) : Bool := c == '\t' || (0x20 ≤ c.toNat && c.toNat != 0x7F)

def skipComment (cs : List Char) : List Char :=
  match cs with
  | '#' :: cs => cs.dropWhile isPlain
  | cs => cs

def lineEnd (cs : List Char) : Except Fault (List Char) :=
  match skipComment (skipGaps cs) with
  | [] => .ok []
  | '\n' :: cs => .ok cs
  | '\r' :: '\n' :: cs => .ok cs
  | _ => .error .lineEnd

/-- Skips gaps, comments and line ends; `fuel` bounds the number of lines. -/
def skipLines : Nat → List Char → List Char
  | 0, cs => cs
  | fuel + 1, cs =>
    match skipComment (skipGaps cs) with
    | '\n' :: cs => skipLines fuel cs
    | '\r' :: '\n' :: cs => skipLines fuel cs
    | _ => skipGaps cs

def hexDigit? (c : Char) : Option Nat :=
  if c.isDigit then some (c.toNat - '0'.toNat)
  else if 'a' ≤ c && c ≤ 'f' then some (c.toNat - 'a'.toNat + 10)
  else if 'A' ≤ c && c ≤ 'F' then some (c.toNat - 'A'.toNat + 10)
  else none

def codeChar? (digits : List Char) : Option Char := do
  let values ← digits.mapM hexDigit?
  let code := values.foldl (fun n d => 16 * n + d) 0
  if h : code.isValidChar then some (Char.ofNatAux code h) else none

def escaped? : Char → Option Char
  | 'b' => some '\x08'
  | 't' => some '\t'
  | 'n' => some '\n'
  | 'f' => some '\x0c'
  | 'r' => some '\r'
  | 'e' => some '\x1b'
  | '"' => some '"'
  | '\\' => some '\\'
  | _ => none

def codeWidth? : Char → Option Nat
  | 'x' => some 2
  | 'u' => some 4
  | 'U' => some 8
  | _ => none

def readEscape : List Char → Except Fault (Char × List Char)
  | [] => .error .string
  | letter :: cs =>
    match escaped? letter, codeWidth? letter with
    | some c, _ => .ok (c, cs)
    | none, some width => do
      if cs.length < width then throw .string
      let some c := codeChar? (cs.take width) | throw .string
      return (c, cs.drop width)
    | none, none => .error .string

/-- A string between double quotes, after the opening one. Every step takes a character. -/
def basicString : Nat → List Char → Except Fault (List Char × List Char)
  | 0, _ => .error .string
  | fuel + 1, cs =>
    match cs with
    | [] => .error .string
    | '"' :: cs => .ok ([], cs)
    | '\\' :: cs => do
      let (c, rest) ← readEscape cs
      let (text, rest) ← basicString fuel rest
      return (c :: text, rest)
    | c :: cs => do
      if !isPlain c then throw .string
      let (text, rest) ← basicString fuel cs
      return (c :: text, rest)

def literalString (cs : List Char) : Except Fault (List Char × List Char) :=
  match cs.dropWhile fun c => isPlain c && c != '\'' with
  | '\'' :: rest => .ok (cs.takeWhile fun c => isPlain c && c != '\'', rest)
  | _ => .error .string

/-! ### Strings of several lines -/

def skipLineEnd (cs : List Char) : List Char :=
  match cs with
  | '\n' :: cs => cs
  | '\r' :: '\n' :: cs => cs
  | cs => cs

def skipBlankLines : Nat → List Char → List Char
  | 0, cs => cs
  | fuel + 1, cs =>
    match skipGaps cs with
    | '\n' :: cs => skipBlankLines fuel cs
    | '\r' :: '\n' :: cs => skipBlankLines fuel cs
    | cs => cs

/-- The text after a backslash at the end of a line, from the next character that is not blank. -/
def continued? (cs : List Char) : Option (List Char) :=
  match skipGaps cs with
  | '\n' :: cs => some (skipBlankLines (cs.length + 1) cs)
  | '\r' :: '\n' :: cs => some (skipBlankLines (cs.length + 1) cs)
  | _ => none

/-- The end of a string at three quotes. Up to two quotes before them belong to the string. -/
def closing? (quote : Char) (cs : List Char) : Option (List Char × List Char) :=
  match cs.takeWhile (· == quote) with
  | _ :: _ :: _ :: extra => some (extra.take 2, cs.drop (3 + (extra.take 2).length))
  | _ => none

def longBasicString : Nat → List Char → Except Fault (List Char × List Char)
  | 0, _ => .error .string
  | fuel + 1, cs =>
    match closing? '"' cs with
    | some (text, rest) => .ok (text, rest)
    | none =>
      match cs with
      | [] => .error .string
      | '\\' :: cs =>
        match continued? cs with
        | some rest => longBasicString fuel rest
        | none => do
          let (c, rest) ← readEscape cs
          let (text, rest) ← longBasicString fuel rest
          return (c :: text, rest)
      | '\r' :: '\n' :: cs => do
        let (text, rest) ← longBasicString fuel cs
        return ('\r' :: '\n' :: text, rest)
      | c :: cs => do
        if !isPlain c && c != '\n' then throw .string
        let (text, rest) ← longBasicString fuel cs
        return (c :: text, rest)

def longLiteralString : Nat → List Char → Except Fault (List Char × List Char)
  | 0, _ => .error .string
  | fuel + 1, cs =>
    match closing? '\'' cs with
    | some (text, rest) => .ok (text, rest)
    | none =>
      match cs with
      | [] => .error .string
      | '\r' :: '\n' :: cs => do
        let (text, rest) ← longLiteralString fuel cs
        return ('\r' :: '\n' :: text, rest)
      | c :: cs => do
        if !isPlain c && c != '\n' then throw .string
        let (text, rest) ← longLiteralString fuel cs
        return (c :: text, rest)

def readString? (cs : List Char) : Option (Except Fault (List Char × List Char)) :=
  match cs with
  | '"' :: '"' :: '"' :: cs => some (longBasicString (cs.length + 1) (skipLineEnd cs))
  | '\'' :: '\'' :: '\'' :: cs => some (longLiteralString (cs.length + 1) (skipLineEnd cs))
  | '"' :: cs => some (basicString (cs.length + 1) cs)
  | '\'' :: cs => some (literalString cs)
  | _ => none

/-! ### Keys -/

def isBareKey (c : Char) : Bool := c.isAlphanum || c == '_' || c == '-'

def keyPart : List Char → Except Fault (String × List Char)
  | '"' :: cs => do
    let (text, rest) ← basicString (cs.length + 1) cs
    return (String.ofList text, rest)
  | '\'' :: cs => do
    let (text, rest) ← literalString cs
    return (String.ofList text, rest)
  | cs =>
    match cs.takeWhile isBareKey with
    | [] => .error .key
    | name => .ok (String.ofList name, cs.dropWhile isBareKey)

def keyPath : Nat → List Char → Except Fault (List String × List Char)
  | 0, _ => .error .key
  | fuel + 1, cs => do
    let (part, rest) ← keyPart (skipGaps cs)
    match skipGaps rest with
    | '.' :: rest => do
      let (parts, rest) ← keyPath fuel rest
      return (part :: parts, rest)
    | rest => return ([part], rest)

/-! ## Numbers -/

/-- Digits that satisfy `p`, with single underscores between them. -/
def groupedDigits? (p : Char → Bool) (cs : List Char) : Option (List Char) :=
  let groups := (String.ofList cs).splitOn "_"
  if groups.all fun group => !group.isEmpty && group.toList.all p then
    some (cs.filter (· != '_'))
  else none

def decimalDigits? (cs : List Char) : Option (List Char) := do
  let digits ← groupedDigits? Char.isDigit cs
  if digits.head? == some '0' && 1 < digits.length then none else some digits

def radixValue (radix : Nat) (digits : List Char) : Nat :=
  digits.foldl (fun n c => radix * n + (hexDigit? c).getD 0) 0

def isBinaryDigit (c : Char) : Bool := c == '0' || c == '1'

def isOctalDigit (c : Char) : Bool := '0' ≤ c && c ≤ '7'

def isHexDigit (c : Char) : Bool := (hexDigit? c).isSome

def splitSign (cs : List Char) : List Char × List Char :=
  match cs with
  | '+' :: rest => (['+'], rest)
  | '-' :: rest => (['-'], rest)
  | _ => ([], cs)

/-- Keeps an integer that fits in 128 bits with or without a sign. -/
def int128? (n : Int) : Option Int :=
  if -Int.pow 2 127 ≤ n ∧ n < Int.pow 2 128 then some n else none

def integer? (cs : List Char) : Option Int :=
  match cs with
  | '0' :: 'x' :: digits =>
    (groupedDigits? isHexDigit digits).bind fun ds => int128? (radixValue 16 ds)
  | '0' :: 'o' :: digits =>
    (groupedDigits? isOctalDigit digits).bind fun ds => int128? (radixValue 8 ds)
  | '0' :: 'b' :: digits =>
    (groupedDigits? isBinaryDigit digits).bind fun ds => int128? (radixValue 2 ds)
  | cs => do
    let (sign, digits) := splitSign cs
    let value : Int := Number.digitsValue (← decimalDigits? digits)
    int128? (if sign == ['-'] then -value else value)

def isFloatTail (cs : List Char) : Bool :=
  let fraction := match cs with
    | '.' :: rest =>
      let digits := rest.takeWhile fun c => c != 'e' && c != 'E'
      (groupedDigits? Char.isDigit digits).isSome
    | _ => true
  let exponent := match cs.dropWhile fun c => c != 'e' && c != 'E' with
    | _ :: rest => (groupedDigits? Char.isDigit (splitSign rest).2).isSome
    | [] => true
  fraction && exponent && !cs.isEmpty

def double? (cs : List Char) : Option Number.Binary64 := do
  let (sign, body) := splitSign cs
  let whole ← decimalDigits? (body.takeWhile fun c => c.isDigit || c == '_')
  let tail := body.dropWhile fun c => c.isDigit || c == '_'
  if isFloatTail tail then Number.Binary64.read? (sign ++ whole ++ tail.filter (· != '_')) else none

def isNotFinite (cs : List Char) : Bool :=
  let body := (splitSign cs).2
  body == "inf".toList || body == "nan".toList

/-! ## Dates and times -/

def fixedDigits? (count : Nat) (cs : List Char) : Option (Nat × List Char) :=
  if count ≤ cs.length && (cs.take count).all Char.isDigit then
    some (Number.digitsValue (cs.take count), cs.drop count)
  else none

def expectChar? (c : Char) : List Char → Option (List Char)
  | d :: cs => if c == d then some cs else none
  | [] => none

def daysIn (year month : Nat) : Nat :=
  if month == 2 then
    if year % 4 == 0 && (year % 100 != 0 || year % 400 == 0) then 29 else 28
  else if month ∈ [4, 6, 9, 11] then 30
  else 31

def date? (cs : List Char) : Option (List Char) := do
  let (year, cs) ← fixedDigits? 4 cs
  let (month, cs) ← fixedDigits? 2 (← expectChar? '-' cs)
  let (day, cs) ← fixedDigits? 2 (← expectChar? '-' cs)
  if 1 ≤ month && month ≤ 12 && 1 ≤ day && day ≤ daysIn year month then some cs else none

def clock? (cs : List Char) : Option (List Char) := do
  let (hour, cs) ← fixedDigits? 2 cs
  let (minute, cs) ← fixedDigits? 2 (← expectChar? ':' cs)
  if hour ≤ 23 && minute ≤ 59 then some cs else none

def fraction? (cs : List Char) : Option (List Char) :=
  match cs with
  | '.' :: rest => if (rest.takeWhile Char.isDigit).isEmpty then none
    else some (rest.dropWhile Char.isDigit)
  | cs => some cs

/-- The text after a time. Seconds may be left out. -/
def time? (cs : List Char) : Option (List Char) := do
  let cs ← clock? cs
  match cs with
  | ':' :: cs =>
    let (second, cs) ← fixedDigits? 2 cs
    if second ≤ 60 then fraction? cs else none
  | cs => some cs

def isOffset (cs : List Char) : Bool :=
  match cs with
  | [] => true
  | ['Z'] => true
  | ['z'] => true
  | c :: cs => (c == '+' || c == '-') && clock? cs == some []

def isMoment (cs : List Char) : Bool :=
  match date? cs with
  | some [] => true
  | some (c :: rest) => (c == 'T' || c == 't' || c == ' ') && (time? rest).any isOffset
  | none => time? cs == some []

/-! ## Words -/

/-- What stands for a number that is not finite. No setting takes a number of this kind. -/
def notFinite : Json := .double (.zero false)

/-- What stands for a date or a time. As a section it gives no setting. -/
def moment : Json := .object []

def scalar? (cs : List Char) : Option Json :=
  if cs == "true".toList then some (.bool true)
  else if cs == "false".toList then some (.bool false)
  else if isNotFinite cs then some notFinite
  else if isMoment cs then some moment
  else (integer? cs).map Json.integer |>.orElse fun _ => (double? cs).map Json.double

def isScalarChar (c : Char) : Bool :=
  c.isAlphanum || c == '_' || c == '+' || c == '-' || c == '.' || c == ':'

/-- Takes a word, and the text after it. A blank between a date and a time is part of the word. -/
def takeScalar (cs : List Char) : List Char × List Char :=
  let word := cs.takeWhile isScalarChar
  match cs.dropWhile isScalarChar with
  | ' ' :: c :: rest =>
    if date? word == some [] && c.isDigit then
      (word ++ ' ' :: (c :: rest).takeWhile isScalarChar, (c :: rest).dropWhile isScalarChar)
    else (word, ' ' :: c :: rest)
  | rest => (word, rest)

/-! ## Values -/

mutual

/-- Reads a value. Nested values take at least one character each. -/
def readValue : Nat → List Char → Except Fault (Json × List Char)
  | 0, _ => .error .value
  | fuel + 1, cs =>
    match readString? cs with
    | some read => read.map fun (text, rest) => (.string (String.ofList text), rest)
    | none =>
      match cs with
      | '[' :: cs => do
        let (items, rest) ← readItems fuel (skipLines cs.length cs)
        return (.array items, rest)
      | '\x7b' :: cs => do
        let (fields, rest) ← readInline fuel [] (skipLines cs.length cs)
        return (.object (fieldsJson fields), rest)
      | cs =>
        match takeScalar cs with
        | ([], _) => .error .value
        | (word, rest) =>
          match scalar? word with
          | some value => .ok (value, rest)
          | none => .error .number

def readItems : Nat → List Char → Except Fault (List Json × List Char)
  | 0, _ => .error .array
  | fuel + 1, cs =>
    match cs with
    | ']' :: rest => .ok ([], rest)
    | cs => do
      let (item, rest) ← readValue fuel cs
      match skipLines rest.length rest with
      | ',' :: rest => do
        let (items, rest) ← readItems fuel (skipLines rest.length rest)
        return (item :: items, rest)
      | ']' :: rest => return ([item], rest)
      | _ => throw .array

def readInline : Nat → Fields → List Char → Except Fault (Fields × List Char)
  | 0, _, _ => .error .inlineTable
  | fuel + 1, fields, cs =>
    match cs with
    | '\x7d' :: rest => .ok (fields, rest)
    | cs => do
      let (path, rest) ← keyPath cs.length cs
      match rest with
      | '=' :: rest => do
        let (value, rest) ← readValue fuel (skipGaps rest)
        let some (before, key) := splitLast path | throw .key
        let fields ← within .dotted (setValue key value) before fields
        match skipLines rest.length rest with
        | ',' :: rest => readInline fuel fields (skipLines rest.length rest)
        | '\x7d' :: rest => return (fields, rest)
        | _ => throw .inlineTable
      | _ => throw .equals

end

/-! ## Lines -/

structure Document where
  fields : Fields
  current : List String

def readHeader (d : Document) (cs : List Char) : Except Fault (Document × List Char) := do
  let (repeated, cs) := match cs with
    | '[' :: cs => (true, cs)
    | cs => (false, cs)
  let (path, rest) ← keyPath (cs.length + 1) cs
  let some (before, key) := splitLast path | throw .key
  match repeated, rest with
  | false, ']' :: rest =>
    return (⟨← within .inner (openTable key) before d.fields, path⟩, rest)
  | true, ']' :: ']' :: rest =>
    return (⟨← within .inner (appendTable key) before d.fields, path⟩, rest)
  | _, _ => throw .header

def readPair (d : Document) (cs : List Char) : Except Fault (Document × List Char) := do
  let (path, rest) ← keyPath (cs.length + 1) cs
  match rest with
  | '=' :: rest => do
    let (value, rest) ← readValue (rest.length + 1) (skipGaps rest)
    let some (before, key) := splitLast path | throw .key
    let fields ← within .inner (within .dotted (setValue key value) before) d.current d.fields
    return (⟨fields, d.current⟩, rest)
  | _ => throw .equals

def readLines : Nat → Document → List Char → Except Fault Document
  | 0, d, _ => .ok d
  | fuel + 1, d, cs =>
    match skipComment (skipGaps cs) with
    | [] => .ok d
    | '\n' :: cs => readLines fuel d cs
    | '\r' :: '\n' :: cs => readLines fuel d cs
    | _ => do
      let (d, rest) ←
        match skipGaps cs with
        | '[' :: cs => readHeader d cs
        | cs => readPair d cs
      readLines fuel d (← lineEnd rest)

def dropMark (cs : List Char) : List Char :=
  match cs with
  | '\uFEFF' :: cs => cs
  | cs => cs

def read (text : String) : Except Fault Json := do
  let d ← readLines (text.length + 1) ⟨[], []⟩ (dropMark text.toList)
  return .object (fieldsJson d.fields)

end DocSchema.Toml
