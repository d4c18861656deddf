import DocSchema.Number.Binary64

/-!
# JSON values

Objects keep their fields in the order they were put in. The text form has one field or item per
line, indented by two blanks.
-/
namespace DocSchema

inductive Json where
  | null
  | bool (value : Bool)
  | integer (value : Int)
  | double (value : Number.Binary64)
  | string (value : String)
  | array (items : List Json)
  | object (fields : List (String × Json))
  deriving Repr, Inhabited

namespace Json

def field? : Json → String → Option Json
  | .object fields, key => (fields.find? (·.1 == key)).map (·.2)
  | _, _ => none

/-- Puts a field into an object: in its old place if the key is there, at the end otherwise. -/
def put (fields : List (String × Json)) (key : String) (value : Json) : List (String × Json) :=
  if fields.any (·.1 == key) then
    fields.map fun f => if f.1 == key then (key, value) else f
  else fields ++ [(key, value)]

def optional (key : String) (value : Option Json) : List (String × Json) :=
  match value with
  | some v => [(key, v)]
  | none => []

private def hexDigit (n : Nat) : Char := (Nat.toDigits 16 n).headD '0'

def escapeChar (c : Char) : List Char :=
  if c = '"' then ['\\', '"']
  else if c = '\\' then ['\\', '\\']
  else if c = '\n' then ['\\', 'n']
  else if c = '\r' then ['\\', 'r']
  else if c = '\t' then ['\\', 't']
  else if c.toNat = 8 then ['\\', 'b']
  else if c.toNat = 12 then ['\\', 'f']
  else if c.toNat < 32 then ['\\', 'u', '0', '0', hexDigit (c.toNat / 16), hexDigit (c.toNat % 16)]
  else [c]

def quote (s : String) : String :=
  String.ofList ('"' :: s.toList.flatMap escapeChar ++ ['"'])

/-- Doubles are written positionally for decimal exponents from -5 to 15, with an exponent and its
sign otherwise. -/
def doubleText (x : Number.Binary64) : String :=
  let (digits, lead) := x.shortest
  let body : List Char :=
    if lead < -5 ∨ 15 < lead then
      let fraction := digits.drop 1
      let mantissa := digits.take 1 ++ if fraction.isEmpty then [] else '.' :: fraction
      let sign := if lead < 0 then '-' else '+'
      mantissa ++ 'e' :: sign :: Nat.toDigits 10 lead.natAbs
    else if lead < 0 then
      '0' :: '.' :: List.replicate (lead.natAbs - 1) '0' ++ digits
    else
      let whole := lead.toNat + 1
      let padded := digits ++ List.replicate (whole - digits.length) '0'
      let fraction := padded.drop whole
      padded.take whole ++ '.' :: if fraction.isEmpty then ['0'] else fraction
  String.ofList (if x.negative then '-' :: body else body)

private def indent (depth : Nat) : String := String.ofList (List.replicate (2 * depth) ' ')

private def block (depth : Nat) (left right : String) (items : List String) : String :=
  if items.isEmpty then left ++ right
  else
    let inner := indent (depth + 1)
    let lines := items.map (inner ++ ·)
    left ++ "\n" ++ String.intercalate ",\n" lines ++ "\n" ++ indent depth ++ right

mutual

def textAt (depth : Nat) : Json → String
  | .null => "null"
  | .bool true => "true"
  | .bool false => "false"
  | .integer n => toString n
  | .double x => doubleText x
  | .string s => quote s
  | .array items => block depth "[" "]" (itemTexts (depth + 1) items)
  | .object fields => block depth "\x7b" "\x7d" (fieldTexts (depth + 1) fields)

def itemTexts (depth : Nat) : List Json → List String
  | [] => []
  | v :: vs => textAt depth v :: itemTexts depth vs

def fieldTexts (depth : Nat) : List (String × Json) → List String
  | [] => []
  | (key, v) :: fields => (quote key ++ ": " ++ textAt depth v) :: fieldTexts depth fields

end

def text (v : Json) : String := textAt 0 v

end Json

end DocSchema
