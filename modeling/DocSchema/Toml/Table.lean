import DocSchema.Json

/-!
# Tables of a settings text

A table is opened by a header, by a header of a table inside it, or by a dotted key. What opened it
decides how it may be extended, so that nothing is defined twice.
-/
namespace DocSchema.Toml

inductive Fault where
  | key
  | equals
  | value
  | number
  | string
  | array
  | inlineTable
  | header
  | lineEnd
  /-- A key or a table that is defined twice. -/
  | duplicate (name : String)
  /-- A key inside something that is no table. -/
  | notTable (name : String)
  deriving DecidableEq, Repr

def Fault.message : Fault → String
  | .key => "expected a key"
  | .equals => "expected `=`"
  | .value => "expected a value"
  | .number => "invalid number"
  | .string => "invalid string"
  | .array => "invalid array"
  | .inlineTable => "invalid inline table"
  | .header => "invalid table header"
  | .lineEnd => "expected the end of the line"
  | .duplicate name => s!"duplicate key `{name}`"
  | .notTable name => s!"`{name}` is not a table"

inductive Origin where
  | header
  /-- The header of a table inside it. -/
  | inner
  | dotted
  deriving DecidableEq, Repr

inductive Item where
  | value (value : Json)
  | table (origin : Origin) (fields : List (String × Item))
  /-- Tables under one repeated header, the last one first. -/
  | tables (fields : List (String × Item)) (earlier : List (List (String × Item)))

abbrev Fields := List (String × Item)

def itemAt? (fields : Fields) (key : String) : Option Item :=
  (fields.find? (·.1 == key)).map (·.2)

def putItem (fields : Fields) (key : String) (item : Item) : Fields :=
  if fields.any (·.1 == key) then fields.map fun f => if f.1 == key then (key, item) else f
  else fields ++ [(key, item)]

/-- Changes the fields of the table at a path. Tables on the way are opened when they are missing.
-/
def within (origin : Origin) (change : Fields → Except Fault Fields) :
    List String → Fields → Except Fault Fields
  | [], fields => change fields
  | key :: path, fields =>
    match itemAt? fields key with
    | none => do return putItem fields key (.table origin (← within origin change path []))
    | some (.table old inner) => do
      if origin = .dotted ∧ old ≠ .dotted then throw (.duplicate key)
      return putItem fields key (.table old (← within origin change path inner))
    | some (.tables last earlier) => do
      if origin = .dotted then throw (.duplicate key)
      return putItem fields key (.tables (← within origin change path last) earlier)
    | some (.value _) => .error (.notTable key)

def openTable (key : String) (fields : Fields) : Except Fault Fields :=
  match itemAt? fields key with
  | none => .ok (putItem fields key (.table .header []))
  | some (.table .inner inner) => .ok (putItem fields key (.table .header inner))
  | some _ => .error (.duplicate key)

/-- Opens a further table under a repeated header. -/
def appendTable (key : String) (fields : Fields) : Except Fault Fields :=
  match itemAt? fields key with
  | none => .ok (putItem fields key (.tables [] []))
  | some (.tables last earlier) => .ok (putItem fields key (.tables [] (last :: earlier)))
  | some _ => .error (.duplicate key)

def setValue (key : String) (value : Json) (fields : Fields) : Except Fault Fields :=
  match itemAt? fields key with
  | none => .ok (putItem fields key (.value value))
  | some _ => .error (.duplicate key)

def splitLast (path : List String) : Option (List String × String) :=
  path.getLast?.map fun last => (path.dropLast, last)

mutual

def Item.toJson : Item → Json
  | .value v => v
  | .table _ fields => .object (fieldsJson fields)
  | .tables last earlier => .array (elementsJson earlier ++ [.object (fieldsJson last)])

def elementsJson : List (List (String × Item)) → List Json
  | [] => []
  | fields :: earlier => elementsJson earlier ++ [.object (fieldsJson fields)]

def fieldsJson : List (String × Item) → List (String × Json)
  | [] => []
  | (key, item) :: fields => (key, item.toJson) :: fieldsJson fields

end

end DocSchema.Toml
