import DocSchema.Json

/-!
# Settings

What a user can configure: whether unreachable structures are left out, the name and version of the
described format, and how each schema document is named and laid out.
-/
namespace DocSchema

structure Settings where
  /-- Leave out structures that no root reaches. -/
  pruneUnreachable : Bool
  formatName : Option String
  version : Option String
  /-- Start of every type name in an XML Schema. -/
  typePrefix : String
  /-- Blanks per level in XML documents. -/
  indent : Nat
  /-- Identity of a JSON Schema. -/
  schemaId : Option String
  /-- Objects accept properties that are not declared. -/
  additionalProperties : Bool
  deriving DecidableEq, Repr

namespace Settings

def default : Settings := ⟨true, none, none, "__type__", 4, none, false⟩

/-- The configured format name, or else the one the schema gives, with the version in parentheses.
-/
def titleFor (s : Settings) (schemaName : Option String) : Option String :=
  match s.formatName.or schemaName with
  | some name =>
    match s.version with
    | some version => some s!"{name} ({version})"
    | none => some name
  | none => none

def title (s : Settings) : Option String := s.titleFor none

private def readText? : Json → Option (Option String)
  | .string s => some (some s)
  | .null => some none
  | _ => none

private def readBool? : Json → Option Bool
  | .bool b => some b
  | _ => none

private def readString? : Json → Option String
  | .string s => some s
  | _ => none

private def readSize? : Json → Option Nat
  | .integer n => if 0 ≤ n ∧ n < Int.pow 2 64 then some n.toNat else none
  | _ => none

/-- The values of a section for its keys in order: given by name in an object, by place in an
array. Keys that are not given are `none`; an array may not be longer than the keys. -/
private def section? (keys : List String) : Json → Option (List (Option Json))
  | .object fields => some (keys.map fun k => Json.field? (.object fields) k)
  | .array items =>
    if items.length ≤ keys.length then
      some ((List.range keys.length).map fun i => items[i]?)
    else none
  | _ => none

private def given {α : Type} (read : Json → Option α) (present : α) : Option Json → Option α
  | some v => read v
  | none => some present

private def readCompile? (s : Settings) (v : Json) : Option Settings := do
  match ← section? ["prune_unreachable"] v with
  | [prune] => return { s with pruneUnreachable := ← given readBool? s.pruneUnreachable prune }
  | _ => none

private def readMetadata? (s : Settings) (v : Json) : Option Settings := do
  match ← section? ["format_name", "version"] v with
  | [name, version] =>
    return { s with
      formatName := ← given readText? s.formatName name
      version := ← given readText? s.version version }
  | _ => none

private def readXsd? (s : Settings) (v : Json) : Option Settings := do
  match ← section? ["type_prefix", "indent"] v with
  | [start, indent] =>
    return { s with
      typePrefix := ← given readString? s.typePrefix start
      indent := ← given readSize? s.indent indent }
  | _ => none

private def readJsonSchema? (s : Settings) (v : Json) : Option Settings := do
  match ← section? ["id", "additional_properties"] v with
  | [id, additional] =>
    return { s with
      schemaId := ← given readText? s.schemaId id
      additionalProperties := ← given readBool? s.additionalProperties additional }
  | _ => none

/-- Reads settings from an object of sections. Keys that are not given keep their defaults, unknown
keys are ignored, and a value of the wrong type is refused. -/
def ofJson? : Json → Option Settings
  | .object fields => do
    let given (key : String) (read : Settings → Json → Option Settings) (s : Settings) :
        Option Settings :=
      match Json.field? (.object fields) key with
      | some v => read s v
      | none => some s
    let s ← given "compile" readCompile? default
    let s ← given "metadata" readMetadata? s
    let s ← given "xsd" readXsd? s
    given "json_schema" readJsonSchema? s
  | _ => none

end Settings

end DocSchema
