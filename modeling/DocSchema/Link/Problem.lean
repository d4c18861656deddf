import DocSchema.Definition
import DocSchema.Diagnostic
import DocSchema.Pattern.Dialect
import DocSchema.Pattern.Fault

/-!
# Problems of linking

What can be wrong with definitions taken together: names that are taken or missing, structures of
the wrong kind, and data types whose constraints make no sense.
-/
namespace DocSchema.Link

/-- Where a name is used, which decides the kinds it may stand for. -/
inductive Usage where
  /-- In the attributes of an element. -/
  | attributes
  /-- In a list of children. -/
  | child
  /-- As the whole content of an element. -/
  | content
  /-- As the type of an attribute, or as a base type. -/
  | simpleType
  /-- In the properties of an object. -/
  | properties
  /-- As the type of a property or of array items. -/
  | jsonValue
  deriving DecidableEq, Repr

namespace Usage

def accepts : Usage → Kind → Bool
  | .attributes, kind => kind == .attribute
  | .child, kind => kind == .element
  | .content, kind => kind == .element || kind == .dataType
  | .simpleType, kind => kind == .dataType
  | .properties, kind => kind == .property
  | .jsonValue, kind => kind == .dataType || kind == .object || kind == .array

def acceptsPrimitive : Usage → Bool
  | .content | .simpleType | .jsonValue => true
  | .attributes | .child | .properties => false

def expected : Usage → String
  | .attributes => "an attribute"
  | .child => "an element"
  | .content => "an element, a data type or a built-in type"
  | .simpleType => "a data type or a built-in type"
  | .properties => "a property"
  | .jsonValue => "a data type, object, array or built-in type"

end Usage

inductive Problem where
  | reserved (name : Located String)
  | duplicate (name : Located String) (first : Span)
  | builtIn (name : Located String) (owner : String) (usage : Usage)
  | undefined (name : Located String) (owner : String)
  | wrongKind (name : Located String) (owner : String) (usage : Usage) (kind : Kind)
      (declared : Span)
  /-- A default that cannot apply because the attribute is required. -/
  | unusedDefault (owner : String) (use : Occurrence) (default : Located String)
  | quantifiedValue (owner : String) (quantifier : Span)
  /-- A chain of bases that returns to its first member. -/
  | cyclicBase (first : Located String) (others : List (Located String))
  | invalidPattern (owner : String) (pattern : Span) (fault : Pattern.Fault)
  | foreignPattern (owner : String) (pattern : Span) (offset : Nat) (issue : Pattern.DialectIssue)
  | invertedBounds (owner : String) (minimum maximum : Located Int)
  | boundOfNoNumber (owner : String) (primitive : Primitive) (bound : Located Int)
  | notAValue (owner : String) (primitive : Primitive) (value : Located String)

def article : Kind → String
  | .element | .attribute | .object | .array => "an"
  | .dataType | .property => "a"

namespace Problem

def diagnostic : Problem → Diagnostic
  | .reserved name =>
    .error .duplicateReference s!"`{name.value}` is a built-in type and cannot be redeclared"
      [.main name.span "reserved name"] (some "choose another reference name")
  | .duplicate name first =>
    .error .duplicateReference s!"structure `{name.value}` is declared more than once"
      [.main name.span "duplicate declaration", .related first "first declared here"]
      (some "reference names are shared by all structure kinds")
  | .builtIn name owner usage =>
    .error .kindMismatch
      s!"`{name.value}` used in `{owner}` is a built-in type, expected {usage.expected}"
      [.main name.span s!"expected {usage.expected}"] none
  | .undefined name owner =>
    .error .undefinedReference s!"undefined reference `{name.value}` in `{owner}`"
      [.main name.span "not declared"] (some s!"declare `{name.value}` or fix the spelling")
  | .wrongKind name owner usage kind declared =>
    .error .kindMismatch
      (s!"`{name.value}` used in `{owner}` is {article kind} {kind.keyword}, "
        ++ s!"expected {usage.expected}")
      [.main name.span s!"expected {usage.expected}",
        .related declared s!"declared as {kind.keyword} here"] none
  | .unusedDefault owner use default =>
    .warning
      (s!"required attribute `{use.name.value}` of `{owner}` never uses its default "
        ++ s!"`{default.value}`")
      [.main use.span "required here", .related default.span "default given here"]
      (some "mark the attribute `(optional)` so the default can apply")
  | .quantifiedValue owner quantifier =>
    .error .invalidValue s!"the value content of `{owner}` cannot take a quantifier"
      [.main quantifier "quantifier on a value type"]
      (some "quantifiers apply to element references only")
  | .cyclicBase first others =>
    let chain := " -> ".intercalate ((first :: others ++ [first]).map (·.value))
    .error .cyclicBase s!"cyclic base type `{chain}`"
      (.main first.span "base type chain returns here" ::
        others.map fun name => .related name.span "part of the cycle")
      (some "a base type chain must end at a built-in type")
  | .invalidPattern owner pattern fault =>
    .error .invalidPattern s!"invalid pattern in `{owner}`"
      [.main pattern "not a valid regular expression"] (some fault.message)
  | .foreignPattern owner pattern offset issue =>
    -- The delimiter before the pattern takes one byte.
    let start := pattern.start + 1 + offset
    .error .invalidPattern s!"pattern in `{owner}` cannot be written as an XML Schema pattern"
      [.main ⟨start, start + issue.size⟩ issue.label] (some issue.help)
  | .invertedBounds owner minimum maximum =>
    .error .invalidConstraint
      s!"`{owner}` has minimum {minimum.value} above maximum {maximum.value}"
      [.main minimum.span "minimum", .related maximum.span "maximum"] none
  | .boundOfNoNumber owner primitive bound =>
    .error .invalidConstraint
      s!"`{owner}` has numeric bounds but its values are {primitive.name}s"
      [.main bound.span "bound on a non-numeric type"]
      (some "use an `integer` or `decimal` base type")
  | .notAValue owner primitive value =>
    .error .invalidConstraint
      s!"allowed value `{value.value}` of `{owner}` is not a valid {primitive.name}"
      [.main value.span s!"not a {primitive.name}"] none

/-- Every problem but an unused default keeps the schema from being used. -/
def isError : Problem → Bool
  | .unusedDefault .. => false
  | _ => true

end Problem

end DocSchema.Link
