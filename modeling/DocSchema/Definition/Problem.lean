import DocSchema.Declaration
import DocSchema.Definition
import DocSchema.Diagnostic

/-!
# Problems of a declaration

What can be wrong with one declaration taken by itself.
-/
namespace DocSchema

inductive PropertyName where
  | tagName
  | attributes
  | allowedContent
  | valueType
  | defaultValue
  | baseType
  | allowedPattern
  | allowedValues
  | minimumValue
  | maximumValue
  | properties
  | itemType
  deriving DecidableEq, Repr

def PropertyName.text : PropertyName → String
  | .tagName => "tagName"
  | .attributes => "attributes"
  | .allowedContent => "allowedContent"
  | .valueType => "valueType"
  | .defaultValue => "defaultValue"
  | .baseType => "baseType"
  | .allowedPattern => "allowedPattern"
  | .allowedValues => "allowedValues"
  | .minimumValue => "minimumValue"
  | .maximumValue => "maximumValue"
  | .properties => "properties"
  | .itemType => "itemType"

def Kind.propertyNames : Kind → List PropertyName
  | .element => [.tagName, .attributes, .allowedContent]
  | .attribute => [.tagName, .valueType, .defaultValue]
  | .dataType => [.baseType, .allowedPattern, .allowedValues, .minimumValue, .maximumValue]
  | .object => [.properties]
  | .property => [.tagName, .valueType]
  | .array => [.itemType]

namespace Definition

inductive Shape where
  | string
  | typeName
  | literal
  | integer
  | pattern
  | literals
  | references
  | commaList
  | content
  | reference
  deriving DecidableEq, Repr

def Shape.text : Shape → String
  | .string => "a string"
  | .typeName => "a type name without a quantifier"
  | .literal => "a string or integer"
  | .integer => "an integer"
  | .pattern => "a pattern"
  | .literals => "a list of values"
  | .references => "a reference or a list"
  | .commaList => "`[...]` or `\x7b...\x7d` with commas"
  | .content => "a reference, a list or `*any text*`"
  | .reference => "a reference"

/-- A problem of one declaration, whose name is the owner. -/
inductive Problem where
  | unknownProperty (owner : String) (kind : Kind) (name : Located String)
  | repeatedProperty (owner : String) (first again : Property)
  | wrongShape (owner : String) (property : PropertyName) (value : Value) (expected : Shape)
  | notLiteral (owner : String) (property : PropertyName) (entry : Entry)
  | notReference (owner : String) (property : PropertyName) (entry : Entry)
  | notContent (owner : String) (entry : Entry)
  | quantifier (written : Located Quantifier) (fault : Quantifier.Fault)
  | repeatableAttribute (owner : String) (occurrence : Occurrence)
  | repeatedMember (owner : String) (repetition : Repetition)
  | missingItemType (owner : Located String)

namespace Problem

def diagnostic : Problem → Diagnostic
  | .unknownProperty owner kind name =>
    let known := ", ".intercalate (kind.propertyNames.map (·.text))
    .error .unknownProperty s!"unknown property `{name.value}` on {kind.keyword} `{owner}`"
      [.main name.span "unknown property"] (some s!"{kind.keyword} properties are: {known}")
  | .repeatedProperty owner first again =>
    .error .duplicateProperty s!"property `{again.name.value}` is given more than once in `{owner}`"
      [.main again.span "repeated property", .related first.span "first given here"] none
  | .wrongShape owner property value expected =>
    .error .invalidValue
      s!"`{property.text}` of `{owner}` expects {expected.text}, found {value.shape}"
      [.main value.span s!"expected {expected.text}"] none
  | .notLiteral owner property entry =>
    .error .invalidValue s!"`{property.text}` of `{owner}` lists only strings and integers"
      [.main entry.span "not a literal"] (some "quote the value")
  | .notReference owner property entry =>
    .error .invalidValue s!"`{property.text}` of `{owner}` lists only references"
      [.main entry.span "not a reference"] none
  | .notContent owner entry =>
    .error .invalidValue
      s!"`allowedContent` of `{owner}` lists only element references and `*any text*`"
      [.main entry.span "not allowed in content"] none
  | .quantifier written fault =>
    .error .invalidQuantifier s!"invalid quantifier `({written.value.text})`"
      [.main written.span fault.message] fault.help
  | .repeatableAttribute owner o =>
    .error .invalidQuantifier
      s!"attribute `{o.name.value}` of `{owner}` may occur at most once"
      [.main o.span s!"cardinality {o.cardinality.text}"]
      (some "use `(optional)` or no quantifier")
  | .repeatedMember owner r =>
    let name := r.again.name.value
    if r.isConflict then
      .error .ambiguousContent
        (s!"`{name}` appears in the unordered content of `{owner}` with cardinalities "
          ++ s!"{r.first.cardinality.text} and {r.again.cardinality.text}")
        [.main r.again.span "conflicting occurrence", .related r.first.span "first listed here"]
        (some "merge the entries into a single quantified reference")
    else
      .warning s!"`{name}` is listed twice in the unordered content of `{owner}`"
        [.main r.again.span "repeated here", .related r.first.span "first listed here"] none
  | .missingItemType owner =>
    .error .missingProperty s!"array `{owner.value}` has no `itemType`"
      [.main owner.span "missing `itemType`"] (some "add `itemType: <type>;`")

end Problem

end Definition

end DocSchema
