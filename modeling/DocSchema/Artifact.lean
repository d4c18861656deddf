import DocSchema.Pattern.Fault
import DocSchema.Structure

/-!
# Artifacts

The documents that can be written from a graph, and why one of them cannot be written.
-/
namespace DocSchema

inductive Artifact where
  | xmlSchema
  | jsonSchema
  | manual
  | sample
  | dump
  deriving DecidableEq, Repr

namespace Artifact

/-- Every artifact, in the order they are written. -/
def all : List Artifact := [.xmlSchema, .jsonSchema, .manual, .sample, .dump]

def name : Artifact → String
  | .xmlSchema => "xsd"
  | .jsonSchema => "json-schema"
  | .manual => "docs"
  | .sample => "example"
  | .dump => "graph"

def ofName? (s : String) : Option Artifact := all.find? (·.name == s)

/-- What a format cannot express. -/
inductive Unsupported where
  | groupInUnordered
  | repeatedInUnordered (child : String) (cardinality : Cardinality)
  | unorderedInGroup
  | noXmlType (kind : Kind)
  | noJsonForm (target : String) (kind : Kind)
  deriving DecidableEq, Repr

def Unsupported.reason : Unsupported → String
  | .groupInUnordered => "XSD unordered content cannot hold nested groups"
  | .repeatedInUnordered child cardinality =>
    s!"`{child}` may occur {cardinality.text} times, "
      ++ "but XSD unordered content allows each child at most once"
  | .unorderedInGroup => "XSD only allows unordered content as a whole content model"
  | .noXmlType kind => s!"{kind.keyword} structures have no XSD type"
  | .noJsonForm target kind =>
    let article := match kind with
      | .element | .attribute => "an"
      | _ => "a"
    s!"`{target}` is {article} {kind.keyword}, which has no JSON Schema form here"

/-- Where names have to differ. -/
inductive Scope where
  | rootElements
  | attributes (owner : String)
  | children (owner : String)
  | properties (owner : String)
  deriving DecidableEq, Repr

def Scope.text : Scope → String
  | .rootElements => "root elements"
  | .attributes owner => s!"the attributes of `{owner}`"
  | .children owner => s!"the children of `{owner}`"
  | .properties owner => s!"the properties of `{owner}`"

inductive SampleFault where
  | mismatch (value pattern : String)
  | pattern (fault : Pattern.Fault)
  deriving DecidableEq, Repr

def SampleFault.reason : SampleFault → String
  | .mismatch value expected =>
    s!"`{value}` does not match the pattern `{expected}`; give an `Example Value:` that does"
  | .pattern fault => fault.message

inductive Failure where
  | unsupported (owner : String) (what : Unsupported)
  | invalidName (owner name : String)
  | nameCollision (first second name : String) (scope : Scope)
  | noSampleValue (owner : String) (fault : SampleFault)
  | noRootElement
  | unknownRoot (name : String)
  deriving DecidableEq, Repr

def Failure.message : Failure → String
  | .unsupported owner what => s!"cannot export `{owner}`: {what.reason}"
  | .invalidName owner name => s!"`{name}` used by `{owner}` is not a valid XML name"
  | .nameCollision first second name scope =>
    s!"`{first}` and `{second}` both use the name `{name}` among {scope.text}"
  | .noSampleValue owner fault => s!"cannot write a sample value for `{owner}`: {fault.reason}"
  | .noRootElement => "the schema declares no root element"
  | .unknownRoot name => s!"`{name}` is not a root element"

end Artifact

end DocSchema
