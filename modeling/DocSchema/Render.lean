import DocSchema.Graph.Dump
import DocSchema.JsonSchema
import DocSchema.Manual
import DocSchema.Sample
import DocSchema.XmlSchema

/-!
# Writing artifacts
-/
namespace DocSchema.Artifact

/-- The text of an artifact. A sample shows the first root element. -/
def render (settings : Settings) (g : Graph) : Artifact → Except Failure String
  | .xmlSchema => XmlSchema.render settings g
  | .jsonSchema => JsonSchema.render settings g
  | .manual => .ok (Manual.render settings g)
  | .sample => Sample.render settings g none
  | .dump => .ok (g.toJson.text ++ "\n")

end DocSchema.Artifact
