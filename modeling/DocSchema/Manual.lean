import DocSchema.Reach
import DocSchema.Settings
import DocSchema.Unicode.Alphabetic
import DocSchema.Unicode.Numeric
import DocSchema.Unicode.Lowercase

/-!
# The manual

A Markdown reference with one section per structure, roots first and then what they reach.
-/
namespace DocSchema.Manual

/-- The anchor of a heading: letters, digits, underscores and hyphens, in lower case. -/
def anchor (reference : String) : String :=
  let kept := reference.toList.filter fun c =>
    c == '_' || c == '-' || Unicode.isAlphabetic c || Unicode.isNumeric c
  String.ofList (kept.flatMap Unicode.toLowercase)

def link (reference : String) : String := s!"[`{reference}`](#{anchor reference})"

def typeLink (g : Graph) : TypeRef → String
  | .primitive p => s!"`{p.name}`"
  | .declared id => link (g.get id).reference

def kindLabel (s : Structure) : String :=
  if s.isRoot then s!"root {s.kind.keyword}" else s.kind.keyword

def compositorLabel : Compositor → String
  | .sequence => "In this order"
  | .unordered => "In any order"
  | .choice => "One of"

def slotText (g : Graph) (slot : Slot) : String :=
  s!"{link (g.get slot.target).reference} `{slot.cardinality.text}`"

private def bullet (depth : Nat) (text : String) : String :=
  String.ofList (List.replicate (2 * depth) ' ') ++ "- " ++ text

mutual

def particleLines (g : Graph) (depth : Nat) : Particle → List String
  | .element slot => [bullet depth (slotText g slot)]
  | .group compositor ps _ =>
    bullet depth (compositorLabel compositor ++ ":") :: particlesLines g (depth + 1) ps

def particlesLines (g : Graph) (depth : Nat) : List Particle → List String
  | [] => []
  | p :: ps => particleLines g depth p ++ particlesLines g depth ps

end

def orNone (lines : List String) : List String := if lines.isEmpty then ["None"] else lines

def attributeRow (g : Graph) (slot : Slot) : String :=
  let s := g.get slot.target
  let use := if slot.cardinality.isExactlyOne then "required" else "optional"
  let type := match s.body with
    | .attribute valueType _ => typeLink g valueType
    | _ => ""
  s!"| {link s.reference} | {use} | {type} |"

def attributeLines (g : Graph) (slots : List Slot) : List String :=
  if slots.isEmpty then ["None"]
  else "| Name | Use | Type |" :: "|---|---|---|" :: slots.map (attributeRow g)

def contentLines (g : Graph) : Content → List String
  | .empty => ["Empty"]
  | .text => ["Any text"]
  | .value type => [s!"A value of {typeLink g type}"]
  | .children group =>
    let mixed := if group.mixed then ", mixed with text" else ""
    [s!"{compositorLabel group.compositor}{mixed}:", ""]
      ++ if group.particles.isEmpty then ["None"] else particlesLines g 0 group.particles

def constraintLines (c : Constraints) : List String :=
  c.pattern.toList.map (fun pattern => s!"- pattern: `{pattern}`")
    ++ (if c.values.isEmpty then []
      else ["- one of: " ++ ", ".intercalate (c.values.map fun value => s!"`{value}`")])
    ++ c.minimum.toList.map (fun n => s!"- minimum: `{n}`")
    ++ c.maximum.toList.map (fun n => s!"- maximum: `{n}`")

private def heading (text : String) : List String := ["", "### " ++ text, ""]

def bodyLines (g : Graph) : Body → List String
  | .element _ attributes content =>
    heading "Attributes" ++ attributeLines g attributes
      ++ heading "Allowed Content" ++ contentLines g content
  | .attribute valueType default =>
    s!"- **Value type:** {typeLink g valueType}"
      :: default.toList.map fun value => s!"- **Default:** `{value}`"
  | .dataType base c =>
    s!"- **Base type:** {typeLink g base}"
      :: if c.isEmpty then [] else heading "Constraints" ++ constraintLines c
  | .object _ properties order =>
    heading s!"Properties ({order.name})" ++
      orNone (properties.map fun slot => bullet 0 (slotText g slot))
  | .property valueType => [s!"- **Value type:** {typeLink g valueType}"]
  | .array itemType items =>
    [s!"- **Item type:** {typeLink g itemType}", s!"- **Items:** `{items.text}`"]

def sectionLines (g : Graph) (s : Structure) : List String :=
  ["", s!"## {s.reference}", ""]
    ++ s.remarks.description.toList.flatMap (fun text => [text, ""])
    ++ [s!"- **Kind:** {kindLabel s}", s!"- **Name:** `{s.tag}`"]
    ++ s.remarks.exampleValue.toList.map (fun shown => s!"- **Example:** `{shown}`")
    ++ bodyLines g s.body

def contentsLine (s : Structure) : String := s!"- {link s.reference} ({kindLabel s})"

def lines (settings : Settings) (g : Graph) : List String :=
  let order := (g.documentationOrder settings.pruneUnreachable).map g.get
  let title := match settings.titleFor g.formatName with
    | some title => s!"# {title} Specification"
    | none => "# Schema Reference"
  [title, "", "## Table of Contents", ""] ++ order.map contentsLine ++
    order.flatMap (sectionLines g)

def render (settings : Settings) (g : Graph) : String :=
  String.join ((lines settings g).map (· ++ "\n"))

end DocSchema.Manual
