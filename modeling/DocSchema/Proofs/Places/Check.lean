import DocSchema.Definition.Check
import DocSchema.Proofs.Places.Parser

/-!
# Checking without places

No place and no comment decides what a declaration defines or which problems it has. Comments give
the remarks of a definition and nothing else.
-/
namespace DocSchema

def Occurrence.bare (o : Occurrence) : Occurrence := ⟨o.name.bare, o.cardinality⟩

def Repetition.bare (r : Repetition) : Repetition := ⟨r.first.bare, r.again.bare⟩

theorem Occurrence.collapseAux_bare (kept os : List Occurrence) :
    collapseAux (kept.map bare) (os.map bare) =
      (collapseAux kept os).bimap Repetition.bare (List.map bare) := by
  induction os generalizing kept with
  | nil => rfl
  | cons o os ih =>
    have hfind : (kept.map bare).find? (·.sameName o.bare) =
        (kept.find? (·.sameName o)).map bare := List.find?_map ..
    have hmore := ih (kept ++ [o])
    rw [List.map_append] at hmore
    rw [List.map_cons, collapseAux, collapseAux, hfind]
    cases kept.find? (·.sameName o) with
    | none => exact hmore
    | some first => exact Checked.note_bind [⟨first, o⟩] (ih kept)

namespace Definition

mutual

def Member.bare : Member → Member
  | .element o => .element o.bare
  | .group compositor members => .group compositor (Member.bareAll members)

def Member.bareAll : List Member → List Member
  | [] => []
  | m :: ms => m.bare :: Member.bareAll ms

end

def Content.bare : Content → Content
  | .empty => .empty
  | .text => .text
  | .single target quantifier => .single target.bare (quantifier.map fun _ => .point 0)
  | .group compositor members mixed => .group compositor (Member.bareAll members) mixed

def Body.bare : Body → Body
  | .element root attributes content => .element root (attributes.map Occurrence.bare) content.bare
  | .attribute valueType default =>
    .attribute (valueType.map Located.bare) (default.map Located.bare)
  | .dataType base pattern values minimum maximum =>
    .dataType (base.map Located.bare) (pattern.map Located.bare) (values.map Located.bare)
      (minimum.map Located.bare) (maximum.map Located.bare)
  | .object root properties order => .object root (properties.map Occurrence.bare) order
  | .property valueType => .property (valueType.map Located.bare)
  | .array itemType => .array itemType.bare

namespace Problem

def bare : Problem → Problem
  | .unknownProperty owner kind name => .unknownProperty owner kind name.bare
  | .repeatedProperty owner first again => .repeatedProperty owner first.bare again.bare
  | .wrongShape owner property value expected => .wrongShape owner property value.bare expected
  | .notLiteral owner property entry => .notLiteral owner property entry.bare
  | .notReference owner property entry => .notReference owner property entry.bare
  | .notContent owner entry => .notContent owner entry.bare
  | .quantifier written fault => .quantifier written.bare fault
  | .repeatableAttribute owner o => .repeatableAttribute owner o.bare
  | .repeatedMember owner r => .repeatedMember owner r.bare
  | .missingItemType owner => .missingItemType owner.bare

end Problem

end Definition

def Definition.bare (d : Definition) : Definition :=
  ⟨d.name.bare, d.tagName.map Located.bare, .none, d.body.bare⟩

namespace Definition

open Checked (bimap_pure bimap_bind note_bind)

abbrev bareCheck {α β : Type} (f : α → β) : Checked Problem α → Checked Problem β :=
  Checked.bimap Problem.bare f

theorem propertyProblems_bare (owner : String) (kind : Kind) (seen ps : List Property) :
    propertyProblems owner kind (seen.map Property.bare) (ps.map Property.bare) =
      (propertyProblems owner kind seen ps).map Problem.bare := by
  induction ps generalizing seen with
  | nil => rfl
  | cons p ps ih =>
    have hfind : (seen.map Property.bare).find? (·.name.value == p.bare.name.value) =
        (seen.find? (·.name.value == p.name.value)).map Property.bare := List.find?_map ..
    have hmore := ih (seen ++ [p])
    rw [List.map_append] at hmore
    rw [List.map_cons, propertyProblems, propertyProblems, hfind]
    have hname : p.bare.name.value = p.name.value := rfl
    rw [hname]
    split_ifs
    · cases seen.find? (·.name.value == p.name.value) with
      | none => exact hmore
      | some first => exact congrArg (.repeatedProperty owner first.bare p.bare :: ·) (ih seen)
    · exact congrArg (.unknownProperty owner kind p.name.bare :: ·) (ih seen)

theorem given_bare (d : Declaration) (property : PropertyName) :
    given d.bare property = (given d property).map Value.bare := by
  have hfind : (d.properties.map Property.bare).find? (·.name.value == property.text) =
      (d.properties.find? (·.name.value == property.text)).map Property.bare := List.find?_map ..
  have hvalue : d.bare.value? property.text = (d.value? property.text).map Value.bare := by
    rw [Declaration.value?, Declaration.value?, Declaration.bare, hfind, Option.map_map,
      Option.map_map]
    rfl
  rw [given, given, hvalue]
  have hkind : d.bare.kind.value = d.kind.value := rfl
  rw [hkind]
  split_ifs <;> rfl

theorem optional_bare {α β : Type} {read : Value → Option α} {read' : Value → Option β} {f : α → β}
    (hread : ∀ v : Value, read' v.bare = (read v).map f) (d : Declaration)
    (property : PropertyName) (expected : Shape) :
    optional d.bare property expected read' =
      bareCheck (Option.map f) (optional d property expected read) := by
  rw [optional, optional, given_bare]
  cases given d property with
  | none => rfl
  | some value =>
    dsimp only [Option.map_some]
    rw [hread]
    cases read value <;> rfl

theorem string?_bare (v : Value) : string? v.bare = (string? v).map Located.bare := by
  rcases v with _ | _ | ⟨name, _ | q⟩ | _ | _ | _ <;> rfl

theorem typeName?_bare (v : Value) : typeName? v.bare = (typeName? v).map Located.bare := by
  rcases v with _ | _ | ⟨name, _ | q⟩ | _ | _ | _ <;> rfl

theorem literal?_bare (v : Value) : literal? v.bare = (literal? v).map Located.bare := by
  cases v <;> rfl

theorem integer?_bare (v : Value) : integer? v.bare = (integer? v).map Located.bare := by
  cases v <;> rfl

theorem pattern?_bare (v : Value) : pattern? v.bare = (pattern? v).map Located.bare := by
  cases v <;> rfl

theorem literalEntries_bare (owner : String) (property : PropertyName) (es : List Entry) :
    literalEntries owner property (Entry.bareAll es) =
      bareCheck (List.map Located.bare) (literalEntries owner property es) := by
  induction es with
  | nil => rfl
  | cons e es ih =>
    rw [Entry.bareAll]
    cases e with
    | string s =>
      rw [Entry.bare, literalEntries, literalEntries, ih]
      exact bimap_bind (fun _ => by rfl) _
    | integer n =>
      rw [Entry.bare, literalEntries, literalEntries, ih]
      exact bimap_bind (fun _ => by rfl) _
    | _ => exact note_bind [Problem.notLiteral owner property _] ih

theorem literals_bare (d : Declaration) (property : PropertyName) :
    literals d.bare property = bareCheck (List.map Located.bare) (literals d property) := by
  rw [literals, literals, given_bare]
  cases given d property with
  | none => rfl
  | some value =>
    cases value with
    | list compositor entries span => exact literalEntries_bare d.name.value property entries
    | _ => rfl

theorem occurrence_bare (i : Item) :
    occurrence i.bare = bareCheck (Option.map Occurrence.bare) (occurrence i) := by
  obtain ⟨name, _ | q⟩ := i
  · rfl
  · dsimp only [occurrence, Item.bare, Option.map_some, Located.value_bare]
    cases q.value.cardinality <;> rfl

theorem referenceEntries_bare (owner : String) (property : PropertyName) (es : List Entry) :
    referenceEntries owner property (Entry.bareAll es) =
      bareCheck (List.map Occurrence.bare) (referenceEntries owner property es) := by
  induction es with
  | nil => rfl
  | cons e es ih =>
    rw [Entry.bareAll]
    cases e with
    | item i =>
      rw [Entry.bare, referenceEntries, referenceEntries, occurrence_bare, ih]
      refine bimap_bind (fun o => ?_) _
      refine bimap_bind (fun os => ?_) _
      cases o <;> rfl
    | _ => exact note_bind [Problem.notReference owner property _] ih

theorem references_bare (d : Declaration) (property : PropertyName) :
    references d.bare property =
      bareCheck (Prod.map id (List.map Occurrence.bare)) (references d property) := by
  rw [references, references, given_bare]
  cases given d property with
  | none => rfl
  | some value =>
    cases value with
    | item i =>
      dsimp only [Option.map_some, Value.bare]
      rw [occurrence_bare]
      refine bimap_bind (fun o => ?_) _
      cases o <;> rfl
    | list compositor entries span =>
      dsimp only [Option.map_some, Value.bare]
      have hentries := referenceEntries_bare d.name.value property entries
      refine (congrArg (· >>= _) hentries).trans (bimap_bind (fun os => ?_) _)
      cases compositor <;> rfl
    | _ => rfl

theorem collapse_bare (owner : String) (os : List Occurrence) :
    collapse owner (os.map Occurrence.bare) =
      bareCheck (List.map Occurrence.bare) (collapse owner os) := by
  have hc : Occurrence.collapse (os.map Occurrence.bare) =
    (Occurrence.collapse os).bimap Repetition.bare (List.map Occurrence.bare) :=
      Occurrence.collapseAux_bare [] os
  simp only [collapse, hc, Checked.bimap, List.map_map, Checked.mk.injEq, true_and]
  rfl

theorem attributesOf_bare (d : Declaration) :
    attributesOf d.bare = bareCheck (List.map Occurrence.bare) (attributesOf d) := by
  rw [attributesOf, references_bare]
  refine bimap_bind (fun found => ?_) _
  obtain ⟨order, os⟩ := found
  have hrepeatable : (((os.map Occurrence.bare).filter (·.cardinality.isRepeatable)).map
      (.repeatableAttribute d.bare.name.value)) =
      ((os.filter (·.cardinality.isRepeatable)).map
        (.repeatableAttribute d.name.value)).map Problem.bare := by
    rw [List.filter_map, List.map_map, List.map_map]
    rfl
  dsimp only [Prod.map_apply]
  rw [hrepeatable]
  exact note_bind _ (collapse_bare d.name.value os)

theorem Member.bareAll_eq_map (ms : List Member) : Member.bareAll ms = ms.map Member.bare := by
  induction ms with
  | nil => rfl
  | cons m ms ih => rw [Member.bareAll, ih, List.map_cons]

theorem arrange_bare (owner : String) (compositor : Compositor) (ms : List Member) :
    arrange owner compositor (ms.map Member.bare) =
      bareCheck (List.map Member.bare) (arrange owner compositor ms) := by
  have hos : (ms.map Member.bare).filterMap Member.occurrence? =
      (ms.filterMap Member.occurrence?).map Occurrence.bare := by
    rw [List.filterMap_map, List.map_filterMap]
    refine List.filterMap_congr fun m _ => ?_
    cases m <;> rfl
  have hgroups : (ms.map Member.bare).filter Member.isGroup =
      (ms.filter Member.isGroup).map Member.bare := by
    rw [List.filter_map]
    congr 2
    funext m
    cases m <;> rfl
  cases compositor with
  | unordered =>
    rw [arrange, arrange, hos, hgroups, collapse_bare]
    refine bimap_bind (fun os => ?_) _
    rw [bimap_pure, List.map_append, List.map_map, List.map_map]
    rfl
  | _ => rfl

mutual

theorem entryMembers_bare (owner : String) (e : Entry) :
    entryMembers owner e.bare =
      bareCheck (Prod.map (List.map Member.bare) id) (entryMembers owner e) :=
  match e with
  | .item i => by
    rw [Entry.bare, entryMembers, entryMembers, occurrence_bare]
    refine bimap_bind (fun o => ?_) _
    cases o <;> rfl
  | .list compositor entries span => by
    rw [Entry.bare, entryMembers, entryMembers, entriesMembers_bare owner entries]
    refine bimap_bind (fun found => ?_) _
    obtain ⟨members, mixed⟩ := found
    dsimp only [Prod.map_apply]
    rw [arrange_bare]
    refine bimap_bind (fun arranged => ?_) _
    cases arranged with
    | nil => rfl
    | cons m ms =>
      have hgroup : (Member.group compositor (m :: ms)).bare =
          .group compositor ((m :: ms).map Member.bare) := by
        rw [Member.bare, Member.bareAll_eq_map]
      rw [bimap_pure]
      exact congrArg (fun g => pure ([g], mixed)) hgroup.symm
  | .anyText _ => by rw [Entry.bare, entryMembers, entryMembers]; rfl
  | .string s => by rw [Entry.bare, entryMembers, entryMembers]; rfl
  | .integer n => by rw [Entry.bare, entryMembers, entryMembers]; rfl

theorem entriesMembers_bare (owner : String) (es : List Entry) :
    entriesMembers owner (Entry.bareAll es) =
      bareCheck (Prod.map (List.map Member.bare) id) (entriesMembers owner es) :=
  match es with
  | [] => by rw [Entry.bareAll, entriesMembers]; rfl
  | e :: es => by
    rw [Entry.bareAll, entriesMembers, entriesMembers, entryMembers_bare owner e,
      entriesMembers_bare owner es]
    refine bimap_bind (fun first => ?_) _
    refine bimap_bind (fun rest => ?_) _
    obtain ⟨first, mixed⟩ := first
    obtain ⟨rest, mixed'⟩ := rest
    rw [bimap_pure]
    simp only [Prod.map_apply, List.map_append, id_eq]

end

theorem Content.ofMembers_bare (compositor : Compositor) (ms : List Member) (mixed : Bool) :
    Content.ofMembers compositor (ms.map Member.bare) mixed =
      (Content.ofMembers compositor ms mixed).bare := by
  cases ms with
  | nil => cases mixed <;> rfl
  | cons m ms =>
    rw [← Member.bareAll_eq_map]
    rfl

theorem contentOf_bare (d : Declaration) :
    contentOf d.bare = bareCheck Content.bare (contentOf d) := by
  rw [contentOf, contentOf, given_bare]
  cases given d .allowedContent with
  | none => rfl
  | some value =>
    cases value with
    | item i =>
      dsimp only [Option.map_some, Value.bare]
      rw [occurrence_bare]
      refine bimap_bind (fun o => ?_) _
      obtain ⟨name, _ | q⟩ := i <;> cases o <;> rfl
    | list compositor entries span =>
      dsimp only [Option.map_some, Value.bare]
      have hentries := entriesMembers_bare d.name.value entries
      refine (congrArg (· >>= _) hentries).trans (bimap_bind (fun found => ?_) _)
      obtain ⟨members, mixed⟩ := found
      have harrange := arrange_bare d.name.value compositor members
      refine (congrArg (· >>= _) harrange).trans (bimap_bind (fun arranged => ?_) _)
      rw [bimap_pure]
      exact congrArg pure (Content.ofMembers_bare compositor arranged mixed)
    | _ => rfl

theorem itemTypeOf_bare (d : Declaration) :
    itemTypeOf d.bare = bareCheck Occurrence.bare (itemTypeOf d) := by
  rw [itemTypeOf, itemTypeOf, given_bare]
  cases given d .itemType with
  | none => rfl
  | some value =>
    cases value with
    | item i =>
      dsimp only [Option.map_some, Value.bare]
      rw [occurrence_bare]
      refine bimap_bind (fun o => ?_) _
      cases o <;> rfl
    | _ => rfl

theorem isRoot_bare (d : Declaration) : d.bare.isRoot = d.isRoot := by
  rw [Declaration.isRoot, Declaration.isRoot, Declaration.bare, Option.isSome_map]

theorem objectBody_bare (d : Declaration) :
    objectBody d.bare = bareCheck Body.bare (objectBody d) := by
  rw [objectBody, objectBody, references_bare, isRoot_bare]
  refine bimap_bind (fun found => ?_) _
  obtain ⟨order, os⟩ := found
  cases order with
  | ordered => rfl
  | unordered =>
    refine (congrArg (· >>= _) (collapse_bare d.name.value os)).trans (bimap_bind (fun os => ?_) _)
    rfl

theorem bodyOf_bare (d : Declaration) : bodyOf d.bare = bareCheck Body.bare (bodyOf d) := by
  have hkind : d.bare.kind.value = d.kind.value := rfl
  have htype (property : PropertyName) : typeName d.bare property =
      bareCheck (Option.map Located.bare) (typeName d property) :=
    optional_bare typeName?_bare d property .typeName
  rw [bodyOf, bodyOf, hkind]
  cases d.kind.value <;> dsimp only
  · rw [attributesOf_bare, contentOf_bare, isRoot_bare]
    refine bimap_bind (fun attributes => ?_) _
    exact bimap_bind (fun content => by rfl) _
  · rw [htype, optional_bare literal?_bare]
    refine bimap_bind (fun valueType => ?_) _
    exact bimap_bind (fun default => by rfl) _
  · rw [htype, optional_bare pattern?_bare, literals_bare, optional_bare integer?_bare,
      optional_bare integer?_bare]
    refine bimap_bind (fun base => ?_) _
    refine bimap_bind (fun pattern => ?_) _
    refine bimap_bind (fun values => ?_) _
    refine bimap_bind (fun minimum => ?_) _
    exact bimap_bind (fun maximum => by rfl) _
  · exact objectBody_bare d
  · rw [htype]
    exact bimap_bind (fun valueType => by rfl) _
  · rw [itemTypeOf_bare]
    exact bimap_bind (fun itemType => by rfl) _

/-- A declaration without places and comments defines the same without places and remarks. -/
theorem ofDeclaration_bare (comments : List (Located String)) (d : Declaration) :
    ofDeclaration [] d.bare = bareCheck Definition.bare (ofDeclaration comments d) := by
  have hproperties : propertyProblems d.bare.name.value d.bare.kind.value [] d.bare.properties =
      (propertyProblems d.name.value d.kind.value [] d.properties).map Problem.bare :=
    propertyProblems_bare d.name.value d.kind.value [] d.properties
  rw [ofDeclaration, ofDeclaration, hproperties, bodyOf_bare, optional_bare string?_bare]
  refine note_bind _ ?_
  refine bimap_bind (fun body => ?_) _
  exact bimap_bind (fun tagName => by rfl) _

theorem ofDeclarations_bare (comments : List (Located String)) (ds : List Declaration) :
    ofDeclarations [] (ds.map Declaration.bare) =
      bareCheck (List.map Definition.bare) (ofDeclarations comments ds) := by
  induction ds with
  | nil => rfl
  | cons d ds ih =>
    rw [List.map_cons, ofDeclarations, ofDeclarations, ofDeclaration_bare comments, ih]
    refine bimap_bind (fun first => ?_) _
    exact bimap_bind (fun others => by rfl) _

end Definition

end DocSchema
