import DocSchema.Proofs.Collapse
import DocSchema.Proofs.Places.Source

/-!
# Places of problems

Checking a declaration invents no places: a definition and every problem keep places of the
declaration, so that the diagnostic of a problem points into the text.
-/
namespace DocSchema

variable {text : List Char}

namespace Definition

inductive Member.Within (text : List Char) : Member → Prop
  | element {o : Occurrence} (h : o.span.Within text) : Member.Within text (.element o)
  | group {c : Compositor} {ms : List Member} (inner : ∀ m ∈ ms, m.Within text) :
      Member.Within text (.group c ms)

def Content.Within (text : List Char) : Content → Prop
  | .empty | .text => True
  | .single target quantifier => target.span.Within text ∧ ∀ s ∈ quantifier, s.Within text
  | .group _ ms _ => ∀ m ∈ ms, m.Within text

def Body.Within (text : List Char) : Body → Prop
  | .element _ attributes content =>
    (∀ o ∈ attributes, o.span.Within text) ∧ content.Within text
  | .attribute valueType default =>
    (∀ n ∈ valueType, n.span.Within text) ∧ ∀ v ∈ default, v.span.Within text
  | .dataType base pattern values minimum maximum =>
    (∀ n ∈ base, n.span.Within text) ∧ (∀ p ∈ pattern, IsLiteral text p) ∧
      (∀ v ∈ values, v.span.Within text) ∧ (∀ n ∈ minimum, n.span.Within text) ∧
      ∀ n ∈ maximum, n.span.Within text
  | .object _ properties _ => ∀ o ∈ properties, o.span.Within text
  | .property valueType => ∀ n ∈ valueType, n.span.Within text
  | .array itemType => itemType.span.Within text

namespace Problem

def Within (text : List Char) : Problem → Prop
  | .unknownProperty _ _ name => name.span.Within text
  | .repeatedProperty _ first again => first.Within text ∧ again.Within text
  | .wrongShape _ _ value _ => value.Within text
  | .notLiteral _ _ entry | .notReference _ _ entry | .notContent _ entry => entry.Within text
  | .quantifier written _ => written.span.Within text
  | .repeatableAttribute _ o => o.span.Within text
  | .repeatedMember _ r => r.first.span.Within text ∧ r.again.span.Within text
  | .missingItemType owner => owner.span.Within text

theorem Within.placed {p : Problem} (h : p.Within text) : p.diagnostic.Placed text := by
  cases p with
  | unknownProperty owner kind name => exact .of_main rfl h (by simp)
  | repeatedProperty owner first again =>
    exact .of_main rfl h.2.span (List.forall_mem_singleton.mpr h.1.span)
  | wrongShape owner property value expected => exact .of_main rfl (Value.Within.span h) (by simp)
  | notLiteral owner property entry => exact .of_main rfl (Entry.Within.span h) (by simp)
  | notReference owner property entry => exact .of_main rfl (Entry.Within.span h) (by simp)
  | notContent owner entry => exact .of_main rfl (Entry.Within.span h) (by simp)
  | quantifier written fault => exact .of_main rfl h (by simp)
  | repeatableAttribute owner o => exact .of_main rfl h (by simp)
  | repeatedMember owner r =>
    simp only [diagnostic]
    split_ifs
    · exact .of_main rfl h.2 (List.forall_mem_singleton.mpr h.1)
    · exact .of_main rfl h.2 (List.forall_mem_singleton.mpr h.1)
  | missingItemType owner => exact .of_main rfl h (by simp)

end Problem

end Definition

structure Definition.Within (text : List Char) (d : Definition) : Prop where
  name : d.name.span.Within text
  body : d.body.Within text

namespace Definition

open Checked (Keeps)

/-- A check whose value has `P` and whose problems have places in the text. -/
abbrev Placed {α : Type} (text : List Char) (P : α → Prop) : Checked Problem α → Prop :=
  Keeps P (Problem.Within text)

theorem propertyProblems_within (owner : String) (kind : Kind) {seen ps : List Property}
    (hs : ∀ p ∈ seen, p.Within text) (h : ∀ p ∈ ps, p.Within text) :
    ∀ q ∈ propertyProblems owner kind seen ps, q.Within text := by
  induction ps generalizing seen with
  | nil => simp [propertyProblems]
  | cons p ps ih =>
    obtain ⟨hp, hps⟩ := List.forall_mem_cons.mp h
    rw [propertyProblems]
    split_ifs
    · cases hf : seen.find? (·.name.value == p.name.value) with
      | none => exact ih (List.forall_mem_append.mpr ⟨hs, List.forall_mem_singleton.mpr hp⟩) hps
      | some first =>
        exact List.forall_mem_cons.mpr ⟨⟨hs first (List.mem_of_find?_eq_some hf), hp⟩, ih hs hps⟩
    · exact List.forall_mem_cons.mpr ⟨hp.name, ih hs hps⟩

theorem given_eq_some {d : Declaration} {property : PropertyName} {v : Value}
    (h : given d property = some v) : d.value? property.text = some v := by
  unfold given at h
  split_ifs at h
  exact h

theorem given_within {d : Declaration} (h : d.Within text) {property : PropertyName} {v : Value}
    (hv : given d property = some v) : v.Within text := by
  obtain ⟨p, hp, rfl⟩ := Option.map_eq_some_iff.mp (given_eq_some hv)
  exact (h.properties p (List.mem_of_find?_eq_some hp)).value

theorem optional_eq_some {α : Type} {d : Declaration} {property : PropertyName} {expected : Shape}
    {read : Value → Option α} {a : α} (h : (optional d property expected read).value = some a) :
    ∃ v, given d property = some v ∧ read v = some a := by
  unfold optional at h
  cases hg : given d property with
  | none => simp [hg] at h
  | some v =>
    refine ⟨v, rfl, ?_⟩
    cases hr : read v with
    | none => simp [hg, hr] at h
    | some b => simpa [hg, hr] using h

theorem optional_within {α : Type} {P : α → Prop} {read : Value → Option α} {d : Declaration}
    (h : d.Within text) (property : PropertyName) (expected : Shape)
    (hread : ∀ v a, v.Within text → read v = some a → P a) :
    Placed text (fun o => ∀ a ∈ o, P a) (optional d property expected read) := by
  unfold optional
  cases hg : given d property with
  | none => exact .pure (by simp)
  | some v =>
    have hv := given_within h hg
    dsimp only
    cases hr : read v with
    | none => exact .report hv (by simp)
    | some a =>
      refine .pure fun b hb => ?_
      cases hb
      exact hread v a hv hr

theorem typeName?_within {v : Value} {n : Located String} (h : v.Within text)
    (hn : typeName? v = some n) : n.span.Within text := by
  unfold typeName? at hn
  split at hn <;> cases hn
  exact Item.Within.name h

theorem literal?_within {v : Value} {s : Located String} (h : v.Within text)
    (hs : literal? v = some s) : s.span.Within text := by
  unfold literal? at hs
  split at hs <;> cases hs
  · exact IsLiteral.within h
  · exact h

theorem integer?_within {v : Value} {n : Located Int} (h : v.Within text)
    (hn : integer? v = some n) : n.span.Within text := by
  unfold integer? at hn
  split at hn <;> cases hn
  exact h

theorem pattern?_within {v : Value} {s : Located String} (h : v.Within text)
    (hs : pattern? v = some s) : IsLiteral text s := by
  unfold pattern? at hs
  split at hs <;> cases hs
  · exact h
  · exact h

theorem literalEntries_within (owner : String) (property : PropertyName) {es : List Entry}
    (h : ∀ e ∈ es, e.Within text) :
    Placed text (fun vs => ∀ v ∈ vs, v.span.Within text) (literalEntries owner property es) := by
  induction es with
  | nil => exact .pure (by simp)
  | cons e es ih =>
    obtain ⟨he, hes⟩ := List.forall_mem_cons.mp h
    cases he with
    | string hs =>
      exact .bind (ih hes) fun vs hvs => .pure (List.forall_mem_cons.mpr ⟨hs, hvs⟩)
    | integer hn =>
      exact .bind (ih hes) fun vs hvs => .pure (List.forall_mem_cons.mpr ⟨hn, hvs⟩)
    | item hi => exact .note (List.forall_mem_singleton.mpr (.item hi)) (ih hes)
    | anyText hs => exact .note (List.forall_mem_singleton.mpr (.anyText hs)) (ih hes)
    | list inner hs => exact .note (List.forall_mem_singleton.mpr (.list inner hs)) (ih hes)

theorem literals_within {d : Declaration} (h : d.Within text) (property : PropertyName) :
    Placed text (fun vs => ∀ v ∈ vs, v.span.Within text) (literals d property) := by
  unfold literals
  split
  · exact .pure (by simp)
  · rename_i s hg
    exact .pure (List.forall_mem_singleton.mpr (IsLiteral.within (given_within h hg)))
  · rename_i n hg
    exact .pure (List.forall_mem_singleton.mpr (given_within h hg))
  · rename_i c es s hg
    exact literalEntries_within _ _ (given_within h hg).1
  · rename_i v _ _ _ hg
    exact .report (given_within h hg) (by simp)

theorem occurrence_within {i : Item} (h : i.Within text) :
    Placed text (fun o => ∀ x ∈ o, x.span.Within text) (occurrence i) := by
  obtain ⟨name, _ | q⟩ := i
  · exact .pure (by simpa [Occurrence.span] using h.name)
  · simp only [occurrence]
    cases q.value.cardinality with
    | ok c => exact .pure (by simpa [Occurrence.span] using h.name)
    | error fault => exact .report (h.quantifier q rfl) (by simp)

theorem referenceEntries_within (owner : String) (property : PropertyName) {es : List Entry}
    (h : ∀ e ∈ es, e.Within text) :
    Placed text (fun os => ∀ o ∈ os, o.span.Within text)
      (referenceEntries owner property es) := by
  induction es with
  | nil => exact .pure (by simp)
  | cons e es ih =>
    obtain ⟨he, hes⟩ := List.forall_mem_cons.mp h
    cases he with
    | item hi =>
      refine .bind (occurrence_within hi) fun o ho => .bind (ih hes) fun os hos => .pure ?_
      exact List.forall_mem_append.mpr ⟨by simpa using ho, hos⟩
    | string hs => exact .note (List.forall_mem_singleton.mpr (.string hs)) (ih hes)
    | integer hn => exact .note (List.forall_mem_singleton.mpr (.integer hn)) (ih hes)
    | anyText hs => exact .note (List.forall_mem_singleton.mpr (.anyText hs)) (ih hes)
    | list inner hs => exact .note (List.forall_mem_singleton.mpr (.list inner hs)) (ih hes)

theorem references_within {d : Declaration} (h : d.Within text) (property : PropertyName) :
    Placed text (fun r => ∀ o ∈ r.2, o.span.Within text) (references d property) := by
  unfold references
  split
  · exact .pure (by simp)
  · rename_i i hg
    exact .bind (occurrence_within (given_within h hg)) fun o ho => .pure (by simpa using ho)
  · rename_i c es s hg
    have hv := given_within h hg
    refine .bind (referenceEntries_within _ _ hv.1) fun os hos => ?_
    cases c with
    | sequence => exact .pure hos
    | unordered => exact .pure hos
    | choice => exact .report hv hos
  · rename_i v _ _ hg
    exact .report (given_within h hg) (by simp)

theorem collapse_within (owner : String) {os : List Occurrence}
    (h : ∀ o ∈ os, o.span.Within text) :
    Placed text (fun os => ∀ o ∈ os, o.span.Within text) (collapse owner os) := by
  refine ⟨fun o ho => h o (Occurrence.mem_of_mem_collapse ho), List.forall_mem_map.mpr ?_⟩
  intro r hr
  obtain ⟨hfirst, hagain, -⟩ := Occurrence.mem_of_mem_collapse_problems hr
  exact ⟨h _ hfirst, h _ hagain⟩

theorem attributesOf_within {d : Declaration} (h : d.Within text) :
    Placed text (fun os => ∀ o ∈ os, o.span.Within text) (attributesOf d) := by
  refine .bind (references_within h .attributes) fun r hr => .note ?_ (collapse_within _ hr)
  refine List.forall_mem_map.mpr fun o ho => ?_
  exact hr o (List.mem_of_mem_filter ho)

theorem arrange_within (owner : String) (c : Compositor) {ms : List Member}
    (h : ∀ m ∈ ms, m.Within text) :
    Placed text (fun ms => ∀ m ∈ ms, m.Within text) (arrange owner c ms) := by
  cases c with
  | unordered =>
    have hos : ∀ o ∈ ms.filterMap Member.occurrence?, o.span.Within text := by
      intro o ho
      obtain ⟨m, hm, hmo⟩ := List.mem_filterMap.mp ho
      cases h m hm with
      | element hs =>
        cases hmo
        exact hs
      | group inner => cases hmo
    refine .bind (collapse_within owner hos) fun os hos => .pure ?_
    refine List.forall_mem_append.mpr ⟨?_, fun m hm => h m (List.mem_of_mem_filter hm)⟩
    exact List.forall_mem_map.mpr fun o ho => .element (hos o ho)
  | _ => exact .pure h

mutual

theorem entryMembers_within (owner : String) (e : Entry) (h : e.Within text) :
    Placed text (fun r => ∀ m ∈ r.1, m.Within text) (entryMembers owner e) :=
  match e, h with
  | .item i, .item hi => by
    rw [entryMembers]
    refine .bind (occurrence_within hi) fun o ho => .pure ?_
    exact List.forall_mem_map.mpr fun x hx => .element (ho x (by simpa using hx))
  | .list c es s, .list inner _ => by
    rw [entryMembers]
    refine .bind (entriesMembers_within owner es inner) fun r hr => ?_
    refine .bind (arrange_within owner c hr) fun ms hms => .pure ?_
    dsimp only
    split_ifs
    · simp
    · exact List.forall_mem_singleton.mpr (.group hms)
  | .anyText s, _ => by
    rw [entryMembers]
    exact .pure (by simp)
  | .string s, hs => by
    rw [entryMembers]
    exact .report hs (by simp)
  | .integer n, hn => by
    rw [entryMembers]
    exact .report hn (by simp)

theorem entriesMembers_within (owner : String) (es : List Entry) (h : ∀ e ∈ es, e.Within text) :
    Placed text (fun r => ∀ m ∈ r.1, m.Within text) (entriesMembers owner es) :=
  match es, h with
  | [], _ => by
    rw [entriesMembers]
    exact .pure (by simp)
  | e :: es, h => by
    obtain ⟨he, hes⟩ := List.forall_mem_cons.mp h
    rw [entriesMembers]
    refine .bind (entryMembers_within owner e he) fun first hfirst => ?_
    refine .bind (entriesMembers_within owner es hes) fun rest hrest => .pure ?_
    exact List.forall_mem_append.mpr ⟨hfirst, hrest⟩

end

theorem contentOf_within {d : Declaration} (h : d.Within text) :
    Placed text (Content.Within text) (contentOf d) := by
  unfold contentOf
  split
  · exact .pure trivial
  · exact .pure trivial
  · rename_i i hg
    have hi : i.Within text := given_within h hg
    refine .bind (occurrence_within hi) fun o ho => ?_
    cases o with
    | none => exact .pure trivial
    | some target =>
      refine .pure ⟨ho target rfl, fun s hs => ?_⟩
      obtain ⟨q, hq, rfl⟩ := Option.map_eq_some_iff.mp hs
      exact hi.quantifier q hq
  · rename_i c es s hg
    refine .bind (entriesMembers_within _ es (given_within h hg).1) fun r hr => ?_
    refine .bind (arrange_within _ c hr) fun ms hms => .pure ?_
    unfold Content.ofMembers
    split_ifs
    · exact trivial
    · exact trivial
    · exact hms
  · rename_i v _ _ _ hg
    exact .report (given_within h hg) trivial

theorem itemTypeOf_within {d : Declaration} (h : d.Within text) :
    Placed text (fun o => o.span.Within text) (itemTypeOf d) := by
  unfold itemTypeOf
  split
  · rename_i i hg
    refine .bind (occurrence_within (given_within h hg)) fun o ho => .pure ?_
    cases o with
    | none => exact h.name
    | some o => exact ho o rfl
  · rename_i v _ hg
    exact .report (given_within h hg) h.name
  · exact .report h.name h.name

theorem objectBody_within {d : Declaration} (h : d.Within text) :
    Placed text (Body.Within text) (objectBody d) := by
  refine .bind (references_within h .properties) fun r hr => ?_
  obtain ⟨order, os⟩ := r
  cases order with
  | ordered => exact .pure hr
  | unordered => exact .bind (collapse_within _ hr) fun os hos => .pure hos

theorem bodyOf_within {d : Declaration} (h : d.Within text) :
    Placed text (Body.Within text) (bodyOf d) := by
  have htype (property : PropertyName) :
      Placed text (fun o => ∀ n ∈ o, n.span.Within text) (typeName d property) :=
    optional_within h property .typeName fun _ _ => typeName?_within
  unfold bodyOf
  cases d.kind.value
  · exact .bind (attributesOf_within h) fun os hos => .bind (contentOf_within h) fun c hc =>
      .pure ⟨hos, hc⟩
  · exact .bind (htype .valueType) fun n hn =>
      .bind (optional_within h .defaultValue .literal fun _ _ => literal?_within) fun v hv =>
        .pure ⟨hn, hv⟩
  · exact .bind (htype .baseType) fun n hn =>
      .bind (optional_within h .allowedPattern .pattern fun _ _ => pattern?_within) fun p hp =>
        .bind (literals_within h .allowedValues) fun vs hvs =>
          .bind (optional_within h .minimumValue .integer fun _ _ => integer?_within) fun m hm =>
            .bind (optional_within h .maximumValue .integer fun _ _ => integer?_within)
              fun m' hm' => .pure ⟨hn, hp, hvs, hm, hm'⟩
  · exact objectBody_within h
  · exact .bind (htype .valueType) fun n hn => .pure hn
  · exact .bind (itemTypeOf_within h) fun o ho => .pure ho

theorem ofDeclaration_within (comments : List (Located String)) {d : Declaration}
    (h : d.Within text) : Placed text (Definition.Within text) (ofDeclaration comments d) := by
  refine .note (propertyProblems_within _ _ (by simp) h.properties) ?_
  refine .bind (bodyOf_within h) fun b hb => ?_
  exact .bind (optional_within (P := fun _ => True) h .tagName .string fun _ _ _ _ => trivial)
    fun tag _ => .pure ⟨h.name, hb⟩

theorem ofDeclarations_within (comments : List (Located String)) {ds : List Declaration}
    (h : ∀ d ∈ ds, d.Within text) :
    Placed text (fun ds => ∀ d ∈ ds, d.Within text) (ofDeclarations comments ds) := by
  induction ds with
  | nil => exact .pure (by simp)
  | cons d ds ih =>
    obtain ⟨hd, hds⟩ := List.forall_mem_cons.mp h
    exact .bind (ofDeclaration_within comments hd) fun first hfirst =>
      .bind (ih hds) fun others hothers => .pure (List.forall_mem_cons.mpr ⟨hfirst, hothers⟩)

end Definition

end DocSchema
