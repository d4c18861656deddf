import DocSchema.Proofs.WellLinked

/-!
# Groups have members

No group of a compiled graph is empty, at any depth. A list without members gives no group, and
linking without errors keeps every member.
-/
namespace DocSchema

mutual

def Particle.Populated : Particle → Prop
  | .element _ => True
  | .group _ particles _ => particles ≠ [] ∧ Particle.PopulatedOf particles

def Particle.PopulatedOf : List Particle → Prop
  | [] => True
  | p :: ps => p.Populated ∧ Particle.PopulatedOf ps

end

theorem Particle.populatedOf_append {ps qs : List Particle} (hp : Particle.PopulatedOf ps)
    (hq : Particle.PopulatedOf qs) : Particle.PopulatedOf (ps ++ qs) := by
  induction ps with
  | nil => exact hq
  | cons p ps ih => exact ⟨hp.1, ih hp.2⟩

/-- The group of an element has members, and so has every group in it. -/
def Content.Populated : Content → Prop
  | .children group => group.particles ≠ [] ∧ Particle.PopulatedOf group.particles
  | _ => True

namespace Definition

mutual

def Member.Populated : Member → Prop
  | .element _ => True
  | .group _ members => members ≠ [] ∧ Member.PopulatedOf members

def Member.PopulatedOf : List Member → Prop
  | [] => True
  | m :: ms => m.Populated ∧ Member.PopulatedOf ms

end

theorem Member.populatedOf_iff {ms : List Member} :
    Member.PopulatedOf ms ↔ ∀ m ∈ ms, m.Populated := by
  induction ms with
  | nil => simp [Member.PopulatedOf]
  | cons m ms ih => simp [Member.PopulatedOf, ih]

def Content.Populated : Content → Prop
  | .group _ members _ => members ≠ [] ∧ Member.PopulatedOf members
  | _ => True

def Body.Populated : Body → Prop
  | .element _ _ content => content.Populated
  | _ => True

theorem arrange_populated (owner : String) (compositor : Compositor) {ms : List Member}
    (h : Member.PopulatedOf ms) : Member.PopulatedOf (arrange owner compositor ms).value := by
  cases compositor with
  | unordered =>
    rw [Member.populatedOf_iff] at h ⊢
    intro m hm
    simp only [arrange, Checked.value_bind, Checked.value_pure, List.mem_append, List.mem_map,
      List.mem_filter] at hm
    rcases hm with ⟨o, -, rfl⟩ | ⟨hm, -⟩
    · trivial
    · exact h m hm
  | _ => exact h

mutual

theorem entryMembers_populated (owner : String) :
    (e : Entry) → Member.PopulatedOf (entryMembers owner e).value.1
  | .item i => by
    simp only [entryMembers, Checked.value_bind, Checked.value_pure]
    cases (occurrence i).value with
    | none => trivial
    | some o => exact ⟨trivial, trivial⟩
  | .list compositor entries span => by
    have hm := arrange_populated owner compositor (entriesMembers_populated owner entries)
    simp only [entryMembers, Checked.value_bind, Checked.value_pure]
    split_ifs with he
    · trivial
    · exact ⟨⟨by simpa using he, hm⟩, trivial⟩
  | .anyText span => by simp [entryMembers, Member.PopulatedOf]
  | .string s => by simp [entryMembers, Member.PopulatedOf]
  | .integer n => by simp [entryMembers, Member.PopulatedOf]

theorem entriesMembers_populated (owner : String) :
    (es : List Entry) → Member.PopulatedOf (entriesMembers owner es).value.1
  | [] => by simp [entriesMembers, Member.PopulatedOf]
  | e :: es => by
    have hf := Member.populatedOf_iff.mp (entryMembers_populated owner e)
    have hr := Member.populatedOf_iff.mp (entriesMembers_populated owner es)
    simp only [entriesMembers, Checked.value_bind, Checked.value_pure]
    refine Member.populatedOf_iff.mpr fun m hm => ?_
    exact (List.mem_append.mp hm).elim (hf m) (hr m)

end

theorem contentOf_populated (d : Declaration) : (contentOf d).value.Populated := by
  unfold contentOf
  split
  · trivial
  · trivial
  · next i _ =>
    simp only [Checked.value_bind]
    cases (occurrence i).value <;> trivial
  · next compositor entries _ _ =>
    have hm := arrange_populated d.name.value compositor
      (entriesMembers_populated d.name.value entries)
    simp only [Checked.value_bind, Checked.value_pure, Content.ofMembers]
    split_ifs with he
    · trivial
    · trivial
    · exact ⟨by simpa using he, hm⟩
  · trivial

theorem bodyOf_populated (d : Declaration) : (bodyOf d).value.Populated := by
  unfold bodyOf
  cases d.kind.value with
  | element => exact contentOf_populated d
  | object =>
    simp only [objectBody, Checked.value_bind]
    cases (references d .properties).value.1 <;> trivial
  | _ => trivial

theorem ofDeclarations_populated (comments : List (Located String)) (ds : List Declaration) :
    ∀ d ∈ (ofDeclarations comments ds).value, d.body.Populated := by
  induction ds with
  | nil => simp [ofDeclarations]
  | cons d ds ih =>
    simp only [ofDeclarations, Checked.value_bind, Checked.value_pure, List.mem_cons]
    rintro e (rfl | he)
    · exact bodyOf_populated d
    · exact ih e he

end Definition

namespace Link

variable {definitions : List Definition} {owner : String} {usage : Usage}

/-- A step without errors. -/
def Passes {α : Type} (x : Checked Problem α) : Prop := ∀ p ∈ x.problems, p.isError = false

theorem passes_iff {α : Type} {x : Checked Problem α} :
    Passes x ↔ x.problems.any (·.isError) = false := by
  simp [Passes]

theorem Passes.bind {α β : Type} {x : Checked Problem α} {f : α → Checked Problem β}
    (h : Passes (x >>= f)) : Passes x ∧ Passes (f x.value) := by
  simp only [Passes, Checked.problems_bind, List.mem_append] at h
  exact ⟨fun p hp => h p (.inl hp), fun p hp => h p (.inr hp)⟩

theorem lookup_isSome {name : Located String} (h : Passes (lookup definitions owner usage name)) :
    (lookup definitions owner usage name).value.isSome = true := by
  have refuse {problem : Problem} (he : problem.isError = true)
      (hp : Passes (.report problem none : Checked Problem (Option TypeRef))) : False := by
    simp [Passes, he] at hp
  revert h
  unfold lookup
  cases Primitive.ofName? name.value with
  | some p =>
    dsimp only
    split_ifs
    · exact fun _ => rfl
    · exact fun h => (refuse rfl h).elim
  | none =>
    dsimp only
    cases find? definitions name.value with
    | none => exact fun h => (refuse rfl h).elim
    | some found =>
      dsimp only
      split_ifs
      · exact fun _ => rfl
      · exact fun h => (refuse rfl h).elim

/-- Where no built-in type may stand, what is linked without errors has a slot. -/
theorem slot_isSome {o : Occurrence} (hu : usage.acceptsPrimitive = false)
    (h : Passes (slot definitions owner usage o)) :
    (slot definitions owner usage o).value.isSome = true := by
  obtain ⟨t, ht⟩ := Option.isSome_iff_exists.mp (lookup_isSome h.bind.1)
  simp only [slot, Checked.value_bind, ht]
  cases t with
  | primitive p => simpa [Fits, hu] using lookup_fits ht
  | declared id => rfl

mutual

theorem particle_populated : (m : Definition.Member) → m.Populated →
    Passes (particle definitions owner m) →
      (particle definitions owner m).value ≠ [] ∧
        Particle.PopulatedOf (particle definitions owner m).value
  | .element o => fun _ h => by
    rw [particle] at h ⊢
    obtain ⟨s, hs⟩ := Option.isSome_iff_exists.mp (slot_isSome rfl h.bind.1)
    simp [hs, Particle.PopulatedOf, Particle.Populated]
  | .group compositor members => fun hm h => by
    rw [particle] at h ⊢
    have hps := particles_populated members hm.2 h.bind.1
    simpa [Particle.PopulatedOf, Particle.Populated] using ⟨hps.1 hm.1, hps.2⟩

theorem particles_populated : (ms : List Definition.Member) → Definition.Member.PopulatedOf ms →
    Passes (particles definitions owner ms) →
      (ms ≠ [] → (particles definitions owner ms).value ≠ []) ∧
        Particle.PopulatedOf (particles definitions owner ms).value
  | [] => fun _ _ => ⟨fun h => absurd rfl h, by simp [particles, Particle.PopulatedOf]⟩
  | m :: ms => fun hm h => by
    rw [particles] at h ⊢
    have hf := particle_populated m hm.1 h.bind.1
    have hr := particles_populated ms hm.2 h.bind.2.bind.1
    simp only [Checked.value_bind, Checked.value_pure]
    exact ⟨fun _ he => hf.1 (List.append_eq_nil_iff.mp he).1,
      Particle.populatedOf_append hf.2 hr.2⟩

end

theorem content_populated {c : Definition.Content} (hc : c.Populated)
    (h : Passes (content definitions owner c)) :
    (content definitions owner c).value.Populated := by
  cases c with
  | empty => trivial
  | text => trivial
  | group compositor members mixed =>
    rw [content] at h ⊢
    have hps := particles_populated members hc.2 h.bind.1
    exact ⟨hps.1 hc.1, hps.2⟩
  | single target quantifier =>
    simp only [content, Checked.value_bind]
    cases (lookup definitions owner .content target.name).value with
    | none => trivial
    | some t =>
      dsimp only
      split
      · next he =>
        cases t with
        | primitive p => simp [TypeRef.target?] at he
        | declared id =>
          simp [Content.Populated, TypeRef.target?, Particle.PopulatedOf, Particle.Populated]
      · trivial

theorem structures_passes {ds : List Definition} (h : Passes (structures definitions ds)) :
    ∀ d ∈ ds, Passes (structureOf definitions d) := by
  induction ds with
  | nil => simp
  | cons e ds ih =>
    rw [structures] at h
    intro d hd
    rcases List.mem_cons.mp hd with rfl | hd
    · exact h.bind.1
    · exact ih h.bind.2.bind.1 d hd

theorem structureOf_populated {d : Definition} (hd : d.body.Populated)
    (h : Passes (structureOf definitions d)) {root : Bool} {slots : List Slot} {c : Content}
    (hb : (structureOf definitions d).value.body = .element root slots c) : c.Populated := by
  have hb : (body definitions d.name.value d.body).value = .element root slots c := hb
  have hp : Passes (body definitions d.name.value d.body) := h.bind.1
  cases hi : d.body with
  | element root' attributes inner =>
    rw [hi] at hb hd hp
    obtain ⟨-, -, rfl⟩ : _ ∧ _ ∧ (content definitions d.name.value inner).value = c := by
      simpa [body] using hb
    exact content_populated hd hp.bind.2.bind.2.bind.1
  | _ => simp [hi, body] at hb

end Link

theorem compile_populated {source : String} {c : Compiled} (h : compile source = .ok c)
    {s : Structure} (hs : s ∈ c.graph.structures) {root : Bool} {slots : List Slot}
    {content : Content} (hb : s.body = .element root slots content) : content.Populated := by
  obtain ⟨lexed, declarations, -, -, hc⟩ := compile_ok h
  obtain ⟨-, hl, hg, -⟩ := compileDeclarations_ok hc
  have hn := Link.names_problems_of_graph hl
  rw [hg, Link.value_graph] at hs
  let definitions := (Definition.ofDeclarations lexed.comments declarations).value
  have hs : s ∈ (Link.names definitions).value := hs
  rw [Link.names_value] at hs
  obtain ⟨d, hd, rfl⟩ := List.mem_map.mp hs
  have hp : Link.Passes (Link.names definitions) := Link.passes_iff.mpr hn
  exact Link.structureOf_populated (Definition.ofDeclarations_populated _ _ d hd)
    (Link.structures_passes hp.bind.2 d hd) hb

end DocSchema
