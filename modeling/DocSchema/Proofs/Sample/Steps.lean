import DocSchema.Proofs.Sample.Values
import DocSchema.Proofs.Xml.Events

/-!
# A sample document step by step

The sample writer as a machine: it keeps what is left to do, the elements that are open and what it
has written, and nothing bounds its steps. Open elements are entered at most once, so the machine
stops for every graph, with the document or the failure of the sample writer, and the tags that it
has not closed are those of the open elements at any time.
-/
namespace DocSchema.Sample

open Artifact (Failure)
open Xml (Event Node unclosed unclosed_append unclosed_eventsOf)

inductive Task where
  | element (id : StructureId)
  | particle (p : Particle)
  /-- Copies of a child that are still to be written. -/
  | copies (id : StructureId) (n : Nat)
  /-- The end of an open element. -/
  | close (id : StructureId)

structure State where
  /-- What is left to do, the next task first. -/
  tasks : List Task
  /-- The open elements, the innermost first. -/
  path : List StructureId
  out : List Event

namespace State

def start (id : StructureId) : State := ⟨[.element id], [], []⟩

/-- Tasks that come before those that are left. -/
def plan (s : State) (tasks : List Task) : State := { s with tasks := tasks ++ s.tasks }

def write (s : State) (events : List Event) : State := { s with out := s.out ++ events }

end State

/-- Does one task. An element with children stays open until its end is written. -/
def perform (g : Graph) (s : State) : Task → Except Failure State
  | .element id =>
    let tag := (g.get id).tag
    match (g.get id).body with
    | .element _ slots content => do
      let given ← attributes g slots
      match content with
      | .empty => return s.write [.empty tag given]
      | .text =>
        let shown := (g.get id).remarks.exampleValue.getD placeholder
        return s.write [.start tag given, .text shown, .stop tag]
      | .value type =>
        let shown ← value g (g.get id) type
        return s.write [.start tag given, .text shown, .stop tag]
      | .children inner =>
        let s := s.write [.start tag given]
        return { s.plan [.particle inner.particle, .close id] with path := id :: s.path }
    | _ => .ok s
  | .particle (.element slot) =>
    if s.path.contains slot.target then .ok s
    else .ok (s.plan [.copies slot.target (count slot.cardinality)])
  | .particle (.group .choice ps _) =>
    .ok (s.plan ((picked s.path.contains ps).toList.map .particle))
  | .particle (.group _ ps _) => .ok (s.plan (ps.map .particle))
  | .copies _ 0 => .ok s
  | .copies id (n + 1) => .ok (s.plan [.element id, .copies id n])
  | .close id => .ok { s.write [.stop (g.get id).tag] with path := s.path.tail }

def step (g : Graph) (s : State) : Option (Except Failure State) :=
  match s.tasks with
  | [] => none
  | task :: tasks => some (perform g { s with tasks := tasks } task)

def Step (g : Graph) (s t : State) : Prop := step g s = some (.ok t)

/-- Does a number of steps at most: the state where nothing is left to do, the failure of a step, or
no answer yet. -/
def run (g : Graph) : Nat → State → Option (Except Failure State)
  | 0, _ => none
  | n + 1, s =>
    match step g s with
    | none => some (.ok s)
    | some (.error failure) => some (.error failure)
    | some (.ok t) => run g n t

/-- The machine gets from a state to another one, or it fails on the way. -/
inductive Leads (g : Graph) : State → Except Failure State → Prop
  | here (s : State) : Leads g s (.ok s)
  | fails {s : State} {failure : Failure} : step g s = some (.error failure) →
      Leads g s (.error failure)
  | next {s t : State} {result : Except Failure State} : Step g s t → Leads g t result →
      Leads g s result

namespace Leads

variable {g : Graph} {s t : State} {result : Except Failure State}

theorem trans (h : Leads g s (.ok t)) (ht : Leads g t result) : Leads g s result := by
  generalize hx : Except.ok t = x at h
  induction h with
  | here s =>
    cases hx
    exact ht
  | fails => cases hx
  | next hstep _ ih => exact .next hstep (ih hx)

theorem exists_run (h : Leads g s result) (hend : ∀ t, result = .ok t → t.tasks = []) :
    ∃ n, run g n s = some result := by
  induction h with
  | here s =>
    refine ⟨1, ?_⟩
    simp [run, step, hend s rfl]
  | fails hfails => exact ⟨1, by simp [run, hfails]⟩
  | next hstep _ ih =>
    obtain ⟨n, hn⟩ := ih hend
    refine ⟨n + 1, ?_⟩
    unfold Step at hstep
    simp [run, hstep, hn]

end Leads

section Simulation

variable {g : Graph} {path : List StructureId}

def eventsOf (g : Graph) (is : List Instance) : List Event := is.flatMap fun i => (i.node g).events

theorem eventsOf_append (is js : List Instance) :
    eventsOf g (is ++ js) = eventsOf g is ++ eventsOf g js := List.flatMap_append

theorem eventsOf_nodesOf (is : List Instance) :
    Node.eventsOf (Instance.nodesOf g is) = eventsOf g is := by
  induction is with
  | nil => rfl
  | cons i is ih => simp [Instance.nodesOf, Node.eventsOf, ih, eventsOf]

/-- Inside open elements, tasks write what is shown: whatever is left to do after them stays, and so
does what was written before. -/
def Writes (g : Graph) (path : List StructureId) (tasks : List Task)
    (shown : Except Failure (List Instance)) : Prop :=
  ∀ rest out, Leads g ⟨tasks ++ rest, path, out⟩
    (shown.map fun is => ⟨rest, path, out ++ eventsOf g is⟩)

theorem Writes.nil : Writes g path [] (.ok []) := by
  intro rest out
  simpa [eventsOf, Except.map] using Leads.here (g := g) ⟨rest, path, out⟩

theorem Writes.append {as bs : List Task} {x y : Except Failure (List Instance)}
    (hx : Writes g path as x) (hy : Writes g path bs y) :
    Writes g path (as ++ bs) (do let first ← x; return first ++ (← y)) := by
  intro rest out
  rw [List.append_assoc]
  cases x with
  | error failure => exact hx (bs ++ rest) out
  | ok first =>
    refine (hx (bs ++ rest) out).trans ?_
    have hrest := hy rest (out ++ eventsOf g first)
    cases y with
    | error failure => exact hrest
    | ok later =>
      have hout : out ++ eventsOf g first ++ eventsOf g later =
          out ++ eventsOf g (first ++ later) := by
        rw [eventsOf_append, List.append_assoc]
      simp only [Except.map, hout] at hrest
      exact hrest

theorem Writes.of_plan {task : Task} {tasks : List Task} {shown : Except Failure (List Instance)}
    (hp : ∀ rest out, perform g ⟨rest, path, out⟩ task = .ok ⟨tasks ++ rest, path, out⟩)
    (h : Writes g path tasks shown) : Writes g path [task] shown := by
  intro rest out
  have hstep : Step g ⟨[task] ++ rest, path, out⟩ ⟨tasks ++ rest, path, out⟩ := by
    simp [Step, step, hp]
  exact .next hstep (h rest out)

section Particles

variable {child : Slot → Except Failure (List Instance)}

mutual

theorem writes_particle : (p : Particle) →
    (∀ s ∈ p.slots, s.target ∉ path →
      Writes g path [.copies s.target (count s.cardinality)] (child s)) →
    Writes g path [.particle p] (particle path.contains child p)
  | .element slot => fun h => by
    by_cases ho : slot.target ∈ path
    · have hskip (rest : List Task) (out : List Event) :
          perform g ⟨rest, path, out⟩ (.particle (.element slot)) =
            .ok ⟨[] ++ rest, path, out⟩ := by
        simp [perform, ho]
      have hshown : particle path.contains child (.element slot) = .ok [] := by simp [particle, ho]
      rw [hshown]
      exact .of_plan hskip .nil
    · have hplan (rest : List Task) (out : List Event) :
          perform g ⟨rest, path, out⟩ (.particle (.element slot)) =
            .ok ⟨[Task.copies slot.target (count slot.cardinality)] ++ rest, path, out⟩ := by
        simp [perform, ho, State.plan]
      have hshown : particle path.contains child (.element slot) = child slot := by
        simp [particle, ho]
      rw [hshown]
      exact .of_plan hplan (h slot (by simp [Particle.slots]) ho)
  | .group .choice ps mixed => fun h => by
    rw [particle]
    refine Writes.of_plan (fun rest out => rfl) (writes_option ps ?_)
    simpa [Particle.slots] using h
  | .group .sequence ps mixed => fun h => by
    rw [particle]
    · refine Writes.of_plan (fun rest out => rfl) (writes_particles ps ?_)
      simpa [Particle.slots] using h
    · simp
  | .group .unordered ps mixed => fun h => by
    rw [particle]
    · refine Writes.of_plan (fun rest out => rfl) (writes_particles ps ?_)
      simpa [Particle.slots] using h
    · simp

theorem writes_particles : (ps : List Particle) →
    (∀ s ∈ Particle.slotsOf ps, s.target ∉ path →
      Writes g path [.copies s.target (count s.cardinality)] (child s)) →
    Writes g path (ps.map .particle) (particles path.contains child ps)
  | [] => fun _ => by
    rw [particles]
    exact Writes.nil
  | p :: ps => fun h => by
    simp only [Particle.slotsOf, List.mem_append] at h
    rw [particles]
    exact (writes_particle p fun s hs => h s (.inl hs)).append
      (writes_particles ps fun s hs => h s (.inr hs))

theorem writes_option : (ps : List Particle) →
    (∀ s ∈ Particle.slotsOf ps, s.target ∉ path →
      Writes g path [.copies s.target (count s.cardinality)] (child s)) →
    Writes g path ((picked path.contains ps).toList.map .particle)
      (option path.contains child ps)
  | [] => fun _ => by
    rw [option]
    exact Writes.nil
  | p :: ps => fun h => by
    simp only [Particle.slotsOf, List.mem_append] at h
    rw [option]
    cases ho : isOpenElement path.contains p with
    | true => simpa [picked, ho] using writes_option ps fun s hs => h s (.inr hs)
    | false => simpa [picked, ho] using writes_particle p fun s hs => h s (.inl hs)

end

end Particles

theorem writes_copies {id : StructureId} {shown : Except Failure (List Instance)}
    (h : Writes g path [.element id] shown) (n : Nat) :
    Writes g path [.copies id n] (copies n fun _ => shown) := by
  induction n with
  | zero =>
    have hdone (rest : List Task) (out : List Event) :
        perform g ⟨rest, path, out⟩ (.copies id 0) = .ok ⟨[] ++ rest, path, out⟩ := rfl
    exact .of_plan hdone .nil
  | succ n ih =>
    have hcopies : (do let first ← shown; return first ++ (← copies n fun _ => shown)) =
        copies (n + 1) fun _ => shown := by
      cases shown with
      | error failure => rfl
      | ok is =>
        cases n with
        | zero => simp [copies, Except.map]
        | succ n => simp [copies, Except.map, List.replicate_succ]
    rw [← hcopies]
    exact Writes.of_plan (fun rest out => rfl) (h.append ih)

theorem step_of_perform {task : Task} {rest : List Task} {out : List Event} {t : State}
    (h : perform g ⟨rest, path, out⟩ task = .ok t) : Step g ⟨task :: rest, path, out⟩ t := by
  simp [Step, step, h]

theorem eventsOf_branch (id : StructureId) (given : List Xml.Attribute) (is : List Instance) :
    eventsOf g [.branch id given is] =
      .start (g.get id).tag given :: (eventsOf g is ++ [Event.stop (g.get id).tag]) := by
  rw [← eventsOf_nodesOf is]
  simp [eventsOf, Instance.node, Node.events]

theorem leads_children {id : StructureId} {inner : Group} {given : List Xml.Attribute}
    {shown : Except Failure (List Instance)} {rest : List Task} {out : List Event}
    (hstart : Step g ⟨.element id :: rest, path, out⟩
      ⟨.particle inner.particle :: .close id :: rest, id :: path,
        out ++ [Event.start (g.get id).tag given]⟩)
    (h : Writes g (id :: path) [.particle inner.particle] shown) :
    Leads g ⟨.element id :: rest, path, out⟩
      (shown.map fun is => ⟨rest, path, out ++ eventsOf g [.branch id given is]⟩) := by
  refine .next hstart ?_
  have hinner := h (.close id :: rest) (out ++ [Event.start (g.get id).tag given])
  cases shown with
  | error failure => exact hinner
  | ok is =>
    refine hinner.trans (.next (step_of_perform ?_) (.here _))
    simp [perform, State.write, eventsOf_branch]

theorem writes_element (hw : g.WellLinked) {fuel : Nat} {id : StructureId} (ho : Open g path)
    (hf : fuel = g.size + 1 - path.length) (hn : id ∉ path) (hid : id < g.size)
    (hk : (g.get id).kind = .element) : Writes g path [.element id] (element g fuel path id) := by
  -- the induction is on the elements that can still be opened
  induction fuel generalizing path id with
  | zero =>
    have hle := ho.length_le
    omega
  | succ fuel ih =>
    obtain ⟨root, slots, content, hb⟩ := exists_element_body hk
    intro rest out
    rw [List.singleton_append]
    cases hgiven : attributes g slots with
    | error failure =>
      simp only [element, hb, hgiven]
      exact .fails (by simp [step, perform, hb, hgiven])
    | ok given =>
      cases content with
      | empty =>
        simp only [element, hb, hgiven]
        refine .next (step_of_perform ?_) (.here _)
        simp [perform, hb, hgiven, State.write, eventsOf, Instance.node, Node.events]
      | text =>
        simp only [element, hb, hgiven]
        refine .next (step_of_perform ?_) (.here _)
        simp [perform, hb, hgiven, State.write, eventsOf, Instance.node, Node.events]
      | value type =>
        cases hvalue : value g (g.get id) type with
        | error failure =>
          simp only [element, hb, hgiven, hvalue]
          exact .fails (by simp [step, perform, hb, hgiven, hvalue])
        | ok shown =>
          simp only [element, hb, hgiven, hvalue]
          refine .next (step_of_perform ?_) (.here _)
          simp [perform, hb, hgiven, hvalue, State.write, eventsOf, Instance.node, Node.events]
      | children inner =>
        have hopen : Open g (id :: path) := ho.cons hid hn
        have hslots : (g.get id).content.slots = inner.particle.slots := by
          rw [Structure.content_eq hb, Group.slots_particle]
          rfl
        have hinner := writes_particle inner.particle fun slot hs hnew => by
          obtain ⟨hid', hk'⟩ := child_admitted hw hid (hslots ▸ hs)
          exact writes_copies (ih hopen (by simp only [List.length_cons]; omega) hnew hid' hk')
            (count slot.cardinality)
        have hstart : Step g ⟨.element id :: rest, path, out⟩
            ⟨.particle inner.particle :: .close id :: rest, id :: path,
              out ++ [Event.start (g.get id).tag given]⟩ :=
          step_of_perform (by simp [perform, hb, hgiven, State.write, State.plan])
        have hleads := leads_children hstart hinner
        have hshown : element g (fuel + 1) path id = (particle (id :: path).contains
            (fun slot => copies (count slot.cardinality) fun _ =>
              element g fuel (id :: path) slot.target) inner.particle).map
            fun is => [.branch id given is] := by
          simp only [element, hb, hgiven, group_eq_particle]
          rfl
        rw [hshown]
        generalize particle (id :: path).contains _ inner.particle = shown at hleads
        cases shown <;> exact hleads

end Simulation

section Invariant

variable {g : Graph}

/-- Tasks that fit the open elements: each of them is closed once, from the innermost on, and
nothing that is open is entered while it is. -/
inductive Fits (g : Graph) : List Task → List StructureId → Prop
  | nil : Fits g [] []
  | element {id : StructureId} {tasks : List Task} {path : List StructureId}
      (isElement : id ∈ g.ofKind .element) (isNew : id ∉ path) (rest : Fits g tasks path) :
      Fits g (.element id :: tasks) path
  | copies {id : StructureId} {n : Nat} {tasks : List Task} {path : List StructureId}
      (isElement : id ∈ g.ofKind .element) (isNew : id ∉ path) (rest : Fits g tasks path) :
      Fits g (.copies id n :: tasks) path
  | particle {p : Particle} {tasks : List Task} {path : List StructureId}
      (areElements : ∀ s ∈ p.slots, s.target ∈ g.ofKind .element) (rest : Fits g tasks path) :
      Fits g (.particle p :: tasks) path
  | close {id : StructureId} {tasks : List Task} {path : List StructureId}
      (isElement : id ∈ g.ofKind .element) (isNew : id ∉ path) (rest : Fits g tasks path) :
      Fits g (.close id :: tasks) (id :: path)

namespace Fits

variable {tasks : List Task} {path : List StructureId}

theorem nodup (h : Fits g tasks path) : path.Nodup := by
  induction h with
  | nil => exact List.nodup_nil
  | close _ isNew _ ih => exact List.nodup_cons.mpr ⟨isNew, ih⟩
  | _ => assumption

theorem isElement (h : Fits g tasks path) : ∀ id ∈ path, id ∈ g.ofKind .element := by
  induction h with
  | nil => simp
  | close isElement _ _ ih => exact List.forall_mem_cons.mpr ⟨isElement, ih⟩
  | _ => assumption

theorem path_eq_nil (h : Fits g [] path) : path = [] := by
  cases h
  rfl

theorem particles {ps : List Particle}
    (hs : ∀ s ∈ Particle.slotsOf ps, s.target ∈ g.ofKind .element) (h : Fits g tasks path) :
    Fits g (ps.map .particle ++ tasks) path := by
  induction ps with
  | nil => exact h
  | cons p ps ih =>
    simp only [Particle.slotsOf, List.mem_append] at hs
    exact .particle (fun s hm => hs s (.inl hm)) (ih fun s hm => hs s (.inr hm))

end Fits

/-- The tasks fit the open elements, and their start tags are those that are not closed. -/
structure Sound (g : Graph) (s : State) : Prop where
  fits : Fits g s.tasks s.path
  tags : unclosed [] s.out = some (s.path.map fun id => (g.get id).tag)

theorem Sound.start {id : StructureId} (h : id ∈ g.ofKind .element) : Sound g (.start id) :=
  ⟨.element h List.not_mem_nil .nil, rfl⟩

theorem perform_element {s t : State} {id : StructureId}
    (h : perform g s (.element id) = .ok t) :
    (∃ nodes, t = s.write (Node.eventsOf nodes)) ∨
      ∃ root slots inner given, (g.get id).body = .element root slots (.children inner) ∧
        t = ⟨.particle inner.particle :: .close id :: s.tasks, id :: s.path,
          s.out ++ [Event.start (g.get id).tag given]⟩ := by
  have hwritten (n : Node) : s.write n.events = s.write (Node.eventsOf [n]) := by
    simp [Node.eventsOf]
  unfold perform at h
  dsimp only at h
  split at h
  next root slots content hb =>
    obtain ⟨given, -, h⟩ := bind_eq_ok.mp h
    cases content with
    | empty =>
      cases h
      exact .inl ⟨_, hwritten (.leaf _ given)⟩
    | text =>
      cases h
      exact .inl ⟨_, hwritten (.text _ given _)⟩
    | value type =>
      obtain ⟨shown, -, h⟩ := bind_eq_ok.mp h
      cases h
      exact .inl ⟨_, hwritten (.text _ given shown)⟩
    | children inner =>
      cases h
      exact .inr ⟨root, slots, inner, given, hb, rfl⟩
  · cases h
    exact .inl ⟨[], by simp [Node.eventsOf, State.write]⟩

theorem mem_ofKind_element {id : StructureId} :
    id ∈ g.ofKind .element ↔ id < g.size ∧ (g.get id).kind = .element := by
  simp [Graph.ofKind]

theorem Sound.step (hw : g.WellLinked) {s t : State} (h : Sound g s) (hs : Step g s t) :
    Sound g t := by
  obtain ⟨tasks, path, out⟩ := s
  obtain ⟨hfits, hclosed⟩ := h
  cases hfits with
  | nil => cases hs
  | @element id tasks path isElement isNew rest =>
    have hs : perform g ⟨tasks, path, out⟩ (.element id) = .ok t := Option.some.inj hs
    obtain ⟨nodes, rfl⟩ | ⟨root, slots, inner, given, hb, rfl⟩ := perform_element hs
    · refine ⟨rest, ?_⟩
      rw [State.write, unclosed_append, hclosed]
      exact unclosed_eventsOf nodes _
    · have hslots : ∀ s ∈ inner.particle.slots, s.target ∈ g.ofKind .element := by
        intro s hm
        have hcontent : (g.get id).content.slots = inner.slots := by
          rw [Structure.content_eq hb]
          rfl
        rw [Group.slots_particle, ← hcontent] at hm
        exact mem_ofKind_element.mpr (child_admitted hw (mem_ofKind_element.mp isElement).1 hm)
      refine ⟨.particle hslots (.close isElement isNew rest), ?_⟩
      rw [unclosed_append, hclosed]
      rfl
  | @copies id n tasks path isElement isNew rest =>
    cases n with
    | zero =>
      cases hs
      exact ⟨rest, hclosed⟩
    | succ n =>
      cases hs
      exact ⟨.element isElement isNew (.copies isElement isNew rest), hclosed⟩
  | @particle p tasks path areElements rest =>
    have hs : perform g ⟨tasks, path, out⟩ (.particle p) = .ok t := Option.some.inj hs
    cases p with
    | element slot =>
      rw [perform] at hs
      split_ifs at hs with ho
      · cases hs
        exact ⟨rest, hclosed⟩
      · cases hs
        have hnew : slot.target ∉ path := by simpa using ho
        exact ⟨.copies (areElements slot (by simp [Particle.slots])) hnew rest, hclosed⟩
    | group compositor ps mixed =>
      have hslots : ∀ s ∈ Particle.slotsOf ps, s.target ∈ g.ofKind .element := by
        simpa [Particle.slots] using areElements
      cases compositor with
      | choice =>
        cases hs
        refine ⟨?_, hclosed⟩
        cases hp : picked path.contains ps with
        | none => simpa [State.plan, hp] using rest
        | some q =>
          have hq : q ∈ ps := List.mem_of_find?_eq_some hp
          simpa [State.plan, hp] using
            Fits.particle (fun s hm => hslots s (Particle.slots_subset_slotsOf hq hm)) rest
      | sequence =>
        cases hs
        exact ⟨rest.particles hslots, hclosed⟩
      | unordered =>
        cases hs
        exact ⟨rest.particles hslots, hclosed⟩
  | @close id tasks path isElement isNew rest =>
    cases hs
    refine ⟨rest, ?_⟩
    simp only [State.write, List.tail_cons]
    rw [unclosed_append, hclosed]
    simp [unclosed, Event.openTags]

theorem Sound.reaches (hw : g.WellLinked) {s t : State} (h : Sound g s)
    (hr : Relation.ReflTransGen (Step g) s t) : Sound g t := by
  induction hr with
  | refl => exact h
  | tail _ hs ih => exact ih.step hw hs

theorem Sound.length_path_le {s : State} (h : Sound g s) :
    s.path.length ≤ (g.ofKind .element).length :=
  (h.fits.nodup.subperm h.fits.isElement).length_le

end Invariant

section Runs

variable {g : Graph}

theorem exists_run_start (hw : g.WellLinked) (settings : Settings) {name : Option String}
    {id : StructureId} (hr : root g name = .ok id) :
    ∃ n answer, run g n (.start id) = some answer ∧
      render settings g name = answer.map fun s => Xml.eventDocument settings.indent s.out := by
  obtain ⟨hid, hk⟩ := root_isElement hr
  have hleads := writes_element hw Open.nil rfl List.not_mem_nil hid hk [] []
  obtain ⟨n, hn⟩ := hleads.exists_run fun t ht => by
    obtain ⟨is, -, rfl⟩ := map_eq_ok.mp ht
    rfl
  refine ⟨n, _, hn, ?_⟩
  simp only [render, instances, hr, ok_bind]
  cases hshown : element g (g.size + 1) [] id with
  | error failure => rfl
  | ok shown =>
    obtain ⟨i, rfl, -⟩ := made_of_element Open.nil List.not_mem_nil hid hk hshown
    have hevents : eventsOf g [i] = (i.node g).events := by simp [eventsOf]
    simp only [ok_bind, Except.map, List.nil_append, hevents, Xml.eventDocument_events]
    rfl

theorem reaches_of_run {n : Nat} {s t : State} (h : run g n s = some (.ok t)) :
    Relation.ReflTransGen (Step g) s t ∧ t.tasks = [] := by
  induction n generalizing s with
  | zero => cases h
  | succ n ih =>
    rw [run] at h
    split at h
    next hstep =>
      cases h
      refine ⟨.refl, ?_⟩
      cases htasks : t.tasks with
      | nil => rfl
      | cons task tasks => simp [step, htasks] at hstep
    · cases h
    next next hstep =>
      obtain ⟨hreach, hend⟩ := ih h
      exact ⟨.head hstep hreach, hend⟩

/-- The instances that an instance stands in are of different elements, and so is it itself. -/
theorem Made.depth_le (hw : g.WellLinked) {i j : Instance} (h : Made g [] i)
    {above : List StructureId} (hj : i.Within above j) :
    (j.id :: above).length ≤ (g.ofKind .element).length := by
  have hsub : ∀ id ∈ j.id :: above, id ∈ g.ofKind .element := by
    induction hj with
    | root => simpa using mem_ofKind_element.mpr ⟨h.bound, h.isElement⟩
    | child hi hc ih =>
      have hmade := h.within hw (.child hi hc)
      exact List.forall_mem_cons.mpr ⟨mem_ofKind_element.mpr ⟨hmade.bound, hmade.isElement⟩, ih⟩
  exact ((h.within hw hj).open_cons.nodup.subperm hsub).length_le

end Runs

/-- A type of which a sample shows values. -/
def Sampled (g : Graph) (t : TypeRef) : Prop :=
  ∃ id < g.size, ∃ place ∈ [Place.attributeType, .valueContent],
    (place, t) ∈ (g.get id).body.references

/-- Writing a sample ends for every compiled graph. Without a root element it fails at once.
Otherwise the machine, whose steps nothing bounds, stops with the answer of the sample writer; in
every state on the way no element is open twice, and the tags that are not closed are those of the
open elements, so that none is left when it stops with a document. In a document no element stands
inside another one of its structure, and the chains of bases that are followed for values end. -/
theorem sample_run_ends {source : String} {c : Compiled} (hc : compile source = .ok c)
    (settings : Settings) (name : Option String) :
    (∀ failure, root c.graph name = .error failure →
      render settings c.graph name = .error failure) ∧
    (∀ id, root c.graph name = .ok id →
      (∃ n answer, run c.graph n (.start id) = some answer ∧
        render settings c.graph name =
          answer.map (fun s => Xml.eventDocument settings.indent s.out) ∧
        ∀ s, answer = .ok s → s.path = [] ∧ unclosed [] s.out = some []) ∧
      ∀ s, Relation.ReflTransGen (Step c.graph) (.start id) s →
        s.path.Nodup ∧ s.path.length ≤ (c.graph.ofKind .element).length ∧
          unclosed [] s.out = some (s.path.map fun id => (c.graph.get id).tag)) ∧
    (∀ text, render settings c.graph name = .ok text →
      ∃ i : Instance, text = Xml.Document.render settings.indent ⟨none, i.node c.graph⟩ ∧
        ∀ above j, i.Within above j →
          j.id ∉ above ∧ (j.id :: above).length ≤ (c.graph.ofKind .element).length) ∧
    ∀ t, Sampled c.graph t → ∃ p ks, c.graph.Chain p t ks := by
  have hg := compile_typesSound hc
  refine ⟨?_, ?_, ?_, ?_⟩
  · intro failure hr
    simp [render, instances, hr]
  · intro id hr
    have hstart : Sound c.graph (.start id) := .start (mem_ofKind_element.mpr (root_isElement hr))
    obtain ⟨n, answer, hrun, hrender⟩ := exists_run_start hg.wellLinked settings hr
    refine ⟨⟨n, answer, hrun, hrender, ?_⟩, fun s hs => ?_⟩
    · rintro s rfl
      obtain ⟨hreach, hend⟩ := reaches_of_run hrun
      have hsound := hstart.reaches hg.wellLinked hreach
      have hpath : s.path = [] := (hend ▸ hsound.fits).path_eq_nil
      refine ⟨hpath, ?_⟩
      rw [hsound.tags, hpath]
      rfl
    · have hsound := hstart.reaches hg.wellLinked hs
      exact ⟨hsound.fits.nodup, hsound.length_path_le, hsound.tags⟩
  · intro text ht
    obtain ⟨i, -, -, hmade, rfl⟩ := render_eq_ok ht
    refine ⟨i, rfl, fun above j hj => ⟨(hmade.within hg.wellLinked hj).isNew, ?_⟩⟩
    exact hmade.depth_le hg.wellLinked hj
  · rintro t ⟨id, hid, place, hplace, ht⟩
    have hadmits := hg.wellLinked.admits _ (Graph.get_mem hid) _ ht
    refine hg.ends t ?_
    simp only [List.mem_cons, List.not_mem_nil, or_false] at hplace
    obtain rfl | rfl := hplace
    · cases t <;> exact hadmits
    · cases t <;> exact hadmits

def nestedSource : String :=
  "root element a \x7ballowedContent: [b (n >= 0), a (optional)];\x7d
  element b \x7ballowedContent: \x7ba / c\x7d;\x7d element c \x7b\x7d"

set_option maxRecDepth 4000 in
theorem sample_run_ends_nested : ∃ c, compile nestedSource = .ok c ∧
    root c.graph none = .ok 0 ∧
    (∃ n s, run c.graph n (.start 0) = some (.ok s) ∧ s.path = [] ∧ unclosed [] s.out = some [] ∧
      render .default c.graph none = .ok (Xml.eventDocument Settings.default.indent s.out)) ∧
    ∀ s, Relation.ReflTransGen (Step c.graph) (.start 0) s → s.path.Nodup ∧ s.path.length ≤ 3 := by
  obtain ⟨c, hc, ht⟩ := exists_compiled (String.toList_ofList : nestedSource.toList = _)
    (fun c => (root c.graph none).toOption == some 0 && (c.graph.ofKind .element).length == 3
      && (render .default c.graph none).toOption.isSome) (by decide)
  simp only [Bool.and_eq_true, beq_iff_eq] at ht
  obtain ⟨⟨hroot, hcount⟩, hsome⟩ := ht
  have hroot := toOption_eq_some.mp hroot
  obtain ⟨text, htext⟩ := Option.isSome_iff_exists.mp hsome
  have htext := toOption_eq_some.mp htext
  obtain ⟨-, hrun, -, -⟩ := sample_run_ends hc .default none
  obtain ⟨⟨n, answer, hn, hrender, hend⟩, hstates⟩ := hrun 0 hroot
  obtain ⟨s, rfl, hout⟩ := map_eq_ok.mp (hrender.symm.trans htext)
  obtain ⟨hpath, htags⟩ := hend s rfl
  refine ⟨c, hc, hroot, ⟨n, s, hn, hpath, htags, ?_⟩, fun s hs => ?_⟩
  · rw [htext, hout]
  · obtain ⟨hnodup, hle, -⟩ := hstates s hs
    exact ⟨hnodup, hcount ▸ hle⟩

end DocSchema.Sample
