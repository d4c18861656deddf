import DocSchema.Proofs.Result
import DocSchema.XmlSchema

/-!
# What the functions of an XML Schema write

For every function that writes a part of a document: if it succeeds, which names it has made and
which node it gives. Type names identify what they name, since the marks of the two kinds have one
length and no built-in name has an underscore. Later modules open these functions only through the
lemmas here.
-/
namespace DocSchema.XmlSchema

open Artifact (Failure)
open Xml (Node)

/-- What sets the type names of a kind apart. -/
def typeMark? : Kind → Option String
  | .dataType => some "d__"
  | .element => some "e__"
  | _ => none

theorem typeName_eq_ok {settings : Settings} {s : Structure} {name : String} :
    typeName settings s = .ok name ↔
      ∃ mark, typeMark? s.kind = some mark ∧ settings.typePrefix ++ mark ++ s.reference = name ∧
        Xml.isName name = true := by
  unfold typeName typeMark?
  cases s.kind <;> simp
  all_goals
    split_ifs with hn
    · constructor
      · rintro ⟨⟩
        exact ⟨rfl, hn⟩
      · rintro ⟨rfl, -⟩
        rfl
    · constructor
      · rintro ⟨⟩
      · rintro ⟨rfl, h⟩
        exact absurd h hn

theorem reference_eq_of_typeName {settings : Settings} {s s' : Structure} {name : String}
    (h : typeName settings s = .ok name) (h' : typeName settings s' = .ok name) :
    s.reference = s'.reference := by
  obtain ⟨mark, hm, rfl, -⟩ := typeName_eq_ok.mp h
  obtain ⟨mark', hm', he, -⟩ := typeName_eq_ok.mp h'
  have hl := congrArg String.toList he
  simp only [String.toList_append, List.append_assoc, List.append_cancel_left_eq] at hl
  -- both marks have three characters
  have hlen : ∀ {k : Kind} {m : String}, typeMark? k = some m → m.toList.length = 3 := by
    intro k m hk
    cases k <;> simp [typeMark?] at hk <;> subst hk <;> decide
  have hr := (List.append_inj hl (by rw [hlen hm', hlen hm])).2
  exact (String.toList_injective hr).symm

theorem underscore_mem_typeName {settings : Settings} {s : Structure} {name : String}
    (h : typeName settings s = .ok name) : '_' ∈ name.toList := by
  obtain ⟨mark, hm, rfl, -⟩ := typeName_eq_ok.mp h
  have hu : '_' ∈ mark.toList := by
    cases hk : s.kind <;> simp [hk, typeMark?] at hm <;> subst hm <;> decide
  simp [hu]

theorem typeName_ne_primitiveName {settings : Settings} {s : Structure} {name : String}
    (h : typeName settings s = .ok name) (p : Primitive) : name ≠ primitiveName p := by
  rintro rfl
  have hu := underscore_mem_typeName h
  cases p <;> revert hu <;> decide

section Shapes

variable {settings : Settings} {g : Graph} {s : Structure} {slots : List Slot} {n : Node}

theorem dataType_ok {base : TypeRef} {c : Constraints}
    (h : dataType settings g s base c = .ok n) :
    ∃ name type, typeName settings s = .ok name ∧ typeRefName settings g base = .ok type ∧
      n = .branch "xs:simpleType" [("name", name)] (documentation s ++ [restriction type c]) := by
  obtain ⟨name, hn, h⟩ := bind_eq_ok.mp h
  obtain ⟨type, ht, h⟩ := bind_eq_ok.mp h
  exact ⟨name, type, hn, ht, by simpa using h.symm⟩

def attributeFields (required : Bool) (default : Option String) (name type : String) :
    List Xml.Attribute :=
  [("name", name), ("type", type), ("use", if required then "required" else "optional")]
    ++ if required then [] else default.toList.map fun value => ("default", value)

theorem attributeNode_ok {slot : Slot} {valueType : TypeRef} {default : Option String}
    {ns : List Node} (hb : (g.get slot.target).body = .attribute valueType default)
    (h : attributeNode settings g slot = .ok ns) :
    ∃ name type, tagOf (g.get slot.target) = .ok name ∧
      typeRefName settings g valueType = .ok type ∧
      ns = [described "xs:attribute"
        (attributeFields slot.cardinality.isExactlyOne default name type) (g.get slot.target)] := by
  simp only [attributeNode, hb] at h
  obtain ⟨name, hn, h⟩ := bind_eq_ok.mp h
  obtain ⟨type, ht, h⟩ := bind_eq_ok.mp h
  exact ⟨name, type, hn, ht, by simpa [attributeFields] using h.symm⟩

theorem attributeNodes_cons_ok {slot : Slot} {ns : List Node}
    (h : attributeNodes settings g (slot :: slots) = .ok ns) :
    ∃ first rest, attributeNode settings g slot = .ok first ∧
      attributeNodes settings g slots = .ok rest ∧ ns = first ++ rest := by
  rw [attributeNodes] at h
  obtain ⟨first, hf, h⟩ := bind_eq_ok.mp h
  obtain ⟨rest, hr, h⟩ := bind_eq_ok.mp h
  exact ⟨first, rest, hf, hr, by simpa using h.symm⟩

theorem child_ok {slot : Slot} (h : child settings g slot = .ok n) :
    ∃ tag type, tagOf (g.get slot.target) = .ok tag ∧
      typeName settings (g.get slot.target) = .ok type ∧
      n = .leaf "xs:element"
        ([("name", tag), ("type", type)] ++ occurrenceAttributes slot.cardinality) := by
  obtain ⟨tag, ht, h⟩ := bind_eq_ok.mp h
  obtain ⟨type, hn, h⟩ := bind_eq_ok.mp h
  exact ⟨tag, type, ht, hn, by simpa using h.symm⟩

theorem key_of_mem_occurrenceAttributes {c : Cardinality} {a : Xml.Attribute}
    (h : a ∈ occurrenceAttributes c) : a.1 = "minOccurs" ∨ a.1 = "maxOccurs" := by
  rcases List.mem_append.mp h with h | h
  · split_ifs at h <;> simp_all
  · split at h
    · split_ifs at h <;> simp_all
    · simp_all

theorem particle_group_ok {owner : String} {compositor : Compositor} {ps : List Particle}
    {mixed : Bool} (h : particle settings g owner (.group compositor ps mixed) = .ok n) :
    ∃ ns, particles settings g owner ps = .ok ns ∧
      n = .branch (compositorTag compositor) [] ns := by
  cases compositor with
  | unordered => simp [particle] at h
  | _ =>
    simp only [particle] at h
    obtain ⟨ns, hn, h⟩ := bind_eq_ok.mp h
    exact ⟨ns, hn, by simpa using h.symm⟩

theorem particles_cons_ok {owner : String} {p : Particle} {ps : List Particle} {ns : List Node}
    (h : particles settings g owner (p :: ps) = .ok ns) :
    ∃ first rest, particle settings g owner p = .ok first ∧
      particles settings g owner ps = .ok rest ∧ ns = first :: rest := by
  rw [particles] at h
  obtain ⟨first, hf, h⟩ := bind_eq_ok.mp h
  obtain ⟨rest, hr, h⟩ := bind_eq_ok.mp h
  exact ⟨first, rest, hf, hr, by simpa using h.symm⟩

theorem simpleContent_ok {name : String} {value : TypeRef}
    (h : simpleContent settings g name s slots value = .ok n) :
    ∃ base attributes, typeRefName settings g value = .ok base ∧
      attributeNodes settings g slots = .ok attributes ∧
      n = if slots.isEmpty then
          .branch "xs:simpleType" [("name", name)]
            (documentation s ++ [Node.leaf "xs:restriction" [("base", base)]])
        else
          .branch "xs:complexType" [("name", name)] (documentation s
            ++ [Node.branch "xs:simpleContent" []
              [.branch "xs:extension" [("base", base)] attributes]]) := by
  obtain ⟨base, hb, h⟩ := bind_eq_ok.mp h
  cases slots with
  | nil => exact ⟨base, [], hb, rfl, by simpa using h.symm⟩
  | cons slot slots =>
    simp only [List.isEmpty_cons, Bool.false_eq_true, ite_false] at h
    obtain ⟨attributes, ha, h⟩ := bind_eq_ok.mp h
    exact ⟨base, attributes, hb, ha, by simpa using h.symm⟩

theorem complexContent_ok {name : String} {group : Group}
    (h : complexContent settings g name s slots group = .ok n) :
    ∃ members attributes, particles settings g s.reference group.particles = .ok members ∧
      attributeNodes settings g slots = .ok attributes ∧
      n = .branch "xs:complexType"
        (("name", name) :: if group.mixed then [("mixed", "true")] else [])
        (documentation s
          ++ (if group.particles.isEmpty then []
            else [Node.branch (compositorTag group.compositor) [] members])
          ++ attributes) := by
  unfold complexContent at h
  -- two checks come first and leave no trace in the node
  obtain ⟨-, h⟩ := check_bind_eq_ok.mp h
  obtain ⟨_, -, h⟩ := bind_eq_ok.mp h
  cases hp : group.particles with
  | nil =>
    simp only [hp, List.isEmpty_nil, ite_true, pure_eq_ok, ok_bind] at h
    obtain ⟨attributes, ha, h⟩ := bind_eq_ok.mp h
    exact ⟨[], attributes, by simp [particles], ha, by simpa using h.symm⟩
  | cons p ps =>
    simp only [hp, List.isEmpty_cons, Bool.false_eq_true, ite_false, pure_eq_ok, ok_bind] at h
    obtain ⟨members, hm, h⟩ := bind_eq_ok.mp h
    obtain ⟨attributes, ha, h⟩ := bind_eq_ok.mp h
    exact ⟨members, attributes, hm, ha, by simpa using h.symm⟩

theorem element_ok {content : Content} : element settings g s slots content = .ok n →
    ∃ name, typeName settings s = .ok name ∧
      match content with
      | .text => simpleContent settings g name s slots .default = .ok n
      | .value type => simpleContent settings g name s slots type = .ok n
      | .empty => ∃ attributes, attributeNodes settings g slots = .ok attributes ∧
          n = if slots.isEmpty then described "xs:complexType" [("name", name)] s
            else .branch "xs:complexType" [("name", name)] (documentation s ++ attributes)
      | .children group => complexContent settings g name s slots group = .ok n := by
  intro h
  obtain ⟨name, hn, h⟩ := bind_eq_ok.mp h
  obtain ⟨_, -, h⟩ := bind_eq_ok.mp h
  obtain ⟨_, -, h⟩ := bind_eq_ok.mp h
  refine ⟨name, hn, ?_⟩
  cases content with
  | text => exact h
  | value type => exact h
  | children group => exact h
  | empty =>
    cases slots with
    | nil => exact ⟨[], rfl, by simpa using h.symm⟩
    | cons slot slots =>
      simp only [List.isEmpty_cons, Bool.false_eq_true, ite_false] at h
      obtain ⟨attributes, ha, h⟩ := bind_eq_ok.mp h
      exact ⟨attributes, ha, by simpa using h.symm⟩

end Shapes

end DocSchema.XmlSchema
