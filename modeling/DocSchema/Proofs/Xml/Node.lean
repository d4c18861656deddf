import DocSchema.Proofs.Result
import DocSchema.Xml

/-!
# Nodes of XML documents

What can be asked of a node and of the nodes below it.
-/
namespace DocSchema.Xml

def valuesAt (key : String) (attributes : List Attribute) : List String :=
  (attributes.filter (·.1 = key)).map (·.2)

theorem valuesAt_append (key : String) (as bs : List Attribute) :
    valuesAt key (as ++ bs) = valuesAt key as ++ valuesAt key bs := by
  simp [valuesAt]

namespace Node

def tag : Node → String
  | .leaf tag _ | .text tag _ _ | .branch tag _ _ => tag

def attributes : Node → List Attribute
  | .leaf _ attributes | .text _ attributes _ | .branch _ attributes _ => attributes

def children : Node → List Node
  | .leaf .. | .text .. => []
  | .branch _ _ children => children

def attribute? (key : String) (n : Node) : Option String := n.attributes.lookup key

mutual

/-- A property of the tag and the attributes of a node and of every node below it. -/
def All (P : String → List Attribute → Prop) : Node → Prop
  | .leaf tag attributes | .text tag attributes _ => P tag attributes
  | .branch tag attributes children => P tag attributes ∧ AllOf P children

def AllOf (P : String → List Attribute → Prop) : List Node → Prop
  | [] => True
  | n :: ns => n.All P ∧ AllOf P ns

end

theorem allOf_iff {P : String → List Attribute → Prop} {ns : List Node} :
    AllOf P ns ↔ ∀ n ∈ ns, n.All P := by
  induction ns with
  | nil => simp [AllOf]
  | cons n ns ih => simp [AllOf, ih]

theorem allOf_append {P : String → List Attribute → Prop} {ns ms : List Node} :
    AllOf P (ns ++ ms) ↔ AllOf P ns ∧ AllOf P ms := by
  simp only [allOf_iff, List.mem_append, or_imp, forall_and]

mutual

theorem All.imp {P Q : String → List Attribute → Prop} (h : ∀ tag as, P tag as → Q tag as) :
    (n : Node) → n.All P → n.All Q
  | .leaf tag attributes => h tag attributes
  | .text tag attributes _ => h tag attributes
  | .branch tag attributes children => fun hn => ⟨h tag attributes hn.1, AllOf.imp h children hn.2⟩

theorem AllOf.imp {P Q : String → List Attribute → Prop} (h : ∀ tag as, P tag as → Q tag as) :
    (ns : List Node) → AllOf P ns → AllOf Q ns
  | [] => fun _ => trivial
  | n :: ns => fun hn => ⟨All.imp h n hn.1, AllOf.imp h ns hn.2⟩

end

mutual

/-- Every value that an attribute has in a node or below it. -/
def values (key : String) : Node → List String
  | .leaf _ attributes | .text _ attributes _ => valuesAt key attributes
  | .branch _ attributes children => valuesAt key attributes ++ valuesOf key children

def valuesOf (key : String) : List Node → List String
  | [] => []
  | n :: ns => n.values key ++ valuesOf key ns

end

mutual

theorem exists_of_mem_values {P : String → List Attribute → Prop} {key v : String} :
    (n : Node) → n.All P → v ∈ n.values key → ∃ tag attributes, P tag attributes ∧
      v ∈ valuesAt key attributes
  | .leaf tag attributes => fun h hv => ⟨tag, attributes, h, hv⟩
  | .text tag attributes _ => fun h hv => ⟨tag, attributes, h, hv⟩
  | .branch tag attributes children => fun h hv => by
    rcases List.mem_append.mp hv with hv | hv
    · exact ⟨tag, attributes, h.1, hv⟩
    · exact exists_of_mem_valuesOf children h.2 hv

theorem exists_of_mem_valuesOf {P : String → List Attribute → Prop} {key v : String} :
    (ns : List Node) → AllOf P ns → v ∈ valuesOf key ns → ∃ tag attributes, P tag attributes ∧
      v ∈ valuesAt key attributes
  | [] => fun _ hv => by simp [valuesOf] at hv
  | n :: ns => fun h hv => by
    rcases List.mem_append.mp hv with hv | hv
    · exact exists_of_mem_values n h.1 hv
    · exact exists_of_mem_valuesOf ns h.2 hv

end

end Node

end DocSchema.Xml
