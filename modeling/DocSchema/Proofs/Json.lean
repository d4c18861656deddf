import DocSchema.Json
import Mathlib.Data.List.Basic

/-!
# Fields of JSON values

A field put under a new key goes to the end, and a value holds the strings that stand under a key
anywhere in it.
-/
namespace DocSchema.Json

theorem mem_optional {key : String} {value? : Option Json} {f : String × Json} :
    f ∈ optional key value? ↔ ∃ value, value? = some value ∧ f = (key, value) := by
  cases value? <;> simp [optional]

theorem forall_mem_optional {key : String} {value? : Option Json} {P : String × Json → Prop} :
    (∀ f ∈ optional key value?, P f) ↔ ∀ value ∈ value?, P (key, value) := by
  cases value? <;> simp [optional]

theorem put_of_not_mem {fields : List (String × Json)} {key : String}
    (h : key ∉ fields.map (·.1)) (value : Json) :
    put fields key value = fields ++ [(key, value)] := by
  have hn : fields.any (·.1 == key) = false := by
    simp only [List.any_eq_false, beq_iff_eq]
    rintro f hf rfl
    exact h (List.mem_map_of_mem hf)
  simp [put, hn]

def string? : Json → Option String
  | .string s => some s
  | _ => none

@[simp] theorem string?_eq_some_iff {v : Json} {s : String} :
    v.string? = some s ↔ v = .string s := by
  cases v <;> simp [string?]

mutual

/-- The strings under a key, at any depth of a value. -/
def stringsAt (key : String) : Json → List String
  | .array items => itemStringsAt key items
  | .object fields => fieldStringsAt key fields
  | _ => []

def itemStringsAt (key : String) : List Json → List String
  | [] => []
  | v :: vs => v.stringsAt key ++ itemStringsAt key vs

def fieldStringsAt (key : String) : List (String × Json) → List String
  | [] => []
  | (k, v) :: fields =>
    (if k = key then v.string?.toList else []) ++ v.stringsAt key ++ fieldStringsAt key fields

end

theorem mem_stringsAt_array {key s : String} {items : List Json} :
    s ∈ (array items).stringsAt key ↔ ∃ v ∈ items, s ∈ v.stringsAt key := by
  rw [stringsAt]
  induction items with
  | nil => simp [itemStringsAt]
  | cons v vs ih => simp [itemStringsAt, ih]

theorem mem_stringsAt_object {key s : String} {fields : List (String × Json)} :
    s ∈ (object fields).stringsAt key ↔
      ∃ f ∈ fields, f = (key, .string s) ∨ s ∈ f.2.stringsAt key := by
  rw [stringsAt]
  induction fields with
  | nil => simp [fieldStringsAt]
  | cons f fields ih =>
    obtain ⟨k, v⟩ := f
    have hfirst : s ∈ (if k = key then v.string?.toList else []) ↔ (k, v) = (key, .string s) := by
      split_ifs with hk <;> simp [hk]
    simp only [fieldStringsAt, List.mem_append, hfirst, ih, List.mem_cons, exists_eq_or_imp]

def isScalar : Json → Bool
  | .array _ | .object _ => false
  | _ => true

theorem stringsAt_of_isScalar {v : Json} (h : v.isScalar = true) (key : String) :
    v.stringsAt key = [] := by
  cases v with
  | array items => cases h
  | object fields => cases h
  | _ => simp [stringsAt]

end DocSchema.Json
