import DocSchema.Proofs.Result
import DocSchema.Unicode.Property

/-!
# Names of properties

The names of properties, categories and scripts are made of small letters, digits and dots. Loose
comparison ignores nothing that has a meaning in patterns beyond hyphens, so a name that is found
has no such sign.
-/
namespace DocSchema.Unicode

/-- The characters that open or close a part of a pattern, and the backslash. -/
def structural : List Char := ['(', ')', '[', ']', '\\']

/-- The characters with a meaning in patterns that no name has. -/
def signs : List Char := structural ++ ['\x7b', '\x7d', '*', '+', '?', '^', '$', '&', '~']

theorem structural_subset_signs : structural ⊆ signs := List.subset_append_left ..

def isNameByte (b : UInt8) : Bool := b == 46 || (48 ≤ b && b ≤ 57) || (97 ≤ b && b ≤ 122)

/-- The tables are compared by bytes because their names are not decoded then. -/
def hasPlainBytes (name : String) : Bool := name.toByteArray.data.toList.all isNameByte

def arePlain (table : List (List String × List String)) : Bool :=
  table.all fun row => row.1.all hasPlainBytes

theorem not_mem_of_hasPlainBytes {text : List Char} (h : hasPlainBytes (String.ofList text) = true)
    {c : Char} (hc : c ∈ signs) : c ∉ text := by
  intro hmem
  have hbytes : ∀ b ∈ String.utf8EncodeChar c, isNameByte b = true := by
    intro b hb
    refine List.all_eq_true.1 h b ?_
    have : b ∈ text.flatMap String.utf8EncodeChar := List.mem_flatMap.2 ⟨c, hmem, hb⟩
    simpa [String.ofList, List.utf8Encode] using this
  have hnone : signs.all (fun c =>
      (String.utf8EncodeChar c).any fun b => !isNameByte b) = true := by
    decide
  obtain ⟨b, hb, hfalse⟩ := List.any_eq_true.1 (List.all_eq_true.1 hnone c hc)
  rw [hbytes b hb] at hfalse
  cases hfalse

def tables : List (List (List String × List String)) :=
  [binaryProperties, categories, categoryGroups, scripts, scriptExtensions, ages, graphemeBreaks,
    wordBreaks, sentenceBreaks]

theorem arePlain_of_mem {table : List (List String × List String)} (h : table ∈ tables) :
    arePlain table = true := by
  have hall : tables.all arePlain = true := by decide +kernel
  exact List.all_eq_true.mp hall table h

theorem hasPlainBytes_of_find (table : List (List String × List String)) (ht : table ∈ tables)
    {name : String} (h : (table.find? (·.1.contains name)).isSome) : hasPlainBytes name = true := by
  obtain ⟨row, hrow⟩ := Option.isSome_iff_exists.1 h
  have hname : name ∈ row.1 := by simpa using List.find?_some hrow
  have hall := List.all_eq_true.1 (arePlain_of_mem ht) row (List.mem_of_find?_eq_some hrow)
  exact List.all_eq_true.1 hall name hname

theorem hasPlainBytes_of_generalCategory {name : String} (h : (generalCategory? name).isSome) :
    hasPlainBytes name = true := by
  unfold generalCategory? at h
  split at h
  next hany =>
    rw [eq_of_beq hany]
    decide
  split at h
  next hascii =>
    rw [eq_of_beq hascii]
    decide
  split at h
  next hassigned =>
    rw [eq_of_beq hassigned]
    decide
  unfold category? at h
  split at h
  next row hrow =>
    exact hasPlainBytes_of_find categoryGroups (by simp [tables]) (by rw [hrow]; rfl)
  next =>
    exact hasPlainBytes_of_find categories (by simp [tables]) (by simpa [simpleCategory?] using h)

theorem hasPlainBytes_of_ageFrom {table : List (List String × List String)}
    (ht : arePlain table = true) {name : String} {before : List CodeRange}
    (h : (ageFrom? name before table).isSome) : hasPlainBytes name = true := by
  induction table generalizing before with
  | nil => simp [ageFrom?] at h
  | cons row rows ih =>
    simp only [arePlain, List.all_cons, Bool.and_eq_true] at ht
    by_cases hname : row.1.contains name = true
    · exact List.all_eq_true.1 ht.1 name (by simpa using hname)
    · simp only [ageFrom?, hname] at h
      exact ih ht.2 h

/-- Loose comparison ignores no sign. -/
theorem mem_looseName {name : List Char} {c : Char} (hc : c ∈ signs) (h : c ∈ name) :
    ∃ kept, looseName name = String.ofList kept ∧ c ∈ kept := by
  have hkeeps : signs.all (fun c =>
      (c.toNat < 128 && c != ' ' && c != '_' && c != '-') && c.toLower == c && c != 'c' &&
        c ∉ ['i', 'I', 's', 'S']) = true := by
    decide
  have hthis := List.all_eq_true.1 hkeeps c hc
  simp only [Bool.and_eq_true, bne_iff_ne, beq_iff_eq, decide_eq_true_eq] at hthis
  obtain ⟨⟨⟨hkept, hlower⟩, hne⟩, hmark⟩ := hthis
  have hmem : ∀ rest : List Char, c ∈ rest →
      c ∈ (rest.filter fun c => c.toNat < 128 && c != ' ' && c != '_' && c != '-').map
        Char.toLower :=
    fun rest hrest => List.mem_map.2 ⟨c, List.mem_filter.2 ⟨hrest, by simpa using hkept⟩, hlower⟩
  have hsingle : ∀ kept : List Char, c ∈ kept → (kept == ['c']) = false := by
    intro kept hk
    rw [beq_eq_false_iff_ne]
    rintro rfl
    exact hne (List.mem_singleton.1 hk)
  unfold looseName
  rcases name with _ | ⟨a, _ | ⟨b, rest⟩⟩
  · cases h
  · exact ⟨_, by simp, hmem [a] h⟩
  · by_cases his : ((a == 'i' || a == 'I') && (b == 's' || b == 'S')) = true
    · have hrest : c ∈ rest := by
        simp only [Bool.and_eq_true, Bool.or_eq_true, beq_iff_eq] at his
        simp only [List.mem_cons] at h
        grind
      refine ⟨_, ?_, hmem rest hrest⟩
      simp only [his, if_true, hsingle _ (hmem rest hrest), Bool.and_false, Bool.false_eq_true,
        if_false]
    · refine ⟨_, ?_, hmem _ h⟩
      simp only [his, Bool.false_eq_true, if_false, Bool.false_and]

theorem not_mem_of_looseName {name : List Char} (h : hasPlainBytes (looseName name) = true)
    {c : Char} (hc : c ∈ signs) : c ∉ name := by
  intro hmem
  obtain ⟨kept, hname, hkept⟩ := mem_looseName hc hmem
  rw [hname] at h
  exact not_mem_of_hasPlainBytes h hc hkept

theorem not_mem_of_named {name : List Char} (h : (named? name).isSome) {c : Char}
    (hc : c ∈ signs) : c ∉ name := by
  refine not_mem_of_looseName ?_ hc
  unfold named? at h
  obtain h | h := isSome_of_isSome_orElse h
  · split at h
    · cases h
    · exact hasPlainBytes_of_find binaryProperties (by simp [tables])
        (by simpa [binaryProperty?] using h)
  obtain h | h := isSome_of_isSome_orElse h
  · exact hasPlainBytes_of_generalCategory h
  · exact hasPlainBytes_of_find scripts (by simp [tables]) (by simpa [script?] using h)

theorem not_mem_of_valued {property value : List Char} (h : (valued? property value).isSome)
    {c : Char} (hc : c ∈ signs) : c ∉ property ∧ c ∉ value := by
  have hplain : hasPlainBytes (looseName property) = true ∧
      hasPlainBytes (looseName value) = true := by
    have hkey : ∀ {key short long : String}, (key == short || key == long) = true →
        hasPlainBytes short = true → hasPlainBytes long = true → hasPlainBytes key = true := by
      intro key short long hk hshort hlong
      obtain rfl | rfl : key = short ∨ key = long := by simpa using hk
      exacts [hshort, hlong]
    unfold valued? at h
    dsimp only at h
    split at h
    next hk => exact ⟨hkey hk (by decide) (by decide), hasPlainBytes_of_generalCategory h⟩
    split at h
    next hk =>
      exact ⟨hkey hk (by decide) (by decide),
        hasPlainBytes_of_find scripts (by simp [tables]) (by simpa [script?] using h)⟩
    split at h
    next hk =>
      exact ⟨hkey hk (by decide) (by decide),
        hasPlainBytes_of_find scriptExtensions (by simp [tables])
          (by simpa [scriptExtension?] using h)⟩
    split at h
    next hk =>
      have hages : arePlain ages = true := arePlain_of_mem (by simp [tables])
      exact ⟨by rw [eq_of_beq hk]; decide, hasPlainBytes_of_ageFrom hages h⟩
    split at h
    next hk =>
      exact ⟨hkey hk (by decide) (by decide),
        hasPlainBytes_of_find graphemeBreaks (by simp [tables]) (by simpa [graphemeBreak?] using h)⟩
    split at h
    next hk =>
      exact ⟨hkey hk (by decide) (by decide),
        hasPlainBytes_of_find wordBreaks (by simp [tables]) (by simpa [wordBreak?] using h)⟩
    split at h
    next hk =>
      exact ⟨hkey hk (by decide) (by decide),
        hasPlainBytes_of_find sentenceBreaks (by simp [tables]) (by simpa [sentenceBreak?] using h)⟩
    cases h
  exact ⟨not_mem_of_looseName hplain.1 hc, not_mem_of_looseName hplain.2 hc⟩

end DocSchema.Unicode
