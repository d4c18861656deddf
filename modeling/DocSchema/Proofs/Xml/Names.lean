import DocSchema.Proofs.Xml.Grammar

/-!
# The names that are accepted

A name is accepted by its letters and numbers, while the grammar of documents lists code points. The
grammar has no place for some letters and numbers, such as raised digits and letters in circles. An
accepted name is a name of the grammar exactly if it has none of these.
-/
namespace DocSchema.Xml

def isNameStart (c : Char) : Bool := c == '_' || Unicode.isAlphabetic c

def isNamePart (c : Char) : Bool :=
  c == '_' || c == '-' || c == '.' || Unicode.isAlphabetic c || Unicode.isNumeric c

theorem isName_cons {name : String} (h : isName name = true) :
    ∃ c cs, name.toList = c :: cs ∧ isNameStart c = true ∧ ∀ d ∈ cs, isNamePart d = true := by
  unfold isName at h
  cases hn : name.toList with
  | nil => simp [hn] at h
  | cons c cs =>
    simp only [hn, Bool.and_eq_true, List.all_eq_true] at h
    exact ⟨c, cs, rfl, h⟩

theorem isNamePart_of_isName {name : String} (h : isName name = true) :
    ∀ c ∈ name.toList, isNamePart c = true := by
  obtain ⟨c, cs, hn, hc, hcs⟩ := isName_cons h
  rw [hn]
  refine List.forall_mem_cons.mpr ⟨?_, hcs⟩
  unfold isNamePart
  rcases Bool.or_eq_true_iff.mp hc with hc | hc <;> simp [hc]

namespace Grammar

/-- The names without a colon. -/
def isNCName (cs : List Char) : Bool := isName cs && !cs.contains ':'

def plainStarts : List (Nat × Nat) := nameStarts.tail

/-- The letters that no name starts with. -/
def strayStarts : List (Nat × Nat) :=
  [(0xAA, 0xAA), (0xB5, 0xB5), (0xBA, 0xBA), (0x345, 0x345), (0x363, 0x36F), (0x24B6, 0x24E9)]

/-- The letters and numbers that no name has. -/
def strayParts : List (Nat × Nat) :=
  [(0xAA, 0xAA), (0xB2, 0xB3), (0xB5, 0xB5), (0xB9, 0xBA), (0xBC, 0xBE), (0x2460, 0x249B),
    (0x24B6, 0x24FF), (0x2776, 0x2793)]

/-- Whether some letter or number stands where the grammar has no place for it. -/
def hasStray : List Char → Bool
  | [] => false
  | c :: cs => inRanges strayStarts c || cs.any (inRanges strayParts)

section Ranges

theorem inRanges_iff {ranges : List (Nat × Nat)} {c : Char} :
    inRanges ranges c = true ↔ ∃ r ∈ ranges, r.1 ≤ c.toNat ∧ c.toNat ≤ r.2 := by
  simp [inRanges]

theorem inRanges_append (as bs : List (Nat × Nat)) (c : Char) :
    inRanges (as ++ bs) c = (inRanges as c || inRanges bs c) :=
  List.any_append

/-- The code point after a range, if `n` lies in it. Whole tables are evaluated with this, so the
tests are Boolean. -/
def advance (n : Nat) (r : Nat × Nat) : Nat := bif r.1.ble n && n.ble r.2 then r.2 + 1 else n

/-- Whether some ranges, passed one after the other, lead from one code point past another. -/
def fill (ranges : List (Nat × Nat)) (first last : Nat) : Bool :=
  last.blt (ranges.foldl advance first)

theorem mem_of_lt_advance {first n : Nat} {r : Nat × Nat} (hf : first ≤ n)
    (hn : n < advance first r) : r.1 ≤ n ∧ n ≤ r.2 := by
  unfold advance at hn
  cases hin : r.1.ble first && first.ble r.2 with
  | true =>
    rw [hin, cond_true] at hn
    simp only [Bool.and_eq_true, Nat.ble_eq] at hin
    omega
  | false =>
    rw [hin, cond_false] at hn
    omega

theorem exists_range_of_lt {ranges : List (Nat × Nat)} {first n : Nat} (hf : first ≤ n)
    (hn : n < ranges.foldl advance first) : ∃ r ∈ ranges, r.1 ≤ n ∧ n ≤ r.2 := by
  induction ranges generalizing first with
  | nil => exact absurd hn (Nat.not_lt.mpr hf)
  | cons r rs ih =>
    rw [List.foldl_cons] at hn
    by_cases hnext : advance first r ≤ n
    · obtain ⟨s, hs, hin⟩ := ih hnext hn
      exact ⟨s, List.mem_cons_of_mem r hs, hin⟩
    · exact ⟨r, List.mem_cons_self, mem_of_lt_advance hf (Nat.lt_of_not_le hnext)⟩

theorem inRanges_of_fill {ranges : List (Nat × Nat)} {first last : Nat}
    (h : fill ranges first last = true) {c : Char} (hf : first ≤ c.toNat) (hl : c.toNat ≤ last) :
    inRanges ranges c = true := by
  have hlt : last < ranges.foldl advance first := by simpa [fill] using h
  exact inRanges_iff.mpr (exists_range_of_lt hf (Nat.lt_of_le_of_lt hl hlt))

def areApart (as bs : List (Nat × Nat)) : Bool :=
  as.all fun a => bs.all fun b => a.2 < b.1 || b.2 < a.1

theorem inRanges_eq_false_of_areApart {as bs : List (Nat × Nat)} (h : areApart as bs = true)
    {c : Char} (hc : inRanges as c = true) : inRanges bs c = false := by
  obtain ⟨a, ha, hin⟩ := inRanges_iff.mp hc
  refine Bool.eq_false_iff.mpr fun hother => ?_
  obtain ⟨b, hb, hin'⟩ := inRanges_iff.mp hother
  have hapart := List.all_eq_true.mp (List.all_eq_true.mp h a ha) b hb
  simp only [Bool.or_eq_true, decide_eq_true_eq] at hapart
  omega

theorem inRanges_eq_not {as bs : List (Nat × Nat)} (h : areApart as bs = true) {c : Char}
    (hc : inRanges (as ++ bs) c = true) : inRanges bs c = !inRanges as c := by
  rw [inRanges_append] at hc
  cases ha : inRanges as c with
  | true => simpa using inRanges_eq_false_of_areApart h ha
  | false => simpa [ha] using hc

end Ranges

section Tables

open Unicode (CodeRange readRangeLines readRangesAux)

abbrev Fills (ranges : List (Nat × Nat)) (table : List CodeRange) : Prop :=
  table.all (fun r => fill ranges r.first r.last) = true

theorem Fills.inRanges {ranges : List (Nat × Nat)} {table : List CodeRange}
    (h : Fills ranges table) {c : Char} (hc : Unicode.inRanges table c.toNat = true) :
    Grammar.inRanges ranges c = true := by
  obtain ⟨r, hr, hin⟩ := List.any_eq_true.mp hc
  simp only [CodeRange.contains, Bool.and_eq_true, decide_eq_true_eq] at hin
  exact inRanges_of_fill (List.all_eq_true.mp h r hr) hin.1 hin.2

/-- A table is read line by line, each from the characters that it is written with. -/
theorem fills_cons {ranges : List (Nat × Nat)} {cs : List Char} {lines : List String}
    (h : Fills ranges (readRangesAux cs none 0)) (hl : Fills ranges (readRangeLines lines)) :
    Fills ranges (readRangeLines (String.ofList cs :: lines)) := by
  simp only [Fills, readRangeLines, List.flatMap_cons, List.all_append, Bool.and_eq_true,
    Unicode.readRanges, String.toList_ofList]
  exact ⟨h, hl⟩

theorem fills_alphabetic : Fills (strayStarts ++ plainStarts) Unicode.alphabeticRanges := by
  unfold Unicode.alphabeticRanges
  repeat refine fills_cons (by decide) ?_
  rfl

theorem fills_numeric : Fills (strayParts ++ (nameParts ++ plainStarts)) Unicode.numericRanges := by
  unfold Unicode.numericRanges
  repeat refine fills_cons (by decide) ?_
  rfl

end Tables

theorem inRanges_of_isNameStart {c : Char} (h : isNameStart c = true) :
    inRanges (strayStarts ++ plainStarts) c = true := by
  rcases Bool.or_eq_true_iff.mp h with h | h
  · rw [eq_of_beq h]
    decide
  · exact Fills.inRanges fills_alphabetic h

theorem inRanges_of_isNamePart {c : Char} (h : isNamePart c = true) :
    inRanges (strayParts ++ (nameParts ++ plainStarts)) c = true := by
  simp only [isNamePart, Bool.or_eq_true, beq_iff_eq] at h
  rcases h with (((rfl | rfl) | rfl) | h) | h
  · decide
  · decide
  · decide
  · -- a letter that no name starts with may still stand further on in a name
    obtain ⟨r, hr, hin⟩ := inRanges_iff.mp (Fills.inRanges fills_alphabetic h)
    have hfill : (strayStarts ++ plainStarts).all
        (fun r => fill (strayParts ++ (nameParts ++ plainStarts)) r.1 r.2) = true := by
      decide
    exact inRanges_of_fill (List.all_eq_true.mp hfill r hr) hin.1 hin.2
  · exact Fills.inRanges fills_numeric h

theorem not_mem_of_isName {name : String} (h : Xml.isName name = true) :
    ∀ c ∈ [':', ' ', '"', '/', '<', '=', '>'], c ∉ name.toList := by
  intro c hc hm
  have hin := inRanges_of_isNamePart (isNamePart_of_isName h c hm)
  have hout : [':', ' ', '"', '/', '<', '=', '>'].all (fun c =>
      !inRanges (strayParts ++ (nameParts ++ plainStarts)) c) = true := by
    decide
  simpa [hin] using List.all_eq_true.mp hout c hc

theorem inRanges_nameStarts {c : Char} (h : isNameStart c = true) :
    inRanges nameStarts c = !inRanges strayStarts c := by
  refine inRanges_eq_not (by decide) ?_
  have hin := inRanges_of_isNameStart h
  rw [inRanges_append, Bool.or_eq_true] at hin ⊢
  exact hin.imp_right fun hp => by
    obtain ⟨r, hr, hle⟩ := inRanges_iff.mp hp
    exact inRanges_iff.mpr ⟨r, List.mem_of_mem_tail hr, hle⟩

theorem inRanges_nameParts {c : Char} (h : isNamePart c = true) :
    inRanges (nameStarts ++ nameParts) c = !inRanges strayParts c := by
  refine inRanges_eq_not (by decide) ?_
  have hin := inRanges_of_isNamePart h
  obtain ⟨r, hr, hle⟩ := inRanges_iff.mp hin
  refine inRanges_iff.mpr ⟨r, ?_, hle⟩
  simp only [List.mem_append] at hr ⊢
  rcases hr with hr | hr | hr
  · exact .inl hr
  · exact .inr (.inr hr)
  · exact .inr (.inl (List.mem_of_mem_tail hr))

/-- An accepted name is a name without a colon, unless it has a letter or number for which the
grammar has no place. -/
theorem isNCName_eq {name : String} (h : Xml.isName name = true) :
    isNCName name.toList = !hasStray name.toList := by
  obtain ⟨c, cs, hn, hc, hcs⟩ := isName_cons h
  have hcolon : name.toList.contains ':' = false := by
    simpa using not_mem_of_isName h ':' (by decide)
  have hrest : cs.all (inRanges (nameStarts ++ nameParts)) = !cs.any (inRanges strayParts) := by
    rw [List.not_any_eq_all_not, Bool.eq_iff_iff, List.all_eq_true, List.all_eq_true]
    exact forall₂_congr fun d hd => by rw [inRanges_nameParts (hcs d hd)]
  rw [isNCName, hcolon, hn, isName, hasStray, inRanges_nameStarts hc, hrest]
  simp

end Grammar

theorem isPlain_of_isName {name : String} (h : isName name = true) : isPlain name = true := by
  obtain ⟨c, cs, hn, -⟩ := isName_cons h
  have hall : ∀ d ∈ name.toList, inName d = true := by
    intro d hd
    unfold inName
    refine decide_eq_true fun hs => ?_
    exact Grammar.not_mem_of_isName h d (List.mem_cons_of_mem ':' hs) hd
  simpa [isPlain, hn] using hall

/-- The names in a tag are accepted. Each is a name of the grammar without a colon unless it has a
stray letter or number, and no attribute is repeated. -/
structure NamedTag (tag : String) (attributes : List Attribute) : Prop where
  accepted : ∀ name ∈ tag :: attributes.map (·.1), isName name = true
  ncName : ∀ name ∈ tag :: attributes.map (·.1),
    (Grammar.isNCName name.toList = true ↔ Grammar.hasStray name.toList = false)
  distinct : (attributes.map (·.1)).Nodup

theorem NamedTag.of_accepted {tag : String} {attributes : List Attribute}
    (h : ∀ name ∈ tag :: attributes.map (·.1), isName name = true)
    (hd : (attributes.map (·.1)).Nodup) : NamedTag tag attributes :=
  ⟨h, fun name hn => by simp [Grammar.isNCName_eq (h name hn)], hd⟩

theorem NamedTag.plain {tag : String} {attributes : List Attribute} (h : NamedTag tag attributes) :
    PlainTag tag attributes :=
  ⟨isPlain_of_isName (h.accepted tag List.mem_cons_self), fun a ha =>
    isPlain_of_isName (h.accepted a.1 (List.mem_cons_of_mem tag (List.mem_map_of_mem ha)))⟩

end DocSchema.Xml
