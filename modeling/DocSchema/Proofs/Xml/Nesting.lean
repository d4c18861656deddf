import DocSchema.Proofs.Xml.Grammar

/-!
# The comment of a document

A text can be taken for a document in one way only, as far as its comment goes: a comment that
holds two hyphens in a row is not saved by another reading of the text that follows them. A scan
that counts the elements at the top of a document shows it, since a shorter comment would leave
something of itself before the one element that a document has.
-/
namespace DocSchema.Xml.Grammar

inductive Mode where
  | text
  /-- After the bracket that opens a tag. -/
  | opened
  | start
  /-- Inside the quotes of an attribute. -/
  | value
  /-- After the slash of an empty element. -/
  | slash
  | stop
  deriving DecidableEq, Repr

structure Scan where
  mode : Mode
  depth : Nat
  roots : Nat
  deriving DecidableEq, Repr

def Scan.closed (depth roots : Nat) : Scan := ⟨.text, depth, if depth = 0 then roots + 1 else roots⟩

def initial : Scan := ⟨.text, 0, 0⟩

/-- Reads one character. Outside all elements there are blanks only. -/
def step (s : Scan) (c : Char) : Option Scan :=
  match s.mode with
  | .text =>
    if c = '<' then some { s with mode := .opened }
    else if s.depth = 0 ∧ c ∉ [' ', '\t', '\n', '\r'] then none
    else some s
  | .opened =>
    if c = '/' then some { s with mode := .stop }
    else if inRanges nameStarts c then some { s with mode := .start }
    else none
  | .start =>
    if c = '"' then some { s with mode := .value }
    else if c = '/' then some { s with mode := .slash }
    else if c = '>' then some ⟨.text, s.depth + 1, s.roots⟩
    else if c = '<' then none
    else some s
  | .value =>
    if c = '"' then some { s with mode := .start } else if c = '<' then none else some s
  | .slash => if c = '>' then some (.closed s.depth s.roots) else none
  | .stop =>
    if c = '>' then
      if s.depth = 0 then none else some (.closed (s.depth - 1) s.roots)
    else if c = '<' then none
    else some s

def scan (s : Scan) : List Char → Option Scan
  | [] => some s
  | c :: cs => (step s c).bind fun next => scan next cs

section Scanning

variable {s t : Scan} {cs ds : List Char}

theorem scan_append (s : Scan) (cs ds : List Char) :
    scan s (cs ++ ds) = (scan s cs).bind fun next => scan next ds := by
  induction cs generalizing s with
  | nil => rfl
  | cons c cs ih => simp only [List.cons_append, scan, ih, Option.bind_assoc]

theorem scan_append_of_eq (h : scan s cs = some t) (ds : List Char) :
    scan s (cs ++ ds) = scan t ds := by
  rw [scan_append, h, Option.bind_some]

theorem scan_of_step (h : ∀ c ∈ cs, step s c = some s) : scan s cs = some s := by
  induction cs with
  | nil => rfl
  | cons c cs ih =>
    rw [scan, h c (by simp), Option.bind_some]
    exact ih fun d hd => h d (by simp [hd])

theorem mode_of_step_bracket (h : step s '<' = some t) : s.mode = .text := by
  obtain ⟨mode, depth, roots⟩ := s
  cases mode with
  | text => rfl
  | opened =>
    have hr : inRanges nameStarts '<' = false := by decide
    simp [step, hr] at h
  | _ => simp [step] at h

/-- What has been read cannot be undone: either something is open, or something has ended. -/
theorem step_ne_initial {c : Char} (hs : s ≠ initial) (h : step s c = some t) : t ≠ initial := by
  rintro rfl
  obtain ⟨mode, depth, roots⟩ := s
  cases mode with
  | text =>
    simp only [step] at h
    split_ifs at h
    · simp [initial] at h
    · exact hs (Option.some.inj h)
  | opened =>
    simp only [step] at h
    split_ifs at h <;> simp [initial] at h
  | start =>
    simp only [step] at h
    split_ifs at h <;> simp [initial] at h
  | value =>
    simp only [step] at h
    split_ifs at h <;> simp [initial] at h
  | slash =>
    simp only [step] at h
    split_ifs at h
    simp only [Scan.closed, initial, Option.some.injEq, Scan.mk.injEq, true_and] at h
    obtain ⟨rfl, hr⟩ := h
    simp at hr
  | stop =>
    simp only [step] at h
    split_ifs at h
    · simp only [Scan.closed, initial, Option.some.injEq, Scan.mk.injEq, true_and] at h
      obtain ⟨hd, hr⟩ := h
      simp [hd] at hr
    · simp [initial] at h

theorem scan_ne_initial (hs : s ≠ initial) (h : scan s cs = some t) : t ≠ initial := by
  induction cs generalizing s with
  | nil =>
    obtain rfl := Option.some.inj h
    exact hs
  | cons c cs ih =>
    obtain ⟨next, hn, hr⟩ := Option.bind_eq_some_iff.mp h
    exact ih (step_ne_initial hs hn) hr

theorem blank_of_scan (h : scan initial cs = some initial) : Blank cs := by
  induction cs with
  | nil => simp [Blank]
  | cons c cs ih =>
    obtain ⟨next, hn, hr⟩ := Option.bind_eq_some_iff.mp h
    obtain rfl : next = initial := by
      by_contra hne
      exact scan_ne_initial hne hr rfl
    intro d hd
    rcases List.mem_cons.mp hd with rfl | hd
    · by_contra hb
      have hl : d ≠ '<' := by
        rintro rfl
        simp [step, initial] at hn
      simp [step, initial, hl, hb] at hn
    · exact ih hr d hd

theorem Blank.step_text (h : Blank cs) (depth roots : Nat) :
    ∀ c ∈ cs, step ⟨.text, depth, roots⟩ c = some ⟨.text, depth, roots⟩ := by
  intro c hc
  have hm := h c hc
  have hl : c ≠ '<' := by
    rintro rfl
    simp at hm
  simp only [step, hl, if_false, hm, not_true_eq_false, and_false]

theorem Blank.scan (h : Blank cs) (depth roots : Nat) :
    scan ⟨.text, depth, roots⟩ cs = some ⟨.text, depth, roots⟩ :=
  scan_of_step (h.step_text depth roots)

end Scanning

section Derived

variable {cs : List Char}

theorem ne_of_inRanges {c : Char} (h : inRanges (nameStarts ++ nameParts) c = true) :
    c ≠ '"' ∧ c ≠ '/' ∧ c ≠ '>' ∧ c ≠ '<' := by
  refine ⟨?_, ?_, ?_, ?_⟩ <;> (rintro rfl; revert h; decide)

theorem forall_of_isName (h : isName cs = true) :
    ∀ c ∈ cs, inRanges (nameStarts ++ nameParts) c = true := by
  cases cs with
  | nil => simp
  | cons c cs =>
    simp only [isName, Bool.and_eq_true, List.all_eq_true] at h
    intro d hd
    rcases List.mem_cons.mp hd with rfl | hd
    · simp only [inRanges, List.any_append, Bool.or_eq_true]
      exact .inl h.1
    · exact h.2 d hd

theorem scan_name_start (h : isName cs = true) (depth roots : Nat) :
    scan ⟨.start, depth, roots⟩ cs = some ⟨.start, depth, roots⟩ := by
  refine scan_of_step fun c hc => ?_
  obtain ⟨hq, hs, hg, hl⟩ := ne_of_inRanges (forall_of_isName h c hc)
  simp only [step, hq, hs, hg, hl, if_false]

theorem scan_name_stop (h : isName cs = true) (depth roots : Nat) :
    scan ⟨.stop, depth, roots⟩ cs = some ⟨.stop, depth, roots⟩ := by
  refine scan_of_step fun c hc => ?_
  obtain ⟨-, -, hg, hl⟩ := ne_of_inRanges (forall_of_isName h c hc)
  simp only [step, hg, hl, if_false]

theorem scan_name_opened (h : isName cs = true) (depth roots : Nat) :
    scan ⟨.opened, depth, roots⟩ cs = some ⟨.start, depth, roots⟩ := by
  cases cs with
  | nil => simp [isName] at h
  | cons c cs =>
    have hs : c ≠ '/' := (ne_of_inRanges (forall_of_isName h c (by simp))).2.1
    simp only [isName, Bool.and_eq_true, List.all_eq_true] at h
    rw [scan]
    simp only [step, hs, if_false, h.1, if_true, Option.bind_some]
    refine scan_of_step fun d hd => ?_
    obtain ⟨hq, hs, hg, hl⟩ := ne_of_inRanges (h.2 d hd)
    simp only [step, hq, hs, hg, hl, if_false]

theorem Text.not_mem {barred : List Char} (hb : barred ⊆ ['"']) (h : Text barred cs) :
    ∀ c ∈ cs, c ∉ '<' :: barred := by
  have href : ∀ r ∈ references, ∀ c ∈ r, c ∉ ['<', '"'] := by simp [references]
  induction h with
  | nil => simp
  | char hc _ ih =>
    intro d hd
    rcases List.mem_cons.mp hd with rfl | hd
    · simp_all
    · exact ih d hd
  | reference hr _ ih =>
    intro d hd
    rcases List.mem_append.mp hd with hd | hd
    · have hn := href _ hr d hd
      exact fun hm => hn (List.cons_subset_cons _ hb hm)
    · exact ih d hd

theorem scan_text (h : Text [] cs) (depth roots : Nat) :
    scan ⟨.text, depth + 1, roots⟩ cs = some ⟨.text, depth + 1, roots⟩ := by
  refine scan_of_step fun c hc => ?_
  have hl : c ≠ '<' := by simpa using h.not_mem (by simp) c hc
  simp [step, hl]

theorem scan_value (h : Text ['"'] cs) (depth roots : Nat) :
    scan ⟨.value, depth, roots⟩ cs = some ⟨.value, depth, roots⟩ := by
  refine scan_of_step fun c hc => ?_
  have hn : c ≠ '<' ∧ c ≠ '"' := by simpa using h.not_mem (by simp) c hc
  simp [step, hn.1, hn.2]

theorem scan_attributes {keys : List String} (h : Attributes keys cs) (depth roots : Nat) :
    scan ⟨.start, depth, roots⟩ cs = some ⟨.start, depth, roots⟩ := by
  induction h with
  | nil => rfl
  | @cons key keys blank value rest hb _ hk _ hv _ ih =>
    have hblank : scan ⟨.start, depth, roots⟩ blank = some ⟨.start, depth, roots⟩ := by
      refine scan_of_step fun c hc => ?_
      have hm := hb c hc
      simp only [List.mem_cons, List.not_mem_nil, or_false] at hm
      rcases hm with rfl | rfl | rfl | rfl <;> rfl
    have hopen : scan ⟨.start, depth, roots⟩ ['=', '"'] = some ⟨.value, depth, roots⟩ := rfl
    simp only [List.append_assoc]
    rw [scan_append_of_eq hblank, scan_append_of_eq (scan_name_start hk depth roots),
      scan_append_of_eq hopen, scan_append_of_eq (scan_value hv depth roots)]
    exact ih

mutual

/-- An element leaves the depth as it was, and counts at the top. -/
theorem scan_element {cs : List Char} (h : Element cs) (depth roots : Nat) :
    scan ⟨.text, depth, roots⟩ cs = some (.closed depth roots) :=
  match h with
  | .empty ht ha => by
    simp only [List.append_assoc, List.cons_append]
    change scan ⟨.opened, depth, roots⟩ _ = _
    rw [scan_append_of_eq (scan_name_opened ht depth roots),
      scan_append_of_eq (scan_attributes ha depth roots)]
    rfl
  | .filled ht ha hc => by
    simp only [List.append_assoc, List.cons_append, List.nil_append]
    change scan ⟨.opened, depth, roots⟩ _ = _
    rw [scan_append_of_eq (scan_name_opened ht depth roots),
      scan_append_of_eq (scan_attributes ha depth roots)]
    change scan ⟨.text, depth + 1, roots⟩ _ = _
    rw [scan_append_of_eq (scan_content hc depth roots)]
    change scan ⟨.stop, depth + 1, roots⟩ _ = _
    rw [scan_append_of_eq (scan_name_stop ht (depth + 1) roots)]
    rfl

theorem scan_content {cs : List Char} (h : Content cs) (depth roots : Nat) :
    scan ⟨.text, depth + 1, roots⟩ cs = some ⟨.text, depth + 1, roots⟩ :=
  match h with
  | .nil => rfl
  | .text ht hr => by
    rw [scan_append_of_eq (scan_text ht depth roots)]
    exact scan_content hr depth roots
  | .element he hr => by
    rw [scan_append_of_eq (scan_element he (depth + 1) roots)]
    exact scan_content hr depth roots

end

theorem Element.head {cs : List Char} (h : Element cs) : ∃ rest, cs = '<' :: rest := by
  cases h <;> exact ⟨_, rfl⟩

theorem scan_root {before root after : List Char} (hb : Blank before) (hr : Element root)
    (ha : Blank after) : scan initial (before ++ root ++ after) = some ⟨.text, 0, 1⟩ := by
  rw [List.append_assoc, initial, scan_append_of_eq (hb.scan 0 0),
    scan_append_of_eq (scan_element hr 0 0)]
  exact ha.scan 0 1

theorem blank_of_scan_root {before root after : List Char} (hr : Element root) (ha : Blank after)
    (h : scan initial (before ++ root ++ after) = some ⟨.text, 0, 1⟩) : Blank before := by
  rw [List.append_assoc, scan_append] at h
  obtain ⟨⟨mode, depth, roots⟩, hbefore, h⟩ := Option.bind_eq_some_iff.mp h
  obtain rfl : mode = .text := by
    obtain ⟨rest, rfl⟩ := hr.head
    obtain ⟨next, hn, -⟩ := Option.bind_eq_some_iff.mp h
    exact mode_of_step_bracket hn
  rw [scan_append_of_eq (scan_element hr depth roots), Scan.closed, ha.scan] at h
  simp only [Option.some.injEq, Scan.mk.injEq, true_and] at h
  obtain ⟨rfl, hroots⟩ := h
  obtain rfl : roots = 0 := by simpa using hroots
  exact blank_of_scan hbefore

end Derived

section Comments

theorem scan_comment {before : List Char} (hb : Blank before) (rest : List Char) :
    scan initial (before ++ '<' :: '!' :: rest) = none := by
  have hr : inRanges nameStarts '!' = false := by decide
  rw [initial, scan_append_of_eq (hb.scan 0 0)]
  simp [scan, step, hr]

theorem blank_append_inj {as bs xs ys : List Char} (ha : Blank as) (hb : Blank bs)
    (h : as ++ '<' :: xs = bs ++ '<' :: ys) : xs = ys := by
  induction as generalizing bs with
  | nil =>
    cases bs with
    | nil => exact (List.cons.inj h).2
    | cons b bs =>
      -- a bracket is no blank
      obtain ⟨rfl, -⟩ := List.cons.inj h
      simpa using hb '<' (by simp)
  | cons a as ih =>
    cases bs with
    | nil =>
      obtain ⟨rfl, -⟩ := List.cons.inj h
      simpa using ha '<' (by simp)
    | cons b bs =>
      exact ih (fun c hc => ha c (by simp [hc])) (fun c hc => hb c (by simp [hc]))
        (List.cons.inj h).2

theorem exists_of_closing {last rest after : List Char} (hne : last ≠ [])
    (hl : last.getLast? ≠ some '-') (h : '-' :: '-' :: '>' :: rest = last ++ after) :
    ∃ left, rest = left ++ after := by
  rcases last with _ | ⟨a, _ | ⟨b, _ | ⟨c, left⟩⟩⟩
  · exact absurd rfl hne
  · obtain ⟨rfl, -⟩ := List.cons.inj h
    exact absurd rfl hl
  · simp only [List.cons_append, List.cons.injEq] at h
    obtain ⟨-, rfl, -⟩ := h
    exact absurd rfl hl
  · simp only [List.cons_append, List.cons.injEq] at h
    exact ⟨left, h.2.2.2⟩

theorem commentChars_some (body : List Char) :
    commentChars (some body) = '<' :: '!' :: '-' :: '-' :: (body ++ ['-', '-', '>']) := by
  simp [commentChars]

/-- A document is well-formed exactly if its comment is one. -/
theorem Document.wellFormed_iff {body text : List Char} (h : Document (some body) text)
    (hl : body.getLast? ≠ some '-') : WellFormed text ↔ ¬HasHyphens body := by
  refine ⟨?_, fun hh => ⟨some body, h, by simpa using ⟨hh, hl⟩⟩⟩
  rintro ⟨comment, hdoc, hcomment⟩ hh
  obtain ⟨before, between, root, after, hbefore, hbetween, hroot, hafter, rfl⟩ := h
  obtain ⟨before', between', root', after', hbefore', hbetween', hroot', hafter', he⟩ := hdoc
  simp only [List.append_assoc, List.append_cancel_left_eq, commentChars_some, List.cons_append,
    List.nil_append] at he
  have hrest := scan_root hbetween' hroot' hafter'
  cases comment with
  | none =>
    -- the text would start with an element, but no name starts as a comment does
    have hs : scan initial (before' ++ (between' ++ root' ++ after')) = none := by
      simp only [commentChars, Option.elim_none, List.nil_append] at he
      rw [List.append_assoc between', ← he]
      exact scan_comment hbefore _
    rw [initial, scan_append_of_eq (hbefore'.scan 0 0), ← initial, hrest] at hs
    cases hs
  | some body' =>
    rw [commentChars_some] at he
    simp only [List.append_assoc, List.cons_append, List.nil_append] at he
    have hbody := blank_append_inj hbefore hbefore' he
    simp only [List.cons.injEq, true_and] at hbody
    have hc : IsComment body' := hcomment body' rfl
    rcases List.append_eq_append_iff.mp hbody with ⟨more, rfl, -⟩ | ⟨last, rfl, hlast⟩
    · exact hc.1 (hh.trans (List.prefix_append body more).isInfix)
    · have hne : last ≠ [] := by
        rintro rfl
        exact hc.1 (by simpa using hh)
      have hl : last.getLast? ≠ some '-' := by
        rwa [List.getLast?_append_of_ne_nil _ hne] at hl
      obtain ⟨left, hleft⟩ := exists_of_closing hne hl hlast
      -- the other reading has to take the rest of this comment for blanks
      have hblank : Blank (left ++ ['-', '-', '>'] ++ between) := by
        apply blank_of_scan_root hroot hafter
        rw [← hrest]
        simp [hleft]
      simpa using hblank '-' (by simp)

end Comments

end DocSchema.Xml.Grammar
