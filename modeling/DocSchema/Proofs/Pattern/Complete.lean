import DocSchema.Link.DataTypes
import DocSchema.Proofs.Pattern.Pieces

/-!
# Patterns that are complete by themselves

A pattern is checked inside a group between anchors. If it closes no group that it has not opened,
it is a pattern by itself, and the anchored one holds for exactly the values that it spans. The
check does not see to the condition: the group around the pattern can be closed from within.
-/
namespace DocSchema.Pattern

/-! ## Parentheses by numbers -/

theorem depthAfter_eq_some_iff {depth d : Nat} {cs : List Char} :
    depthAfter depth cs = some d ↔
      (∀ before after, cs = before ++ after → before.count ')' ≤ depth + before.count '(') ∧
        d + cs.count ')' = depth + cs.count '(' := by
  induction cs generalizing depth with
  | nil =>
    simp only [depthAfter, Option.some.injEq, List.nil_eq, List.append_eq_nil_iff, List.count_nil]
    constructor
    · rintro rfl
      exact ⟨by rintro _ _ ⟨rfl, rfl⟩; simp, rfl⟩
    · rintro ⟨-, h⟩
      omega
  | cons c cs ih =>
    rw [forall_append_eq_cons]
    by_cases hopen : c = '('
    · subst hopen
      rw [depthAfter, if_pos rfl, ih]
      simp [Nat.add_comm, Nat.add_left_comm]
    · by_cases hclose : c = ')'
      · subst hclose
        rw [depthAfter, if_neg hopen, if_pos rfl]
        cases depth with
        | zero =>
          rw [if_pos rfl]
          refine iff_of_false (by simp) ?_
          rintro ⟨⟨-, hbefore⟩, -⟩
          simpa using hbefore [] cs rfl
        | succ depth =>
          rw [if_neg (by omega), Nat.add_sub_cancel, ih]
          simp only [List.count_cons_self, List.count_cons_of_ne (by decide : ')' ≠ '('),
            List.count_nil]
          constructor
          · rintro ⟨hbefore, heq⟩
            refine ⟨⟨by omega, fun before after hcs => ?_⟩, by omega⟩
            have := hbefore before after hcs
            omega
          · rintro ⟨⟨-, hbefore⟩, heq⟩
            refine ⟨fun before after hcs => ?_, by omega⟩
            have := hbefore before after hcs
            omega
      · rw [depthAfter, if_neg hopen, if_neg hclose, ih]
        simp [hopen, hclose]

/-- No parenthesis of the text closes a group that the text has not opened. -/
def NoStrayClosing (text : List Char) : Prop :=
  ∀ before after, (outline text).parentheses = before ++ after →
    before.count ')' ≤ before.count '('

theorem noStrayClosing_iff {text : List Char} :
    NoStrayClosing text ↔ (depthAfter 0 (outline text).parentheses).isSome := by
  rw [Option.isSome_iff_exists]
  constructor
  · intro h
    have hall := h _ [] (List.append_nil _).symm
    refine ⟨(outline text).parentheses.count '(' - (outline text).parentheses.count ')', ?_⟩
    refine depthAfter_eq_some_iff.2 ⟨fun before after heq => ?_, by omega⟩
    rw [Nat.zero_add]
    exact h before after heq
  · rintro ⟨depth, hdepth⟩ before after heq
    simpa using (depthAfter_eq_some_iff.1 hdepth).1 before after heq

instance (text : List Char) : Decidable (NoStrayClosing text) :=
  decidable_of_iff _ noStrayClosing_iff.symm

/-- The text closes just the groups that it opens, and does not end within an escape or a class. -/
structure Complete (text : List Char) : Prop where
  noStrayClosing : NoStrayClosing text
  closed : (outline text).parentheses.count '(' = (outline text).parentheses.count ')'
  whole : (outline text).ending = .whole

/-! ## The group around a pattern -/

def insideGroup : ReaderState := ⟨false, [false], []⟩

theorem insideGroup_quiet : insideGroup.Quiet := ⟨rfl, by simp [insideGroup]⟩

theorem start_quiet : ReaderState.start.Quiet := ⟨rfl, by simp [ReaderState.start]⟩

theorem anchored_eq (pattern : String) :
    anchored pattern = '^' :: '(' :: '?' :: ':' :: (pattern.toList ++ groupEnd) := by
  delta anchored
  simp [groupEnd]

theorem readPieces_anchored {pattern : String} {pieces : List (Located Piece)}
    (h : readPieces (anchored pattern) = .ok pieces) :
    ∃ later, readPiecesAux ((pattern.toList ++ groupEnd).length + 2) insideGroup 4
        (pattern.toList ++ groupEnd) = .ok later ∧
      pieces = ⟨.anchor .lineStart, ⟨0, 1⟩⟩ :: ⟨.opening (.flagged ⟨[], []⟩), ⟨1, 4⟩⟩ :: later := by
  rw [anchored_eq] at h
  have hgroup : readPiece (ReaderState.start.after (.anchor .lineStart)) '('
      ('?' :: ':' :: (pattern.toList ++ groupEnd)) =
        .ok (.opening (.flagged ⟨[], []⟩), pattern.toList ++ groupEnd) := rfl
  have hsign (cs : List Char) : 0 + (byteSize ('^' :: cs) - byteSize cs) = 1 := by
    simp only [byteSize_cons, Nat.add_sub_cancel, Nat.zero_add]
    rfl
  have hopening (cs : List Char) : 1 + (byteSize ('(' :: '?' :: ':' :: cs) - byteSize cs) = 4 := by
    simp only [byteSize_cons, ← Nat.add_assoc, Nat.add_sub_cancel]
    rfl
  unfold readPieces at h
  simp only [List.length_cons] at h
  rw [readPiecesAux_cons rfl, readPiece, ok_bind, hsign] at h
  obtain ⟨inner, hinner, heq⟩ := bind_eq_ok.1 h
  cases heq
  rw [readPiecesAux_cons rfl, hgroup, ok_bind, hopening] at hinner
  obtain ⟨later, hlater, heq⟩ := bind_eq_ok.1 hinner
  cases heq
  exact ⟨later, hlater, rfl⟩

theorem parentheses_append (ps qs : List Piece) :
    parentheses (ps ++ qs) = parentheses ps ++ parentheses qs :=
  List.filterMap_append

theorem readTree_anchored {pattern : String} {tree : Tree} {x : Regex × Flags}
    (h : readTree (anchored pattern) = .ok tree) (hr : tree.regex .start = .ok x)
    (hd : dialectIssue? pattern = none) :
    ∃ ps,
      (outline pattern.toList = ⟨parentheses ps, .whole⟩ ∧
        depthAfter 1 (parentheses ps) = some 1 ∧
        (depthAfter 0 (parentheses ps) = some 0 → ∃ own, readTree pattern.toList = .ok own ∧
          tree = .sequence [.anchor .lineStart, .group (.flagged ⟨[], []⟩) own,
            .anchor .lineEnd])) ∨
      (outline pattern.toList = ⟨parentheses ps, .inEscape⟩ ∧
        depthAfter 1 (parentheses ps) = some 0) := by
  obtain ⟨pieces, hpieces, hassemble⟩ := bind_eq_ok.1 h
  obtain ⟨tree', htree, hdepth⟩ := bind_eq_ok.1 hassemble
  obtain ⟨hshallow, rfl⟩ : ¬maxDepth < tree'.depth ∧ tree' = tree := by
    split at hdepth
    · cases hdepth
    next hle => exact ⟨hle, Except.ok.inj hdepth⟩
  obtain ⟨later, hlater, rfl⟩ := readPieces_anchored hpieces
  rw [List.map_cons, List.map_cons] at htree
  have hknown : ∀ p ∈ later.map (·.value), p.Known := by
    intro p hp
    refine Tree.known_of_regex tree' hr p ?_
    rw [pieces_of_assemble htree]
    simp [hp]
  have hbalance : depthAfter 1 (parentheses (later.map (·.value))) = some 0 :=
    depthAfter_of_assemble htree
  obtain ⟨ps, ⟨hmap, houtline, hown⟩ | ⟨hmap, houtline⟩⟩ :=
    readPiecesAux_groupEnd insideGroup_quiet ⟨0, hd⟩ (by omega) hlater hknown
  · refine ⟨ps, .inl ⟨houtline, ?_, fun hclosed => ?_⟩⟩
    · rw [hmap, parentheses_append, depthAfter_append] at hbalance
      obtain ⟨depth, hdepth, hclosing⟩ := Option.bind_eq_some_iff.1 hbalance
      have hclosing : depthAfter depth [')'] = some 0 := hclosing
      have : ¬depth = 0 ∧ depth - 1 = 0 := by simpa [depthAfter] using hclosing
      rw [hdepth, show depth = 1 by omega]
    · obtain ⟨own, hread, hvalues⟩ := hown .start start_quiet pattern.toList.length 0 le_rfl
      rw [hmap] at htree
      have hinner : assemble (ps ++ [Piece.closing, .anchor .lineEnd]) .start
          ([] ++ [(GroupKind.flagged ⟨[], []⟩, OpenGroup.start.push (.anchor .lineStart))]) =
            .ok tree' := htree
      obtain ⟨g, hg, hend⟩ := assemble_append hinner hclosed
      obtain rfl : Tree.sequence [.anchor .lineStart, .group (.flagged ⟨[], []⟩) g.tree,
          .anchor .lineEnd] = tree' := Except.ok.inj hend
      refine ⟨g.tree, ?_, rfl⟩
      have hown : ¬maxDepth < g.tree.depth := by
        simp [Tree.depth, Tree.depthOf] at hshallow
        omega
      simp [readTree, readPieces, hread, hvalues, hg, hown]
  · refine ⟨ps, .inr ⟨houtline, ?_⟩⟩
    rw [hmap, parentheses_append] at hbalance
    exact (List.append_nil (parentheses ps)) ▸ hbalance

/-! ## Whole values -/

/-- Whether the engine that patterns are checked with finds a pattern in a text. -/
def found (pattern text : String) : Bool :=
  match readTree pattern.toList >>= fun tree => tree.regex .start with
  | .ok (r, _) => r.occursIn text.toList
  | .error _ => false

def Found (pattern text : String) : Prop := found pattern text = true

/-- A pattern holds for a whole text. -/
def Whole (pattern text : String) : Prop := Found ("^(?:" ++ pattern ++ ")$") text

instance (pattern text : String) : Decidable (Whole pattern text) :=
  inferInstanceAs (Decidable (found _ _ = true))

/-- The expression moves from the start of the text to its end. -/
def Regex.Spans (r : Regex) (text : List Char) : Prop :=
  ∃ c ∈ r.move (text.length + 1) [Cursor.start text], c.after = []

theorem filter_textStart_sweep (text : List Char) :
    (Cursor.sweep [] text).filter Look.textStart.holds = [Cursor.start text] := by
  have hlater : ∀ (c : Char) (before text : List Char),
      (Cursor.sweep (c :: before) text).filter Look.textStart.holds = [] := by
    intro c before text
    induction text generalizing c before with
    | nil => rfl
    | cons d text ih => simp [Cursor.sweep, Look.holds, ih]
  cases text with
  | nil => rfl
  | cons c text =>
    rw [Cursor.sweep, List.filter_cons_of_pos rfl, hlater]
    rfl

theorem occursIn_anchored_iff {r : Regex} {text : List Char} :
    (Regex.sequence [.look .textStart, r, .look .textEnd]).occursIn text = true ↔ r.Spans text := by
  simp only [Regex.occursIn, Regex.move, Regex.moveAll, filter_textStart_sweep, Regex.Spans]
  simp [List.filter_eq_nil_iff, Look.holds]

theorem exists_compile_of_patternProblems {owner : String} {pattern : Located String}
    (h : Link.patternProblems owner pattern = []) :
    ∃ r, compile pattern.value = .ok r ∧ dialectIssue? pattern.value = none := by
  unfold Link.patternProblems at h
  split at h
  · cases h
  next r hr =>
    split at h
    · cases h
    next hd => exact ⟨r, hr, hd⟩

theorem compile_eq_ok {pattern : String} {r : Regex} (h : compile pattern = .ok r) :
    ∃ tree flags, readTree (anchored pattern) = .ok tree ∧ tree.regex .start = .ok (r, flags) := by
  obtain ⟨tree, htree, hregex⟩ := bind_eq_ok.1 h
  obtain ⟨⟨r', flags⟩, hr, hsize⟩ := bind_eq_ok.1 hregex
  obtain ⟨-, -, heq⟩ := bind_eq_ok.1 hsize
  cases heq
  exact ⟨tree, flags, htree, hr⟩

theorem whole_iff {pattern value : String} {r : Regex} (h : compile pattern = .ok r) :
    Whole pattern value ↔ r.occursIn value.toList = true := by
  obtain ⟨tree, flags, htree, hregex⟩ := compile_eq_ok h
  have htext : ("^(?:" ++ pattern ++ ")$").toList = anchored pattern := by
    delta anchored
    simp
  simp [Whole, Found, found, htext, htree, hregex]

theorem regex_anchored {own : Tree} {r : Regex} {flags : Flags}
    (h : (Tree.sequence [.anchor .lineStart, .group (.flagged ⟨[], []⟩) own,
      .anchor .lineEnd]).regex .start = .ok (r, flags)) :
    ∃ r' flags', own.regex .start = .ok (r', flags') ∧
      r = .sequence [.look .textStart, r', .look .textEnd] := by
  cases hown : own.regex .start with
  | error e =>
    have : own.regex (Flags.start.apply ⟨[], []⟩) = .error e := hown
    simp [Tree.regex, Tree.regexes, this] at h
  | ok x =>
    have : own.regex (Flags.start.apply ⟨[], []⟩) = .ok x := hown
    simp only [Tree.regex, Tree.regexes, this, ok_bind, pure_eq_ok, Except.ok.injEq,
      Prod.mk.injEq] at h
    exact ⟨x.1, x.2, rfl, h.1.symm⟩

/-- An accepted pattern that closes no group of the text around it is complete, has a meaning of its
own, and holds of the values that this meaning spans. A pattern can close the group around it, but
once only, and it never ends within a class. -/
theorem accepted_complete_iff_noStrayClosing {owner : String} {pattern : Located String}
    (h : Link.patternProblems owner pattern = []) :
    (Complete pattern.value.toList ↔ NoStrayClosing pattern.value.toList) ∧
      (NoStrayClosing pattern.value.toList → ∃ tree own flags,
        readTree pattern.value.toList = .ok tree ∧ tree.regex .start = .ok (own, flags) ∧
          ∀ value, Whole pattern.value value ↔ own.Spans value.toList) ∧
      (∀ before after, (outline pattern.value.toList).parentheses = before ++ after →
        before.count ')' ≤ 1 + before.count '(') ∧
      (outline pattern.value.toList).ending ≠ .inClass := by
  obtain ⟨whole, hwhole, hd⟩ := exists_compile_of_patternProblems h
  obtain ⟨tree, flags, htree, hregex⟩ := compile_eq_ok hwhole
  obtain ⟨ps, ⟨houtline, hdepth, hown⟩ | ⟨houtline, hdepth⟩⟩ := readTree_anchored htree hregex hd
  · obtain ⟨hbefore, hcount⟩ := depthAfter_eq_some_iff.1 hdepth
    have hclosed : (outline pattern.value.toList).parentheses.count '(' =
        (outline pattern.value.toList).parentheses.count ')' := by
      rw [houtline]
      dsimp only
      omega
    refine ⟨⟨Complete.noStrayClosing, fun hn => ⟨hn, hclosed, by rw [houtline]⟩⟩, fun hn => ?_,
      by rwa [houtline], by simp [houtline]⟩
    have hzero : depthAfter 0 (parentheses ps) = some 0 := by
      refine depthAfter_eq_some_iff.2 ⟨fun before after hps => ?_, by omega⟩
      rw [Nat.zero_add]
      exact hn before after (by rw [houtline]; exact hps)
    obtain ⟨own, hread, rfl⟩ := hown hzero
    obtain ⟨r, flags', hr, rfl⟩ := regex_anchored hregex
    exact ⟨own, r, flags', hread, hr, fun value => (whole_iff hwhole).trans occursIn_anchored_iff⟩
  · -- The closing parenthesis of the group is escaped, so the pattern has closed the group before.
    obtain ⟨hbefore, hcount⟩ := depthAfter_eq_some_iff.1 hdepth
    have hstray : ¬NoStrayClosing pattern.value.toList := by
      intro hn
      have := hn (parentheses ps) [] (by rw [houtline, List.append_nil])
      omega
    exact ⟨⟨Complete.noStrayClosing, fun hn => absurd hn hstray⟩, fun hn => absurd hn hstray,
      by rwa [houtline], by simp [houtline]⟩

/-- A group with an escaped parenthesis and a class of parentheses. -/
def groupedPattern : Located String := ⟨"(a\\)|[(-)]\x7b2\x7d)*x", ⟨0, 0⟩⟩

theorem accepted_complete_iff_noStrayClosing_grouped :
    Link.patternProblems "w" groupedPattern = [] ∧ Complete groupedPattern.value.toList ∧
      ∃ tree own flags, readTree groupedPattern.value.toList = .ok tree ∧
        tree.regex .start = .ok (own, flags) ∧
        own.Spans "a)()x".toList ∧ ¬own.Spans "a()x".toList := by
  have haccepted : Link.patternProblems "w" groupedPattern = [] :=
    List.isEmpty_iff.1 (by decide +kernel)
  have hno : NoStrayClosing groupedPattern.value.toList := by decide +kernel
  obtain ⟨hcomplete, hmeaning, -, -⟩ := accepted_complete_iff_noStrayClosing haccepted
  obtain ⟨tree, own, flags, htree, hown, hspans⟩ := hmeaning hno
  have hmatch : Whole groupedPattern.value "a)()x" ∧ ¬Whole groupedPattern.value "a()x" := by
    decide +kernel
  exact ⟨haccepted, hcomplete.2 hno, tree, own, flags, htree, hown, (hspans _).1 hmatch.1,
    fun hs => hmatch.2 ((hspans _).2 hs)⟩

/-- A pattern that closes the group around it is accepted, and what is checked then is the choice
between a start and an end of the value. A backslash at its end escapes the parenthesis of the
group. -/
theorem accepted_of_stray_closing :
    (Link.patternProblems "w" ⟨"a)|(b", ⟨0, 0⟩⟩ = [] ∧ ¬NoStrayClosing "a)|(b".toList ∧
      Whole "a)|(b" "axyz") ∧
    (Link.patternProblems "w" ⟨"a)\\", ⟨0, 0⟩⟩ = [] ∧ ¬NoStrayClosing "a)\\".toList ∧
      (outline "a)\\".toList).ending = .inEscape) :=
  ⟨⟨List.isEmpty_iff.1 (by decide +kernel), by decide +kernel, by decide +kernel⟩,
    List.isEmpty_iff.1 (by decide +kernel), by decide +kernel, by decide +kernel⟩

end DocSchema.Pattern
