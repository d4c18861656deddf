import DocSchema.Proofs.Grammar.Beginnings
import DocSchema.Proofs.Token.Faults

/-!
# Places of a source text

Every place that the syntax tree of a text keeps lies in the text and starts between two of its
characters, and a literal stands between its delimiters. Tokens have such places, and the tree only
joins them.
-/
namespace DocSchema

/-- A byte offset between two characters of a text, or at one of its ends. -/
def Boundary (text : List Char) (n : Nat) : Prop :=
  ∃ before after, text = before ++ after ∧ byteSize before = n

structure Span.Within (text : List Char) (s : Span) : Prop where
  start_le : s.start ≤ s.stop
  stop_le : s.stop ≤ byteSize text
  boundary : Boundary text s.start

variable {text : List Char}

theorem boundary_append (before after : List Char) :
    Boundary (before ++ after) (byteSize before) :=
  ⟨before, after, rfl, rfl⟩

theorem Boundary.le {n : Nat} (h : Boundary text n) : n ≤ byteSize text := by
  obtain ⟨before, after, rfl, rfl⟩ := h
  simp

namespace Span

theorem Within.union {s t : Span} (hs : s.Within text) (ht : t.Within text) :
    (s.union t).Within text where
  start_le := start_le_stop_union hs.start_le
  stop_le := max_le hs.stop_le ht.stop_le
  boundary := by
    rcases min_choice s.start t.start with h | h <;> simp only [Span.union, h]
    · exact hs.boundary
    · exact ht.boundary

theorem within_append (before cs after : List Char) :
    Span.Within (before ++ cs ++ after) ⟨byteSize before, byteSize before + byteSize cs⟩ where
  start_le := Nat.le_add_right _ _
  stop_le := by simp
  boundary := by
    rw [List.append_assoc]
    exact boundary_append _ _

theorem within_point {n : Nat} (h : Boundary text n) : (point n).Within text :=
  ⟨Nat.le_refl n, h.le, h⟩

end Span

/-- A literal of the text: its value stands between two equal delimiters. -/
def IsLiteral (text : List Char) (s : Located String) : Prop :=
  ∃ before delimiter after, delimiter ∈ ['/', '\'', '"'] ∧
    text = before ++ (delimiter :: s.value.toList ++ [delimiter]) ++ after ∧
    s.span = ⟨byteSize before,
      byteSize before + byteSize (delimiter :: s.value.toList ++ [delimiter])⟩

theorem IsLiteral.within {s : Located String} (h : IsLiteral text s) : s.span.Within text := by
  obtain ⟨before, delimiter, after, -, rfl, hspan⟩ := h
  rw [hspan]
  exact Span.within_append ..

/-- What the place of a token says about the text. -/
structure PlacedToken (text : List Char) (t : Located Token) : Prop where
  within : t.span.Within text
  stop : Boundary text t.span.stop
  literal (s : String) : t.value = .string s ∨ t.value = .pattern s → IsLiteral text ⟨s, t.span⟩

namespace Token

theorem Spelled.delimited {t : Token} {cs : List Char} (h : t.Spelled cs) {s : String}
    (hs : t = .string s ∨ t = .pattern s) :
    ∃ delimiter ∈ ['/', '\'', '"'], cs = delimiter :: s.toList ++ [delimiter] := by
  rcases hs with rfl | rfl
  · obtain ⟨quote, hq, hcs, -⟩ := h
    exact ⟨quote, List.mem_cons_of_mem _ hq, hcs⟩
  · exact ⟨'/', by simp, h.1⟩

theorem Pieces.placed {offset : Nat} {ps : List Piece} (h : Pieces offset text ps)
    (before : List Char) (hb : byteSize before = offset) {t : Located Token}
    (ht : .token t ∈ ps) : PlacedToken (before ++ text) t := by
  induction h generalizing before with
  | nil => cases ht
  | @blank offset cs rest ps first others ih =>
    rw [← List.append_assoc]
    exact ih _ (by rw [byteSize_append, hb]) ht
  | @token offset cs rest ps token first others ih =>
    rw [← List.append_assoc]
    rcases List.mem_cons.mp ht with he | ht
    · cases he
      subst hb
      refine ⟨Span.within_append .., ?_, fun s hs => ?_⟩
      · rw [← byteSize_append]
        exact boundary_append _ _
      · obtain ⟨delimiter, hd, rfl⟩ := Spelled.delimited first.1 hs
        exact ⟨before, delimiter, rest, hd, rfl, rfl⟩
    · exact ih _ (by rw [byteSize_append, hb]) ht
  | @comment offset cs rest body ps first others ih =>
    rw [← List.append_assoc]
    exact ih _ (by rw [byteSize_append, hb]) (by simpa using ht)

theorem fault_within {f : Located Fault} (h : f ∈ (scan text).faults) : f.span.Within text := by
  obtain ⟨hlt, hstop⟩ := span_of_mem_scan_faults h
  obtain ⟨p, hp, hf⟩ := mem_scan_faults.mp h
  obtain ⟨skipped, htext, hsize⟩ := Cursor.exists_before_of_mem_visited [] rfl hp
  rw [List.nil_append] at htext
  exact ⟨hlt.le, hstop, skipped, p.rest, htext, by rw [hsize, hf.span_le.1]⟩

end Token

theorem tokens_placed {source : String} {lexed : Lexed} (h : tokenize source = .ok lexed) :
    ∀ t ∈ lexed.tokens, PlacedToken source.toList t := by
  obtain ⟨pieces, hp, ht⟩ := exists_pieces h
  exact fun t hmem => hp.placed [] rfl (ht t hmem)

/-! ### Syntax trees -/

structure Item.Within (text : List Char) (i : Item) : Prop where
  name : i.name.span.Within text
  quantifier : ∀ q ∈ i.quantifier, q.span.Within text

inductive Entry.Within (text : List Char) : Entry → Prop
  | item {i : Item} (h : i.Within text) : Entry.Within text (.item i)
  | string {s : Located String} (h : s.span.Within text) : Entry.Within text (.string s)
  | integer {n : Located Int} (h : n.span.Within text) : Entry.Within text (.integer n)
  | anyText {s : Span} (h : s.Within text) : Entry.Within text (.anyText s)
  | list {c : Compositor} {es : List Entry} {s : Span} (inner : ∀ e ∈ es, e.Within text)
      (h : s.Within text) : Entry.Within text (.list c es s)

def Value.Within (text : List Char) : Value → Prop
  | .anyText s => s.Within text
  | .list _ es s => (∀ e ∈ es, e.Within text) ∧ s.Within text
  | .item i => i.Within text
  | .string s | .pattern s => IsLiteral text s
  | .integer n => n.span.Within text

structure Property.Within (text : List Char) (p : Property) : Prop where
  name : p.name.span.Within text
  value : p.value.Within text

structure Declaration.Within (text : List Char) (d : Declaration) : Prop where
  name : d.name.span.Within text
  properties : ∀ p ∈ d.properties, p.Within text

theorem Item.Within.span {i : Item} (h : i.Within text) : i.span.Within text := by
  obtain ⟨name, _ | q⟩ := i
  · exact h.name
  · exact h.name.union (h.quantifier q rfl)

theorem Entry.Within.span {e : Entry} (h : e.Within text) : e.span.Within text := by
  cases h with
  | item h => exact h.span
  | string h => exact h
  | integer h => exact h
  | anyText h => exact h
  | list _ h => exact h

theorem Value.Within.span {v : Value} (h : v.Within text) : v.span.Within text := by
  cases v with
  | anyText s => exact h
  | list c es s => exact h.2
  | item i => exact Item.Within.span h
  | string s => exact IsLiteral.within h
  | pattern s => exact IsLiteral.within h
  | integer n => exact h

theorem Property.Within.span {p : Property} (h : p.Within text) : p.span.Within text :=
  h.name.union h.value.span

namespace Grammar

variable {ts : Tokens}

theorem enclosed_placed {left right : Located Token}
    (h : ∀ t ∈ left :: ts ++ [right], PlacedToken text t) :
    (∀ t ∈ ts, PlacedToken text t) ∧ (left.span.union right.span).Within text :=
  ⟨fun t ht => h t (by simp [ht]), (h left (by simp)).within.union (h right (by simp)).within⟩

theorem DerivesItem.within {i : Item} (h : DerivesItem ts i) (ht : ∀ t ∈ ts, PlacedToken text t) :
    i.Within text := by
  cases h with
  | plain name s => exact ⟨(ht ⟨.identifier name, s⟩ (by simp)).within, by simp⟩
  | quantified name s left right inner =>
    obtain ⟨hname, hgroup⟩ := List.forall_mem_cons.mp ht
    refine ⟨hname.within, fun q hq => ?_⟩
    cases hq
    exact (enclosed_placed hgroup).2

mutual

theorem DerivesEntry.within {ts : Tokens} {e : Entry} : DerivesEntry ts e →
    (∀ t ∈ ts, PlacedToken text t) → e.Within text
  | .item inner => fun ht => .item (inner.within ht)
  | .list inner => fun ht =>
    have h := DerivesList.within inner ht
    .list h.1 h.2
  | .string _ _ => fun ht => .string (ht _ List.mem_cons_self).within
  | .integer _ _ => fun ht => .integer (ht _ List.mem_cons_self).within
  | .anyText _ => fun ht => .anyText (ht _ List.mem_cons_self).within

theorem DerivesList.within {ts : Tokens} {c : Compositor} {es : List Entry} {s : Span} :
    DerivesList ts c es s → (∀ t ∈ ts, PlacedToken text t) →
      (∀ e ∈ es, e.Within text) ∧ s.Within text
  | .sequence _ _ inner => fun ht =>
    have h := enclosed_placed ht
    ⟨DerivesEntries.within inner h.1, h.2⟩
  | .unordered _ _ inner => fun ht =>
    have h := enclosed_placed ht
    ⟨DerivesEntries.within inner h.1, h.2⟩
  | .choice _ _ first others _ => fun ht =>
    have h := enclosed_placed ht
    have hparts := List.forall_mem_append.mp h.1
    ⟨List.forall_mem_cons.mpr
      ⟨DerivesEntry.within first hparts.1, DerivesFurther.within others hparts.2⟩, h.2⟩

theorem DerivesEntries.within {ts : Tokens} {es : List Entry} : DerivesEntries ts es →
    (∀ t ∈ ts, PlacedToken text t) → ∀ e ∈ es, e.Within text
  | .none => fun _ => by simp
  | .some first others => fun ht =>
    have hparts := List.forall_mem_append.mp ht
    List.forall_mem_cons.mpr
      ⟨DerivesEntry.within first hparts.1, DerivesFurther.within others hparts.2⟩

theorem DerivesFurther.within {separator : Separator} {ts : Tokens} {es : List Entry} :
    DerivesFurther separator ts es → (∀ t ∈ ts, PlacedToken text t) → ∀ e ∈ es, e.Within text
  | .nil => fun _ => by simp
  | .cons _ first others => fun ht =>
    have hparts := List.forall_mem_append.mp (List.forall_mem_cons.mp ht).2
    List.forall_mem_cons.mpr
      ⟨DerivesEntry.within first hparts.1, DerivesFurther.within others hparts.2⟩

end

theorem DerivesValue.within {v : Value} (h : DerivesValue ts v)
    (ht : ∀ t ∈ ts, PlacedToken text t) : v.Within text := by
  cases h with
  | anyText s => exact (ht _ List.mem_cons_self).within
  | list inner => exact inner.within ht
  | item inner => exact inner.within ht
  | string value s => exact (ht ⟨.string value, s⟩ (by simp)).literal value (.inl rfl)
  | pattern value s => exact (ht ⟨.pattern value, s⟩ (by simp)).literal value (.inr rfl)
  | integer k s => exact (ht ⟨.integer k, s⟩ (by simp)).within

theorem DerivesProperties.within {ps : List Property} (h : DerivesProperties ts ps)
    (ht : ∀ t ∈ ts, PlacedToken text t) : ∀ p ∈ ps, p.Within text := by
  induction h with
  | nil => simp
  | cons first _ ih =>
    refine List.forall_mem_cons.mpr ⟨?_, ih fun t hm => ht t (by simp [hm])⟩
    obtain ⟨name, s, colon, semicolon, inner⟩ := first
    exact ⟨(ht ⟨.identifier name, s⟩ (by simp)).within,
      inner.within fun t hm => ht t (by simp [hm])⟩

theorem DerivesFile.within {ds : List Declaration} (h : DerivesFile ts ds)
    (ht : ∀ t ∈ ts, PlacedToken text t) : ∀ d ∈ ds, d.Within text := by
  induction h with
  | nil => simp
  | cons first _ ih =>
    refine List.forall_mem_cons.mpr ⟨?_, ih fun t hm => ht t (by simp [hm])⟩
    cases first with
    | plain k name ks ns left right inner =>
      exact ⟨(ht ⟨.identifier name, ns⟩ (by simp)).within,
        inner.within fun t hm => ht t (by simp [hm])⟩
    | root k name rs ks ns left right takesRoot inner =>
      exact ⟨(ht ⟨.identifier name, ns⟩ (by simp)).within,
        inner.within fun t hm => ht t (by simp [hm])⟩

theorem declarations_error_within {fuel : Nat} {e : SyntaxError}
    (h : Parser.declarations fuel ts = .error e) : ∀ t ∈ e.within, t ∈ ts := by
  have failed {root : Option Span} {kind : Located Kind} {ts : Tokens}
      (hb : Parser.body root kind ts = .error e) : ∀ t ∈ e.within, t ∈ ts := by
    intro t ht
    unfold Parser.body at hb
    split at hb
    · cases hb
    · cases hb
      dsimp only at ht
      split_ifs at ht
      · exact List.mem_of_mem_head? ht
      · cases ht
  have suffix {root : Option Span} {kind : Located Kind} {d : Declaration} {ts rest : Tokens}
      (hb : Parser.body root kind ts = .ok (d, rest)) : ∀ t ∈ rest, t ∈ ts := by
    obtain ⟨name, ns, left, right, inner, ps, rfl, -⟩ := declarationBody_sound (body_eq_ok.mp hb)
    intro t ht
    simp [ht]
  fun_induction Parser.declarations fuel ts with
  | case1 fuel => cases h
  | case3 fuel root k s ts hk ih =>
    simp only [bind_eq_error, pure_eq_ok, reduceCtorEq, and_false, exists_false, or_false] at h
    intro t ht
    obtain hb | ⟨⟨d, rest⟩, hb, hds⟩ := h
    · simp [failed hb t ht]
    · simp [suffix hb t (ih _ hds t ht)]
  | case6 fuel k s ts ih =>
    simp only [bind_eq_error, pure_eq_ok, reduceCtorEq, and_false, exists_false, or_false] at h
    intro t ht
    obtain hb | ⟨⟨d, rest⟩, hb, hds⟩ := h
    · simp [failed hb t ht]
    · simp [suffix hb t (ih _ hds t ht)]
  | _ =>
    cases h
    simp

end Grammar

/-! ### Diagnostics -/

structure Diagnostic.Placed (text : List Char) (d : Diagnostic) : Prop where
  primary : ∃ l ∈ d.labels, l.primary = true
  within : ∀ l ∈ d.labels, l.span.Within text

theorem Diagnostic.Placed.of_main {d : Diagnostic} {s : Span} {message : String}
    {related : List Label} (hd : d.labels = .main s message :: related) (hs : s.Within text)
    (hr : ∀ l ∈ related, l.span.Within text) : d.Placed text where
  primary := ⟨_, by rw [hd]; exact List.mem_cons_self, rfl⟩
  within := by
    rw [hd]
    exact List.forall_mem_cons.mpr ⟨hs, hr⟩

theorem fault_placed {f : Located Token.Fault} (h : f ∈ (Token.scan text).faults) :
    (Token.Fault.diagnostic f).Placed text :=
  .of_main rfl (Token.fault_within h) (by simp)

theorem endOf_boundary {tokens : List (Located Token)} (ht : ∀ t ∈ tokens, PlacedToken text t) :
    Boundary text (SyntaxError.endOf tokens) := by
  unfold SyntaxError.endOf
  split
  · rename_i t hl
    exact (ht t (List.mem_of_getLast? hl)).stop
  · exact boundary_append [] text

theorem syntaxError_placed {tokens : List (Located Token)} {e : SyntaxError}
    (ht : ∀ t ∈ tokens, PlacedToken text t) (h : parseDeclarations tokens = .error e) :
    (e.diagnostic tokens).Placed text := by
  obtain ⟨before, -, htokens, -⟩ := Grammar.declarations_stop h
  have hwithin (t : Located Token) (hw : e.within = some t) : t.span.Within text :=
    (ht t (Grammar.declarations_error_within h t hw)).within
  have hrest (t : Located Token) (rest : Parser.Tokens) (hr : e.rest = t :: rest) :
      t.span.Within text :=
    (ht t (by rw [htokens, hr]; simp)).within
  unfold SyntaxError.diagnostic
  rcases hw : e.within with _ | t <;> rcases hr : e.rest with _ | ⟨t', rest⟩
  · exact .of_main rfl (Span.within_point (endOf_boundary ht)) (by simp)
  · exact .of_main rfl (hrest t' rest hr) (by simp)
  · exact .of_main rfl (Span.within_point (endOf_boundary ht))
      (List.forall_mem_singleton.mpr (hwithin t hw))
  · exact .of_main rfl (hrest t' rest hr) (List.forall_mem_singleton.mpr (hwithin t hw))

end DocSchema
