import DocSchema.Comment
import DocSchema.Proofs.Grammar.Parser
import DocSchema.Proofs.Token.Partition

/-!
# Where remarks come from

A declaration is described by the first comment between its opening brace and the token after the
brace, and by no other. Comments are matched by the places of their texts, which lie two bytes
inside of their delimiters; as no comment overlaps a token, that comes to the same as matching the
whole comment. The places of two declarations do not overlap, so a comment describes one of them at
most, and the header, which ends before the first, describes none.
-/
namespace DocSchema

/-- Whether a token is the first one inside of a declaration: the name of its first property, or the
brace that closes it. -/
def Declaration.Begins (d : Declaration) (next : Located Token) : Prop :=
  match d.properties with
  | p :: _ => next = ⟨.identifier p.name.value, p.name.span⟩
  | [] => next.value = .rightBrace ∧ next.span.stop = d.span.stop

namespace Grammar

structure Ordered (ts : Tokens) : Prop where
  pairwise : ts.Pairwise fun t u => t.span.stop ≤ u.span.start
  start_le : ∀ t ∈ ts, t.span.start ≤ t.span.stop

theorem Ordered.of_append {ts us : Tokens} (h : Ordered (ts ++ us)) :
    Ordered ts ∧ Ordered us ∧ ∀ t ∈ ts, ∀ u ∈ us, t.span.stop ≤ u.span.start := by
  obtain ⟨hts, hus, hcross⟩ := List.pairwise_append.mp h.pairwise
  exact ⟨⟨hts, fun t ht => h.start_le t (by simp [ht])⟩,
    ⟨hus, fun t ht => h.start_le t (by simp [ht])⟩, hcross⟩

theorem Ordered.span {first last : Located Token} {ts : Tokens}
    (h : Ordered (first :: ts ++ [last])) :
    first.span.union last.span = ⟨first.span.start, last.span.stop⟩ ∧
      ∀ t ∈ first :: ts ++ [last],
        first.span.start ≤ t.span.start ∧ t.span.stop ≤ last.span.stop := by
  have hstart := h.start_le
  obtain ⟨-, -, hlast⟩ := h.of_append
  obtain ⟨hfirst, -⟩ := List.pairwise_cons.mp h.pairwise
  have hends : first.span.stop ≤ last.span.start := hlast first (by simp) last (by simp)
  have hf := hstart first (by simp)
  have hl := hstart last (by simp)
  refine ⟨?_, fun t ht => ⟨?_, ?_⟩⟩
  · simp only [Span.union, Span.mk.injEq]
    omega
  · rcases List.mem_cons.mp ht with rfl | hin
    · exact le_rfl
    · exact hf.trans (hfirst t hin)
  · rcases List.mem_append.mp ht with hin | hin
    · exact (hlast t hin last (by simp)).trans hl
    · rw [List.mem_singleton.mp hin]

structure Frames (ts : Tokens) (d : Declaration) : Prop where
  opening : ∃ before next after, ts = before ++ ⟨.leftBrace, d.opening⟩ :: next :: after ∧
    d.Begins next
  starts : ∃ t ∈ ts, t.span.start = d.span.start
  stops : ∃ t ∈ ts, t.span.stop = d.span.stop
  within : ∀ t ∈ ts, d.span.start ≤ t.span.start ∧ t.span.stop ≤ d.span.stop

theorem DerivesProperties.begins {ts : Tokens} {ps : List Property} (h : DerivesProperties ts ps)
    {d : Declaration} (hd : d.properties = ps) {right : Span} (hr : right.stop = d.span.stop) :
    ∃ next after, ts ++ [⟨.rightBrace, right⟩] = next :: after ∧ d.Begins next := by
  unfold Declaration.Begins
  rw [hd]
  cases h with
  | nil => exact ⟨_, _, rfl, rfl, hr⟩
  | cons first _ =>
    obtain ⟨name, s, colon, semicolon, -⟩ := first
    exact ⟨_, _, rfl, rfl⟩

theorem DerivesDeclaration.frames {ts : Tokens} {d : Declaration} (h : DerivesDeclaration ts d)
    (ho : Ordered ts) : Frames ts d := by
  -- a declaration starts with its first token and ends with its last
  have frames {first last : Located Token} {inner : Tokens}
      (ho : Ordered (first :: inner ++ [last])) (hs : d.span = first.span.union last.span)
      (hopen : last.span.stop = d.span.stop → ∃ before next after,
        first :: inner ++ [last] = before ++ ⟨.leftBrace, d.opening⟩ :: next :: after ∧
          d.Begins next) : Frames (first :: inner ++ [last]) d := by
    obtain ⟨hspan, hin⟩ := ho.span
    rw [hspan] at hs
    refine ⟨hopen (by rw [hs]), ⟨first, by simp, by rw [hs]⟩, ⟨last, by simp, by rw [hs]⟩, ?_⟩
    rw [hs]
    exact hin
  cases h with
  | plain k name ks ns left right inner =>
    refine frames ho rfl fun hr => ?_
    obtain ⟨next, after, hn, hb⟩ := inner.begins (d := ⟨none, _, _, left, _, _⟩) rfl hr
    refine ⟨[⟨.kind k, ks⟩, ⟨.identifier name, ns⟩], next, after, ?_, hb⟩
    simp [← hn]
  | root k name rs ks ns left right _ inner =>
    refine frames ho rfl fun hr => ?_
    obtain ⟨next, after, hn, hb⟩ := inner.begins (d := ⟨some rs, _, _, left, _, _⟩) rfl hr
    refine ⟨[⟨.root, rs⟩, ⟨.kind k, ks⟩, ⟨.identifier name, ns⟩], next, after, ?_, hb⟩
    simp [← hn]

/-- Declarations stand in the order of their places, each with its own tokens. -/
theorem DerivesFile.frames {ts : Tokens} {ds : List Declaration} (h : DerivesFile ts ds)
    (ho : Ordered ts) :
    (ds.Pairwise fun d e => d.span.stop ≤ e.span.start) ∧
      ∀ d ∈ ds, ∃ before own after, ts = before ++ own ++ after ∧ Frames own d := by
  induction h with
  | nil => exact ⟨.nil, by simp⟩
  | @cons ts ts' d ds first others ih =>
    obtain ⟨hts, hts', hcross⟩ := ho.of_append
    obtain ⟨hordered, hframes⟩ := ih hts'
    have hd := first.frames hts
    refine ⟨.cons (fun e he => ?_) hordered, List.forall_mem_cons.mpr ⟨⟨[], ts, ts', rfl, hd⟩, ?_⟩⟩
    · obtain ⟨before, own, after, rfl, hown⟩ := hframes e he
      obtain ⟨t, ht, hstop⟩ := hd.stops
      obtain ⟨u, hu, hstart⟩ := hown.starts
      rw [← hstop, ← hstart]
      exact hcross t ht u (by simp [hu])
    · intro e he
      obtain ⟨before, own, after, rfl, hown⟩ := hframes e he
      exact ⟨ts ++ before, own, after, by simp, hown⟩

end Grammar

section Layout

namespace Token

def Piece.Sized : Piece → Prop
  | .token t => t.span.start ≤ t.span.stop
  | .comment c => 2 ≤ c.span.start ∧ c.span.start ≤ c.span.stop

theorem Pieces.sized {offset : Nat} {text : List Char} {ps : List Piece}
    (h : Pieces offset text ps) : ∀ p ∈ ps, p.Sized := by
  induction h with
  | nil => simp
  | blank _ _ ih => exact ih
  | token _ _ ih => exact List.forall_mem_cons.mpr ⟨Nat.le_add_right _ _, ih⟩
  | comment _ _ ih =>
    exact List.forall_mem_cons.mpr ⟨⟨Nat.le_add_left 2 _, Nat.le_add_right _ _⟩, ih⟩

theorem Pieces.stop_le {offset : Nat} {text : List Char} {ps : List Piece}
    (h : Pieces offset text ps) : ∀ p ∈ ps, p.span.stop ≤ offset + byteSize text := by
  induction h with
  | nil => simp
  | blank _ _ ih =>
    rw [byteSize_append, ← Nat.add_assoc]
    exact ih
  | token _ _ ih =>
    rw [byteSize_append, ← Nat.add_assoc]
    exact List.forall_mem_cons.mpr ⟨Nat.le_add_right _ _, ih⟩
  | comment first _ ih =>
    rw [byteSize_append, ← Nat.add_assoc]
    refine List.forall_mem_cons.mpr ⟨?_, ih⟩
    rw [Pieces.span_comment first]
    exact Nat.le_add_right _ _

theorem Piece.mem_filterMap_token? {ps : List Piece} {t : Located Token} :
    t ∈ ps.filterMap Piece.token? ↔ .token t ∈ ps := by
  rw [List.mem_filterMap]
  refine ⟨fun ⟨p, hp, he⟩ => ?_, fun h => ⟨_, h, rfl⟩⟩
  cases p <;> cases he
  exact hp

theorem Piece.mem_filterMap_comment? {ps : List Piece} {c : Located String} :
    c ∈ ps.filterMap Piece.comment? ↔ .comment c ∈ ps := by
  rw [List.mem_filterMap]
  refine ⟨fun ⟨p, hp, he⟩ => ?_, fun h => ⟨_, h, rfl⟩⟩
  cases p <;> cases he
  exact hp

end Token

open Token (Piece Pieces)

/-- A comment that overlaps no token. Its delimiters belong to it. -/
structure Clear (tokens : List (Located Token)) (c : Located String) : Prop where
  opened : 2 ≤ c.span.start
  start_le : c.span.start ≤ c.span.stop
  token : ∀ t ∈ tokens, t.span.stop ≤ (Piece.comment c).span.start ∨
    (Piece.comment c).span.stop ≤ t.span.start

section Tokenize

variable {source : String} {lexed : Lexed} (h : tokenize source = .ok lexed)
include h

theorem tokenize_pieces : ∃ ps, Pieces 0 source.toList ps ∧
    lexed.tokens = ps.filterMap Piece.token? ∧ lexed.comments = ps.filterMap Piece.comment? := by
  obtain ⟨hfaults, htokens, hcomments⟩ := tokenize_eq_ok h
  rw [htokens, hcomments]
  exact Token.scanAux_pieces le_rfl hfaults

theorem tokenize_layout :
    Grammar.Ordered lexed.tokens ∧ ∀ c ∈ lexed.comments, Clear lexed.tokens c := by
  obtain ⟨ps, hp, ht, hc⟩ := tokenize_pieces h
  have hpairs := hp.pairwise
  rw [ht, hc]
  refine ⟨⟨hpairs.filterMap _ ?_, fun t hm => hp.sized _ (Piece.mem_filterMap_token?.mp hm)⟩,
    fun c hm => ?_⟩
  · intro p q hpq t hpt u hqu
    cases p <;> cases hpt
    cases q <;> cases hqu
    exact hpq
  · have hin := Piece.mem_filterMap_comment?.mp hm
    obtain ⟨hopened, hle⟩ := hp.sized _ hin
    refine ⟨hopened, hle, fun t ht => ?_⟩
    have : Std.Symm fun p q : Piece => p.span.stop ≤ q.span.start ∨ q.span.stop ≤ p.span.start :=
      ⟨fun _ _ => Or.symm⟩
    have hapart : ps.Pairwise fun p q => p.span.stop ≤ q.span.start ∨ q.span.stop ≤ p.span.start :=
      hpairs.imp Or.inl
    exact hapart.forall (Piece.mem_filterMap_token?.mp ht) hin (by simp)

theorem tokenize_stop_le : (∀ t ∈ lexed.tokens, t.span.stop ≤ byteSize source.toList) ∧
    ∀ c ∈ lexed.comments, (Piece.comment c).span.stop ≤ byteSize source.toList := by
  obtain ⟨ps, hp, ht, hc⟩ := tokenize_pieces h
  have hstop := hp.stop_le
  rw [Nat.zero_add] at hstop
  rw [ht, hc]
  exact ⟨fun t hm => hstop _ (Piece.mem_filterMap_token?.mp hm),
    fun c hm => hstop _ (Piece.mem_filterMap_comment?.mp hm)⟩

end Tokenize

end Layout

/-- The first member of a list with a property, by its index. -/
def FirstAt {α : Type} (p : α → Prop) (as : List α) (i : Nat) : Prop :=
  ∃ a, as[i]? = some a ∧ p a ∧ ∀ j < i, ∀ b, as[j]? = some b → ¬p b

section FirstAt

variable {α β : Type} {as : List α} {i : Nat}

theorem firstAt_map {f : α → β} {p : β → Prop} :
    FirstAt p (as.map f) i ↔ FirstAt (fun a => p (f a)) as i := by
  simp [FirstAt]

theorem FirstAt.congr {p q : α → Prop} (h : ∀ a ∈ as, p a ↔ q a) :
    FirstAt p as i ↔ FirstAt q as i := by
  unfold FirstAt
  refine exists_congr fun a => and_congr_right fun ha => ?_
  refine and_congr (h a (List.mem_of_getElem? ha)) ?_
  refine forall₂_congr fun j _ => forall₂_congr fun b hb => ?_
  rw [h b (List.mem_of_getElem? hb)]

theorem find?_eq_some_iff_firstAt {p : α → Bool} {a : α} :
    as.find? p = some a ↔ ∃ i, as[i]? = some a ∧ FirstAt (p · = true) as i := by
  rw [List.find?_eq_some_iff_getElem]
  constructor
  · rintro ⟨hp, i, hi, rfl, hbefore⟩
    refine ⟨i, List.getElem?_eq_getElem hi, as[i], List.getElem?_eq_getElem hi, hp, ?_⟩
    intro j hj b hb
    obtain ⟨hlt, rfl⟩ := List.getElem?_eq_some_iff.mp hb
    simpa using hbefore j hj
  · rintro ⟨i, hi, a', hi', hp, hbefore⟩
    obtain rfl := Option.some.inj (hi.symm.trans hi')
    obtain ⟨hlt, rfl⟩ := List.getElem?_eq_some_iff.mp hi
    refine ⟨hp, i, hlt, rfl, fun j hj => ?_⟩
    simpa using hbefore j hj _ (List.getElem?_eq_getElem _)

end FirstAt

namespace Comment

open Token (Piece)

def remarksOf (body : String) : Remarks := ⟨field? "Description" body, field? "Example Value" body⟩

/-- Comments at the same places that may say something else. -/
def SamePlaces (comments others : List (Located String)) : Prop :=
  others.map (·.span) = comments.map (·.span)

/-- Whether the comment with an index gives the remarks about a declaration: whatever the comments
say, the remarks are those of this comment. -/
def Describes (comments : List (Located String)) (i : Nat) (d : Declaration) : Prop :=
  i < comments.length ∧ ∀ others, SamePlaces comments others →
    ∀ c ∈ others[i]?, remarks others d = remarksOf c.value

/-- Whether the comment with an index names the format, whatever the comments say. -/
def NamesFormat (comments : List (Located String)) (i : Nat) (ds : List Declaration) : Prop :=
  i < comments.length ∧ ∀ others, SamePlaces comments others →
    ∀ c ∈ others[i]?, formatName? others ds = field? "Format Name" c.value

/-- The comments at the same places of which only that with an index says something. -/
def telling (i : Nat) (body : String) (comments : List (Located String)) : List (Located String) :=
  comments.mapIdx fun j c => ⟨if j = i then body else "", c.span⟩

variable {comments others : List (Located String)} {i : Nat} {d : Declaration}
  {ds : List Declaration}

theorem samePlaces_telling (i : Nat) (body : String) (comments : List (Located String)) :
    SamePlaces comments (telling i body comments) := by
  refine List.ext_getElem? fun j => ?_
  simp only [telling, List.getElem?_map, List.getElem?_mapIdx, Option.map_map]
  rfl

theorem value_telling {j : Nat} {body : String} {c : Located String}
    (h : (telling i body comments)[j]? = some c) : c.value = if j = i then body else "" := by
  rw [telling, List.getElem?_mapIdx, Option.map_eq_some_iff] at h
  obtain ⟨_, _, rfl⟩ := h
  rfl

theorem exists_telling (h : i < comments.length) (body : String) :
    ∃ c, (telling i body comments)[i]? = some c ∧ c.value = body := by
  have hlt : i < (telling i body comments).length := by simpa [telling] using h
  refine ⟨_, List.getElem?_eq_getElem hlt, ?_⟩
  rw [value_telling (List.getElem?_eq_getElem hlt), if_pos rfl]

theorem SamePlaces.firstAt_opens (h : SamePlaces comments others) :
    FirstAt (opens d · = true) others i ↔ FirstAt (opens d · = true) comments i := by
  have hspan (cs : List (Located String)) : FirstAt (opens d · = true) cs i ↔
      FirstAt (fun s : Span => opens d ⟨"", s⟩ = true) (cs.map (·.span)) i := by
    rw [firstAt_map]
    rfl
  rw [hspan, hspan, h]

theorem describes_iff : Describes comments i d ↔ FirstAt (opens d · = true) comments i := by
  constructor
  · rintro ⟨hi, hall⟩
    have hsame := samePlaces_telling i "Description:x" comments
    obtain ⟨c, hc, hvalue⟩ := exists_telling hi "Description:x"
    have hremarks := hall _ hsame c hc
    rw [hvalue] at hremarks
    unfold remarks at hremarks
    cases hf : (telling i "Description:x" comments).find? (opens d) with
    | none =>
      rw [hf] at hremarks
      exact absurd hremarks (by decide)
    | some found =>
      obtain ⟨j, hj, hfirst⟩ := find?_eq_some_iff_firstAt.mp hf
      have hji : j = i := by
        -- any other comment says nothing
        by_contra hne
        rw [hf] at hremarks
        dsimp only at hremarks
        rw [value_telling hj, if_neg hne] at hremarks
        exact absurd hremarks (by decide)
      subst hji
      exact hsame.firstAt_opens.mp hfirst
  · intro h
    have hi := h
    obtain ⟨c, hc, -⟩ := hi
    refine ⟨(List.getElem?_eq_some_iff.mp hc).1, fun others hsame c' hc' => ?_⟩
    have hfind := find?_eq_some_iff_firstAt.mpr ⟨i, hc', hsame.firstAt_opens.mpr h⟩
    rw [remarks, hfind]
    rfl

theorem formatName?_eq (comments : List (Located String)) (ds : List Declaration) :
    formatName? comments ds = comments.head?.bind fun header =>
      if ∀ d ∈ ds.head?, header.span.stop ≤ d.span.start then field? "Format Name" header.value
      else none := by
  unfold formatName?
  cases comments.head? <;> cases ds.head? <;> simp

theorem namesFormat_iff : NamesFormat comments i ds ↔
    i = 0 ∧ ∃ c, comments.head? = some c ∧ ∀ d ∈ ds.head?, c.span.stop ≤ d.span.start := by
  constructor
  · rintro ⟨hi, hall⟩
    -- comments of which only that at `i` says something tell whether it is asked
    obtain ⟨c, hc, hvalue⟩ := exists_telling hi "Format Name:x"
    have hname := hall _ (samePlaces_telling i _ comments) c hc
    have hx : field? "Format Name" "Format Name:x" = some "x" := by decide
    rw [hvalue, hx, formatName?_eq, Option.bind_eq_some_iff] at hname
    obtain ⟨header, hheader, hname⟩ := hname
    split_ifs at hname with hends
    rw [List.head?_eq_getElem?] at hheader
    have hzero : i = 0 := by
      by_contra hne
      rw [value_telling hheader, if_neg (Ne.symm hne)] at hname
      exact absurd hname (by decide)
    rw [telling, List.getElem?_mapIdx, Option.map_eq_some_iff] at hheader
    obtain ⟨first, hfirst, rfl⟩ := hheader
    exact ⟨hzero, first, by rw [List.head?_eq_getElem?, hfirst], hends⟩
  · rintro ⟨rfl, first, hfirst, hends⟩
    have hlt : 0 < comments.length := List.length_pos_of_mem (List.mem_of_mem_head? hfirst)
    refine ⟨hlt, fun others hsame c hc => ?_⟩
    rw [← List.head?_eq_getElem?] at hc
    have hspan : c.span = first.span := by
      have hheads := congrArg List.head? hsame
      simpa [List.head?_map, hfirst, Option.mem_def.mp hc] using hheads
    rw [formatName?_eq, Option.mem_def.mp hc, Option.bind_some, hspan, if_pos hends]

section Places

open Grammar (Frames Ordered)

variable {tokens before after : List (Located Token)} {next : Located Token} {c : Located String}

/-- Whether a comment, with its delimiters, stands between two places. -/
def StandsIn (start stop : Nat) (c : Located String) : Prop :=
  start ≤ (Piece.comment c).span.start ∧ (Piece.comment c).span.stop ≤ stop

/-- Where a declaration without properties is concerned, the end of its closing brace is compared in
place of the start. -/
theorem bodyStop_of_begins (h : d.Begins next) (hn : next.span.start ≤ next.span.stop) :
    next.span.start ≤ bodyStop d ∧ bodyStop d ≤ next.span.stop := by
  unfold Declaration.Begins at h
  unfold bodyStop
  cases hp : d.properties with
  | nil =>
    simp only [hp] at h
    exact ⟨hn.trans h.2.le, h.2.ge⟩
  | cons p ps =>
    simp only [hp] at h
    subst h
    exact ⟨le_rfl, hn⟩

/-- The places of texts, two bytes inside of the delimiters, decide as the delimiters would. -/
theorem opens_iff (ho : Ordered tokens)
    (ht : tokens = before ++ ⟨.leftBrace, d.opening⟩ :: next :: after) (hb : d.Begins next)
    (hc : Clear tokens c) :
    opens d c = true ↔ StandsIn d.opening.stop next.span.start c := by
  have hopening := hc.token ⟨.leftBrace, d.opening⟩ (by simp [ht])
  have hnext := hc.token next (by simp [ht])
  have hstart := ho.start_le ⟨.leftBrace, d.opening⟩ (by simp [ht])
  obtain ⟨hstop, hstop'⟩ := bodyStop_of_begins hb (ho.start_le next (by simp [ht]))
  have hopened := hc.opened
  have hle := hc.start_le
  simp only [opens, StandsIn, Piece.span, Bool.and_eq_true, decide_eq_true_eq] at *
  omega

theorem within_of_opens (ho : Ordered tokens) (hd : Frames tokens d) (h : opens d c = true) :
    d.span.start < c.span.start ∧ c.span.stop < d.span.stop := by
  obtain ⟨before, next, after, ht, hb⟩ := hd.opening
  have hin := hd.within ⟨.leftBrace, d.opening⟩ (by simp [ht])
  have hle := ho.start_le ⟨.leftBrace, d.opening⟩ (by simp [ht])
  have hnext := hd.within next (by simp [ht])
  obtain ⟨-, hstop⟩ := bodyStop_of_begins hb (ho.start_le next (by simp [ht]))
  simp only [opens, Bool.and_eq_true, decide_eq_true_eq] at h hin hle
  omega

theorem stop_le_iff (ho : Ordered tokens) (hc : Clear tokens c) {t : Located Token}
    (ht : t ∈ tokens) :
    c.span.stop ≤ t.span.start ↔ (Piece.comment c).span.stop ≤ t.span.start := by
  have htoken := hc.token t ht
  have htle := ho.start_le t ht
  have hopened := hc.opened
  have hle := hc.start_le
  simp only [Piece.span] at htoken ⊢
  omega

end Places

/-- The places of a text that was read: tokens stand in order, comments between them, and every
declaration with its own tokens. -/
structure Laid (lexed : Lexed) (ds : List Declaration) : Prop where
  tokens : Grammar.Ordered lexed.tokens
  clear : ∀ c ∈ lexed.comments, Clear lexed.tokens c
  declarations : ds.Pairwise fun d e => d.span.stop ≤ e.span.start
  frames : ∀ d ∈ ds, ∃ before own after,
    lexed.tokens = before ++ own ++ after ∧ Grammar.Frames own d

theorem laid_of_parse {source : String} {lexed : Lexed} (ht : tokenize source = .ok lexed)
    (hp : parseDeclarations lexed.tokens = .ok ds) : Laid lexed ds := by
  obtain ⟨ho, hclear⟩ := tokenize_layout ht
  obtain ⟨hordered, hframes⟩ := (Grammar.parseDeclarations_eq_ok_iff.mp hp).frames ho
  exact ⟨ho, hclear, hordered, hframes⟩

namespace Laid

variable {lexed : Lexed} (h : Laid lexed ds)
include h

theorem within {c : Located String} (hd : d ∈ ds) (hc : opens d c = true) :
    d.span.start < c.span.start ∧ c.span.stop < d.span.stop := by
  obtain ⟨before, own, after, hown, hf⟩ := h.frames d hd
  have ho := h.tokens
  rw [hown] at ho
  exact within_of_opens ho.of_append.1.of_append.2.1 hf hc

theorem exists_start (hd : d ∈ ds) :
    ∃ t ∈ lexed.tokens, t.span.start = d.span.start ∧ d.span.start ≤ d.span.stop := by
  obtain ⟨before, own, after, hown, hf⟩ := h.frames d hd
  obtain ⟨t, ht, hstart⟩ := hf.starts
  have hin : t ∈ lexed.tokens := by simp [hown, ht]
  exact ⟨t, hin, hstart, hstart ▸ (h.tokens.start_le t hin).trans (hf.within t ht).2⟩

theorem describes_iff_stands (hd : d ∈ ds) :
    ∃ before next after, lexed.tokens = before ++ ⟨.leftBrace, d.opening⟩ :: next :: after ∧
      d.Begins next ∧ ∀ i, Describes lexed.comments i d ↔
        FirstAt (StandsIn d.opening.stop next.span.start) lexed.comments i := by
  obtain ⟨before, own, after, hown, hf⟩ := h.frames d hd
  obtain ⟨before', next, after', rfl, hb⟩ := hf.opening
  have htokens : lexed.tokens =
      (before ++ before') ++ ⟨.leftBrace, d.opening⟩ :: next :: (after' ++ after) := by simp [hown]
  refine ⟨_, next, _, htokens, hb, fun i => ?_⟩
  rw [describes_iff]
  exact FirstAt.congr fun c hc => opens_iff h.tokens htokens hb (h.clear c hc)

theorem describes_unique {j k : Nat} {e : Declaration} (hd : ds[j]? = some d)
    (he : ds[k]? = some e) (hid : Describes lexed.comments i d)
    (hie : Describes lexed.comments i e) : j = k := by
  obtain ⟨c, hc, hopen, -⟩ := describes_iff.mp hid
  obtain ⟨c', hc', hopen', -⟩ := describes_iff.mp hie
  obtain rfl := Option.some.inj (hc.symm.trans hc')
  have hle := (h.clear c (List.mem_of_getElem? hc)).start_le
  have hin := h.within (List.mem_of_getElem? hd) hopen
  have hin' := h.within (List.mem_of_getElem? he) hopen'
  -- a common comment would lie in the places of both, which do not overlap
  have hordered := List.pairwise_iff_getElem.mp h.declarations
  obtain ⟨hj, rfl⟩ := List.getElem?_eq_some_iff.mp hd
  obtain ⟨hk, rfl⟩ := List.getElem?_eq_some_iff.mp he
  rcases lt_trichotomy j k with hlt | heq | hlt
  · have hsep := hordered j k hj hk hlt
    omega
  · exact heq
  · have hsep := hordered k j hk hj hlt
    omega

theorem namesFormat_iff_before : NamesFormat lexed.comments i ds ↔
    i = 0 ∧ ∃ c, lexed.comments.head? = some c ∧
      ∀ d ∈ ds.head?, (Piece.comment c).span.stop ≤ d.span.start := by
  rw [namesFormat_iff]
  refine and_congr_right fun _ => exists_congr fun c => and_congr_right fun hc => ?_
  refine forall₂_congr fun d hd => ?_
  obtain ⟨t, ht, hstart, -⟩ := h.exists_start (List.mem_of_mem_head? hd)
  rw [← hstart]
  exact stop_le_iff h.tokens (h.clear c (List.mem_of_mem_head? hc)) ht

theorem not_describes_of_namesFormat (hi : NamesFormat lexed.comments i ds) (hd : d ∈ ds) :
    ¬Describes lexed.comments i d := by
  intro hdescribes
  obtain ⟨rfl, header, hheader, hends⟩ := namesFormat_iff.mp hi
  obtain ⟨c, hc, hopen, -⟩ := describes_iff.mp hdescribes
  rw [← List.head?_eq_getElem?, hheader] at hc
  obtain rfl := Option.some.inj hc
  have hle := (h.clear header (List.mem_of_mem_head? hheader)).start_le
  have hin := h.within hd hopen
  obtain ⟨first, others, rfl⟩ := List.exists_cons_of_ne_nil (List.ne_nil_of_mem hd)
  have hend := hends first rfl
  rcases List.mem_cons.mp hd with rfl | hd
  · omega
  · have hsep := (List.pairwise_cons.mp h.declarations).1 d hd
    obtain ⟨-, -, -, hfirst⟩ := h.exists_start (List.mem_cons_self (a := first) (l := others))
    omega

end Laid

theorem remarks_eq_none (h : ∀ i, ¬Describes comments i d) : remarks comments d = .none := by
  unfold remarks
  cases hfind : comments.find? (opens d) with
  | none => rfl
  | some c =>
    obtain ⟨i, -, hi⟩ := find?_eq_some_iff_firstAt.mp hfind
    exact absurd (describes_iff.mpr hi) (h i)

/-- A comment gives the remarks about a declaration exactly if it is the first that stands, with its
delimiters, between the opening brace and the next token, which is the name of the first property or
the closing brace; where none does, there are no remarks. No comment describes two declarations. The
format is named by the first comment, if it ends before the first declaration, and such a comment
describes nothing. -/
theorem describes_one_place {source : String} {lexed : Lexed} {ds : List Declaration}
    (ht : tokenize source = .ok lexed) (hp : parseDeclarations lexed.tokens = .ok ds) :
    (∀ d ∈ ds, ∃ before next after,
      lexed.tokens = before ++ ⟨.leftBrace, d.opening⟩ :: next :: after ∧ d.Begins next ∧
      (∀ i, Describes lexed.comments i d ↔
        FirstAt (StandsIn d.opening.stop next.span.start) lexed.comments i) ∧
      ((∀ i, ¬Describes lexed.comments i d) → remarks lexed.comments d = .none)) ∧
    (∀ (i j k : Nat) (d e : Declaration), ds[j]? = some d → ds[k]? = some e →
      Describes lexed.comments i d → Describes lexed.comments i e → j = k) ∧
    (∀ i, NamesFormat lexed.comments i ds ↔ i = 0 ∧ ∃ c, lexed.comments.head? = some c ∧
      ∀ d ∈ ds.head?, (Piece.comment c).span.stop ≤ d.span.start) ∧
    ∀ i, NamesFormat lexed.comments i ds → ∀ d ∈ ds, ¬Describes lexed.comments i d := by
  have h := laid_of_parse ht hp
  refine ⟨fun d hd => ?_, fun i j k d e => h.describes_unique, fun i => h.namesFormat_iff_before,
    fun i hi d => h.not_describes_of_namesFormat hi⟩
  obtain ⟨before, next, after, htokens, hb, hdescribes⟩ := h.describes_iff_stands hd
  exact ⟨before, next, after, htokens, hb, hdescribes, remarks_eq_none⟩

/-- A header, an empty comment between two braces that hides the one after it, a comment between two
declarations, one before the first property and one behind it. -/
def remarkedSource : String :=
  "/*Format Name:f*/element a\x7b/**//*Description:no*/\x7d/*Description:c*/
  element b \x7b/*Description:d*/tagName:b;/*Description:e*/\x7d"

set_option maxRecDepth 4000 in
theorem describes_one_place_remarked :
    ∃ lexed ds, tokenize remarkedSource = .ok lexed ∧
      parseDeclarations lexed.tokens = .ok ds ∧ lexed.comments.length = 6 ∧
      ds.map (remarks lexed.comments) = [.none, ⟨some "d", none⟩] ∧
      formatName? lexed.comments ds = some "f" ∧ NamesFormat lexed.comments 0 ds ∧
      (∀ d ∈ ds, ¬Describes lexed.comments 0 d) ∧
      ∀ (i : Nat) (d e : Declaration), ds[0]? = some d → ds[1]? = some e →
        Describes lexed.comments i d → ¬Describes lexed.comments i e := by
  obtain ⟨lexed, hlexed, hlength, hparsed⟩ : ∃ lexed, tokenize remarkedSource = .ok lexed ∧
      lexed.comments.length = 6 ∧ (parseDeclarations lexed.tokens).toOption.any (fun ds =>
        decide (ds.map (remarks lexed.comments) = [.none, ⟨some "d", none⟩]) &&
        decide (formatName? lexed.comments ds = some "f") &&
        lexed.comments.head?.any fun c => ds.head?.all fun d =>
          decide ((Piece.comment c).span.stop ≤ d.span.start)) = true :=
    ⟨_, tokenize_of_scan (String.toList_ofList : remarkedSource.toList = _) (by decide),
      by decide, by decide⟩
  cases hp : parseDeclarations lexed.tokens with
  | error e => simp [hp, Except.toOption] at hparsed
  | ok ds =>
    simp only [hp, Except.toOption, Option.any_some, Bool.and_eq_true, decide_eq_true_eq,
      Option.any_eq_true, Option.all_eq_true] at hparsed
    obtain ⟨⟨hremarks, hname⟩, header, hheader, hends⟩ := hparsed
    obtain ⟨-, hone, hformat, hnothing⟩ := describes_one_place hlexed hp
    have hnames := (hformat 0).mpr ⟨rfl, header, hheader, hends⟩
    refine ⟨lexed, ds, hlexed, hp, hlength, hremarks, hname, hnames, hnothing 0 hnames, ?_⟩
    intro i d e hd he hid hie
    exact absurd (hone i 0 1 d e hd he hid hie) (by decide)

end Comment

end DocSchema
