import DocSchema.Pattern.Regex
import DocSchema.Proofs.Result
import Mathlib

/-!
# Trees and their pieces

Putting pieces together loses nothing: the pieces of the tree, from left to right, are those it was
made of. A tree with a meaning asks for known properties only.
-/
namespace DocSchema.Pattern

mutual

def Tree.pieces : Tree → List Piece
  | .empty => []
  | .atom a => [.atom a]
  | .dot => [.dot]
  | .anchor a => [.anchor a]
  | .charClass negated inner => [.charClass negated inner]
  | .flags change => [.flags change]
  | .group kind inner => .opening kind :: inner.pieces ++ [.closing]
  | .repetition inner min max lazy => inner.pieces ++ [.repetition min max lazy]
  | .sequence parts => Tree.piecesOf parts
  | .alternatives options => Tree.piecesAmong options

def Tree.piecesOf : List Tree → List Piece
  | [] => []
  | t :: ts => t.pieces ++ Tree.piecesOf ts

def Tree.piecesAmong : List Tree → List Piece
  | [] => []
  | [t] => t.pieces
  | t :: ts => t.pieces ++ .bar :: Tree.piecesAmong ts

end

namespace Tree

theorem piecesOf_append (ts us : List Tree) : piecesOf (ts ++ us) = piecesOf ts ++ piecesOf us := by
  induction ts with
  | nil => rfl
  | cons t ts ih => simp [piecesOf, ih]

theorem piecesAmong_concat (ts : List Tree) (t : Tree) :
    piecesAmong (ts ++ [t]) = (ts.flatMap fun u => u.pieces ++ [Piece.bar]) ++ t.pieces := by
  induction ts with
  | nil => simp [piecesAmong]
  | cons u us ih =>
    have hne : us ++ [t] ≠ [] := by simp
    obtain ⟨v, vs, hv⟩ := List.exists_cons_of_ne_nil hne
    rw [List.cons_append, hv, piecesAmong, ← hv, ih]
    · simp
    · simp

theorem pieces_ofSequence (ts : List Tree) : (ofSequence ts).pieces = piecesOf ts := by
  rcases ts with _ | ⟨t, _ | ⟨u, ts⟩⟩
  · rfl
  · simp [ofSequence, piecesOf]
  · rfl

theorem pieces_ofAlternatives (ts : List Tree) : (ofAlternatives ts).pieces = piecesAmong ts := by
  rcases ts with _ | ⟨t, _ | ⟨u, ts⟩⟩
  · rfl
  · simp [ofAlternatives, piecesAmong]
  · rfl

end Tree

namespace OpenGroup

def pieces (g : OpenGroup) : List Piece :=
  (g.options.reverse.flatMap fun t => t.pieces ++ [.bar]) ++ Tree.piecesOf g.parts.reverse

theorem pieces_push (g : OpenGroup) (t : Tree) : (g.push t).pieces = g.pieces ++ t.pieces := by
  simp [pieces, push, Tree.piecesOf_append, Tree.piecesOf]

theorem pieces_alternate (g : OpenGroup) : g.alternate.pieces = g.pieces ++ [Piece.bar] := by
  simp [pieces, alternate, Tree.piecesOf, Tree.pieces_ofSequence]

theorem pieces_tree (g : OpenGroup) : g.tree.pieces = g.pieces := by
  simp [pieces, tree, alternate, Tree.pieces_ofAlternatives, Tree.piecesAmong_concat,
    Tree.pieces_ofSequence]

theorem pieces_repeatLast {g g' : OpenGroup} {min : Nat} {max : Option Nat} {lazy : Bool}
    (h : g.repeatLast? min max lazy = some g') :
    g'.pieces = g.pieces ++ [Piece.repetition min max lazy] := by
  unfold repeatLast? at h
  split at h
  · cases h
  · cases h
  next t ts ht =>
    cases h
    simp [pieces, ht, Tree.piecesOf_append, Tree.piecesOf, Tree.pieces]

end OpenGroup

def outerPieces : List (GroupKind × OpenGroup) → List Piece
  | [] => []
  | (kind, g) :: outer => outerPieces outer ++ g.pieces ++ [.opening kind]

theorem pieces_of_assemble {ps : List Piece} {g : OpenGroup} {outer : List (GroupKind × OpenGroup)}
    {tree : Tree} (h : assemble ps g outer = .ok tree) :
    tree.pieces = outerPieces outer ++ g.pieces ++ ps := by
  fun_induction assemble ps g outer with
  | case1 g =>
    cases h
    simp [outerPieces, g.pieces_tree]
  | case2 => cases h
  | case3 kind ps g outer ih =>
    simp [ih h, outerPieces, OpenGroup.pieces, OpenGroup.start, Tree.piecesOf]
  | case4 => cases h
  | case5 ps g kind parent outer ih =>
    simp [ih h, outerPieces, OpenGroup.pieces_push, Tree.pieces, g.pieces_tree]
  | case6 ps g outer ih => simp [ih h, OpenGroup.pieces_alternate]
  | case7 min max lazy ps g outer g' hg ih => simp [ih h, OpenGroup.pieces_repeatLast hg]
  | case8 => cases h
  | case9 a ps g outer ih => simp [ih h, OpenGroup.pieces_push, Tree.pieces]
  | case10 ps g outer ih => simp [ih h, OpenGroup.pieces_push, Tree.pieces]
  | case11 a ps g outer ih => simp [ih h, OpenGroup.pieces_push, Tree.pieces]
  | case12 negated inner ps g outer ih => simp [ih h, OpenGroup.pieces_push, Tree.pieces]
  | case13 change ps g outer ih => simp [ih h, OpenGroup.pieces_push, Tree.pieces]

/-! ## Parentheses -/

def Piece.parenthesis? : Piece → Option Char
  | .opening _ => some '('
  | .closing => some ')'
  | _ => none

def parentheses (ps : List Piece) : List Char := ps.filterMap Piece.parenthesis?

/-- The number of groups that are open after some parentheses, unless one closes no group. -/
def depthAfter (depth : Nat) : List Char → Option Nat
  | [] => some depth
  | c :: cs =>
    if c = '(' then depthAfter (depth + 1) cs
    else if c = ')' then if depth = 0 then none else depthAfter (depth - 1) cs
    else depthAfter depth cs

theorem depthAfter_append (depth : Nat) (cs ds : List Char) :
    depthAfter depth (cs ++ ds) = (depthAfter depth cs).bind (depthAfter · ds) := by
  fun_induction depthAfter depth cs <;> simp_all [depthAfter]

theorem depthAfter_of_assemble {ps : List Piece} {g : OpenGroup}
    {outer : List (GroupKind × OpenGroup)} {tree : Tree} (h : assemble ps g outer = .ok tree) :
    depthAfter outer.length (parentheses ps) = some 0 := by
  fun_induction assemble ps g outer with
  | case1 => rfl
  | case2 => cases h
  | case3 kind ps g outer ih => exact ih h
  | case4 => cases h
  | case5 ps g kind parent outer ih => exact ih h
  | case6 ps g outer ih => exact ih h
  | case7 min max lazy ps g outer g' hg ih => exact ih h
  | case8 => cases h
  | case9 a ps g outer ih => exact ih h
  | case10 ps g outer ih => exact ih h
  | case11 a ps g outer ih => exact ih h
  | case12 negated inner ps g outer ih => exact ih h
  | case13 change ps g outer ih => exact ih h

/-- Pieces that close all groups they open make a tree of their own within a larger one. -/
theorem assemble_append {ps qs : List Piece} {g : OpenGroup}
    {inner outer : List (GroupKind × OpenGroup)} {tree : Tree}
    (h : assemble (ps ++ qs) g (inner ++ outer) = .ok tree)
    (hd : depthAfter inner.length (parentheses ps) = some 0) :
    ∃ g', assemble ps g inner = .ok g'.tree ∧ assemble qs g' outer = .ok tree := by
  induction ps generalizing g inner with
  | nil =>
    obtain rfl : inner = [] := by simpa [parentheses, depthAfter] using hd
    exact ⟨g, rfl, h⟩
  | cons p ps ih =>
    cases p with
    | opening kind =>
      have hopened : assemble (ps ++ qs) .start ((kind, g) :: inner ++ outer) = .ok tree := h
      exact ih hopened hd
    | closing =>
      cases inner with
      | nil => cases hd
      | cons frame inner => exact ih h hd
    | repetition min max lazy =>
      simp only [List.cons_append, assemble] at h ⊢
      cases hg : g.repeatLast? min max lazy with
      | none => simp [hg] at h
      | some g' =>
        simp only [hg] at h ⊢
        exact ih h hd
    | bar | atom _ | dot | anchor _ | charClass _ _ | flags _ => exact ih h hd

/-! ## Known properties -/

def Atom.Known : Atom → Prop
  | .escape _ (.property query _) => query.find?.isSome
  | _ => True

mutual

def ClassTree.Known : ClassTree → Prop
  | .item atom => atom.Known
  | .bracketed _ inner => inner.Known
  | .union items => ClassTree.AllKnown items
  | .binary _ left right => left.Known ∧ right.Known
  | _ => True

def ClassTree.AllKnown : List ClassTree → Prop
  | [] => True
  | t :: ts => t.Known ∧ ClassTree.AllKnown ts

end

theorem ClassTree.allKnown_iff {ts : List ClassTree} : AllKnown ts ↔ ∀ t ∈ ts, t.Known := by
  induction ts with
  | nil => simp [AllKnown]
  | cons t ts ih => simp [AllKnown, ih]

def Piece.Known : Piece → Prop
  | .atom a => a.Known
  | .charClass _ inner => inner.Known
  | _ => True

theorem isSome_of_propertySet {f : Flags} {query : PropertyQuery} {negated : Bool} {s : CharSet}
    (h : propertySet f query negated = .ok s) : query.find?.isSome := by
  unfold propertySet at h
  split at h
  · cases h
  split at h
  · cases h
  next hq => simp [hq]

theorem Atom.known_of_regex {f : Flags} {a : Atom} {r : Regex} (h : atomRegex f a = .ok r) :
    a.Known := by
  rcases a with _ | ⟨letter, _ | _ | _ | ⟨query, negated⟩ | _⟩
  case escape.property =>
    cases hs : propertySet f query negated with
    | error e => simp [atomRegex, hs, Except.map] at h
    | ok s => exact isSome_of_propertySet hs
  all_goals trivial

theorem Atom.known_of_classSet {f : Flags} {a : Atom} {s : CharSet}
    (h : classAtomSet f a = .ok s) : a.Known := by
  rcases a with _ | ⟨letter, _ | _ | _ | ⟨query, negated⟩ | _⟩
  case escape.property => exact isSome_of_propertySet h
  all_goals trivial

mutual

theorem ClassTree.known_of_set {f : Flags} : (t : ClassTree) → {s : CharSet} → t.set f = .ok s →
    t.Known
  | .empty, _, _ => trivial
  | .range _ _, _, _ => trivial
  | .named _ _, _, _ => trivial
  | .item _, _, h => Atom.known_of_classSet h
  | .bracketed _ inner, _, h => by
    obtain ⟨s, hs, -⟩ := bind_eq_ok.1 h
    exact ClassTree.known_of_set inner hs
  | .union items, _, h => ClassTree.known_of_unionSet items h
  | .binary _ left right, _, h => by
    obtain ⟨a, ha, h⟩ := bind_eq_ok.1 h
    obtain ⟨b, hb, -⟩ := bind_eq_ok.1 h
    exact ⟨ClassTree.known_of_set left ha, ClassTree.known_of_set right hb⟩

theorem ClassTree.known_of_unionSet {f : Flags} : (ts : List ClassTree) → {s : CharSet} →
    ClassTree.unionSet f ts = .ok s → ClassTree.AllKnown ts
  | [], _, _ => trivial
  | t :: ts, _, h => by
    obtain ⟨a, ha, h⟩ := bind_eq_ok.1 h
    obtain ⟨b, hb, -⟩ := bind_eq_ok.1 h
    exact ⟨ClassTree.known_of_set t ha, ClassTree.known_of_unionSet ts hb⟩

end

theorem Tree.exists_of_mem_piecesOf {ts : List Tree} {p : Piece} (h : p ∈ piecesOf ts) :
    ∃ t ∈ ts, p ∈ t.pieces := by
  induction ts with
  | nil => simp [piecesOf] at h
  | cons t ts ih =>
    simp only [piecesOf, List.mem_append] at h
    grind

theorem Tree.exists_of_mem_piecesAmong {ts : List Tree} {p : Piece} (h : p ∈ piecesAmong ts) :
    p = .bar ∨ ∃ t ∈ ts, p ∈ t.pieces := by
  induction ts with
  | nil => simp [piecesAmong] at h
  | cons t ts ih =>
    cases ts with
    | nil => exact .inr ⟨t, by simp, by simpa [piecesAmong] using h⟩
    | cons u us =>
      rw [piecesAmong, List.mem_append, List.mem_cons] at h
      · grind
      · simp

mutual

theorem Tree.known_of_regex {f : Flags} : (t : Tree) → {x : Regex × Flags} → t.regex f = .ok x →
    ∀ p ∈ t.pieces, p.Known
  | .empty, _, _ => by simp [pieces]
  | .dot, _, _ => by simp [pieces, Piece.Known]
  | .anchor _, _, _ => by simp [pieces, Piece.Known]
  | .flags _, _, _ => by simp [pieces, Piece.Known]
  | .atom a, _, h => by
    obtain ⟨r, hr, -⟩ := bind_eq_ok.1 h
    simpa [pieces, Piece.Known] using Atom.known_of_regex hr
  | .charClass _ inner, _, h => by
    obtain ⟨s, hs, -⟩ := bind_eq_ok.1 h
    simpa [pieces, Piece.Known] using ClassTree.known_of_set inner hs
  | .group kind inner, _, h => by
    have hinner : ∀ p ∈ inner.pieces, p.Known := by
      cases kind <;>
      · obtain ⟨x, hx, -⟩ := bind_eq_ok.1 h
        exact Tree.known_of_regex inner hx
    intro p hp
    simp only [pieces, List.cons_append, List.mem_cons, List.mem_append, List.mem_nil_iff,
      or_false] at hp
    obtain rfl | hp | rfl := hp
    exacts [trivial, hinner p hp, trivial]
  | .repetition inner _ _ _, _, h => by
    obtain ⟨x, hx, -⟩ := bind_eq_ok.1 h
    have hinner := Tree.known_of_regex inner hx
    intro p hp
    simp only [pieces, List.mem_append, List.mem_singleton] at hp
    obtain hp | rfl := hp
    exacts [hinner p hp, trivial]
  | .sequence parts, _, h => by
    obtain ⟨x, hx, -⟩ := bind_eq_ok.1 h
    intro p hp
    obtain ⟨t, ht, hp⟩ := exists_of_mem_piecesOf hp
    exact Tree.known_of_regexes parts hx t ht p hp
  | .alternatives options, _, h => by
    obtain ⟨x, hx, -⟩ := bind_eq_ok.1 h
    intro p hp
    obtain rfl | ⟨t, ht, hp⟩ := exists_of_mem_piecesAmong hp
    · trivial
    · exact Tree.known_of_regexes options hx t ht p hp

theorem Tree.known_of_regexes {f : Flags} : (ts : List Tree) → {x : List Regex × Flags} →
    Tree.regexes f ts = .ok x → ∀ t ∈ ts, ∀ p ∈ t.pieces, p.Known
  | [], _, _ => by simp
  | t :: ts, _, h => by
    obtain ⟨⟨r, f'⟩, ht, h⟩ := bind_eq_ok.1 h
    obtain ⟨x, hts, -⟩ := bind_eq_ok.1 h
    exact List.forall_mem_cons.2 ⟨Tree.known_of_regex t ht, Tree.known_of_regexes ts hts⟩

end

end DocSchema.Pattern
