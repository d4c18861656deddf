import DocSchema.Proofs.Xml.Node

/-!
# Reading XML back

A reader of markup, and that it gives back what was written. The text is first cut into tags at its
angle brackets, which text and attribute values have only in escaped form; the tags are then nested.
The reader keeps the elements and their attributes and passes over the text between tags.
-/
namespace DocSchema.Xml

/-- An element as it is read: its attributes have their plain values. -/
inductive Element where
  | mk (tag : String) (attributes : List Attribute) (children : List Element)
  deriving Repr

namespace Element

def tag : Element → String
  | .mk tag _ _ => tag

def attributes : Element → List Attribute
  | .mk _ attributes _ => attributes

def children : Element → List Element
  | .mk _ _ children => children

def attribute? (key : String) (e : Element) : Option String := e.attributes.lookup key

@[simp] theorem tag_mk (tag : String) (attributes : List Attribute) (children : List Element) :
    (mk tag attributes children).tag = tag := rfl

@[simp] theorem attributes_mk (tag : String) (attributes : List Attribute)
    (children : List Element) : (mk tag attributes children).attributes = attributes := rfl

@[simp] theorem children_mk (tag : String) (attributes : List Attribute)
    (children : List Element) : (mk tag attributes children).children = children := rfl

@[simp] theorem attribute?_mk (key tag : String) (attributes : List Attribute)
    (children : List Element) :
    (mk tag attributes children).attribute? key = attributes.lookup key := rfl

end Element

inductive Markup where
  | start (tag : String) (attributes : List Attribute)
  | empty (tag : String) (attributes : List Attribute)
  | stop (tag : String)
  deriving DecidableEq, Repr

/-- Undoes the five escapes. Any other ampersand, and a bracket that is not escaped, is refused. -/
def unescape? : List Char → Option (List Char)
  | [] => some []
  | '&' :: 'l' :: 't' :: ';' :: cs => (unescape? cs).map ('<' :: ·)
  | '&' :: 'g' :: 't' :: ';' :: cs => (unescape? cs).map ('>' :: ·)
  | '&' :: 'a' :: 'm' :: 'p' :: ';' :: cs => (unescape? cs).map ('&' :: ·)
  | '&' :: 'a' :: 'p' :: 'o' :: 's' :: ';' :: cs => (unescape? cs).map ('\'' :: ·)
  | '&' :: 'q' :: 'u' :: 'o' :: 't' :: ';' :: cs => (unescape? cs).map ('"' :: ·)
  | c :: cs => if c = '&' ∨ c = '<' then none else (unescape? cs).map (c :: ·)

def key? : List Char → Option (List Char)
  | ' ' :: cs => if cs.getLast? = some '=' then some cs.dropLast else none
  | _ => none

/-- The attributes in a tag that was cut at its quotes: names and values take turns. What follows
the last value comes with them. -/
def attributes? : List (List Char) → Option (List Attribute × List Char)
  | [] => none
  | [last] => some ([], last)
  | key :: value :: rest => do
    let key ← key? key
    let value ← unescape? value
    let (attributes, last) ← attributes? rest
    return ((String.ofList key, String.ofList value) :: attributes, last)

/-- What can stand in the name of a tag or of an attribute. -/
def inName (c : Char) : Bool := c ∉ [' ', '"', '/', '<', '=', '>']

def markup? : List Char → Option Markup
  | '/' :: tag => some (.stop (String.ofList tag))
  | cs => do
    let tag := String.ofList (cs.takeWhile inName)
    match ← attributes? ((cs.dropWhile inName).splitOn '"') with
    | (attributes, []) => some (.start tag attributes)
    | (attributes, ['/']) => some (.empty tag attributes)
    | _ => none

/-- The tags of a text. `inside` is what was read of a tag, last character first, and nothing
between tags. -/
def markupsAux (inside : Option (List Char)) : List Char → Option (List Markup)
  | [] => if inside.isNone then some [] else none
  | c :: cs =>
    match inside with
    | none =>
      if c = '<' then markupsAux (some []) cs
      else if c = '>' then none
      else markupsAux none cs
    | some taken =>
      if c = '>' then do
        let first ← markup? taken.reverse
        return first :: (← markupsAux none cs)
      else if c = '<' then none
      else markupsAux (some (c :: taken)) cs

def markups? (text : List Char) : Option (List Markup) := markupsAux none text

/-- Nests tags. The elements read at the present level and those of the levels around it are kept
last first. -/
def nest? : List Markup → List (String × List Attribute × List Element) → List Element →
    Option (List Element)
  | [], [], done => some done.reverse
  | [], _ :: _, _ => none
  | .empty tag attributes :: ms, outer, done => nest? ms outer (.mk tag attributes [] :: done)
  | .start tag attributes :: ms, outer, done => nest? ms ((tag, attributes, done) :: outer) []
  | .stop _ :: _, [], _ => none
  | .stop tag :: ms, (opened, attributes, before) :: outer, done =>
    if tag = opened then nest? ms outer (.mk tag attributes done.reverse :: before) else none

def elements? (text : List Char) : Option (List Element) := do nest? (← markups? text) [] []

theorem unescape?_cons {c : Char} (h : c ≠ '&') (hl : c ≠ '<') (cs : List Char) :
    unescape? (c :: cs) = (unescape? cs).map (c :: ·) := by
  rw [unescape?.eq_def]
  split <;> simp_all

theorem unescape?_escapeChar (c : Char) (cs : List Char) :
    unescape? (escapeChar c ++ cs) = (unescape? cs).map (c :: ·) := by
  unfold escapeChar
  split
  · simp [unescape?]
  · simp [unescape?]
  · simp [unescape?]
  · simp [unescape?]
  · simp [unescape?]
  · next hl hg ha hp hq => exact unescape?_cons (by simpa using ha) (by simpa using hl) cs

theorem unescape?_escape (s : String) : unescape? (escape s).toList = some s.toList := by
  rw [escape, String.toList_ofList]
  induction s.toList with
  | nil => rfl
  | cons c cs ih => rw [List.flatMap_cons, unescape?_escapeChar, ih, Option.map_some]

theorem not_mem_escape {s : String} {c : Char} (h : c ∈ (escape s).toList) :
    c ≠ '<' ∧ c ≠ '>' ∧ c ≠ '"' := by
  rw [escape, String.toList_ofList, List.mem_flatMap] at h
  obtain ⟨d, -, h⟩ := h
  unfold escapeChar at h
  split at h
  case h_6 hl hg _ _ hq =>
    obtain rfl := List.mem_singleton.mp h
    exact ⟨by simpa using hl, by simpa using hg, by simpa using hq⟩
  -- the escapes themselves
  all_goals exact (by simp : ∀ c ∈ String.toList _, c ≠ '<' ∧ c ≠ '>' ∧ c ≠ '"') c h

def isPlain (name : String) : Bool := !name.toList.isEmpty && name.toList.all inName

structure PlainTag (tag : String) (attributes : List Attribute) : Prop where
  tag : isPlain tag = true
  keys : ∀ a ∈ attributes, isPlain a.1 = true

theorem inName_of_isPlain {name : String} (h : isPlain name = true) :
    ∀ c ∈ name.toList, inName c = true := by
  simp only [isPlain, Bool.and_eq_true, List.all_eq_true] at h
  exact h.2

theorem ne_of_inName {c : Char} (h : inName c = true) :
    c ≠ ' ' ∧ c ≠ '"' ∧ c ≠ '/' ∧ c ≠ '<' ∧ c ≠ '=' ∧ c ≠ '>' := by
  simpa [inName] using h

def attributeChars (attributes : List Attribute) : List Char :=
  attributes.flatMap fun a => (attributeText a).toList

theorem toList_attributeText (a : Attribute) : (attributeText a).toList =
    (' ' :: a.1.toList ++ ['=']) ++ '"' :: ((escape a.2).toList ++ ['"']) := by
  simp [attributeText, String.toList_append, toString]

theorem toList_tagText (tag : String) (attributes : List Attribute) :
    (tagText tag attributes).toList = tag.toList ++ attributeChars attributes := by
  simp [tagText, attributeChars, List.flatMap_map]

theorem splitOn_quote {xs ys : List Char} (h : '"' ∉ xs) :
    (xs ++ '"' :: ys).splitOn '"' = xs :: ys.splitOn '"' := by
  have hx : List.splitOnP (· == '"') xs = [xs] := by
    apply List.splitOnP_eq_singleton
    intro c hc
    simpa using fun he : c = '"' => h (he ▸ hc)
  rw [List.splitOn, List.splitOnP_append_cons _ _ (by simp), hx]
  rfl

theorem key?_written (key : List Char) : key? (' ' :: key ++ ['=']) = some key := by
  simp [key?]

/-- Cutting at the quotes finds the attributes. -/
theorem attributes?_written {attributes : List Attribute}
    (h : ∀ a ∈ attributes, isPlain a.1 = true) {last : List Char} (hl : '"' ∉ last) :
    attributes? ((attributeChars attributes ++ last).splitOn '"') = some (attributes, last) := by
  induction attributes with
  | nil =>
    have hs : last.splitOn '"' = [last] := by
      apply List.splitOnP_eq_singleton
      intro c hc
      simpa using fun he : c = '"' => hl (he ▸ hc)
    simp [attributeChars, hs, attributes?]
  | cons a attributes ih =>
    have hk : '"' ∉ ' ' :: a.1.toList ++ ['='] := by
      intro hm
      have hm : '"' ∈ a.1.toList := by simpa using hm
      exact (ne_of_inName (inName_of_isPlain (h a (by simp)) _ hm)).2.1 rfl
    have hv : '"' ∉ (escape a.2).toList := fun hm => (not_mem_escape hm).2.2 rfl
    have hc : attributeChars (a :: attributes) ++ last =
        (' ' :: a.1.toList ++ ['=']) ++ '"' ::
          ((escape a.2).toList ++ '"' :: (attributeChars attributes ++ last)) := by
      simp [attributeChars, toList_attributeText]
    rw [hc, splitOn_quote hk, splitOn_quote hv, attributes?, key?_written, unescape?_escape,
      ih fun a ha => h a (by simp [ha])]
    simp

theorem takeWhile_dropWhile_tag {tag : String} (h : isPlain tag = true) {rest : List Char}
    (hr : ∀ c ∈ rest.head?, inName c = false) :
    (tag.toList ++ rest).takeWhile inName = tag.toList ∧
      (tag.toList ++ rest).dropWhile inName = rest := by
  have ht := inName_of_isPlain h
  rw [List.takeWhile_append_of_pos ht, List.dropWhile_append_of_pos ht]
  cases rest with
  | nil => simp
  | cons c rest =>
    have hc : inName c = false := hr c (by simp)
    simp [hc]

theorem head?_attributeChars (attributes : List Attribute) {last : List Char}
    (hl : ∀ c ∈ last.head?, inName c = false) :
    ∀ c ∈ (attributeChars attributes ++ last).head?, inName c = false := by
  cases attributes with
  | nil => simpa [attributeChars] using hl
  | cons a attributes =>
    intro c hc
    obtain rfl : ' ' = c := by simpa [attributeChars, toList_attributeText] using hc
    decide

theorem markup?_of_name {cs : List Char} (h : ∀ c ∈ cs.head?, c ≠ '/') :
    markup? cs = (attributes? ((cs.dropWhile inName).splitOn '"')).bind fun r =>
      match r with
      | (attributes, []) => some (.start (String.ofList (cs.takeWhile inName)) attributes)
      | (attributes, ['/']) => some (.empty (String.ofList (cs.takeWhile inName)) attributes)
      | _ => none := by
  rw [markup?.eq_def]
  split
  · next tag => exact absurd rfl (h '/' (by simp))
  · rfl

theorem head?_plain_append {tag : String} (h : isPlain tag = true) (rest : List Char) :
    ∀ c ∈ (tag.toList ++ rest).head?, c ≠ '/' := by
  have hn := inName_of_isPlain h
  cases ht : tag.toList with
  | nil => simp [isPlain, ht] at h
  | cons d ds =>
    intro c hc
    obtain rfl : d = c := by simpa [ht] using hc
    exact (ne_of_inName (hn d (by simp [ht]))).2.2.1

theorem markup?_start {tag : String} {attributes : List Attribute} (h : PlainTag tag attributes) :
    markup? (tagText tag attributes).toList = some (.start tag attributes) := by
  have hl : ∀ c ∈ ([] : List Char).head?, inName c = false := by simp
  obtain ⟨ht, hd⟩ := takeWhile_dropWhile_tag h.tag (head?_attributeChars attributes hl)
  rw [toList_tagText, ← List.append_nil (attributeChars attributes),
    markup?_of_name (head?_plain_append h.tag _), ht, hd, attributes?_written h.keys (by simp)]
  simp

theorem markup?_empty {tag : String} {attributes : List Attribute} (h : PlainTag tag attributes) :
    markup? ((tagText tag attributes).toList ++ ['/']) = some (.empty tag attributes) := by
  have hl : ∀ c ∈ ['/'].head?, inName c = false := by simp [inName]
  obtain ⟨ht, hd⟩ := takeWhile_dropWhile_tag h.tag (head?_attributeChars attributes hl)
  rw [toList_tagText, List.append_assoc, markup?_of_name (head?_plain_append h.tag _), ht, hd,
    attributes?_written h.keys (by decide)]
  simp

theorem markup?_stop (tag : String) : markup? ('/' :: tag.toList) = some (.stop tag) := by
  simp [markup?]

def NoBrackets (cs : List Char) : Prop := ∀ c ∈ cs, c ≠ '<' ∧ c ≠ '>'

theorem NoBrackets.append {cs ds : List Char} (hc : NoBrackets cs) (hd : NoBrackets ds) :
    NoBrackets (cs ++ ds) := fun c h => (List.mem_append.mp h).elim (hc c) (hd c)

theorem NoBrackets.name {name : String} (h : isPlain name = true) : NoBrackets name.toList := by
  intro c hc
  have hn := ne_of_inName (inName_of_isPlain h c hc)
  exact ⟨hn.2.2.2.1, hn.2.2.2.2.2⟩

theorem NoBrackets.escape (s : String) : NoBrackets (escape s).toList := fun _ hc =>
  ⟨(not_mem_escape hc).1, (not_mem_escape hc).2.1⟩

theorem NoBrackets.tagText {tag : String} {attributes : List Attribute}
    (h : PlainTag tag attributes) : NoBrackets (tagText tag attributes).toList := by
  rw [toList_tagText]
  refine (NoBrackets.name h.tag).append fun c hc => ?_
  obtain ⟨a, ha, hc⟩ := List.mem_flatMap.mp hc
  rw [toList_attributeText] at hc
  simp only [List.mem_append, List.mem_cons, List.not_mem_nil, or_false] at hc
  rcases hc with ((rfl | hc) | rfl) | rfl | hc | rfl
  · decide
  · exact NoBrackets.name (h.keys a ha) c hc
  · decide
  · decide
  · exact NoBrackets.escape a.2 c hc
  · decide

theorem NoBrackets.margin (width depth : Nat) : NoBrackets (margin width depth).toList := by
  intro c hc
  rw [Xml.margin, String.toList_ofList] at hc
  rw [List.eq_of_mem_replicate hc]
  decide

theorem markupsAux_between {data : List Char} (h : NoBrackets data) (rest : List Char) :
    markupsAux none (data ++ rest) = markupsAux none rest := by
  induction data with
  | nil => rfl
  | cons c data ih =>
    obtain ⟨hl, hg⟩ := h c (by simp)
    simp only [List.cons_append, markupsAux, hl, hg, if_false]
    exact ih fun d hd => h d (by simp [hd])

theorem markupsAux_inside {body : List Char} (h : NoBrackets body) (taken rest : List Char) :
    markupsAux (some taken) (body ++ '>' :: rest) =
      (markup? (taken.reverse ++ body)).bind fun m => (markupsAux none rest).map (m :: ·) := by
  induction body generalizing taken with
  | nil =>
    simp only [List.nil_append, List.append_nil, markupsAux, if_true]
    cases markup? taken.reverse <;> cases markupsAux none rest <;> rfl
  | cons c body ih =>
    obtain ⟨hl, hg⟩ := h c (by simp)
    simp only [List.cons_append, markupsAux, hl, hg, if_false]
    rw [ih (fun d hd => h d (by simp [hd]))]
    simp

theorem markups?_tag {data body : List Char} (hd : NoBrackets data) (hb : NoBrackets body)
    {m : Markup} (hm : markup? body = some m) (rest : List Char) :
    markups? (data ++ '<' :: (body ++ '>' :: rest)) = (markups? rest).map (m :: ·) := by
  rw [markups?, markupsAux_between hd]
  have hs : markupsAux none ('<' :: (body ++ '>' :: rest)) =
      markupsAux (some []) (body ++ '>' :: rest) := by
    simp [markupsAux]
  rw [hs, markupsAux_inside hb, List.reverse_nil, List.nil_append, hm]
  rfl

theorem markups?_newline (rest : List Char) : markups? ('\n' :: rest) = markups? rest := by
  simp [markups?, markupsAux]

mutual

def Node.markup : Node → List Markup
  | .leaf tag attributes => [.empty tag attributes]
  | .text tag attributes _ => [.start tag attributes, .stop tag]
  | .branch tag attributes children =>
    .start tag attributes :: (Node.markupOf children ++ [.stop tag])

def Node.markupOf : List Node → List Markup
  | [] => []
  | n :: ns => n.markup ++ Node.markupOf ns

end

mutual

def Node.element : Node → Element
  | .leaf tag attributes => .mk tag attributes []
  | .text tag attributes _ => .mk tag attributes []
  | .branch tag attributes children => .mk tag attributes (Node.elements children)

def Node.elements : List Node → List Element
  | [] => []
  | n :: ns => n.element :: Node.elements ns

end

theorem Node.elements_eq_map (ns : List Node) : Node.elements ns = ns.map Node.element := by
  induction ns with
  | nil => rfl
  | cons n ns ih => rw [Node.elements, ih, List.map_cons]

theorem Node.elements_append (ns ms : List Node) :
    Node.elements (ns ++ ms) = Node.elements ns ++ Node.elements ms := by
  simp only [Node.elements_eq_map, List.map_append]

theorem Node.tag_element (n : Node) : n.element.tag = n.tag := by
  cases n <;> rfl

def lineChars (lines : List String) : List Char := lines.flatMap fun l => l.toList ++ ['\n']

@[simp] theorem lineChars_append (ls ms : List String) :
    lineChars (ls ++ ms) = lineChars ls ++ lineChars ms := by
  simp [lineChars]

mutual

theorem markups?_lines (width : Nat) : (n : Node) → ∀ (depth : Nat) (rest : List Char),
    n.All PlainTag →
      markups? (lineChars (n.lines width depth) ++ rest) = (markups? rest).map (n.markup ++ ·)
  | .leaf tag attributes => by
    intro depth rest h
    have hl : lineChars ((Node.leaf tag attributes).lines width depth) ++ rest =
        (margin width depth).toList ++ '<' ::
          (((tagText tag attributes).toList ++ ['/']) ++ '>' :: '\n' :: rest) := by
      simp [lineChars, Node.lines, String.toList_append, toString]
    have hb : NoBrackets ((tagText tag attributes).toList ++ ['/']) :=
      (NoBrackets.tagText h).append (by simp [NoBrackets])
    rw [hl, markups?_tag (.margin width depth) hb (markup?_empty h), markups?_newline]
    rfl
  | .text tag attributes inner => by
    intro depth rest h
    have hl : lineChars ((Node.text tag attributes inner).lines width depth) ++ rest =
        (margin width depth).toList ++ '<' :: ((tagText tag attributes).toList ++ '>' ::
          ((escape inner).toList ++ '<' :: (('/' :: tag.toList) ++ '>' :: '\n' :: rest))) := by
      simp [lineChars, Node.lines, String.toList_append, toString]
    have hs : NoBrackets ('/' :: tag.toList) :=
      NoBrackets.append (by simp [NoBrackets] : NoBrackets ['/']) (.name h.tag)
    rw [hl, markups?_tag (.margin width depth) (.tagText h) (markup?_start h),
      markups?_tag (.escape inner) hs (markup?_stop tag), markups?_newline, Option.map_map]
    rfl
  | .branch tag attributes children => by
    intro depth rest h
    have hl : lineChars ((Node.branch tag attributes children).lines width depth) ++ rest =
        (margin width depth).toList ++ '<' :: ((tagText tag attributes).toList ++ '>' :: '\n' ::
          (lineChars (Node.linesOf width (depth + 1) children) ++
            ((margin width depth).toList ++
              '<' :: (('/' :: tag.toList) ++ '>' :: '\n' :: rest)))) := by
      simp [lineChars, Node.lines, String.toList_append, toString]
    have hs : NoBrackets ('/' :: tag.toList) :=
      NoBrackets.append (by simp [NoBrackets] : NoBrackets ['/']) (.name h.1.tag)
    rw [hl, markups?_tag (.margin width depth) (.tagText h.1) (markup?_start h.1),
      markups?_newline, markups?_linesOf width children _ _ h.2,
      markups?_tag (.margin width depth) hs (markup?_stop tag), markups?_newline, Option.map_map,
      Option.map_map]
    congr 1
    funext ms
    simp [Node.markup]

theorem markups?_linesOf (width : Nat) : (ns : List Node) → ∀ (depth : Nat) (rest : List Char),
    Node.AllOf PlainTag ns →
      markups? (lineChars (Node.linesOf width depth ns) ++ rest) =
        (markups? rest).map (Node.markupOf ns ++ ·)
  | [] => by
    intro depth rest _
    simp [Node.linesOf, lineChars, Node.markupOf]
  | n :: ns => by
    intro depth rest h
    rw [Node.linesOf, lineChars_append, List.append_assoc, markups?_lines width n _ _ h.1,
      markups?_linesOf width ns _ _ h.2, Option.map_map]
    congr 1
    funext ms
    simp [Node.markupOf]

end

mutual

theorem nest?_markup : (n : Node) → ∀ (ms : List Markup)
    (outer : List (String × List Attribute × List Element)) (done : List Element),
      nest? (n.markup ++ ms) outer done = nest? ms outer (n.element :: done)
  | .leaf tag attributes => fun ms outer done => by
    simp [Node.markup, Node.element, nest?]
  | .text tag attributes inner => fun ms outer done => by
    simp [Node.markup, Node.element, nest?]
  | .branch tag attributes children => fun ms outer done => by
    rw [Node.markup, List.cons_append, nest?, List.append_assoc, nest?_markupOf children]
    simp [Node.element, nest?]

theorem nest?_markupOf : (ns : List Node) → ∀ (ms : List Markup)
    (outer : List (String × List Attribute × List Element)) (done : List Element),
      nest? (Node.markupOf ns ++ ms) outer done =
        nest? ms outer ((Node.elements ns).reverse ++ done)
  | [] => fun ms outer done => by simp [Node.markupOf, Node.elements]
  | n :: ns => fun ms outer done => by
    rw [Node.markupOf, List.append_assoc, nest?_markup n, nest?_markupOf ns]
    simp [Node.elements]

end

theorem elements?_lines (width depth : Nat) {n : Node} (h : n.All PlainTag) :
    elements? (lineChars (n.lines width depth)) = some [n.element] := by
  have hm : markups? (lineChars (n.lines width depth)) = some n.markup := by
    have hl := markups?_lines width n depth [] h
    rw [List.append_nil] at hl
    rw [hl]
    simp [markups?, markupsAux]
  have hn := nest?_markup n [] [] []
  rw [List.append_nil] at hn
  rw [elements?, hm]
  simpa [nest?] using hn

/-- The lines before the root element: what kind of document it is, and the comment. -/
def prolog (comment : Option String) : String :=
  "<?xml version=\"1.0\" encoding=\"UTF-8\"?>\n" ++
    match comment with
    | some text => "<!-- " ++ text ++ " -->\n"
    | none => ""

theorem Document.render_eq (width : Nat) (d : Document) :
    d.render width = prolog d.comment ++ String.ofList (lineChars (d.root.lines width 0)) := by
  apply String.toList_injective
  unfold Document.render prolog lineChars
  cases d.comment <;> simp [String.toList_append, List.flatMap_map, toString]

end DocSchema.Xml
