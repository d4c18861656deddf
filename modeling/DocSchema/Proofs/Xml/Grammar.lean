import DocSchema.Proofs.Xml.Reader

/-!
# The grammar of XML documents

Well-formed documents as a grammar over characters, stated apart from the writer, and that what is
written for a tree of proper tags is derived by it. A comment stands in a document as it is given,
so the grammar of documents leaves its body open and says of it only in the end what it may hold.
Which characters a document can have at all is not part of the grammar.
-/
namespace DocSchema.Xml.Grammar

def nameStarts : List (Nat × Nat) :=
  [(0x3A, 0x3A), (0x41, 0x5A), (0x5F, 0x5F), (0x61, 0x7A), (0xC0, 0xD6), (0xD8, 0xF6),
    (0xF8, 0x2FF), (0x370, 0x37D), (0x37F, 0x1FFF), (0x200C, 0x200D), (0x2070, 0x218F),
    (0x2C00, 0x2FEF), (0x3001, 0xD7FF), (0xF900, 0xFDCF), (0xFDF0, 0xFFFD), (0x10000, 0xEFFFF)]

/-- The code points that a name can have after its start only. -/
def nameParts : List (Nat × Nat) :=
  [(0x2D, 0x2E), (0x30, 0x39), (0xB7, 0xB7), (0x300, 0x36F), (0x203F, 0x2040)]

def inRanges (ranges : List (Nat × Nat)) (c : Char) : Bool :=
  ranges.any fun r => r.1 ≤ c.toNat && c.toNat ≤ r.2

def isName : List Char → Bool
  | [] => false
  | c :: cs => inRanges nameStarts c && cs.all (inRanges (nameStarts ++ nameParts))

/-- The references to the characters that have a meaning in markup. -/
def references : List (List Char) :=
  ["&lt;".toList, "&gt;".toList, "&amp;".toList, "&apos;".toList, "&quot;".toList]

/-- Text that has a `<`, an `&` or a character of `barred` by reference only. -/
inductive Text (barred : List Char) : List Char → Prop where
  | nil : Text barred []
  | char {c : Char} {cs : List Char} (h : c ∉ '<' :: '&' :: barred) (rest : Text barred cs) :
      Text barred (c :: cs)
  | reference {r cs : List Char} (h : r ∈ references) (rest : Text barred cs) :
      Text barred (r ++ cs)

def Blank (cs : List Char) : Prop := ∀ c ∈ cs, c ∈ [' ', '\t', '\n', '\r']

inductive Attributes : List String → List Char → Prop where
  | nil : Attributes [] []
  | cons {key : String} {keys : List String} {blank value rest : List Char} (hb : Blank blank)
      (hne : blank ≠ []) (hk : isName key.toList = true) (hnew : key ∉ keys)
      (hv : Text ['"'] value) (hr : Attributes keys rest) :
      Attributes (key :: keys) (blank ++ key.toList ++ ['=', '"'] ++ value ++ '"' :: rest)

mutual

inductive Element : List Char → Prop where
  | empty {tag attributes : List Char} {keys : List String} (ht : isName tag = true)
      (ha : Attributes keys attributes) : Element ('<' :: tag ++ attributes ++ ['/', '>'])
  | filled {tag attributes content : List Char} {keys : List String} (ht : isName tag = true)
      (ha : Attributes keys attributes) (hc : Content content) :
      Element ('<' :: tag ++ attributes ++ '>' :: content ++ ['<', '/'] ++ tag ++ ['>'])

/-- What stands between a start tag and its end tag. -/
inductive Content : List Char → Prop where
  | nil : Content []
  | text {cs rest : List Char} (h : Text [] cs) (hr : Content rest) : Content (cs ++ rest)
  | element {cs rest : List Char} (h : Element cs) (hr : Content rest) : Content (cs ++ rest)

end

def declaration : List Char := "<?xml version=\"1.0\" encoding=\"UTF-8\"?>".toList

def commentChars (comment : Option (List Char)) : List Char :=
  comment.elim [] fun body => "<!--".toList ++ body ++ "-->".toList

/-- A declaration, a comment with the given body or none, and one element. -/
def Document (comment : Option (List Char)) (text : List Char) : Prop :=
  ∃ before between root after, Blank before ∧ Blank between ∧ Element root ∧ Blank after ∧
    text = declaration ++ before ++ commentChars comment ++ between ++ root ++ after

def HasHyphens (cs : List Char) : Prop := ['-', '-'] <:+: cs

instance : DecidablePred HasHyphens := fun cs =>
  inferInstanceAs (Decidable (['-', '-'] <:+: cs))

/-- The body of a comment has no two hyphens in a row, nor one at its end, where the closing
hyphens follow. -/
def IsComment (body : List Char) : Prop := ¬HasHyphens body ∧ body.getLast? ≠ some '-'

def WellFormed (text : List Char) : Prop :=
  ∃ comment, Document comment text ∧ ∀ body ∈ comment, IsComment body

section Hyphens

theorem hasHyphens_cons {c : Char} {cs : List Char} :
    HasHyphens (c :: cs) ↔ (c = '-' ∧ cs.head? = some '-') ∨ HasHyphens cs := by
  rw [HasHyphens, List.infix_cons_iff]
  refine or_congr_left ?_
  cases cs with
  | nil => simp
  | cons d ds => simp [eq_comm]

theorem not_hasHyphens_nil : ¬HasHyphens [] := by simp [HasHyphens]

/-- Hyphens in a row stand on one side of any other character. -/
theorem hasHyphens_split {c : Char} (h : c ≠ '-') (xs ys : List Char) :
    HasHyphens (xs ++ c :: ys) ↔ HasHyphens xs ∨ HasHyphens ys := by
  induction xs with
  | nil => simp [hasHyphens_cons, h, not_hasHyphens_nil]
  | cons x xs ih =>
    have hh : (xs ++ c :: ys).head? = some '-' ↔ xs.head? = some '-' := by
      cases xs with
      | nil => simp [h]
      | cons d ds => simp
    rw [List.cons_append, hasHyphens_cons, ih, hasHyphens_cons, hh, or_assoc]

theorem not_hasHyphens_of_not_mem {cs : List Char} (h : '-' ∉ cs) : ¬HasHyphens cs := fun hi =>
  h (hi.subset (by simp))

end Hyphens

section Written

/-- A tag and attribute names that the grammar admits. -/
structure ProperTag (tag : String) (attributes : List Attribute) : Prop where
  tag : isName tag.toList = true
  keys : ∀ a ∈ attributes, isName a.1.toList = true
  distinct : (attributes.map (·.1)).Nodup

theorem Text.append {barred xs ys : List Char} (hx : Text barred xs) (hy : Text barred ys) :
    Text barred (xs ++ ys) := by
  induction hx with
  | nil => exact hy
  | char h _ ih => exact .char h ih
  | reference h _ ih =>
    rw [List.append_assoc]
    exact .reference h ih

theorem Text.of_forall {barred cs : List Char} (h : ∀ c ∈ cs, c ∉ '<' :: '&' :: barred) :
    Text barred cs := by
  induction cs with
  | nil => exact .nil
  | cons c cs ih => exact .char (h c (by simp)) (ih fun d hd => h d (by simp [hd]))

theorem Blank.text {cs : List Char} (h : Blank cs) : Text [] cs := by
  refine Text.of_forall fun c hc => ?_
  have hm := h c hc
  simp only [List.mem_cons, List.not_mem_nil, or_false] at hm
  rcases hm with rfl | rfl | rfl | rfl <;> decide

theorem text_escapeChar (c : Char) : Text ['"'] (escapeChar c) := by
  have href : ∀ r ∈ references, Text ['"'] r := fun r hr => by
    simpa using Text.reference hr .nil
  unfold escapeChar
  split
  case h_6 hl hg ha hp hq =>
    refine .char ?_ .nil
    simpa using ⟨by simpa using hl, by simpa using ha, by simpa using hq⟩
  all_goals exact href _ (by simp [references])

theorem text_escape (s : String) : Text ['"'] (escape s).toList := by
  rw [escape, String.toList_ofList]
  induction s.toList with
  | nil => exact .nil
  | cons c cs ih =>
    rw [List.flatMap_cons]
    exact (text_escapeChar c).append ih

theorem Text.unquoted {cs : List Char} (h : Text ['"'] cs) : Text [] cs := by
  induction h with
  | nil => exact .nil
  | char h _ ih => exact .char (fun hm => h (by simp_all)) ih
  | reference h _ ih => exact .reference h ih

theorem attributes_attributeChars {attributes : List Attribute}
    (hk : ∀ a ∈ attributes, isName a.1.toList = true) (hd : (attributes.map (·.1)).Nodup) :
    Attributes (attributes.map (·.1)) (attributeChars attributes) := by
  induction attributes with
  | nil => exact .nil
  | cons a attributes ih =>
    obtain ⟨hnew, hd⟩ := List.nodup_cons.mp hd
    have hr := ih (fun b hb => hk b (by simp [hb])) hd
    have hb : Blank [' '] := by simp [Blank]
    have hc : attributeChars (a :: attributes) =
        [' '] ++ a.1.toList ++ ['=', '"'] ++ (escape a.2).toList ++
          '"' :: attributeChars attributes := by
      simp [attributeChars, toList_attributeText]
    rw [hc]
    exact .cons hb (by simp) (hk a (by simp)) hnew (text_escape a.2) hr

theorem blank_margin (width depth : Nat) : Blank (margin width depth).toList := by
  intro c hc
  rw [margin, String.toList_ofList] at hc
  simp [List.eq_of_mem_replicate hc]

mutual

theorem element_lines (width : Nat) : (n : Node) → ∀ depth : Nat, n.All ProperTag →
    ∃ text, Element text ∧
      lineChars (n.lines width depth) = (margin width depth).toList ++ text ++ ['\n']
  | .leaf tag attributes => by
    intro depth h
    refine ⟨_, .empty h.tag (attributes_attributeChars h.keys h.distinct), ?_⟩
    simp [lineChars, Node.lines, toList_tagText, String.toList_append, toString]
  | .text tag attributes inner => by
    intro depth h
    have hc : Content ((escape inner).toList ++ []) := .text (text_escape inner).unquoted .nil
    refine ⟨_, .filled h.tag (attributes_attributeChars h.keys h.distinct) hc, ?_⟩
    simp [lineChars, Node.lines, toList_tagText, String.toList_append, toString]
  | .branch tag attributes children => by
    intro depth h
    -- the end tag stands on a line of its own, so its margin is the last text of the content
    have hn : Blank ['\n'] := by simp [Blank]
    have hc := Content.text hn.text
      (content_linesOf width children (depth + 1) (blank_margin width depth) h.2)
    refine ⟨_, .filled h.1.tag (attributes_attributeChars h.1.keys h.1.distinct) hc, ?_⟩
    simp [lineChars, Node.lines, toList_tagText, String.toList_append, toString]

theorem content_linesOf (width : Nat) : (ns : List Node) → ∀ (depth : Nat) {last : List Char},
    Blank last → Node.AllOf ProperTag ns →
      Content (lineChars (Node.linesOf width depth ns) ++ last)
  | [] => by
    intro depth last hl _
    simpa [Node.linesOf, lineChars] using Content.text hl.text .nil
  | n :: ns => by
    intro depth last hl h
    obtain ⟨text, ht, he⟩ := element_lines width n depth h.1
    have hn : Blank ['\n'] := by simp [Blank]
    have hr := content_linesOf width ns depth hl h.2
    rw [Node.linesOf, lineChars_append, he]
    simpa using Content.text (blank_margin width depth).text (.element ht (.text hn.text hr))

end

theorem toList_prolog_none : (prolog none).toList = declaration ++ ['\n'] := by
  have hp : prolog none = "<?xml version=\"1.0\" encoding=\"UTF-8\"?>" ++ "\n" := by decide
  have hn : "\n".toList = ['\n'] := by simp
  exact (congrArg String.toList hp).trans (String.toList_append.trans (congrArg _ hn))

theorem prolog_some (text : String) :
    prolog (some text) = prolog none ++ ("<!-- " ++ text ++ " -->\n") := by
  unfold prolog
  rw [String.append_empty]

theorem toList_prolog_some (text : String) : (prolog (some text)).toList =
    declaration ++ ['\n'] ++ commentChars (some (' ' :: text.toList ++ [' '])) ++ ['\n'] := by
  have ho : "<!-- ".toList = "<!--".toList ++ [' '] := by simp
  have hc : " -->\n".toList = ' ' :: "-->".toList ++ ['\n'] := by simp
  simp only [prolog_some, String.toList_append, toList_prolog_none, ho, hc, commentChars,
    Option.elim_some, List.append_assoc, List.cons_append, List.nil_append]

/-- What is written for a document is a document, with the comment as it was given. -/
theorem document_render (width : Nat) {d : Xml.Document} (h : d.root.All ProperTag) :
    Document (d.comment.map fun text => ' ' :: text.toList ++ [' ']) (d.render width).toList := by
  obtain ⟨root, hr, he⟩ := element_lines width d.root 0 h
  have hn : Blank ['\n'] := by simp [Blank]
  have hm : (margin width 0).toList = [] := by simp [margin]
  rw [hm, List.nil_append] at he
  simp only [Document.render_eq, String.toList_append, String.toList_ofList, he]
  cases d.comment with
  | none =>
    refine ⟨['\n'], [], root, ['\n'], hn, by simp [Blank], hr, hn, ?_⟩
    simp only [toList_prolog_none, Option.map_none, commentChars, Option.elim_none,
      List.append_nil, List.append_assoc]
  | some text =>
    refine ⟨['\n'], ['\n'], root, ['\n'], hn, hn, hr, hn, ?_⟩
    simp only [toList_prolog_some, Option.map_some, List.append_assoc]

end Written

end DocSchema.Xml.Grammar
