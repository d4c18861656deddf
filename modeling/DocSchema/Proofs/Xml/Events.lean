import DocSchema.Proofs.Xml.Reader

/-!
# Documents as events

A document can be written call by call: a start tag, text, an end tag or an empty element at a time,
with no more known than how many tags are open and whether the last call wrote text. The text that
comes out is that of the tree, and the start tags that are not yet closed form a stack.
-/
namespace DocSchema.Xml

/-- What is written with one call. -/
inductive Event where
  | start (tag : String) (attributes : List Attribute)
  | text (inner : String)
  | stop (tag : String)
  | empty (tag : String) (attributes : List Attribute)
  deriving DecidableEq, Repr

mutual

def Node.events : Node → List Event
  | .leaf tag attributes => [.empty tag attributes]
  | .text tag attributes inner => [.start tag attributes, .text inner, .stop tag]
  | .branch tag attributes children =>
    .start tag attributes :: (Node.eventsOf children ++ [.stop tag])

def Node.eventsOf : List Node → List Event
  | [] => []
  | n :: ns => n.events ++ Node.eventsOf ns

end

section Tags

/-- The tags that are open after an event, the last one first. An end tag closes the last start
tag and no other. -/
def Event.openTags (opened : List String) : Event → Option (List String)
  | .start tag _ => some (tag :: opened)
  | .stop tag =>
    match opened with
    | last :: outer => if tag = last then some outer else none
    | [] => none
  | .text _ | .empty .. => some opened

/-- The tags that are open after events; none if an end tag does not match. -/
def unclosed (opened : List String) (events : List Event) : Option (List String) :=
  events.foldlM Event.openTags opened

theorem unclosed_append (opened : List String) (es fs : List Event) :
    unclosed opened (es ++ fs) = (unclosed opened es).bind fun later => unclosed later fs := by
  simp [unclosed, List.foldlM_append]

mutual

theorem unclosed_events : (n : Node) → ∀ opened, unclosed opened n.events = some opened
  | .leaf tag attributes => fun opened => rfl
  | .text tag attributes inner => fun opened => by
    simp [Node.events, unclosed, Event.openTags]
  | .branch tag attributes children => fun opened => by
    have hinner := unclosed_eventsOf children (tag :: opened)
    have hstart : unclosed opened (Node.branch tag attributes children).events =
        unclosed (tag :: opened) (Node.eventsOf children ++ [.stop tag]) := rfl
    rw [hstart, unclosed_append, hinner]
    simp [unclosed, Event.openTags]

theorem unclosed_eventsOf : (ns : List Node) → ∀ opened,
    unclosed opened (Node.eventsOf ns) = some opened
  | [] => fun opened => rfl
  | n :: ns => fun opened => by
    rw [Node.eventsOf, unclosed_append, unclosed_events n, Option.bind_some, unclosed_eventsOf ns]

end

end Tags

section Writer

/-- The start of a line, unless the last call wrote text. -/
def lineBreak (width depth : Nat) (breaks : Bool) : List Char :=
  if breaks then '\n' :: (margin width depth).toList else []

/-- The characters of events. Every tag starts a line, as far in as tags are open, except after
text. -/
def eventChars (width : Nat) : Nat → Bool → List Event → List Char
  | _, _, [] => []
  | depth, breaks, .start tag attributes :: es =>
    lineBreak width depth breaks ++ '<' :: (tagText tag attributes).toList ++ '>' ::
      eventChars width (depth + 1) true es
  | depth, breaks, .stop tag :: es =>
    lineBreak width (depth - 1) breaks ++ '<' :: '/' :: tag.toList ++ '>' ::
      eventChars width (depth - 1) true es
  | depth, breaks, .empty tag attributes :: es =>
    lineBreak width depth breaks ++ '<' :: (tagText tag attributes).toList ++ '/' :: '>' ::
      eventChars width depth true es
  | depth, _, .text inner :: es => (escape inner).toList ++ eventChars width depth false es

def declaration : String := "<?xml version=\"1.0\" encoding=\"UTF-8\"?>"

def eventDocument (width : Nat) (events : List Event) : String :=
  declaration ++ String.ofList (eventChars width 0 true events ++ ['\n'])

def brokenLines (lines : List String) : List Char := lines.flatMap fun l => '\n' :: l.toList

theorem brokenLines_append (ls ms : List String) :
    brokenLines (ls ++ ms) = brokenLines ls ++ brokenLines ms := by
  simp [brokenLines]

theorem brokenLines_concat (lines : List String) :
    brokenLines lines ++ ['\n'] = '\n' :: lineChars lines := by
  induction lines with
  | nil => rfl
  | cons l ls ih =>
    have hcons : brokenLines (l :: ls) ++ ['\n'] =
        '\n' :: l.toList ++ (brokenLines ls ++ ['\n']) := by
      simp [brokenLines]
    rw [hcons, ih]
    simp [lineChars]

mutual

theorem eventChars_events (width : Nat) : (n : Node) → ∀ depth es,
    eventChars width depth true (n.events ++ es) =
      brokenLines (n.lines width depth) ++ eventChars width depth true es
  | .leaf tag attributes => fun depth es => by
    simp [Node.events, eventChars, lineBreak, Node.lines, brokenLines, toString]
  | .text tag attributes inner => fun depth es => by
    simp [Node.events, eventChars, lineBreak, Node.lines, brokenLines, toString]
  | .branch tag attributes children => fun depth es => by
    have hinner := eventChars_eventsOf width children (depth + 1) (.stop tag :: es)
    simp only [Node.events, List.cons_append, List.append_assoc, List.nil_append, eventChars,
      hinner]
    simp [lineBreak, Node.lines, brokenLines, toString]

theorem eventChars_eventsOf (width : Nat) : (ns : List Node) → ∀ depth es,
    eventChars width depth true (Node.eventsOf ns ++ es) =
      brokenLines (Node.linesOf width depth ns) ++ eventChars width depth true es
  | [] => fun depth es => rfl
  | n :: ns => fun depth es => by
    rw [Node.eventsOf, List.append_assoc, eventChars_events width n,
      eventChars_eventsOf width ns, Node.linesOf, brokenLines_append, List.append_assoc]

end

/-- Writing event by event gives the text of the tree. -/
theorem eventDocument_events (width : Nat) (n : Node) :
    eventDocument width n.events = Document.render width ⟨none, n⟩ := by
  have hchars : eventChars width 0 true n.events = brokenLines (n.lines width 0) := by
    have h := eventChars_events width n 0 []
    rwa [List.append_nil, eventChars, List.append_nil] at h
  have hprolog : prolog none = declaration ++ String.ofList ['\n'] := rfl
  have hcut : String.ofList ('\n' :: lineChars (n.lines width 0)) =
      String.ofList ['\n'] ++ String.ofList (lineChars (n.lines width 0)) := by
    rw [← String.ofList_append, List.singleton_append]
  have hrender := Document.render_eq width ⟨none, n⟩
  rw [hprolog, String.append_assoc, ← hcut] at hrender
  rw [eventDocument, hchars, brokenLines_concat]
  exact hrender.symm

end Writer

end DocSchema.Xml
