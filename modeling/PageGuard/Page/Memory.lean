import PageGuard.Css.Matching
import PageGuard.Markup.Insertion
import PageGuard.Markup.Writer
import PageGuard.Page.Document
import PageGuard.Page.Style
import PageGuard.XPath.Reader

/-!
# Pages in memory

A page that was read from its text.  Elements that are taken off the page keep what is below them:
a CSS query still finds an element below one that was removed, while the list of all elements and
XPath see the attached elements only.  So it is with what the reader of the text took off the page
again.

Elements are found in the order in which they were made.  A probe stands outside the tree.
-/

namespace PageGuard

open Markup

/-- An element of a page in memory, or a probe. -/
inductive Handle where
  | element (key : Nat)
  | probe (index : Nat)
deriving DecidableEq, Inhabited

/-- A page in memory. -/
structure MemoryPage where
  nodes : List Node
  /-- Elements that were taken off the page, with what is below them. -/
  removed : List Node := []
  /-- The attached probes by their numbers. -/
  probes : List (Nat × Style.Declarations) := []
  /-- The number of the next probe. -/
  nextProbe : Nat := 0
  /-- Probes that are made and not attached, with their style texts, the latest first. -/
  loose : List (Nat × String) := []
  clicks : List Handle := []
  /-- Whether no style can be looked up. -/
  failStyle : Bool := false
  /-- The number of the next probe is new. -/
  probes_lt : ∀ q ∈ probes, q.1 < nextProbe := by simp

namespace MemoryPage

instance : Inhabited MemoryPage := ⟨{ nodes := [] }⟩

/-- The page of a text.  What its reader took off the page again counts as removed. -/
def ofText (text : String) : MemoryPage :=
  let b := Builder.ofText text
  { nodes := b.stack.finish, removed := b.detached }

/-- The text of the page. -/
def toText (p : MemoryPage) : String := pageText p.nodes

/-! ## Finding elements -/

/-- The elements on the page, in document order. -/
def elements (p : MemoryPage) : List Element := Node.elementsOf p.nodes

/-- The places on the page. -/
def attachedPlaces (p : MemoryPage) : List Place := Node.placesIn .page [] [] p.nodes

/-- The places in what was taken off the page. -/
def removedPlaces (p : MemoryPage) : List (List Place) :=
  p.removed.map (Node.places .nothing [] [] [])

/-- The places of all elements below something, on the page and then off it. -/
def allPlaces (p : MemoryPage) : List Place :=
  p.attachedPlaces ++ p.removedPlaces.flatMap List.tail

/-- The places of all elements below something, in the order in which they were made. -/
def heldPlaces (p : MemoryPage) : List Place :=
  p.allPlaces.mergeSort fun a b => a.key ≤ b.key

/-- The place of an element. -/
def place? (p : MemoryPage) (key : Nat) : Option Place :=
  (p.attachedPlaces ++ p.removedPlaces.flatten).find? fun q => q.key = key

/-- The node of an element. -/
def node? (p : MemoryPage) (key : Nat) : Option Node :=
  (Node.findIn? key p.nodes).or (Node.findIn? key p.removed)

/-! ## Reading -/

/-- The selectors of a CSS text. -/
def readCss (css : String) : Except DomError (List Css.Selector) :=
  match Css.ofText? css with
  | some selectors => .ok selectors
  | none => .error (.invalidSelector css "not a list of selectors")

/-- The elements that match a CSS text. -/
def query (p : MemoryPage) (css : String) : Except DomError (List Handle) :=
  (readCss css).map fun selectors =>
    (p.heldPlaces.filter (Css.Selector.anyMatches selectors)).map fun q => .element q.key

/-- The elements on the page, in document order. -/
def allElements (p : MemoryPage) : List Handle := p.elements.map fun e => .element e.key

/-- Whether an element matches a CSS text. -/
def elementMatches (p : MemoryPage) (h : Handle) (css : String) : Except DomError Bool :=
  (readCss css).map fun selectors =>
    match h with
    | .element key => (p.place? key).any (Css.Selector.anyMatches selectors)
    | .probe _ => false

/-- The text of an element and below it. -/
def textOf (p : MemoryPage) : Handle → String
  | .element key => ((p.node? key).map Node.textContent).getD ""
  | .probe _ => ""

/-- Whether the second element is the first one or below it. -/
def holds (p : MemoryPage) (a h : Handle) : Bool :=
  a = h ||
    match a, h with
    | .element above, .element key =>
      match p.node? above with
      | some n => (Node.findIn? key n.children).isSome
      | none => false
    | _, _ => false

/-- The elements that an XPath leads to. -/
def queryXPath (p : MemoryPage) (expression : String) : Except DomError (List Handle) :=
  match XPath.Path.ofText expression with
  | .ok path => .ok ((XPath.evaluate p.nodes path).map fun e => .element e.key)
  | .error e => .error (.invalidXPath expression e.message)

/-- The name of an element with its classes. -/
def label (p : MemoryPage) : Handle → String
  | .element key =>
    match (p.node? key).bind Node.element? with
    | some e => e.name ++ String.join ((Css.classesOf e).map ("." ++ ·))
    | none => ""
  | .probe _ => "probe"

/-- The declarations of an element. -/
def inlineStyle (e : Element) : Style.Declarations :=
  ((e.attribute? "style").map Style.declarations).getD []

/-- The value of a style property. -/
def computedStyle (p : MemoryPage) (h : Handle) (property : String) : Except DomError String :=
  if p.failStyle then .error (.style ("lookup of '" ++ property ++ "' disabled"))
  else
    let property := Text.lowerAscii (Text.trimmed property)
    match h with
    | .element key =>
      match (p.node? key).bind Node.element? with
      | some e => .ok (Style.computed (inlineStyle e) e.name property)
      | none => .error (.style "unknown element")
    | .probe k =>
      match p.probes.lookup k with
      | some ds => .ok (Style.computed ds "section" property)
      | none => .error (.style "probe is not attached")

/-! ## Changing -/

/-- Clicks an element. -/
def click (p : MemoryPage) (h : Handle) : MemoryPage := { p with clicks := p.clicks ++ [h] }

/-- Takes an element away from what holds it. -/
def removeKey (p : MemoryPage) (key : Nat) : MemoryPage :=
  match Node.findIn? key p.nodes with
  | some n => { p with nodes := Node.withoutIn key p.nodes, removed := p.removed ++ [n] }
  | none =>
    if p.removed.any fun n => n.key? = some key then p
    else
      match Node.findIn? key p.removed with
      | some n => { p with removed := p.removed.map (Node.without key) ++ [n] }
      | none => p

/-- Takes an element off the page. -/
def remove (p : MemoryPage) : Handle → MemoryPage
  | .element key => p.removeKey key
  | .probe _ => p

/-- Makes a probe and attaches it. -/
def attachProbe (p : MemoryPage) (css : String) : Handle × MemoryPage :=
  (.probe p.nextProbe,
    { p with
      probes := p.probes ++ [(p.nextProbe, Style.declarations css)]
      nextProbe := p.nextProbe + 1
      probes_lt := by
        intro q hq
        rcases List.mem_append.1 hq with hq | hq
        · exact Nat.lt_succ_of_lt (p.probes_lt q hq)
        · rw [List.mem_singleton.1 hq]
          exact Nat.lt_succ_self _ })

/-- Makes a probe that is not attached yet. -/
def makeProbe (p : MemoryPage) : Handle × MemoryPage :=
  (.probe p.nextProbe,
    { p with
      loose := (p.nextProbe, "") :: p.loose
      nextProbe := p.nextProbe + 1
      probes_lt := fun q hq => Nat.lt_succ_of_lt (p.probes_lt q hq) })

/-- Gives a probe that is not attached its style text. -/
def styleProbe (p : MemoryPage) (k : Nat) (css : String) : MemoryPage :=
  { p with loose := (k, css) :: p.loose }

/-- Attaches a probe that was made. -/
def putProbe (p : MemoryPage) (k : Nat) : MemoryPage :=
  match p.loose.lookup k with
  | none => p
  | some css =>
    { p with
      probes := p.probes ++ [(k, Style.declarations css)]
      nextProbe := max p.nextProbe (k + 1)
      loose := p.loose.filter fun q => q.1 ≠ k
      probes_lt := by
        intro q hq
        rcases List.mem_append.1 hq with hq | hq
        · exact Nat.lt_of_lt_of_le (p.probes_lt q hq) (Nat.le_max_left ..)
        · rw [List.mem_singleton.1 hq]
          exact Nat.lt_of_lt_of_le (Nat.lt_succ_self k) (Nat.le_max_right ..) }

/-- Detaches a probe. -/
def detachProbe (p : MemoryPage) : Handle → MemoryPage
  | .element _ => p
  | .probe k =>
    { p with
      probes := p.probes.filter fun q => q.1 ≠ k
      probes_lt := fun q hq => p.probes_lt q (List.mem_filter.1 hq).1 }

instance : Document MemoryPage Handle where
  query := query
  allElements p := .ok p.allElements
  elementMatches := elementMatches
  textOf := textOf
  holds := holds
  isHtml _ _ := true
  queryXPath := queryXPath
  computedStyle := computedStyle
  click := click
  remove := remove
  attachProbe p css := (.ok (p.attachProbe css).1, (p.attachProbe css).2)
  detachProbe := detachProbe

end MemoryPage

end PageGuard
