import PageGuard.Browser.ScriptValue
import PageGuard.Page.Document
import PageGuard.Text.Blank

/-!
# Pages that a script sees

A script reaches the page of a browser by calls into the window and its document.  Any of them may
throw, and what it throws then stands in the error.  A call that changes the page gives the page
after it, also when it throws.

`WebPage` has the calls that the content script makes, and with them every such page is a document.
-/

namespace PageGuard.Browser

open Text

/-- A type `W` of pages in windows, with elements of type `N`.  Calls that only read leave the page
as it is. -/
class WebPage (W : Type) (N : outParam Type) where
  /-- Nodes of any kind. -/
  Node : Type
  /-- The nodes that an XPath leads to, at one moment. -/
  Snapshot : Type
  /-- The styles that an element is shown with. -/
  Styles : Type
  /-- Whether the script has a window. -/
  hasWindow : W → Bool
  /-- Whether the window has a document. -/
  hasDocument : W → Bool
  /-- The element that a node is. -/
  element? : Node → Option N
  /-- Whether an element is one of HTML. -/
  isHtmlElement : W → N → Bool
  querySelectorAll : W → String → Except ScriptValue (List Node)
  getElementsByTagName : W → String → List N
  elementMatches : W → N → String → Except ScriptValue Bool
  textContent? : W → N → Option String
  /-- Whether the second element is the first one or below it. -/
  contains : W → N → N → Bool
  evaluate : W → String → Except ScriptValue Snapshot
  snapshotLength : W → Snapshot → Except ScriptValue Nat
  snapshotItem : W → Snapshot → Nat → Except ScriptValue (Option Node)
  getComputedStyle : W → N → Except ScriptValue (Option Styles)
  getPropertyValue : W → Styles → String → Except ScriptValue String
  click : W → N → W
  remove : W → N → W
  /-- Makes an element of a name, which stands nowhere yet. -/
  createElement : W → String → Except ScriptValue N × W
  /-- Sets the attribute of a name. -/
  setAttribute : W → N → String → String → Except ScriptValue Unit × W
  /-- The root element. -/
  documentElement? : W → Option N
  /-- Makes the second element the last child of the first one. -/
  appendChild : W → N → N → Except ScriptValue Unit × W

namespace WebPage

variable {W N : Type} [WebPage W N]

/-- The elements that match a CSS selector. -/
def query (w : W) (css : String) : Except DomError (List N) :=
  match querySelectorAll w css with
  | .ok nodes => .ok (nodes.filterMap (element? (W := W)))
  | .error v => .error (.invalidSelector css v.reason)

/-- The elements among the nodes of a snapshot, at some of its places. -/
def itemsAt (w : W) (snapshot : Snapshot W) : List Nat → Except ScriptValue (List N)
  | [] => .ok []
  | i :: rest => do
    let node ← snapshotItem w snapshot i
    let later ← itemsAt w snapshot rest
    return (node.bind (element? (W := W))).toList ++ later

/-- The elements that an XPath leads to. -/
def queryXPath (w : W) (expression : String) : Except DomError (List N) :=
  let found : Except ScriptValue (List N) := do
    let snapshot ← evaluate w expression
    let length ← snapshotLength w snapshot
    itemsAt w snapshot (List.range length)
  found.mapError fun v => .invalidXPath expression v.reason

/-- The value of a style property. -/
def computedStyle (w : W) (e : N) (property : String) : Except DomError String :=
  match getComputedStyle w e with
  | .error v => .error (.style v.reason)
  | .ok none => .error (.style "no computed style")
  | .ok (some styles) =>
    match getPropertyValue w styles (trimmed property) with
    | .error v => .error (.style v.reason)
    | .ok value => .ok (trimmed value)

/-- Makes a probe, gives it its style and puts it at the end of the root element.  When one of the
calls throws, the page is left as that call leaves it. -/
def attachProbe (w : W) (css : String) : Except DomError N × W :=
  match createElement w "section" with
  | (.error v, w) => (.error (.style v.reason), w)
  | (.ok probe, w) =>
    match setAttribute w probe "style" css with
    | (.error v, w) => (.error (.style v.reason), w)
    | (.ok (), w) =>
      match documentElement? w with
      | none => (.error (.unavailable "document has no root element"), w)
      | some root =>
        match appendChild w root probe with
        | (.error v, w) => (.error (.style v.reason), w)
        | (.ok (), w) => (.ok probe, w)

instance : Document W N where
  query := query
  allElements w := .ok (getElementsByTagName w "*")
  elementMatches w e css :=
    (elementMatches w e css).mapError fun v => .invalidSelector css v.reason
  textOf w e := (textContent? w e).getD ""
  holds := contains
  isHtml := isHtmlElement
  queryXPath := queryXPath
  computedStyle := computedStyle
  click w e := if isHtmlElement w e then click w e else w
  remove := remove
  attachProbe := attachProbe
  detachProbe := remove

end WebPage

end PageGuard.Browser
