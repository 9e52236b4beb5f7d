import PageGuard.Browser.WebPage
import PageGuard.Page.Memory

/-!
# Pages with faults

A page in memory behind the calls of a script, for tests: every call can be made to throw.
Drawings and formulas are no HTML elements: they have no style of their own and cannot be clicked.
-/

namespace PageGuard.Browser

/-- The calls into a page that may throw. -/
inductive PageCall where
  | querySelectorAll
  | elementMatches
  | evaluate
  | snapshotLength
  | snapshotItem
  | createElement
  | setAttribute
  | appendChild
  | getComputedStyle
  | getPropertyValue
deriving DecidableEq, Inhabited

namespace PageCall

/-- The name of a call. -/
def name : PageCall → String
  | querySelectorAll => "querySelectorAll"
  | elementMatches => "matches"
  | evaluate => "evaluate"
  | snapshotLength => "snapshotLength"
  | snapshotItem => "snapshotItem"
  | createElement => "createElement"
  | setAttribute => "setAttribute"
  | appendChild => "appendChild"
  | getComputedStyle => "getComputedStyle"
  | getPropertyValue => "getPropertyValue"

/-- All calls. -/
def all : List PageCall :=
  [querySelectorAll, elementMatches, evaluate, snapshotLength, snapshotItem, createElement,
    setAttribute, appendChild, getComputedStyle, getPropertyValue]

end PageCall

/-- Something that is wrong with a page. -/
inductive Fault where
  /-- The window is not there. -/
  | noWindow
  /-- The window has no document. -/
  | noDocument
  /-- A call throws a text that names it. -/
  | throwsText (call : PageCall)
  /-- A call throws the undefined value. -/
  | throwsUndefined (call : PageCall)
  /-- No style is computed. -/
  | noStyle
  /-- Elements have no text. -/
  | noText
  /-- The results of an XPath start with the document itself. -/
  | documentFirst
deriving DecidableEq, Inhabited

namespace Fault

/-- The name of a fault. -/
def name : Fault → String
  | noWindow => "window"
  | noDocument => "document"
  | throwsText call => call.name
  | throwsUndefined call => call.name ++ ":object"
  | noStyle => "getComputedStyle:null"
  | noText => "textContent:null"
  | documentFirst => "snapshotItem:document"

/-- All faults. -/
def all : List Fault :=
  [noWindow, noDocument, noStyle, noText, documentFirst] ++ PageCall.all.map throwsText ++
    PageCall.all.map throwsUndefined

/-- The fault of a name. -/
def ofName? (s : String) : Option Fault := all.find? fun f => f.name = s

end Fault

/-- A page in a window. -/
structure BrowserPage where
  page : MemoryPage
  faults : List Fault := []
deriving Inhabited

namespace BrowserPage

/-- Goes on unless a call throws. -/
def guardCall (p : BrowserPage) (call : PageCall) : Except ScriptValue Unit :=
  if p.faults.contains (.throwsText call) then .error (.text (call.name ++ " failed"))
  else if p.faults.contains (.throwsUndefined call) then .error .undefined
  else .ok ()

/-- Names of elements that are not HTML. -/
def foreignNames : List String := ["svg", "path", "g", "circle", "math"]

/-- Whether an element is one of HTML. -/
def isHtml (p : BrowserPage) : Handle → Bool
  | .element key =>
    match (p.page.node? key).bind Markup.Node.element? with
    | some e => !foreignNames.contains e.name
    | none => true
  | .probe _ => true

/-- The root element. -/
def root? (p : BrowserPage) : Option Handle :=
  (p.page.nodes.findSome? Markup.Node.key?).map Handle.element

/-- Changes the page unless a call throws. -/
def changeUnless (p : BrowserPage) (call : PageCall) (change : MemoryPage → MemoryPage) :
    Except ScriptValue Unit × BrowserPage :=
  match p.guardCall call with
  | .error v => (.error v, p)
  | .ok () => (.ok (), { p with page := change p.page })

/-- The nodes of a snapshot are elements or the document itself. -/
instance : WebPage BrowserPage Handle where
  Node := Option Handle
  Snapshot := List (Option Handle)
  Styles := Handle
  hasWindow p := !p.faults.contains .noWindow
  hasDocument p := !p.faults.contains .noDocument
  element? n := n
  isHtmlElement := isHtml
  querySelectorAll p css := do
    p.guardCall .querySelectorAll
    let found ← (p.page.query css).mapError fun _ => .text "SyntaxError"
    return found.map some
  getElementsByTagName p name :=
    if name = "*" then p.page.allElements
    else (p.page.elements.filter fun e => e.name = name).map fun e => .element e.key
  elementMatches p e css := do
    p.guardCall .elementMatches
    (p.page.elementMatches e css).mapError fun _ => .text "SyntaxError"
  textContent? p e := if p.faults.contains .noText then none else some (p.page.textOf e)
  contains p := p.page.holds
  evaluate p expression := do
    p.guardCall .evaluate
    let found ← (p.page.queryXPath expression).mapError fun _ => .text "XPathException"
    return (if p.faults.contains .documentFirst then [none] else []) ++ found.map some
  snapshotLength p snapshot := do
    p.guardCall .snapshotLength
    return snapshot.length
  snapshotItem p snapshot i := do
    p.guardCall .snapshotItem
    return snapshot[i]?
  getComputedStyle p e := do
    p.guardCall .getComputedStyle
    return if p.faults.contains .noStyle then none else some e
  getPropertyValue p e property := do
    p.guardCall .getPropertyValue
    (p.page.computedStyle e property).mapError fun e => .text e.message
  click p e := { p with page := p.page.click e }
  remove p e := { p with page := (p.page.remove e).detachProbe e }
  createElement p _ :=
    match p.guardCall .createElement with
    | .error v => (.error v, p)
    | .ok () => (.ok p.page.makeProbe.1, { p with page := p.page.makeProbe.2 })
  setAttribute p e name value :=
    p.changeUnless .setAttribute fun page =>
      match e with
      | .probe k => if name = "style" then page.styleProbe k value else page
      | .element _ => page
  documentElement? := root?
  appendChild p _ e :=
    p.changeUnless .appendChild fun page =>
      match e with
      | .probe k => page.putProbe k
      | .element _ => page

/-- The elements that an XPath leads to. -/
def queryXPath (p : BrowserPage) (expression : String) : Except DomError (List Handle) :=
  Document.queryXPath p expression

end BrowserPage

/-- A window with the page that it shows, if any. -/
abbrev Window (W : Type := BrowserPage) := Option W

/-- The page of a window. -/
def Window.current {W N : Type} [WebPage W N] (w : Window W) : Except DomError W :=
  match w with
  | none => .error (.unavailable "no window")
  | some page =>
    if !WebPage.hasWindow page then .error (.unavailable "no window")
    else if !WebPage.hasDocument page then .error (.unavailable "window has no document")
    else .ok page

end PageGuard.Browser
