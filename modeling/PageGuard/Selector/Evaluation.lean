import PageGuard.Page.Document
import PageGuard.Page.Style
import PageGuard.Selector.Basic
import PageGuard.Text.Lowercase

/-!
# Evaluating selector chains

The first stage of a chain finds elements on a document and every later stage keeps some of them,
until none is left.  An acting stage acts on the elements that it matches and hands on none.

A computation gives elements or an error, and in both cases the document after it.
-/

namespace PageGuard

open Text

/-- A computation on a document. -/
abbrev Visit (D : Type) (α : Type) := ExceptT DomError (StateM D) α

namespace Visit

variable {D α : Type}

/-- Reads from the document. -/
def ask (f : D → Except DomError α) : Visit D α := fun d => (f d, d)

/-- Changes the document. -/
def change (f : D → D) : Visit D Unit := fun d => (.ok (), f d)

end Visit

/-- The members of a list that pass a test, which may fail. -/
def filterExcept {α ε : Type} (test : α → Except ε Bool) : List α → Except ε (List α)
  | [] => .ok []
  | a :: rest => do
    let keep ← test a
    let kept ← filterExcept test rest
    return if keep then a :: kept else kept

section Reading

variable {D N : Type} [Document D N]

/-- The elements that an XPath leads to; a bad one leads nowhere. -/
def xpathElements (expression : String) (d : D) : List N :=
  match Document.queryXPath d expression with
  | .ok elements => elements
  | .error _ => []

/-- The elements that a target finds on the whole document; bad CSS finds nothing. -/
def Target.find (t : Target) (d : D) : Except DomError (List N) :=
  match t with
  | .css text =>
    match Document.query d text with
    | .ok elements => .ok elements
    | .error _ => .ok []
  | .textMatch pattern => do
    let elements ← Document.allElements d
    return elements.filter fun e => pattern.isMatch (Document.textOf d e)

/-- Whether an element is a match of a target. -/
def Target.hits (t : Target) (d : D) (e : N) : Except DomError Bool :=
  match t with
  | .css text => Document.elementMatches d e text
  | .textMatch pattern => .ok (pattern.isMatch (Document.textOf d e))

/-- The text of an element as a text filter sees it. -/
def plainText (d : D) (e : N) : String :=
  .ofList (trim (lowercase (Document.textOf d e).toList))

/-- Whether an element has the style of a probe, in the properties that are named `keys` and set on
the probe. -/
def sameStyle (d : D) (probe e : N) : List String → Except DomError Bool
  | [] => .ok true
  | key :: keys => do
    if key.isEmpty then sameStyle d probe e keys
    else
      let wanted ← Document.computedStyle d probe key
      if wanted.isEmpty then sameStyle d probe e keys
      else
        let value ← Document.computedStyle d e key
        if value = wanted then sameStyle d probe e keys else return false

/-- Whether an element is one of HTML and has the style of a probe. -/
def styleHits (d : D) (probe : N) (keys : List String) (e : N) : Except DomError Bool :=
  if Document.isHtml d e then sameStyle d probe e keys else .ok false

end Reading

section Acting

variable {D N : Type} [Document D N]

/-- Acts on one element; only elements of HTML are clicked. -/
def Action.performOn (a : Action) (d : D) (e : N) : D :=
  match a with
  | .click => if Document.isHtml d e then Document.click d e else d
  | .remove => Document.remove d e

/-- Acts on elements, one after the other. -/
def Action.perform (a : Action) (elements : List N) (d : D) : D := elements.foldl a.performOn d

/-- Ends a plain stage: without an action its elements are handed on, with one it acts. -/
def finish (action : Option Action) (elements : List N) : Visit D (List N) :=
  match action with
  | none => return elements
  | some a => do
    Visit.change (a.perform elements)
    return []

/-- Reads with a probe on the page, and takes it off whatever comes of it. -/
def withProbe {α : Type} (css : String) (f : N → D → Except DomError α) : Visit D α := fun d =>
  match Document.attachProbe d css with
  | (.error e, d) => (.error e, d)
  | (.ok probe, d) => (f probe d, Document.detachProbe d probe)

/-- Keeps the elements with the style that a filter declares; a blank filter keeps nothing. -/
def filterStyle (filter : String) (elements : List N) : Visit D (List N) :=
  let filter := trimmed filter
  if filter.isEmpty then return []
  else withProbe (Style.probeText filter) fun probe d =>
    filterExcept (styleHits d probe (Style.filterKeys filter)) elements

end Acting

variable {D N : Type} [Document D N] [DecidableEq N]

/-- The elements that a first stage finds. -/
def Stage.seed : Stage → Visit D (List N)
  | .plain target action => do finish action (← Visit.ask target.find)
  | .xpath expression => Visit.ask fun d => .ok (xpathElements expression d)
  | _ => return []

mutual

/-- The elements that a later stage keeps. -/
def Stage.narrow : Stage → List N → Visit D (List N)
  | .plain target action, elements => do
    finish action (← Visit.ask fun d => filterExcept (target.hits d) elements)
  | .contains _ pattern, elements =>
    Visit.ask fun d => .ok (elements.filter fun e => pattern.isMatch (plainText d e))
  | .has chain, elements => do
    let inner ← Stage.evaluate chain
    Visit.ask fun d => .ok (elements.filter fun e => inner.any (Document.holds d e))
  | .not chain, elements => do
    let excluded ← Stage.evaluate chain
    return elements.filter fun e => e ∉ excluded
  | .properties filter, elements => filterStyle filter elements
  | .xpath expression, elements =>
    Visit.ask fun d => .ok (elements.filter fun e => e ∈ (xpathElements expression d : List N))

/-- The elements that later stages keep, one stage after the other. -/
def Stage.narrowAll : List Stage → List N → Visit D (List N)
  | [], elements => return elements
  | s :: rest, elements => do
    if elements.isEmpty then return []
    else Stage.narrowAll rest (← s.narrow elements)

/-- The elements that a chain finds. -/
def Stage.evaluate : List Stage → Visit D (List N)
  | [] => return []
  | s :: rest => do Stage.narrowAll rest (← s.seed)

end

/-- The elements that a chain finds on a document, and the document after it. -/
def evaluate (chain : Chain) (d : D) : Except DomError (List N) × D :=
  (Stage.evaluate chain : Visit D (List N)) d

end PageGuard
