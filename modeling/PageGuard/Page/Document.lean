/-!
# Documents

What the selector engine asks of a page.  Reading never changes a document; clicking, removing and
the probes for styles do, and give the document after them.  So does a probe that cannot be
attached: it may fail half-way.
-/

namespace PageGuard

/-- Why a document did not answer. -/
inductive DomError where
  | invalidSelector (selector reason : String)
  | invalidXPath (expression reason : String)
  | style (reason : String)
  | unavailable (reason : String)
deriving DecidableEq, Inhabited

namespace DomError

/-- How the text of an invalid selector starts. -/
def invalidSelectorText : String := "Invalid CSS selector: "

/-- The text of an error. -/
def message : DomError → String
  | invalidSelector selector reason => invalidSelectorText ++ selector ++ ": " ++ reason
  | invalidXPath expression reason => "Invalid XPath expression: " ++ expression ++ ": " ++ reason
  | style reason => "Style computation failed: " ++ reason
  | unavailable reason => "Document unavailable: " ++ reason

end DomError

/-- A type `D` of documents with elements of type `N`. -/
class Document (D : Type) (N : outParam Type) where
  /-- The elements that match a CSS selector. -/
  query : D → String → Except DomError (List N)
  /-- Every element of the page. -/
  allElements : D → Except DomError (List N)
  /-- Whether an element matches a CSS selector. -/
  elementMatches : D → N → String → Except DomError Bool
  /-- The text of an element and below it. -/
  textOf : D → N → String
  /-- Whether the second element is the first one or below it. -/
  holds : D → N → N → Bool
  /-- Whether an element is one of HTML, with a style. -/
  isHtml : D → N → Bool
  /-- The elements that an XPath leads to. -/
  queryXPath : D → String → Except DomError (List N)
  /-- The value of a style property. -/
  computedStyle : D → N → String → Except DomError String
  /-- Clicks an element. -/
  click : D → N → D
  /-- Takes an element off the page. -/
  remove : D → N → D
  /-- Puts an element with this style text on the page, where nobody sees it. -/
  attachProbe : D → String → Except DomError N × D
  /-- Takes a probe off the page. -/
  detachProbe : D → N → D

end PageGuard
