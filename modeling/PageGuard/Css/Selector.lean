import PageGuard.Css.Token

/-!
# CSS selectors

A compound selector is a list of simple selectors for one element, and combinators join compound
selectors from left to right.  A text holds a list of selectors, and an element matches the list
when it matches one of them.
-/

namespace PageGuard.Css

/-- How the letter case of an attribute value counts. -/
inductive CaseRule where
  | exact
  | ignored
  /-- Ignored on HTML elements. -/
  | ignoredInHtml
deriving DecidableEq, Inhabited

/-- How an attribute value is compared. -/
inductive Comparison where
  | equals
  | test (op : TestOp)
deriving DecidableEq, Inhabited

/-- What an attribute selector asks of a value. -/
inductive ValueTest where
  | present
  | compare (comparison : Comparison) (value : String) (case : CaseRule)
deriving DecidableEq, Inhabited

/-- A position among siblings: `step * n + start` for some `n`. -/
structure NthRule where
  step : Int
  start : Int
  /-- Counts from the last sibling. -/
  fromEnd : Bool
  /-- Counts siblings of the same name only. -/
  ofType : Bool
deriving DecidableEq, Inhabited

/-- How two compound selectors are joined. -/
inductive Combinator where
  | descendant
  | child
  | nextSibling
  | laterSibling
deriving DecidableEq, Inhabited

mutual

/-- A condition on one element. -/
inductive Simple where
  | universal
  | type (name : String)
  /-- Elements in no namespace, of which a page has none. -/
  | noNamespace
  | id (name : String)
  | «class» (name : String)
  /-- A test of an attribute, in no namespace or in any. -/
  | attr (anySpace : Bool) (name : String) (test : ValueTest)
  | root
  | empty
  | nth (rule : NthRule)
  | not (selectors : List Selector)

/-- Compound selectors joined by combinators. -/
inductive Selector where
  | compound (parts : List Simple)
  | joined (left : Selector) (combinator : Combinator) (parts : List Simple)

end

instance : Inhabited Simple := ⟨.universal⟩

instance : Inhabited Selector := ⟨.compound []⟩

/-- Attributes of HTML whose values ignore letter case. -/
def caselessAttributes : List String :=
  ["accept", "accept-charset", "align", "alink", "axis", "bgcolor", "charset", "checked", "clear",
    "codetype", "color", "compact", "declare", "defer", "dir", "direction", "disabled", "enctype",
    "face", "frame", "hreflang", "http-equiv", "lang", "language", "link", "media", "method",
    "multiple", "nohref", "noresize", "noshade", "nowrap", "readonly", "rel", "rev", "rules",
    "scope", "scrolling", "selected", "shape", "target", "text", "type", "valign", "valuetype",
    "vlink"]

end PageGuard.Css
