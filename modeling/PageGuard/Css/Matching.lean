import PageGuard.Css.Reader
import PageGuard.Markup.Place
import PageGuard.Text.Blank
import PageGuard.Text.Search

/-!
# Matching CSS selectors

Whether the element of a place matches a selector.  Names of HTML elements and of their attributes
ignore letter case; identifiers and classes do not.
-/

namespace PageGuard.Css

open Markup Text

/-! ## Attributes -/

/-- The pieces of a text between white space characters. -/
def spacePieces : List Char → List (List Char)
  | [] => [[]]
  | c :: rest =>
    if isSpace c then [] :: spacePieces rest
    else
      match spacePieces rest with
      | [] => [[c]]
      | p :: ps => (c :: p) :: ps

/-- Whether an attribute value passes a comparison.  An empty text starts and ends every value. -/
def Comparison.holds (c : Comparison) (value wanted : List Char) : Bool :=
  match c with
  | .equals => value == wanted
  | .test .includes => (spacePieces value).contains wanted
  | .test .dash => value == wanted || (wanted ++ ['-']).isPrefixOf value
  | .test .start => wanted.isPrefixOf value
  | .test .ending => wanted.isSuffixOf value
  | .test .substring => hasInfix wanted value

/-- Whether letter case counts for an element. -/
def CaseRule.isExact (c : CaseRule) (html : Bool) : Bool :=
  match c with
  | .exact => true
  | .ignored => false
  | .ignoredInHtml => !html

/-- Whether an attribute value passes a test. -/
def ValueTest.holds (html : Bool) (t : ValueTest) (value : String) : Bool :=
  match t with
  | .present => true
  | .compare comparison wanted case =>
    if case.isExact html then comparison.holds value.toList wanted.toList
    else comparison.holds (value.toList.map asciiLower) (wanted.toList.map asciiLower)

/-- A name as it counts for an element. -/
def nameFor (e : Element) (name : String) : String :=
  if e.space = .html then lowerAscii name else name

/-- Whether an element has an attribute that passes a test. -/
def attributeHolds (e : Element) (anySpace : Bool) (name : String) (test : ValueTest) : Bool :=
  e.attributes.any fun a =>
    (anySpace || a.space = .plain) && a.name = nameFor e name &&
      test.holds (e.space = .html) a.value

/-! ## Positions -/

/-- Whether two elements have the same name. -/
def sameType (e f : Element) : Bool := e.space = f.space && e.name = f.name

/-- The position of an element among its siblings, counted from one. -/
def siblingIndex (p : Place) (fromEnd ofType : Bool) : Nat :=
  let others := Place.elementsAmong (if fromEnd then p.spot.after else p.spot.before)
  (if ofType then others.countP (sameType p.element) else others.length) + 1

/-- Whether `index` is `step * n + start` for a natural number `n`.  A distance beyond the bounds
of numbers is no multiple of anything. -/
def NthRule.hits (r : NthRule) (index : Nat) : Bool :=
  let distance : Int := index - r.start
  if numberBounds.2 < distance then false
  else if r.step = 0 then distance = 0
  else 0 ≤ distance.tdiv r.step && distance.tmod r.step = 0

/-! ## Elements -/

/-- Whether an element has neither elements nor texts as children. -/
def isEmptyElement (p : Place) : Bool :=
  p.spot.children.all fun
    | .element .. => false
    | .text _ => false
    | _ => true

/-- Whether an element stands at the top of the page. -/
def isRoot (p : Place) : Bool := p.above.isEmpty && p.holder = .page

/-- The classes of an element. -/
def classesOf (e : Element) : List String :=
  (words ((e.attribute? "class").getD "").toList).map String.ofList

/-- The places that a combinator leads to from the right. -/
def Combinator.reach (c : Combinator) (p : Place) : List Place :=
  match c with
  | .descendant => p.ancestors
  | .child => p.parent?.toList
  | .nextSibling => p.earlierSiblings.head?.toList
  | .laterSibling => p.earlierSiblings

mutual

/-- Whether an element passes a condition. -/
def Simple.matches : Simple → Place → Bool
  | .universal, _ => true
  | .type name, p => p.element.name = nameFor p.element name
  | .noNamespace, _ => false
  | .id name, p => p.element.attribute? "id" = some name
  | .class name, p => (classesOf p.element).contains name
  | .attr anySpace name test, p => attributeHolds p.element anySpace name test
  | .root, p => isRoot p
  | .empty, p => isEmptyElement p
  | .nth rule, p => rule.hits (siblingIndex p rule.fromEnd rule.ofType)
  | .not selectors, p => !Selector.anyMatches selectors p

/-- Whether an element passes all of some conditions. -/
def Simple.allMatch : List Simple → Place → Bool
  | [], _ => true
  | s :: rest, p => s.matches p && Simple.allMatch rest p

/-- Whether an element matches a selector. -/
def Selector.matches : Selector → Place → Bool
  | .compound parts, p => Simple.allMatch parts p
  | .joined left combinator parts, p =>
    Simple.allMatch parts p && (combinator.reach p).any fun q => left.matches q

/-- Whether an element matches one of some selectors. -/
def Selector.anyMatches : List Selector → Place → Bool
  | [], _ => false
  | s :: rest, p => s.matches p || Selector.anyMatches rest p

end

end PageGuard.Css
