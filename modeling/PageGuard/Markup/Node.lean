/-!
# Page trees

A page is a list of nodes: elements with their children, texts, comments and document types.  The
content of a template element is a fragment below it.  Every element has a key, the number of
elements made before it, by which it is known after any change of the tree.
-/

namespace PageGuard.Markup

/-- The namespace of an element. -/
inductive Space where
  | html
  | svg
  | mathml
deriving DecidableEq, Inhabited

/-- The namespace of an attribute. -/
inductive AttributeSpace where
  | plain
  | xlink
  | xml
  | xmlns
deriving DecidableEq, Inhabited

/-- An attribute of an element. -/
structure Attribute where
  space : AttributeSpace := .plain
  name : String
  value : String
deriving DecidableEq, Inhabited

/-- An element without its children. -/
structure Element where
  key : Nat
  space : Space := .html
  name : String
  attributes : List Attribute := []
deriving DecidableEq, Inhabited

namespace Element

/-- The value of a plain attribute. -/
def attribute? (e : Element) (name : String) : Option String :=
  (e.attributes.find? fun a => a.space = .plain && a.name = name).map Attribute.value

/-- Whether an element is the HTML element of one of these names. -/
def isHtml (e : Element) (names : List String) : Bool :=
  e.space = .html && names.contains e.name

end Element

/-- A node of a page. -/
inductive Node where
  | element (e : Element) (children : List Node)
  | text (content : String)
  | comment (content : String)
  | doctype (name : String)
  /-- The content of a template element. -/
  | fragment (children : List Node)
deriving Inhabited

namespace Node

/-- The children of a node. -/
def children : Node → List Node
  | element _ cs => cs
  | fragment cs => cs
  | _ => []

/-- The element that a node is. -/
def element? : Node → Option Element
  | element e _ => some e
  | _ => none

/-- The key of the element that a node is. -/
def key? (n : Node) : Option Nat := n.element?.map Element.key

/-- Whether a node is an element. -/
def isElement (n : Node) : Bool := n.element?.isSome

mutual

/-- The elements of a node and below it, in document order. -/
def elements : Node → List Element
  | element e cs => e :: elementsOf cs
  | fragment cs => elementsOf cs
  | _ => []

/-- The elements of nodes and below them, in document order. -/
def elementsOf : List Node → List Element
  | [] => []
  | n :: ns => elements n ++ elementsOf ns

end

mutual

/-- The texts of a node and below it, joined. -/
def textChars : Node → List Char
  | text s => s.toList
  | element _ cs => textCharsOf cs
  | fragment cs => textCharsOf cs
  | _ => []

/-- The texts of nodes and below them, joined. -/
def textCharsOf : List Node → List Char
  | [] => []
  | n :: ns => textChars n ++ textCharsOf ns

end

/-- The text of a node and below it. -/
def textContent (n : Node) : String := .ofList n.textChars

mutual

/-- The element node of a key, at a node or below it. -/
def find? (key : Nat) : Node → Option Node
  | element e cs => if e.key = key then some (element e cs) else findIn? key cs
  | fragment cs => findIn? key cs
  | _ => none

/-- The element node of a key, at one of the nodes or below them. -/
def findIn? (key : Nat) : List Node → Option Node
  | [] => none
  | n :: ns => (find? key n).or (findIn? key ns)

end

mutual

/-- A node without the element of a key below it. -/
def without (key : Nat) : Node → Node
  | element e cs => element e (withoutIn key cs)
  | fragment cs => fragment (withoutIn key cs)
  | n => n

/-- Nodes without the element of a key among them or below them. -/
def withoutIn (key : Nat) : List Node → List Node
  | [] => []
  | n :: ns =>
    if n.key? = some key then withoutIn key ns
    else without key n :: withoutIn key ns

end

end Node

end PageGuard.Markup
