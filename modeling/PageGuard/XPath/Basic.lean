import PageGuard.Markup.Node
import PageGuard.Text.Ascii
import PageGuard.Text.Search

/-!
# Location paths

A path is a list of steps from the root of a page.  Each step goes to children, of the context
nodes themselves or of everything below them too, and its predicates filter the children of one
parent at a time, from left to right.

A step may come to a node more than once, and to nodes in another order than that of the page.  So
`evaluate` sorts what all steps together come to, and drops what then repeats the node before it.
-/

namespace PageGuard.XPath

open Markup

/-- Where a step looks for children. -/
inductive Axis where
  | child
  | descendant
deriving DecidableEq, Inhabited

/-- What a predicate looks at. -/
inductive Subject where
  | attr (name : String)
  /-- The texts right below an element. -/
  | ownText
  /-- All text in an element. -/
  | fullText
deriving DecidableEq, Inhabited

/-- A condition on the elements that a step finds. -/
inductive Predicate where
  /-- A position, counted from one. -/
  | position (n : Nat)
  | present (name : String)
  | equals (subject : Subject) (literal : String)
  | contains (subject : Subject) (literal : String)
deriving DecidableEq, Inhabited

/-- One step; without a name it finds every element. -/
structure Step where
  axis : Axis
  name : Option String
  predicates : List Predicate
deriving DecidableEq, Inhabited

/-- A location path. -/
abbrev Path := List Step

/-! ## Evaluation -/

/-- The text of a node, if it is a text. -/
def ownTextOf : Node → List Char
  | .text s => s.toList
  | _ => []

/-- The value of a subject on an element. -/
def Subject.value? (s : Subject) (n : Node) : Option (List Char) :=
  match s with
  | attr name => (n.element?.bind fun e => e.attribute? name).map String.toList
  | ownText => some (n.children.flatMap ownTextOf)
  | fullText => some n.textChars

/-- Whether an element satisfies a predicate other than a position. -/
def Predicate.holds (p : Predicate) (n : Node) : Bool :=
  match p with
  | position _ => true
  | present name => ((n.element?.bind fun e => e.attribute? name)).isSome
  | equals s literal => s.value? n == some literal.toList
  | contains s literal => (s.value? n).any fun v => Text.hasInfix literal.toList v

/-- The siblings that a predicate keeps. -/
def Predicate.keep (p : Predicate) (ns : List Node) : List Node :=
  match p with
  | position n => (ns.drop (n - 1)).take 1
  | _ => ns.filter p.holds

/-- Whether a node is an element that passes the name test of a step. -/
def Step.names (s : Step) (n : Node) : Bool :=
  match n.element? with
  | some e => s.name.all fun name => Text.lowerAscii e.name = Text.lowerAscii name
  | none => false

/-- The children of one parent that a step finds. -/
def Step.select (s : Step) (children : List Node) : List Node :=
  s.predicates.foldl (fun ns p => p.keep ns) (children.filter s.names)

mutual

/-- A node and all nodes below it, in document order. -/
def subnodes : Node → List Node
  | .element e cs => .element e cs :: subnodesIn cs
  | .fragment cs => .fragment cs :: subnodesIn cs
  | n => [n]

/-- Nodes and all nodes below them, in document order. -/
def subnodesIn : List Node → List Node
  | [] => []
  | n :: ns => subnodes n ++ subnodesIn ns

end

/-- The nodes that a step leads to from one node. -/
def Step.from (s : Step) (n : Node) : List Node :=
  match s.axis with
  | .child => s.select n.children
  | .descendant => (subnodes n).flatMap fun p => s.select p.children

/-- The nodes that steps come to from context nodes, as often as they come to them and in the order
in which they do. -/
def follow : List Node → Path → List Node
  | context, [] => context
  | context, s :: steps =>
    let next := context.flatMap s.from
    if next.isEmpty then [] else follow next steps

/-- Where a node stands among the nodes of a page; one that is not there comes after all of them. -/
def position (page n : Node) : Nat := (subnodes page).findIdx fun m => m.key? = n.key?

/-- Puts a node before the first of some nodes that does not stand before it. -/
def insertNode (page n : Node) : List Node → List Node
  | [] => [n]
  | m :: ms =>
    if position page n ≤ position page m then n :: m :: ms else m :: insertNode page n ms

/-- Nodes of a page by their positions. -/
def sortNodes (page : Node) (ns : List Node) : List Node := ns.foldr (insertNode page) []

/-- Nodes without those that repeat the one before them. -/
def dropRepeats : List Node → List Node
  | [] => []
  | n :: ns => after n ns
where
  /-- The nodes after a node that is kept, with that one. -/
  after (n : Node) : List Node → List Node
    | [] => [n]
    | m :: ms => if n.key? = m.key? then after n ms else n :: after m ms

/-- The elements that a path leads to from the root of a page. -/
def evaluate (nodes : List Node) (path : Path) : List Element :=
  let page : Node := .fragment nodes
  (dropRepeats (sortNodes page (follow [page] path))).filterMap Node.element?

end PageGuard.XPath
