import PageGuard.Markup.Node

/-!
# Elements in their places

A place is an element of a tree together with everything around it: its children, its siblings on
both sides and the elements above it.  `placesIn` lists the places of a list of nodes, and they are
the elements of the nodes in document order (`placesIn_elements`).
-/

namespace PageGuard.Markup

/-- An element between its siblings, the nearest ones first. -/
structure Spot where
  element : Element
  children : List Node
  before : List Node
  after : List Node

/-- What holds the outermost element above a place. -/
inductive Holder where
  | page
  | fragment
  | nothing
deriving DecidableEq, Inhabited

/-- An element in its place. -/
structure Place where
  spot : Spot
  /-- The elements above, the nearest first. -/
  above : List Spot
  holder : Holder

mutual

/-- The places of a node and below it. -/
def Node.places (holder : Holder) (above : List Spot) (before after : List Node) :
    Node → List Place
  | .element e cs =>
    ⟨⟨e, cs, before, after⟩, above, holder⟩ ::
      Node.placesIn holder (⟨e, cs, before, after⟩ :: above) [] cs
  | .fragment cs => Node.placesIn .fragment [] [] cs
  | _ => []

/-- The places of nodes and below them. -/
def Node.placesIn (holder : Holder) (above : List Spot) (before : List Node) :
    List Node → List Place
  | [] => []
  | n :: ns => Node.places holder above before ns n ++ Node.placesIn holder above (n :: before) ns

end

namespace Place

/-- The element of a place. -/
def element (p : Place) : Element := p.spot.element

/-- The key of the element of a place. -/
def key (p : Place) : Nat := p.element.key

/-- The place of the element right above. -/
def parent? (p : Place) : Option Place :=
  match p.above with
  | [] => none
  | s :: above => some { p with spot := s, above }

/-- The places of some elements above one another. -/
def climb (holder : Holder) : List Spot → List Place
  | [] => []
  | s :: above => ⟨s, above, holder⟩ :: climb holder above

/-- The places of all elements above, the nearest first. -/
def ancestors (p : Place) : List Place := climb p.holder p.above

/-- The places of the elements among `before`, where `after` follows. -/
def walkBack (p : Place) (after : List Node) : List Node → List Place
  | [] => []
  | n :: before =>
    match n with
    | .element e cs => { p with spot := ⟨e, cs, before, after⟩ } :: walkBack p (n :: after) before
    | _ => walkBack p (n :: after) before

/-- The places of the earlier element siblings, the nearest first. -/
def earlierSiblings (p : Place) : List Place :=
  walkBack p (.element p.spot.element p.spot.children :: p.spot.after) p.spot.before

/-- The elements among some nodes. -/
def elementsAmong (nodes : List Node) : List Element := nodes.filterMap Node.element?

end Place

mutual

theorem Node.places_elements (holder : Holder) (above : List Spot) (before after : List Node) :
    ∀ n : Node, (Node.places holder above before after n).map Place.element = n.elements
  | .element e cs => by
    simp [Node.places, Node.elements, Place.element, Node.placesIn_elements _ _ _ cs]
  | .fragment cs => by simp [Node.places, Node.elements, Node.placesIn_elements _ _ _ cs]
  | .text _ => by simp [Node.places, Node.elements]
  | .comment _ => by simp [Node.places, Node.elements]
  | .doctype _ => by simp [Node.places, Node.elements]

theorem Node.placesIn_elements (holder : Holder) (above : List Spot) (before : List Node) :
    ∀ ns : List Node,
      (Node.placesIn holder above before ns).map Place.element = Node.elementsOf ns
  | [] => by simp [Node.placesIn, Node.elementsOf]
  | n :: ns => by
    simp [Node.placesIn, Node.elementsOf, Node.places_elements _ _ _ _ n,
      Node.placesIn_elements _ _ _ ns]

end

end PageGuard.Markup
