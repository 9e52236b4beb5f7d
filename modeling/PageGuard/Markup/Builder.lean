import PageGuard.Markup.Category

/-!
# A page under construction

The open elements of a page form a list of frames, the innermost first.  A frame holds its element
and the children that are complete.  Closing a frame turns it into a node and adds the node to the
frame below, or in front of the innermost table when its element does not belong inside one.

An element may leave the list of open elements while elements inside it are still open.  Its frame
then stays in its place, marked as left, and closes when it becomes the innermost one.
-/

namespace PageGuard.Markup

/-- An element whose end is not reached. -/
structure Frame where
  element : Element
  /-- Complete children, in reverse order. -/
  children : List Node := []
  /-- Nodes that follow the element, in reverse order. -/
  after : List Node := []
  /-- The element goes in front of the innermost table below. -/
  foster : Bool := false
  /-- The element is no longer an open one. -/
  left : Bool := false
deriving Inhabited

/-- The frames of a page and the complete nodes beside its root. -/
structure Stack where
  /-- The innermost frame first. -/
  frames : List Frame := []
  /-- Complete nodes of the page, in reverse order. -/
  top : List Node := []
deriving Inhabited

/-- Adds a node in front of the nodes of a list in reverse order; a text joins a text before
it. -/
def addNode (n : Node) (done : List Node) : List Node :=
  match n, done with
  | .text s, .text t :: rest => .text (t ++ s) :: rest
  | n, done => n :: done

/-- How many frames are passed on the way to the frame that takes what may not stand inside a
table. -/
def fosterDepth : List Frame → Nat
  | [] => 0
  | [_] => 0
  | f :: below =>
    if f.element.isHtml ["template"] then 0
    else if f.element.isHtml ["table"] then 1 + (if f.foster then fosterDepth below else 0)
    else 1 + fosterDepth below

namespace Stack

/-- Adds a node to the children of the frame at a depth, or beside the root. -/
def addAt (s : Stack) (depth : Nat) (n : Node) : Stack :=
  if depth < s.frames.length then
    { s with frames := s.frames.modify depth fun f => { f with children := addNode n f.children } }
  else { s with top := addNode n s.top }

/-- Adds a node to the innermost frame, or in front of the innermost table. -/
def add (s : Stack) (foster : Bool) (n : Node) : Stack :=
  s.addAt (if foster then fosterDepth s.frames else 0) n

/-- The node of a frame. -/
def nodeOf (f : Frame) : Node :=
  let children := f.children.reverse
  .element f.element (if f.element.isHtml ["template"] then [.fragment children] else children)

/-- Closes the innermost frame. -/
def close (s : Stack) : Stack :=
  match s.frames with
  | [] => s
  | f :: below =>
    let depth := if f.foster then fosterDepth below else 0
    f.after.reverse.foldl (fun s n => s.addAt depth n)
      ({ s with frames := below }.addAt depth (nodeOf f))

/-- Closes the innermost frames. -/
def closeMany : Nat → Stack → Stack
  | 0, s => s
  | n + 1, s => closeMany n s.close

/-- Closes innermost frames whose elements are no longer open. -/
def settle (s : Stack) : Stack :=
  closeMany (s.frames.takeWhile Frame.left).length s

/-- Closes the innermost open element. -/
def pop (s : Stack) : Stack := s.close.settle

/-- Closes elements up to and with the one at a depth. -/
def popThrough (s : Stack) (depth : Nat) : Stack := (closeMany (depth + 1) s).settle

/-- The open elements, the innermost first. -/
def elements (s : Stack) : List Element :=
  (s.frames.filter fun f => !f.left).map Frame.element

/-- The innermost open element. -/
def current? (s : Stack) : Option Element := s.elements.head?

/-- The depth of the frame of an element. -/
def depth? (s : Stack) (p : Element → Bool) : Option Nat :=
  s.frames.findIdx? fun f => !f.left && p f.element

/-- Closes elements up to and with the innermost one that satisfies a test. -/
def popUntil (s : Stack) (p : Element → Bool) : Stack :=
  match s.depth? p with
  | some d => s.popThrough d
  | none => closeMany s.frames.length s

/-- Closes elements down to the innermost one that satisfies a test. -/
def popTo (s : Stack) (p : Element → Bool) : Stack :=
  match s.depth? p with
  | some d => (closeMany d s).settle
  | none => s

/-- Takes an element from the open ones, and leaves it in its place in the page. -/
def leave (s : Stack) (key : Nat) : Stack :=
  let mark (f : Frame) : Frame := if f.element.key = key then { f with left := true } else f
  { s with frames := s.frames.map mark }.settle

/-- Changes the element of a frame. -/
def mapElement (s : Stack) (depth : Nat) (f : Element → Element) : Stack :=
  { s with frames := s.frames.modify depth fun x => { x with element := f x.element } }

/-- Adds a node after the outermost element below the root, which is the last child of the root
that may still be open. -/
def addAtRootEnd (s : Stack) (n : Node) : Stack :=
  if s.frames.length ≤ 1 then s.addAt 0 n
  else
    { s with
      frames := s.frames.modify (s.frames.length - 2) fun f =>
        { f with after := addNode n f.after } }

/-- Adds a node after the root. -/
def addAfterRoot (s : Stack) (n : Node) : Stack :=
  if s.frames.isEmpty then { s with top := n :: s.top }
  else
    { s with
      frames := s.frames.modify (s.frames.length - 1) fun f => { f with after := n :: f.after } }

/-- Opens the last complete child with this key of the innermost frame again. -/
def reopen (s : Stack) (key : Nat) : Stack :=
  match s.frames with
  | [] => s
  | f :: below =>
    let after := f.children.takeWhile fun n => n.key? ≠ some key
    match f.children.drop after.length with
    | .element e children :: before =>
      { s with
        frames := { element := e, children := children.reverse, after } ::
          { f with children := before } :: below }
    | _ => s

/-- Takes the element of the frame at a depth off the page, with all that is open inside it.  Gives
its node beside the rest of the page. -/
def takeOff (s : Stack) (depth : Nat) : Stack × List Node :=
  let s := closeMany depth s
  match s.frames with
  | [] => (s, [])
  | f :: below =>
    let rest := f.after.reverse.foldl (fun s n => s.addAt 0 n) { s with frames := below }
    (rest.settle, [nodeOf f])

/-- The complete page. -/
def finish (s : Stack) : List Node := (closeMany s.frames.length s).top.reverse

end Stack

/-! ## State of the construction -/

/-- Where in a page the construction stands. -/
inductive Mode where
  | initial
  | beforeHtml
  | beforeHead
  | inHead
  | afterHead
  | inBody
  | text
  | inTable
  | inTableText
  | inCaption
  | inColumnGroup
  | inTableBody
  | inRow
  | inCell
  | inSelect
  | inSelectInTable
  | inTemplate
  | afterBody
  | inFrameset
  | afterFrameset
  | afterAfterBody
  | afterAfterFrameset
deriving DecidableEq, Inhabited

/-- An entry of the list of active formatting elements. -/
inductive Format where
  | marker
  | element (key : Nat) (tag : Tag)
deriving DecidableEq, Inhabited

/-- A page under construction. -/
structure Builder where
  mode : Mode := .initial
  /-- The mode to go back to after text. -/
  returnMode : Mode := .initial
  templateModes : List Mode := []
  stack : Stack := {}
  /-- Elements that were taken off the page again, with what is in them. -/
  detached : List Node := []
  /-- The number of elements made. -/
  made : Nat := 0
  /-- The active formatting elements, the latest first. -/
  formats : List Format := []
  headKey : Option Nat := none
  formKey : Option Nat := none
  framesetOk : Bool := true
  legacy : Bool := false
  /-- A line feed that comes next is dropped. -/
  skipNewline : Bool := false
  /-- What may not stand inside a table goes in front of it. -/
  fostering : Bool := false
  /-- Text inside a table whose place is not decided, the latest first. -/
  tableText : List (List Char) := []
  textMode : TextMode := .markup
deriving Inhabited

namespace Builder

/-- Changes the stack. -/
def onStack (b : Builder) (f : Stack → Stack) : Builder := { b with stack := f b.stack }

/-- The innermost open element satisfies a test. -/
def currentIs (b : Builder) (p : Element → Bool) : Bool :=
  match b.stack.current? with
  | some e => p e
  | none => false

/-- The innermost open element is the HTML element of one of these names. -/
def currentIn (b : Builder) (names : List String) : Bool := b.currentIs fun e => e.isHtml names

/-- Whether new nodes go in front of the table. -/
def fosters (b : Builder) : Bool := b.fostering && b.currentIn tableNames

/-- Adds a node. -/
def add (b : Builder) (n : Node) : Builder := b.onStack fun s => s.add b.fosters n

/-- Adds text. -/
def addText (b : Builder) (cs : List Char) : Builder := b.add (.text (.ofList cs))

/-- Adds a comment. -/
def addComment (b : Builder) (s : String) : Builder := b.onStack fun st => st.addAt 0 (.comment s)

/-- Opens an element. -/
def openElement (b : Builder) (space : Space) (name : String) (attributes : List Attribute) :
    Builder :=
  let e : Element := { key := b.made, space, name, attributes }
  let foster := b.fosters
  { b with made := b.made + 1 }.onStack fun s =>
    { s with frames := { element := e, foster } :: s.frames }

/-- Opens an HTML element. -/
def openHtml (b : Builder) (t : Tag) : Builder := b.openElement .html t.name t.attributes

/-- Closes the innermost open element. -/
def pop (b : Builder) : Builder := b.onStack Stack.pop

/-- Adds an element without content. -/
def addVoid (b : Builder) (t : Tag) : Builder := (b.openHtml t).pop

/-- Closes elements up to and with an HTML element of one of these names. -/
def popUntil (b : Builder) (names : List String) : Builder :=
  b.onStack fun s => s.popUntil fun e => e.isHtml names

/-- Closes elements down to an HTML element of one of these names. -/
def popTo (b : Builder) (names : List String) : Builder :=
  b.onStack fun s => s.popTo fun e => e.isHtml names

/-- Whether one of these elements is open inside the innermost bound. -/
def inScope (b : Builder) (bounds : Element → Bool) (p : Element → Bool) : Bool :=
  go b.stack.elements
where
  /-- Searches from the innermost element outwards. -/
  go : List Element → Bool
    | [] => false
    | e :: rest => p e || (!bounds e && go rest)

/-- Whether an HTML element of one of these names is in scope. -/
def hasInScope (b : Builder) (names : List String) : Bool :=
  b.inScope Element.boundsScope fun e => e.isHtml names

/-- Whether an HTML element of one of these names is in table scope. -/
def hasInTableScope (b : Builder) (names : List String) : Bool :=
  b.inScope Element.boundsTableScope fun e => e.isHtml names

/-- Whether a template is open. -/
def inTemplateElement (b : Builder) : Bool := b.stack.elements.any fun e => e.isHtml ["template"]

/-- Closes innermost elements of these names, but not one of the name `except`. -/
def closeImplied (b : Builder) (names : List String) (except : Option String) : Builder :=
  let implied (e : Element) := e.isHtml names && some e.name != except
  go b.stack.frames.length implied b
where
  /-- Closes at most `n` elements. -/
  go (n : Nat) (implied : Element → Bool) (b : Builder) : Builder :=
    match n with
    | 0 => b
    | n + 1 => if b.currentIs implied then go n implied b.pop else b

/-- Closes elements whose end tags may be left out. -/
def closeOptional (b : Builder) : Builder := b.closeImplied impliedEndNames none

/-- Closes the paragraph in button scope, if there is one. -/
def closeParagraph (b : Builder) : Builder :=
  if b.inScope Element.boundsButtonScope fun e => e.isHtml ["p"] then
    (b.closeImplied impliedEndNames (some "p")).popUntil ["p"]
  else b

/-- Takes the outermost element inside the root off the page. -/
def dropInside (b : Builder) : Builder :=
  let (stack, off) := b.stack.takeOff (b.stack.frames.length - 2)
  { b with stack, detached := b.detached ++ off }

/-- Opens an element whose content is text. -/
def openText (b : Builder) (t : Tag) (textMode : TextMode) : Builder :=
  { b.openHtml t with mode := .text, returnMode := b.mode, textMode }

/-- Adds the attributes that the outermost element, or the one inside it, does not have. -/
def mergeAttributes (b : Builder) (inside : Bool) (attributes : List Attribute) : Builder :=
  let n := b.stack.frames.length
  let depth := n - (if inside then 2 else 1)
  b.onStack fun s => s.mapElement depth fun e =>
    { e with attributes := attributes.foldl (fun l a => addAttribute l a.name a.value) e.attributes }

/-! ### Active formatting elements -/

/-- The formatting elements since the last marker. -/
def recentFormats (b : Builder) : List Format := b.formats.takeWhile (· ≠ .marker)

/-- Whether two tags have the same name and the same attributes in any order. -/
def sameTag (s t : Tag) : Bool :=
  s.name == t.name && s.attributes.length == t.attributes.length &&
    s.attributes.all fun a => t.attributes.contains a

/-- Notes a formatting element; of more than three like ones the earliest is dropped. -/
def pushFormat (b : Builder) (key : Nat) (t : Tag) : Builder :=
  let like := b.recentFormats.zipIdx.filter fun (f, _) =>
    match f with
    | .element _ s => sameTag s t
    | .marker => false
  let formats := match like.getLast? with
    | some (_, i) => if like.length ≥ 3 then b.formats.eraseIdx i else b.formats
    | none => b.formats
  { b with formats := .element key t :: formats }

/-- Opens a formatting element. -/
def openFormat (b : Builder) (t : Tag) : Builder :=
  (b.openHtml t).pushFormat b.made t

/-- Drops the formatting elements up to and with the last marker. -/
def clearFormats (b : Builder) : Builder :=
  { b with formats := (b.formats.dropWhile (· ≠ .marker)).drop 1 }

/-- Whether an entry is the element of a key. -/
def isFormat (key : Nat) : Format → Bool
  | .element k _ => k == key
  | .marker => false

/-- Drops the formatting element of a key. -/
def dropFormat (b : Builder) (key : Nat) : Builder :=
  { b with formats := b.formats.filter fun f => !isFormat key f }

/-- Whether the element of an entry is open; a marker counts as open. -/
def formatOpen (b : Builder) : Format → Bool
  | .marker => true
  | .element k _ => b.stack.elements.any fun e => e.key == k

/-- Opens again the formatting elements that were closed since the last one that is open. -/
def reconstruct (b : Builder) : Builder :=
  let closed := b.formats.takeWhile fun f => !b.formatOpen f
  closed.zipIdx.reverse.foldl (fun b (f, i) =>
    match f with
    | .element _ t =>
      let key := b.made
      let b := b.openHtml t
      { b with formats := b.formats.set i (.element key t) }
    | .marker => b) b

end Builder

end PageGuard.Markup
