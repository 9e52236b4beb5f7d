import PageGuard.Markup.Builder

/-!
# What tokens do to a page under construction

Each mode of the construction has a function that takes a token.  It either uses the token up, or
changes the page and hands the token on to the mode that then holds.
-/

namespace PageGuard.Markup

/-- The outcome of a token in one mode. -/
inductive Outcome where
  /-- The token is used up. -/
  | done (b : Builder)
  /-- The token goes to the mode that now holds. -/
  | again (b : Builder)

/-- The page after the token. -/
def Outcome.builder : Outcome → Builder
  | done b => b
  | again b => b

namespace Builder

/-- Whether a run of text is white space.  Runs are all white space or have none. -/
def isSpaceRun (cs : List Char) : Bool := cs.all isTagSpace

/-- Whether a run of text consists of null characters. -/
def isNullRun (cs : List Char) : Bool := cs.all fun c => c.toNat == 0

/-! ## Misnested formatting -/

/-- The end tag of an ordinary element: closes the innermost one of its name, unless a special
element is open inside it. -/
def endOrdinary (b : Builder) (name : String) : Builder :=
  match b.stack.elements.find? fun e => e.isHtml [name] || e.isSpecial with
  | some e =>
    if e.isHtml [name] then
      (b.closeImplied impliedEndNames (some name)).onStack fun s => s.popUntil fun f => f.key = e.key
    else b
  | none => b

/-- Frames between a formatting element and the block inside it, taken from the block outwards:
the first three that are active formatting elements are opened again around the block, the others
end.  Gives the new frames from the block outwards, and the page with its list changed. -/
def copyBetween : Nat → List Frame → List Frame → Builder → List Frame × Builder
  | _, [], copies, b => (copies.reverse, b)
  | count, f :: rest, copies, b =>
    if f.left then copyBetween count rest copies b
    else
      let key := f.element.key
      match b.formats.findIdx? (isFormat key) with
      | none => copyBetween (count + 1) rest copies b
      | some i =>
        if count ≥ 3 then copyBetween (count + 1) rest copies (b.dropFormat key)
        else
          match b.formats[i]? with
          | some (.element _ t) =>
            let e : Element := { key := b.made, name := t.name, attributes := t.attributes }
            let b := { b with made := b.made + 1, formats := b.formats.set i (.element e.key t) }
            copyBetween (count + 1) rest ({ element := e } :: copies) b
          | _ => copyBetween (count + 1) rest copies b

/-- One round for the end tag of a formatting element.  A block inside the element is moved out of
it, and the element is opened again inside the block.  Tells whether another round follows. -/
def adoptionRound (name : String) (b : Builder) : Bool × Builder :=
  let candidate := b.recentFormats.find? fun f =>
    match f with
    | .element _ t => t.name == name
    | .marker => false
  match candidate with
  | some (.element key tag) =>
    match b.stack.depth? fun e => e.key = key with
    | none => (false, b.dropFormat key)
    | some depth =>
      if !b.inScope Element.boundsScope fun e => e.key = key then (false, b)
      else
        let inner := b.stack.frames.take depth
        let block? := (inner.zipIdx.filter fun (f, _) => !f.left && f.element.isSpecial).getLast?
        match block? with
        | none => (false, (b.onStack fun s => s.popThrough depth).dropFormat key)
        | some (block, at_) =>
          -- The frames inside the block, those between it and the element, and those outside.
          let inside := b.stack.frames.take at_
          let between := (b.stack.frames.take depth).drop (at_ + 1)
          let outside := b.stack.frames.drop (depth + 1)
          let gap := (outside.takeWhile Frame.left).length
          let closed := Stack.closeMany (between.length + 1 + gap)
            { b.stack with frames := b.stack.frames.drop (at_ + 1) }
          let (copies, b) := copyBetween 0 between [] b
          -- The new entry of the element goes after the innermost copy, or takes its place.
          let fresh := b.made
          let e : Element := { key := fresh, name := tag.name, attributes := tag.attributes }
          let formats := match copies.head? with
            | some c =>
              let i := (b.formats.findIdx? (isFormat c.element.key)).getD 0
              (b.formats.insertIdx i (.element fresh tag)).filter fun f => !isFormat key f
            | none => b.formats.map fun f => if isFormat key f then .element fresh tag else f
          let foster := b.fostering &&
            match closed.frames.head? with
            | some f => f.element.isHtml tableNames
            | none => false
          let moved : List Frame := { block with children := [], foster := false } :: copies
          let moved := moved.dropLast ++ (moved.getLast?.map fun f => { f with foster }).toList
          let frames := inside ++ { element := e, children := block.children } :: moved ++
            closed.frames
          (true, { b with made := fresh + 1, formats, stack := { closed with frames } })
  | _ => (false, b.endOrdinary name)

/-- Up to `n` rounds for the end tag of a formatting element. -/
def adoptionRounds (name : String) : Nat → Builder → Builder
  | 0, b => b
  | n + 1, b =>
    match adoptionRound name b with
    | (true, b) => adoptionRounds name n b
    | (false, b) => b

/-- The end tag of a formatting element. -/
def endFormat (b : Builder) (name : String) : Builder :=
  let plain := b.currentIn [name] &&
    match b.stack.current? with
    | some e => !b.formats.any (isFormat e.key)
    | none => false
  if plain then b.pop else adoptionRounds name 8 b

/-- Ends an open link before another one starts. -/
def endLink (b : Builder) : Builder :=
  let open_ := b.recentFormats.find? fun f =>
    match f with
    | .element _ t => t.name == "a"
    | .marker => false
  match open_ with
  | some (.element key _) =>
    ((b.endFormat "a").dropFormat key).onStack fun s => s.leave key
  | _ => b

/-! ## Modes -/

/-- The mode that the open elements ask for; `isLast` holds for the outermost element. -/
def modeOf (b : Builder) : List Element → Mode
  | [] => .inBody
  | e :: rest =>
    if e.space ≠ .html then modeOf b rest
    else if e.name = "select" then
      match (rest.takeWhile fun f => !f.isHtml ["template"]).any fun f => f.isHtml ["table"] with
      | true => .inSelectInTable
      | false => .inSelect
    else if cellNames.contains e.name && !rest.isEmpty then .inCell
    else if e.name = "tr" then .inRow
    else if rowGroupNames.contains e.name then .inTableBody
    else if e.name = "caption" then .inCaption
    else if e.name = "colgroup" then .inColumnGroup
    else if e.name = "table" then .inTable
    else if e.name = "template" then b.templateModes.head?.getD .inBody
    else if e.name = "head" && !rest.isEmpty then .inHead
    else if e.name = "body" then .inBody
    else if e.name = "frameset" then .inFrameset
    else if e.name = "html" then if b.headKey.isNone then .beforeHead else .afterHead
    else modeOf b rest

/-- Goes to the mode that the open elements ask for. -/
def resetMode (b : Builder) : Builder := { b with mode := b.modeOf b.stack.elements }

/-- Ends the innermost template. -/
def endTemplate (b : Builder) : Builder :=
  let b := (b.popUntil ["template"]).clearFormats
  { b with templateModes := b.templateModes.drop 1 }.resetMode

/-- A start tag of the root inside the page adds its attributes to the root. -/
def startRoot (b : Builder) (t : Tag) : Builder :=
  if b.inTemplateElement then b else b.mergeAttributes false t.attributes

/-- Start tags that belong into the head wherever they stand. -/
def headNames : List String :=
  ["base", "basefont", "bgsound", "link", "meta", "noframes", "script", "style", "template", "title"]

/-- A token in the head of a page. -/
def inHead (b : Builder) (k : Token) : Outcome :=
  let other : Outcome := .again { b.pop with mode := .afterHead }
  match k with
  | .text cs => if isSpaceRun cs then .done (b.addText cs) else other
  | .comment s => .done (b.addComment s)
  | .doctype _ => .done b
  | .startTag t =>
    if t.name = "html" then .done (b.startRoot t)
    else if ["base", "basefont", "bgsound", "link", "meta"].contains t.name then
      .done (b.addVoid t)
    else if t.name = "title" then .done (b.openText t (.references "title"))
    else if ["noframes", "style", "noscript"].contains t.name then
      .done (b.openText t (.raw t.name))
    else if t.name = "script" then .done (b.openText t .script)
    else if t.name = "template" then
      let b := b.openHtml t
      .done { b with
        formats := .marker :: b.formats
        framesetOk := false
        mode := .inTemplate
        templateModes := .inTemplate :: b.templateModes }
    else if t.name = "head" then .done b
    else other
  | .endTag name =>
    if name = "head" then .done { b.pop with mode := .afterHead }
    else if name = "template" then
      if b.inTemplateElement then .done (b.closeImplied thoroughEndNames none).endTemplate
      else .done b
    else if ["body", "html", "br"].contains name then other
    else .done b
  | .ending => other

/-- A token that is handled as in the head, without a change of mode for what the head does not
know. -/
def headToken (b : Builder) (k : Token) : Builder := (b.inHead k).builder

/-- A token in a template. -/
def inTemplateEnd (b : Builder) : Outcome :=
  if b.inTemplateElement then .again b.endTemplate else .done b

/-- Opens an element after closing the paragraph. -/
def openBlock (b : Builder) (t : Tag) : Builder := b.closeParagraph.openHtml t

/-- The item that a new item of a list ends: the innermost open element of one of the names, with
no special element but an address, a division or a paragraph inside it. -/
def endedItem? (names : List String) : List Element → Option String
  | [] => none
  | e :: rest =>
    if e.isHtml names then some e.name
    else if e.isSpecial && !e.isHtml ["address", "div", "p"] then none
    else endedItem? names rest

/-- Opens an item of a list after closing the one before it. -/
def openItem (b : Builder) (t : Tag) (names : List String) : Builder :=
  let b := { b with framesetOk := false }
  let b := match endedItem? names b.stack.elements with
    | some name => (b.closeImplied impliedEndNames (some name)).popUntil [name]
    | none => b
  b.openBlock t

/-- Closes an element in scope with the elements inside it. -/
def closeInScope (b : Builder) (bounds : Element → Bool) (names : List String)
    (except : Option String) : Builder :=
  if b.inScope bounds fun e => e.isHtml names then
    (b.closeImplied impliedEndNames except).popUntil names
  else b

/-- Opens an element outside HTML. -/
def openForeign (b : Builder) (space : Space) (t : Tag) : Builder :=
  let name := if space = .svg then recased svgNames t.name else t.name
  let b := b.openElement space name (t.attributes.map (foreignAttribute space))
  if t.selfClosing then b.pop else b

/-- Whether an input element is hidden. -/
def isHiddenInput (t : Tag) : Bool :=
  t.attributes.any fun a => a.name = "type" && Text.lowerAscii a.value = "hidden"

/-- A start tag in the body of a page. -/
def startInBody (b : Builder) (t : Tag) : Builder :=
  let n := t.name
  let noFrameset := { b with framesetOk := false }
  if n = "html" then b.startRoot t
  else if headNames.contains n then b.headToken (.startTag t)
  else if n = "body" then
    let second := (b.stack.elements.reverse[1]?).map fun e => e.isHtml ["body"]
    if second = some true ∧ !b.inTemplateElement then noFrameset.mergeAttributes true t.attributes
    else b
  else if n = "frameset" then
    let second := (b.stack.elements.reverse[1]?).map fun e => e.isHtml ["body"]
    if second = some true ∧ b.framesetOk then
      -- The body leaves the page with everything in it.
      { b.dropInside.openHtml t with mode := .inFrameset }
    else b
  else if blockNames.contains n then b.openBlock t
  else if headingNames.contains n then
    let b := b.closeParagraph
    (if b.currentIn headingNames then b.pop else b).openHtml t
  else if n = "pre" ∨ n = "listing" then
    { b.openBlock t with skipNewline := true, framesetOk := false }
  else if n = "form" then
    if b.formKey.isSome ∧ !b.inTemplateElement then b
    else
      let b := b.closeParagraph
      let key := b.made
      let b := b.openHtml t
      if b.inTemplateElement then b else { b with formKey := some key }
  else if n = "li" then b.openItem t ["li"]
  else if n = "dd" ∨ n = "dt" then b.openItem t ["dd", "dt"]
  else if n = "plaintext" then { b.openBlock t with textMode := .plaintext }
  else if n = "button" then
    let b := b.closeInScope Element.boundsScope ["button"] none
    { b.reconstruct.openHtml t with framesetOk := false }
  else if n = "a" then b.endLink.reconstruct.openFormat t
  else if n = "nobr" then
    let b := b.reconstruct
    let b := if b.hasInScope ["nobr"] then (b.endFormat "nobr").reconstruct else b
    b.openFormat t
  else if formattingNames.contains n then b.reconstruct.openFormat t
  else if ["applet", "marquee", "object"].contains n then
    let b := b.reconstruct.openHtml t
    { b with formats := .marker :: b.formats, framesetOk := false }
  else if n = "table" then
    let b := if b.legacy then b else b.closeParagraph
    { b.openHtml t with framesetOk := false, mode := .inTable }
  else if ["area", "br", "embed", "img", "image", "keygen", "wbr"].contains n then
    let t := if n = "image" then { t with name := "img" } else t
    { b.reconstruct.addVoid t with framesetOk := false }
  else if n = "input" then
    let b := b.reconstruct.addVoid t
    if isHiddenInput t then b else { b with framesetOk := false }
  else if ["param", "source", "track"].contains n then b.addVoid t
  else if n = "hr" then { b.closeParagraph.addVoid t with framesetOk := false }
  else if n = "textarea" then
    { b.openText t (.references "textarea") with framesetOk := false, skipNewline := true }
  else if n = "xmp" then
    { b.closeParagraph.reconstruct with framesetOk := false }.openText t (.raw n)
  else if n = "iframe" then noFrameset.openText t (.raw n)
  else if n = "noembed" ∨ n = "noscript" then b.openText t (.raw n)
  else if n = "select" then
    let b := { b.reconstruct.openHtml t with framesetOk := false }
    let inTableMode := [Mode.inTable, .inCaption, .inTableBody, .inRow, .inCell].contains b.mode
    { b with mode := if inTableMode then .inSelectInTable else .inSelect }
  else if n = "optgroup" ∨ n = "option" then
    (if b.currentIn ["option"] then b.pop else b).reconstruct.openHtml t
  else if n = "rb" ∨ n = "rtc" then
    (if b.hasInScope ["ruby"] then b.closeOptional else b).openHtml t
  else if n = "rp" ∨ n = "rt" then
    (if b.hasInScope ["ruby"] then b.closeImplied impliedEndNames (some "rtc") else b).openHtml t
  else if n = "math" then b.reconstruct.openForeign .mathml t
  else if n = "svg" then b.reconstruct.openForeign .svg t
  else if ["caption", "col", "colgroup", "frame", "head", "tbody", "td", "tfoot", "th", "thead",
      "tr"].contains n then b
  else b.reconstruct.openHtml t

/-- The end tag of a form. -/
def endForm (b : Builder) : Builder :=
  if b.inTemplateElement then b.closeInScope Element.boundsScope ["form"] none
  else
    match b.formKey with
    | none => b
    | some key =>
      let b := { b with formKey := none }
      if b.inScope Element.boundsScope fun e => e.key = key then
        b.closeOptional.onStack fun s => s.leave key
      else b

/-- An end tag in the body of a page. -/
def endInBody (b : Builder) (name : String) : Outcome :=
  if name = "template" then .done (b.headToken (.endTag name))
  else if name = "body" then
    .done (if b.hasInScope ["body"] then { b with mode := .afterBody } else b)
  else if name = "html" then
    if b.hasInScope ["body"] then .again { b with mode := .afterBody } else .done b
  else if name = "p" then
    let open_ := b.inScope Element.boundsButtonScope fun e => e.isHtml ["p"]
    .done (if open_ then b else b.openHtml { name := "p" }).closeParagraph
  else if blockNames.contains name ∨ ["button", "listing", "pre"].contains name then
    .done (b.closeInScope Element.boundsScope [name] none)
  else if name = "form" then .done b.endForm
  else if name = "li" then
    .done (b.closeInScope Element.boundsListScope [name] (some name))
  else if name = "dd" ∨ name = "dt" then
    .done (b.closeInScope Element.boundsScope [name] (some name))
  else if headingNames.contains name then
    .done (b.closeInScope Element.boundsScope headingNames none)
  else if formattingNames.contains name then .done (b.endFormat name)
  else if ["applet", "marquee", "object"].contains name then
    if b.hasInScope [name] then
      .done (b.closeInScope Element.boundsScope [name] none).clearFormats
    else .done b
  else if name = "br" then .done (b.startInBody { name := "br" })
  else .done (b.endOrdinary name)

/-- A token in the body of a page. -/
def inBody (b : Builder) (k : Token) : Outcome :=
  match k with
  | .text cs =>
    if isNullRun cs then .done b
    else
      let b := b.reconstruct.addText cs
      .done (if isSpaceRun cs then b else { b with framesetOk := false })
  | .comment s => .done (b.addComment s)
  | .doctype _ => .done b
  | .startTag t => .done (b.startInBody t)
  | .endTag name => b.endInBody name
  | .ending => if b.templateModes.isEmpty then .done b else b.inTemplateEnd

/-- A token before the root of a page. -/
def initial (b : Builder) (k : Token) : Outcome :=
  match k with
  | .comment s => .done (b.onStack fun st => st.addAfterRoot (.comment s))
  | .doctype d =>
    let b := b.onStack fun st => st.addAfterRoot (.doctype d.name)
    .done { b with legacy := d.isLegacy, mode := .beforeHtml }
  | .text cs =>
    if isSpaceRun cs then .done b else .again { b with legacy := true, mode := .beforeHtml }
  | _ => .again { b with legacy := true, mode := .beforeHtml }

/-- A token before the root of a page and after its document type. -/
def beforeHtml (b : Builder) (k : Token) : Outcome :=
  let other : Outcome := .again { b.openHtml { name := "html" } with mode := .beforeHead }
  match k with
  | .doctype _ => .done b
  | .comment s => .done (b.onStack fun st => st.addAfterRoot (.comment s))
  | .text cs => if isSpaceRun cs then .done b else other
  | .startTag t =>
    if t.name = "html" then .done { b.openHtml t with mode := .beforeHead } else other
  | .endTag name => if ["head", "body", "html", "br"].contains name then other else .done b
  | .ending => other

/-- A token before the head of a page. -/
def beforeHead (b : Builder) (k : Token) : Outcome :=
  let openHead (t : Tag) : Builder :=
    { b.openHtml t with headKey := some b.made, mode := .inHead }
  let other : Outcome := .again (openHead { name := "head" })
  match k with
  | .text cs => if isSpaceRun cs then .done b else other
  | .comment s => .done (b.addComment s)
  | .doctype _ => .done b
  | .startTag t =>
    if t.name = "html" then .done (b.startRoot t)
    else if t.name = "head" then .done (openHead t)
    else other
  | .endTag name => if ["head", "body", "html", "br"].contains name then other else .done b
  | .ending => other

/-- A token after the head of a page. -/
def afterHead (b : Builder) (k : Token) : Outcome :=
  let other : Outcome := .again { b.openHtml { name := "body" } with mode := .inBody }
  match k with
  | .text cs => if isSpaceRun cs then .done (b.addText cs) else other
  | .comment s => .done (b.addComment s)
  | .doctype _ => .done b
  | .startTag t =>
    if t.name = "html" then .done (b.startRoot t)
    else if t.name = "body" then
      .done { b.openHtml t with framesetOk := false, mode := .inBody }
    else if t.name = "frameset" then .done { b.openHtml t with mode := .inFrameset }
    else if headNames.contains t.name then
      match b.headKey with
      | some key =>
        -- The head is open again for this one element.
        .done (((b.onStack fun s => s.reopen key).headToken k).onStack fun s => s.leave key)
      | none => .done b
    else if t.name = "head" then .done b
    else other
  | .endTag name =>
    if name = "template" then .done (b.headToken k)
    else if ["body", "html", "br"].contains name then other
    else .done b
  | .ending => other

/-- A token inside text. -/
def inText (b : Builder) (k : Token) : Outcome :=
  let back := { b.pop with mode := b.returnMode, textMode := .markup }
  match k with
  | .text cs => .done (b.addText cs)
  | .ending => .again back
  | _ => .done back

/-- A token that is handled as in the body, with what may not stand in a table in front of it. -/
def fosterToken (b : Builder) (k : Token) : Outcome :=
  match { b with fostering := true }.inBody k with
  | .done b => .done { b with fostering := false }
  | .again b => .again { b with fostering := false }

/-- The names of the parts of a table. -/
def tablePartNames : List String :=
  ["caption", "col", "colgroup", "tbody", "td", "tfoot", "th", "thead", "tr"]

/-- A token in a table. -/
def inTable (b : Builder) (k : Token) : Outcome :=
  let context := b.popTo ["table", "template", "html"]
  match k with
  | .text _ =>
    if b.currentIn tableNames then
      .again { b with tableText := [], returnMode := b.mode, mode := .inTableText }
    else b.fosterToken k
  | .comment s => .done (b.addComment s)
  | .doctype _ => .done b
  | .startTag t =>
    let n := t.name
    if n = "caption" then
      let b := context.openHtml t
      .done { b with formats := .marker :: b.formats, mode := .inCaption }
    else if n = "colgroup" then .done { context.openHtml t with mode := .inColumnGroup }
    else if n = "col" then
      .again { context.openHtml { name := "colgroup" } with mode := .inColumnGroup }
    else if rowGroupNames.contains n then .done { context.openHtml t with mode := .inTableBody }
    else if cellNames.contains n ∨ n = "tr" then
      .again { context.openHtml { name := "tbody" } with mode := .inTableBody }
    else if n = "table" then
      if b.hasInTableScope ["table"] then .again (b.popUntil ["table"]).resetMode else .done b
    else if ["style", "script", "template"].contains n then .done (b.headToken k)
    else if n = "input" then
      if isHiddenInput t then .done (b.addVoid t) else b.fosterToken k
    else if n = "form" then
      if b.inTemplateElement ∨ b.formKey.isSome then .done b
      else .done { b.addVoid t with formKey := some b.made }
    else b.fosterToken k
  | .endTag name =>
    if name = "table" then
      if b.hasInTableScope ["table"] then .done (b.popUntil ["table"]).resetMode else .done b
    else if name = "body" ∨ name = "html" ∨ tablePartNames.contains name then .done b
    else if name = "template" then .done (b.headToken k)
    else b.fosterToken k
  | .ending => b.inBody k

/-- A token after text in a table: the text goes in front of the table unless it is all white
space. -/
def inTableText (b : Builder) (k : Token) : Outcome :=
  match k with
  | .text cs => .done (if isNullRun cs then b else { b with tableText := cs :: b.tableText })
  | _ =>
    let runs := b.tableText.reverse
    let b := { b with tableText := [] }
    let b :=
      if runs.all isSpaceRun then runs.foldl addText b
      else runs.foldl (fun b cs => (b.fosterToken (.text cs)).builder) b
    .again { b with mode := b.returnMode }

/-- A token in the caption of a table. -/
def inCaption (b : Builder) (k : Token) : Outcome :=
  let ended := { (b.closeOptional.popUntil ["caption"]).clearFormats with mode := .inTable }
  let open_ := b.hasInTableScope ["caption"]
  match k with
  | .startTag t =>
    if tablePartNames.contains t.name then if open_ then .again ended else .done b
    else b.inBody k
  | .endTag name =>
    if name = "caption" then .done (if open_ then ended else b)
    else if name = "table" then if open_ then .again ended else .done b
    else if name = "body" ∨ name = "html" ∨ tablePartNames.contains name then .done b
    else b.inBody k
  | _ => b.inBody k

/-- A token in a group of columns. -/
def inColumnGroup (b : Builder) (k : Token) : Outcome :=
  let open_ := b.currentIn ["colgroup"]
  let ended := { b.pop with mode := .inTable }
  let other : Outcome := if open_ then .again ended else .done b
  match k with
  | .text cs => if isSpaceRun cs then .done (b.addText cs) else other
  | .comment s => .done (b.addComment s)
  | .doctype _ => .done b
  | .startTag t =>
    if t.name = "html" then .done (b.startRoot t)
    else if t.name = "col" then .done (b.addVoid t)
    else if t.name = "template" then .done (b.headToken k)
    else other
  | .endTag name =>
    if name = "colgroup" then .done (if open_ then ended else b)
    else if name = "col" then .done b
    else if name = "template" then .done (b.headToken k)
    else other
  | .ending => b.inBody k

/-- A token in a group of rows. -/
def inTableBody (b : Builder) (k : Token) : Outcome :=
  let context := b.popTo (rowGroupNames ++ ["template", "html"])
  let ended : Outcome :=
    if b.hasInTableScope rowGroupNames then .again { context.pop with mode := .inTable }
    else .done b
  match k with
  | .startTag t =>
    if t.name = "tr" then .done { context.openHtml t with mode := .inRow }
    else if cellNames.contains t.name then
      .again { context.openHtml { name := "tr" } with mode := .inRow }
    else if tablePartNames.contains t.name then ended
    else b.inTable k
  | .endTag name =>
    if rowGroupNames.contains name then
      if b.hasInTableScope [name] then .done { context.pop with mode := .inTable } else .done b
    else if name = "table" then ended
    else if name = "body" ∨ name = "html" ∨ tablePartNames.contains name then .done b
    else b.inTable k
  | _ => b.inTable k

/-- A token in a row. -/
def inRow (b : Builder) (k : Token) : Outcome :=
  let context := b.popTo ["tr", "template", "html"]
  let ended := { context.pop with mode := .inTableBody }
  let open_ := b.hasInTableScope ["tr"]
  match k with
  | .startTag t =>
    if cellNames.contains t.name then
      let b := context.openHtml t
      .done { b with mode := .inCell, formats := .marker :: b.formats }
    else if tablePartNames.contains t.name then if open_ then .again ended else .done b
    else b.inTable k
  | .endTag name =>
    if name = "tr" then .done (if open_ then ended else b)
    else if name = "table" then if open_ then .again ended else .done b
    else if rowGroupNames.contains name then
      if b.hasInTableScope [name] ∧ open_ then .again ended else .done b
    else if name = "body" ∨ name = "html" ∨ tablePartNames.contains name then .done b
    else b.inTable k
  | _ => b.inTable k

/-- Closes the open cell. -/
def closeCell (b : Builder) : Builder :=
  { (b.closeOptional.popUntil cellNames).clearFormats with mode := .inRow }

/-- A token in a cell. -/
def inCell (b : Builder) (k : Token) : Outcome :=
  match k with
  | .startTag t =>
    if tablePartNames.contains t.name then
      if b.hasInTableScope cellNames then .again b.closeCell else .done b
    else b.inBody k
  | .endTag name =>
    if cellNames.contains name then
      if b.hasInTableScope [name] then
        .done { (b.closeOptional.popUntil [name]).clearFormats with mode := .inRow }
      else .done b
    else if ["body", "caption", "col", "colgroup", "html"].contains name then .done b
    else if tableNames.contains name then
      if b.hasInTableScope [name] then .again b.closeCell else .done b
    else b.inBody k
  | _ => b.inBody k

/-- A token in a selection. -/
def inSelect (b : Builder) (k : Token) : Outcome :=
  let open_ := b.inScope Element.boundsSelectScope fun e => e.isHtml ["select"]
  let ended := (b.popUntil ["select"]).resetMode
  let afterOption := if b.currentIn ["option"] then b.pop else b
  match k with
  | .text cs => .done (if isNullRun cs then b else b.addText cs)
  | .comment s => .done (b.addComment s)
  | .doctype _ => .done b
  | .startTag t =>
    if t.name = "html" then .done (b.startRoot t)
    else if t.name = "option" then .done (afterOption.openHtml t)
    else if t.name = "optgroup" then
      .done ((if afterOption.currentIn ["optgroup"] then afterOption.pop else afterOption).openHtml t)
    else if t.name = "select" then .done (if open_ then ended else b)
    else if ["input", "keygen", "textarea"].contains t.name then
      if open_ then .again ended else .done b
    else if ["script", "template"].contains t.name then .done (b.headToken k)
    else .done b
  | .endTag name =>
    if name = "optgroup" then
      let outer := (b.stack.elements[1]?).map fun e => e.isHtml ["optgroup"]
      let b := if b.currentIn ["option"] && outer == some true then b.pop else b
      .done (if b.currentIn ["optgroup"] then b.pop else b)
    else if name = "option" then .done afterOption
    else if name = "select" then .done (if open_ then ended else b)
    else if name = "template" then .done (b.headToken k)
    else .done b
  | .ending => b.inBody k

/-- A token in a selection in a table. -/
def inSelectInTable (b : Builder) (k : Token) : Outcome :=
  let names := ["caption", "table", "tbody", "tfoot", "thead", "tr", "td", "th"]
  let ended := (b.popUntil ["select"]).resetMode
  match k with
  | .startTag t => if names.contains t.name then .again ended else b.inSelect k
  | .endTag name =>
    if names.contains name then if b.hasInTableScope [name] then .again ended else .done b
    else b.inSelect k
  | _ => b.inSelect k

/-- A token in a template. -/
def inTemplate (b : Builder) (k : Token) : Outcome :=
  let go (m : Mode) : Outcome :=
    .again { b with mode := m, templateModes := m :: b.templateModes.drop 1 }
  match k with
  | .startTag t =>
    if headNames.contains t.name then .done (b.headToken k)
    else if t.name = "caption" ∨ t.name = "colgroup" ∨ rowGroupNames.contains t.name then
      go .inTable
    else if t.name = "col" then go .inColumnGroup
    else if t.name = "tr" then go .inTableBody
    else if cellNames.contains t.name then go .inRow
    else go .inBody
  | .endTag name => .done (if name = "template" then b.headToken k else b)
  | .ending => b.inTemplateEnd
  | _ => b.inBody k

/-- A token after the body of a page. -/
def afterBody (b : Builder) (k : Token) : Outcome :=
  let other : Outcome := .again { b with mode := .inBody }
  match k with
  | .text cs => if isSpaceRun cs then b.inBody k else other
  | .comment s => .done (b.onStack fun st => st.addAtRootEnd (.comment s))
  | .doctype _ => .done b
  | .startTag t => if t.name = "html" then .done (b.startRoot t) else other
  | .endTag name => if name = "html" then .done { b with mode := .afterAfterBody } else other
  | .ending => .done b

/-- The white space of a run. -/
def addSpaceOnly (b : Builder) (cs : List Char) : Builder :=
  if isSpaceRun cs then b.addText cs else b

/-- A token in a frameset. -/
def inFrameset (b : Builder) (k : Token) : Outcome :=
  match k with
  | .text cs => .done (b.addSpaceOnly cs)
  | .comment s => .done (b.addComment s)
  | .startTag t =>
    if t.name = "html" then .done (b.startRoot t)
    else if t.name = "frameset" then .done (b.openHtml t)
    else if t.name = "frame" then .done (b.addVoid t)
    else if t.name = "noframes" then .done (b.headToken k)
    else .done b
  | .endTag name =>
    if name = "frameset" ∧ b.stack.elements.length > 1 then
      let b := b.pop
      .done (if b.currentIn ["frameset"] then b else { b with mode := .afterFrameset })
    else .done b
  | _ => .done b

/-- A token after a frameset. -/
def afterFrameset (b : Builder) (k : Token) : Outcome :=
  match k with
  | .text cs => .done (b.addSpaceOnly cs)
  | .comment s => .done (b.addComment s)
  | .startTag t =>
    if t.name = "html" then .done (b.startRoot t)
    else if t.name = "noframes" then .done (b.headToken k)
    else .done b
  | .endTag name =>
    .done (if name = "html" then { b with mode := .afterAfterFrameset } else b)
  | _ => .done b

/-- A token after the end of a page. -/
def afterAfterBody (b : Builder) (k : Token) : Outcome :=
  let other : Outcome := .again { b with mode := .inBody }
  match k with
  | .comment s => .done (b.onStack fun st => st.addAfterRoot (.comment s))
  | .doctype _ => .done b
  | .text cs => if isSpaceRun cs then b.inBody k else other
  | .startTag t => if t.name = "html" then .done (b.startRoot t) else other
  | .endTag _ => other
  | .ending => .done b

/-- A token after the end of a page with a frameset. -/
def afterAfterFrameset (b : Builder) (k : Token) : Outcome :=
  match k with
  | .comment s => .done (b.onStack fun st => st.addAfterRoot (.comment s))
  | .text cs => if isSpaceRun cs then b.inBody k else .done b
  | .startTag t =>
    if t.name = "html" then .done (b.startRoot t)
    else if t.name = "noframes" then .done (b.headToken k)
    else .done b
  | _ => .done b

/-- A token in the mode that holds. -/
def inMode (b : Builder) (k : Token) : Outcome :=
  match b.mode with
  | .initial => b.initial k
  | .beforeHtml => b.beforeHtml k
  | .beforeHead => b.beforeHead k
  | .inHead => b.inHead k
  | .afterHead => b.afterHead k
  | .inBody => b.inBody k
  | .text => b.inText k
  | .inTable => b.inTable k
  | .inTableText => b.inTableText k
  | .inCaption => b.inCaption k
  | .inColumnGroup => b.inColumnGroup k
  | .inTableBody => b.inTableBody k
  | .inRow => b.inRow k
  | .inCell => b.inCell k
  | .inSelect => b.inSelect k
  | .inSelectInTable => b.inSelectInTable k
  | .inTemplate => b.inTemplate k
  | .afterBody => b.afterBody k
  | .inFrameset => b.inFrameset k
  | .afterFrameset => b.afterFrameset k
  | .afterAfterBody => b.afterAfterBody k
  | .afterAfterFrameset => b.afterAfterFrameset k

/-! ## Outside HTML -/

/-- Whether a token is for an element outside HTML. -/
def isForeign (b : Builder) (k : Token) : Bool :=
  match b.stack.current? with
  | none => false
  | some e =>
    if e.space = .html then false
    else
      match k with
      | .ending => false
      | .text _ => !(e.holdsMathText || e.holdsHtml)
      | .startTag t =>
        !((e.holdsMathText && t.name ∉ ["mglyph", "malignmark"]) || e.holdsHtml ||
          (e.space = .mathml && e.name = "annotation-xml" && t.name = "svg"))
      | _ => true

/-- Closes elements outside HTML down to one that holds HTML. -/
def leaveForeign (b : Builder) : Builder :=
  let b := b.pop
  b.onStack fun s => s.popTo fun e => e.space = .html || e.holdsMathText || e.holdsHtml

/-- The depth of the element that an end tag outside HTML closes; `none` when an HTML element comes
first, which then decides. -/
def foreignEnd? (name : String) : List Element → Option (Option Element)
  | [] => some none
  | [_] => some none
  | e :: rest =>
    if e.space = .html then none
    else if Text.lowerAscii e.name = name then some (some e)
    else foreignEnd? name rest

/-- A token outside HTML. -/
def inForeign (b : Builder) (k : Token) : Outcome :=
  match k with
  | .text cs =>
    if isNullRun cs then .done (b.addText (cs.map fun _ => replacement))
    else
      let b := b.addText cs
      .done (if isSpaceRun cs then b else { b with framesetOk := false })
  | .comment s => .done (b.addComment s)
  | .startTag t =>
    let isFont := t.name = "font" ∧
      t.attributes.any fun a => ["color", "face", "size"].contains a.name
    if breakoutNames.contains t.name ∨ isFont then .again b.leaveForeign
    else .done (b.openForeign ((b.stack.current?.map Element.space).getD .svg) t)
  | .endTag name =>
    if name = "br" ∨ name = "p" then .again b.leaveForeign
    else
      match foreignEnd? name b.stack.elements with
      | none => b.inMode k
      | some none => .done b
      | some (some e) => .done (b.onStack fun s => s.popUntil fun f => f.key = e.key)
  | _ => .done b

/-- Takes a token through at most `n` modes. -/
def take : Nat → Token → Builder → Builder
  | 0, _, b => b
  | n + 1, k, b =>
    match if b.isForeign k then b.inForeign k else b.inMode k with
    | .done b => b
    | .again b => take n k b

/-- Takes a token. -/
def takeToken (b : Builder) (k : Token) : Builder :=
  take (b.stack.frames.length + b.templateModes.length + 30) k b

/-- The runs of a text: null characters, white space, and anything else. -/
def runs (cs : List Char) : List (List Char) :=
  cs.splitBy fun c d => isTagSpace c == isTagSpace d && (c.toNat == 0) == (d.toNat == 0)

/-- Takes a text, without a line feed that is to be dropped. -/
def takeText (b : Builder) (cs : List Char) : Builder :=
  let cs := match cs with
    | '\n' :: rest => if b.skipNewline then rest else cs
    | _ => cs
  (runs cs).foldl (fun b run => b.takeToken (.text run)) { b with skipNewline := false }

/-- Takes a token of the page text. -/
def takeAny (b : Builder) (k : Token) : Builder :=
  match k with
  | .text [] => b
  | .text cs => b.takeText cs
  | _ => { b with skipNewline := false }.takeToken k

/-- Builds a page from its text. -/
def build : Nat → List Char → Builder → Builder
  | 0, _, b => b
  | fuel + 1, cs, b =>
    let foreign := match b.stack.current? with
      | some e => e.space ≠ .html
      | none => false
    match nextToken? b.textMode foreign cs with
    | some (k, rest) => build fuel rest (b.takeAny k)
    | none => b

/-- The page of a text, read to its end. -/
def ofText (text : String) : Builder :=
  let cs := normalizedText text.toList
  (build (cs.length + 1) cs {}).takeToken .ending

end Builder

end PageGuard.Markup
