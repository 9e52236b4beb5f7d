import PageGuard.Markup.Entity
import PageGuard.Markup.Node
import PageGuard.Text.Blank

/-!
# Tokens of a page text

A page text is a sequence of tags, texts, comments and document types.  How it is cut depends on
the element that is open: inside some elements everything up to their end tag is text.

`nextToken?` gives the first token of a text and the text after it.
-/

namespace PageGuard.Markup

open Text

/-- A start tag. -/
structure Tag where
  name : String
  attributes : List Attribute := []
  selfClosing : Bool := false
deriving DecidableEq, Inhabited

/-- A document type. -/
structure Doctype where
  name : String
  publicId : Option String
  systemId : Option String
  forceLegacy : Bool
deriving DecidableEq, Inhabited

/-- A token. -/
inductive Token where
  | startTag (t : Tag)
  | endTag (name : String)
  | text (cs : List Char)
  | comment (s : String)
  | doctype (d : Doctype)
  | ending
deriving DecidableEq, Inhabited

/-- How text is cut into tokens. -/
inductive TextMode where
  /-- Markup. -/
  | markup
  /-- Text with references up to the end tag of this name. -/
  | references (name : String)
  /-- Text up to the end tag of this name. -/
  | raw (name : String)
  /-- The text of a script, in which comments may hide the end tag. -/
  | script
  /-- Text up to the end of the page. -/
  | plaintext
deriving DecidableEq, Inhabited

/-- White space of tags and between tokens. -/
def isTagSpace (c : Char) : Bool :=
  c == ' ' || c == '\n' || c == '\t' || c.toNat == 12 || c == '\r'

/-- A text with its null characters replaced. -/
def withoutNulls (cs : List Char) : List Char :=
  cs.map fun c => if c.toNat = 0 then replacement else c

/-! ## Tags -/

/-- A character that ends the name of a tag. -/
def endsTagName (c : Char) : Bool := isTagSpace c || c == '/' || c == '>'

/-- The name of a tag or attribute as it is known. -/
def tagName (cs : List Char) : String := .ofList ((withoutNulls cs).map asciiLower)

/-- Adds an attribute, unless there is one of its name. -/
def addAttribute (attributes : List Attribute) (name value : String) : List Attribute :=
  if attributes.any fun a => a.name = name then attributes
  else attributes ++ [⟨.plain, name, value⟩]

/-- Reads the value of an attribute after its equals sign and white space. -/
def readAttributeValue? (cs : List Char) : Option (List Char × List Char) :=
  match cs with
  | [] => none
  | c :: rest =>
    if c = '"' ∨ c = '\'' then
      let value := rest.takeWhile (· ≠ c)
      match rest.drop value.length with
      | _ :: after => some (value, after)
      | [] => none
    else if c = '>' then some ([], cs)
    else
      let value := cs.takeWhile fun c => !(isTagSpace c || c == '>')
      some (value, cs.drop value.length)

/-- Reads the attributes of a tag and its closing angle; fails when the text ends inside the
tag. -/
def readAttributes? : Nat → List Attribute → List Char →
    Option (List Attribute × Bool × List Char)
  | 0, _, _ => none
  | fuel + 1, attributes, cs =>
    match cs.dropWhile isTagSpace with
    | [] => none
    | '>' :: rest => some (attributes, false, rest)
    | '/' :: '>' :: rest => some (attributes, true, rest)
    | '/' :: rest => readAttributes? fuel attributes rest
    | c :: rest =>
      -- An equals sign may only begin a name.
      let more := rest.takeWhile fun c => !(endsTagName c || c == '=')
      let name := tagName (c :: more)
      let after := (rest.drop more.length).dropWhile isTagSpace
      match after with
      | '=' :: rest => do
        let (value, rest) ← readAttributeValue? (rest.dropWhile isTagSpace)
        let value := String.ofList (decoded true (withoutNulls value))
        readAttributes? fuel (addAttribute attributes name value) rest
      | _ => readAttributes? fuel (addAttribute attributes name "") after

/-- Reads a tag from its name on. -/
def readTag? (cs : List Char) : Option (Tag × List Char) := do
  let name := cs.takeWhile fun c => !endsTagName c
  let (attributes, selfClosing, rest) ←
    readAttributes? (cs.length + 1) [] (cs.drop name.length)
  return ({ name := tagName name, attributes, selfClosing }, rest)

/-! ## Comments and document types -/

/-- The text of a comment and the text after it.  A comment ends at `-->` or `--!>`, or at the end
of the page, where the beginning of such an end is dropped. -/
def commentBody : List Char → List Char × List Char
  | '-' :: '-' :: '>' :: rest => ([], rest)
  | '-' :: '-' :: '!' :: '>' :: rest => ([], rest)
  | ['-', '-', '!'] => ([], [])
  | ['-', '-'] => ([], [])
  | ['-'] => ([], [])
  | [] => ([], [])
  | c :: rest =>
    let (body, after) := commentBody rest
    (c :: body, after)

/-- Reads a comment after its opening. -/
def readComment (cs : List Char) : List Char × List Char :=
  match cs with
  | '>' :: rest => ([], rest)
  | '-' :: '>' :: rest => ([], rest)
  | _ => commentBody cs

/-- Reads what is taken for a comment up to an angle. -/
def readBogusComment (cs : List Char) : List Char × List Char :=
  (cs.takeWhile (· ≠ '>'), (cs.dropWhile (· ≠ '>')).drop 1)

/-- Whether a text begins with a word, whatever its letter case. -/
def startsIgnoringCase (word : List Char) (cs : List Char) : Bool :=
  eqIgnoringCase word (cs.take word.length)

/-- Reads a quoted identifier of a document type; the flag tells whether it is closed. -/
def readIdentifier? (cs : List Char) : Option (List Char × List Char × Bool) :=
  match cs with
  | c :: rest =>
    if c = '"' ∨ c = '\'' then
      let value := rest.takeWhile fun d => d ≠ c && d ≠ '>'
      match rest.drop value.length with
      | d :: after => if d = c then some (value, after, true) else some (value, d :: after, false)
      | [] => some (value, [], false)
    else none
  | [] => none

/-- The text after the angle that closes a document type. -/
def afterAngle (cs : List Char) : List Char := (cs.dropWhile (· ≠ '>')).drop 1

/-- Reads a system identifier, if there is one, and the rest of a document type. -/
def readSystem (name : String) (publicId : Option String) (cs : List Char) (required : Bool) :
    Doctype × List Char :=
  match readIdentifier? (cs.dropWhile isTagSpace) with
  | some (value, rest, closed) =>
    let ended := (rest.dropWhile isTagSpace).isEmpty
    (⟨name, publicId, some (.ofList (withoutNulls value)), !closed || ended⟩, afterAngle rest)
  | none =>
    let plain := (cs.dropWhile isTagSpace).head? == some '>'
    (⟨name, publicId, none, required || !plain⟩, afterAngle cs)

/-- Reads a document type after its keyword. -/
def readDoctype (cs : List Char) : Doctype × List Char :=
  let cs := cs.dropWhile isTagSpace
  let word := cs.takeWhile fun c => !(isTagSpace c || c == '>')
  let name := tagName word
  let rest := (cs.drop word.length).dropWhile isTagSpace
  match rest with
  | '>' :: after => (⟨name, none, none, word.isEmpty⟩, after)
  | [] => (⟨name, none, none, true⟩, [])
  | _ =>
    if startsIgnoringCase "public".toList rest then
      match readIdentifier? ((rest.drop 6).dropWhile isTagSpace) with
      | some (value, rest, closed) =>
        let publicId := some (String.ofList (withoutNulls value))
        if closed then readSystem name publicId rest false
        else (⟨name, publicId, none, true⟩, afterAngle rest)
      | none => (⟨name, none, none, true⟩, afterAngle rest)
    else if startsIgnoringCase "system".toList rest then readSystem name none (rest.drop 6) true
    else (⟨name, none, none, true⟩, afterAngle rest)

/-- Reads a declaration after its exclamation mark. -/
def readDeclaration (inForeign : Bool) (cs : List Char) : Token × List Char :=
  match cs with
  | '-' :: '-' :: rest =>
    let (body, after) := readComment rest
    (.comment (.ofList (withoutNulls body)), after)
  | _ =>
    if startsIgnoringCase "doctype".toList cs then
      let (d, after) := readDoctype (cs.drop 7)
      (.doctype d, after)
    else if inForeign && "[CDATA[".toList.isPrefixOf cs then
      let rest := cs.drop 7
      let rec body : List Char → List Char × List Char
        | ']' :: ']' :: '>' :: after => ([], after)
        | [] => ([], [])
        | c :: rest =>
          let (b, after) := body rest
          (c :: b, after)
      let (b, after) := body rest
      (.text b, after)
    else
      let (body, after) := readBogusComment cs
      (.comment (.ofList (withoutNulls body)), after)

/-! ## Text -/

/-- Whether the end tag of a name stands at the start of a text. -/
def atEndTag (name : List Char) : List Char → Bool
  | '<' :: '/' :: rest =>
    startsIgnoringCase name rest &&
      match rest.drop name.length with
      | c :: _ => endsTagName c
      | [] => false
  | _ => false

/-- The text before the end tag of a name. -/
def beforeEndTag (name : List Char) : List Char → List Char
  | [] => []
  | c :: rest => if atEndTag name (c :: rest) then [] else c :: beforeEndTag name rest

/-- Where the text of a script stands. -/
inductive ScriptPlace where
  | plain
  /-- Inside a comment. -/
  | escaped
  /-- Inside a script start tag inside a comment, where the end tag ends only the inner script. -/
  | doubleEscaped
deriving DecidableEq

/-- Whether a start tag of a script stands at the start of a text. -/
def atScriptStart : List Char → Bool
  | '<' :: rest =>
    startsIgnoringCase "script".toList rest &&
      match rest.drop 6 with
      | c :: _ => endsTagName c
      | [] => false
  | _ => false

/-- The number of characters of a script before its end tag.  `pass` characters more belong to the
opening of a comment. -/
def scriptLength (place : ScriptPlace) (pass : Nat) : List Char → Nat
  | [] => 0
  | c :: rest =>
    let cs := c :: rest
    if pass > 0 then scriptLength place (pass - 1) rest + 1
    else
      match place with
      | .plain =>
        if atEndTag "script".toList cs then 0
        -- The hyphens of the opening may also be those of the end of the comment.
        else if "<!--".toList.isPrefixOf cs then scriptLength .escaped 1 rest + 1
        else scriptLength .plain 0 rest + 1
      | .escaped =>
        if atEndTag "script".toList cs then 0
        else if atScriptStart cs then scriptLength .doubleEscaped 0 rest + 1
        else if "-->".toList.isPrefixOf cs then scriptLength .plain 2 rest + 1
        else scriptLength .escaped 0 rest + 1
      | .doubleEscaped =>
        if atEndTag "script".toList cs then scriptLength .escaped 1 rest + 1
        else if "-->".toList.isPrefixOf cs then scriptLength .plain 2 rest + 1
        else scriptLength .doubleEscaped 0 rest + 1

/-- Reads the tag, comment or text that a less-than sign opens; `cs` is the text after the
sign. -/
def readAngle? (inForeign : Bool) (cs : List Char) : Option (Token × List Char) :=
  match cs with
  | '!' :: rest => some (readDeclaration inForeign rest)
  | '?' :: _ =>
    let (body, after) := readBogusComment cs
    some (.comment (.ofList (withoutNulls body)), after)
  | '/' :: [] => some (.text ['<', '/'], [])
  | '/' :: c :: rest =>
    if isAsciiLetter c then
      match readTag? (c :: rest) with
      | some (t, after) => some (.endTag t.name, after)
      | none => none
    else if c = '>' then some (.text [], rest)
    else
      let (body, after) := readBogusComment (c :: rest)
      some (.comment (.ofList (withoutNulls body)), after)
  | c :: rest =>
    if isAsciiLetter c then
      match readTag? (c :: rest) with
      | some (t, after) => some (.startTag t, after)
      | none => none
    else some (.text ['<'], cs)
  | [] => some (.text ['<'], [])

/-- The first token of a text and the text after it; absent at the end.  A tag that the end of the
text cuts off is dropped. -/
def nextToken? (mode : TextMode) (inForeign : Bool) (cs : List Char) :
    Option (Token × List Char) :=
  match cs with
  | [] => none
  | c :: rest =>
    match mode with
    | .markup =>
      if c = '<' then readAngle? inForeign rest
      else if c = '&' then
        let (v, after) := readReference false rest
        some (.text v, after)
      else
        let run := cs.takeWhile fun c => c ≠ '<' && c ≠ '&'
        some (.text run, cs.drop run.length)
    | .references name =>
      let body := beforeEndTag name.toList cs
      if body.isEmpty then readAngle? inForeign rest
      else some (.text (decoded false (withoutNulls body)), cs.drop body.length)
    | .raw name =>
      let body := beforeEndTag name.toList cs
      if body.isEmpty then readAngle? inForeign rest
      else some (.text (withoutNulls body), cs.drop body.length)
    | .script =>
      let n := scriptLength .plain 0 cs
      if n = 0 then readAngle? inForeign rest
      else some (.text (withoutNulls (cs.take n)), cs.drop n)
    | .plaintext => some (.text (withoutNulls cs), [])

/-- A page text with its line ends made line feeds, and without a byte order mark. -/
def normalizedText (cs : List Char) : List Char :=
  let cs := match cs with
    | c :: rest => if c.toNat = 0xFEFF then rest else cs
    | [] => []
  go cs
where
  /-- Makes line feeds of carriage returns. -/
  go : List Char → List Char
    | '\r' :: '\n' :: rest => '\n' :: go rest
    | '\r' :: rest => '\n' :: go rest
    | c :: rest => c :: go rest
    | [] => []

end PageGuard.Markup
