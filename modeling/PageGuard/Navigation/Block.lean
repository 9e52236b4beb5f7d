import PageGuard.Json.Reader
import PageGuard.Rules.Codec

/-!
# Block candidates, reports and messages

A scam or phishing hit on a page is a candidate for blocking it.  The candidates of a navigation
are reported to the background in a message, and a navigation without candidates reports that
there is nothing to block.

Each message has a text that writes it and a function that reads it back.
-/

namespace PageGuard

open Json

/-- A candidate for blocking a page. -/
structure Block where
  /-- Host of the page on which the rule matched. -/
  domain : String
  silent : Bool
  type : RuleType
  /-- Selector that produced the hit. -/
  source : String
  id : Option String
  aggressive : Bool
deriving DecidableEq, Inhabited

namespace Block

/-- The names of the fields of a candidate. -/
def fieldNames : List String := ["domain", "isSilent", "type", "source", "id", "isAggressiveMode"]

/-- The value of a candidate. -/
def toValue (b : Block) : Value :=
  .object [
    ("domain", .string b.domain),
    ("isSilent", .bool b.silent),
    ("type", b.type.toValue),
    ("source", .string b.source),
    ("id", Value.ofOption (b.id.map .string)),
    ("isAggressiveMode", .bool b.aggressive)]

/-- The candidate that a value writes. -/
def ofValue? (v : Value) : Option Block := do
  match ← fieldValues? fieldNames v with
  | [domain, silent, type, source, id, aggressive] =>
    return {
      domain := ← required? Value.string? domain
      silent := ← required? Value.bool? silent
      type := ← required? RuleType.ofValue? type
      source := ← required? Value.string? source
      id := ← withDefault? none (nullable? Value.string?) id
      aggressive := ← withDefault? false Value.bool? aggressive }
  | _ => none

end Block

/-! ## Messages -/

/-- A message between the page and the background. -/
inductive Message where
  /-- Asks for the database. -/
  | getDatabase
  /-- Sends candidates. -/
  | urlsToBlock (blocks : List Block)
deriving DecidableEq, Inhabited

namespace Message

/-- The name of a request for the database. -/
def getDatabaseName : String := "MSG_GET_HEURISTICS_DATABASE"

/-- The name of a message with candidates. -/
def urlsToBlockName : String := "MSG_GET_HEURISTICS_URLS_TO_BLOCK"

/-- The name of the one field of a message with candidates. -/
def blocksField : String := "heuristicsUrlsToBlockArray"

/-- The name of the kind of a message. -/
def typeName : Message → String
  | .getDatabase => getDatabaseName
  | .urlsToBlock _ => urlsToBlockName

/-- The value of a message. -/
def toValue : Message → Value
  | .getDatabase => .object [("type", .string getDatabaseName)]
  | .urlsToBlock blocks =>
    .object [("type", .string urlsToBlockName), (blocksField, .array (blocks.map Block.toValue))]

/-- The name of the kind of a message and the value of its other fields.  In an array the name
comes first. -/
def tagged? : Value → Option (String × Value)
  | .object members => do
    if repeated "type" members then none
    let tag ← (lookup? "type" members).bind Value.string?
    return (tag, .object (members.filter fun m => m.1 ≠ "type"))
  | .array (.string tag :: rest) => some (tag, .array rest)
  | _ => none

/-- The message that a value writes. -/
def ofValue? (v : Value) : Option Message := do
  let (tag, content) ← tagged? v
  if tag = getDatabaseName then
    match content with
    | .array (_ :: _) => none
    | _ => return .getDatabase
  else if tag = urlsToBlockName then
    match ← fieldValues? [blocksField] content with
    | [blocks] => return .urlsToBlock (← required? (listOf? Block.ofValue?) blocks)
    | _ => none
  else none

/-- The text of a message. -/
def toText (m : Message) : String := m.toValue.compact

/-- The message that a text writes. -/
def ofText? (text : String) : Option Message := (Value.ofText? text).bind ofValue?

end Message

/-! ## Reports -/

/-- The candidates of one navigation, in order. -/
inductive Report where
  | urls (blocks : List Block)
  | nothingToBlock
deriving DecidableEq, Inhabited

namespace Report

/-- What a report without candidates says. -/
def nothingText : String := "Nothing to block"

/-- The report of a list of candidates. -/
def ofBlocks : List Block → Report
  | [] => .nothingToBlock
  | blocks => .urls blocks

/-- The candidates of a report. -/
def blocks : Report → List Block
  | .urls blocks => blocks
  | .nothingToBlock => []

/-- The message that sends a report, if there is anything to send. -/
def message? : Report → Option Message
  | .urls blocks => some (.urlsToBlock blocks)
  | .nothingToBlock => none

/-- The value of a report. -/
def toValue : Report → Value
  | .urls blocks => .array (blocks.map Block.toValue)
  | .nothingToBlock => .string nothingText

end Report

end PageGuard
