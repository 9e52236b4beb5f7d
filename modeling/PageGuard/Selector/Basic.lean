import PageGuard.Pattern
import PageGuard.Text.Blank
import PageGuard.Text.Search

/-!
# Selector chains

A selector is a chain of stages.  The first stage finds elements and each later one narrows them.
A plain stage is CSS or a pattern for the text of elements, and may act on what it matches; the
other stages come from operators such as `:has-text(…)`.
-/

namespace PageGuard

/-- What an acting stage does with each element. -/
inductive Action where
  | click
  | remove
deriving DecidableEq, Inhabited

/-- What a plain stage matches. -/
inductive Target where
  /-- A CSS selector. -/
  | css (text : String)
  /-- A pattern for the text content of elements. -/
  | textMatch (pattern : Pattern)
deriving DecidableEq

/-- One stage of a chain. -/
inductive Stage where
  | plain (target : Target) (action : Option Action)
  | contains (text : String) (pattern : Pattern)
  | has (chain : List Stage)
  | not (chain : List Stage)
  | properties (declarations : String)
  | xpath (expression : String)

/-- A chain of stages. -/
abbrev Chain := List Stage

instance : Inhabited Stage := ⟨.xpath ""⟩

/-- Why a text is no selector. -/
inductive SelectorError where
  | empty
  /-- A parenthesis without partner, by its byte offset. -/
  | unbalanced (offset : Nat)
  | emptyArgument (operator : String)
  | invalidRegex (pattern : String)
  | danglingAction (operator : String)
deriving DecidableEq, Inhabited

/-- The text of an error; what is wrong with a pattern is not told. -/
def SelectorError.message : SelectorError → String
  | .empty => "Empty selector"
  | .unbalanced offset => "Unbalanced parentheses at offset " ++ toString offset
  | .emptyArgument operator => "Operator '" ++ operator ++ "' requires an argument"
  | .invalidRegex pattern => "Invalid regex '" ++ pattern ++ "': "
  | .danglingAction operator => "Action '" ++ operator ++ "' must follow a plain selector"

/-- What an operator adds to a chain. -/
inductive Operator where
  | contains
  | has
  | not
  | properties
  | xpath
  | act (action : Action)
deriving DecidableEq

/-- The operators by the text that opens them.  None of these texts begins another one. -/
def operators : List (String × Operator) := [
  (":has-text(", .contains),
  (":-abp-contains(", .contains),
  (":contains(", .contains),
  (":-abp-has(", .has),
  (":has(", .has),
  (":not(", .not),
  (":matches-css(", .properties),
  (":-abp-properties(", .properties),
  (":xpath(", .xpath),
  (":remove(", .act .remove),
  (":click(", .act .click)]

/-- The operator that opens at the start of a text. -/
def operatorAt? (cs : List Char) : Option (String × Operator) :=
  operators.find? fun m => m.1.toList.isPrefixOf cs

/-- The name of an operator: its opening text without the colon and the parenthesis. -/
def operatorName (marker : String) : String := .ofList (marker.toList.drop 1).dropLast

/-- A plain CSS stage without action. -/
def Stage.css (text : String) : Stage := .plain (.css text) none

/-- The name of the kind of a stage. -/
def Stage.kind : Stage → String
  | .plain .. => "plain"
  | .contains .. => "contains"
  | .has _ => "has"
  | .not _ => "not"
  | .properties _ => "properties"
  | .xpath _ => "xpath"

/-! ## Text of a chain -/

/-- The text of an action. -/
def Action.render : Action → List Char
  | .click => ":click()".toList
  | .remove => ":remove()".toList

/-- The text of a target. -/
def Target.render : Target → List Char
  | .css text => text.toList
  | .textMatch pattern => '/' :: pattern.source.toList ++ ['/']

mutual

/-- The text of a stage. -/
def Stage.render : Stage → List Char
  | .plain target action => target.render ++ (action.map Action.render).getD []
  | .contains text _ => ":has-text(".toList ++ text.toList ++ [')']
  | .has chain => ":has(".toList ++ Stage.renderChain chain ++ [')']
  | .not chain => ":not(".toList ++ Stage.renderChain chain ++ [')']
  | .properties declarations => ":matches-css(".toList ++ declarations.toList ++ [')']
  | .xpath expression => ":xpath(".toList ++ expression.toList ++ [')']

/-- The text of a chain: the texts of its stages. -/
def Stage.renderChain : List Stage → List Char
  | [] => []
  | s :: rest => s.render ++ Stage.renderChain rest

end

/-- The text of a stage as a string. -/
def Stage.toText (s : Stage) : String := .ofList s.render

mutual

/-- Whether a stage acts, at any depth. -/
def Stage.acts : Stage → Bool
  | .plain _ action => action.isSome
  | .has chain => Stage.anyActs chain
  | .not chain => Stage.anyActs chain
  | _ => false

/-- Whether a stage of a chain acts, at any depth. -/
def Stage.anyActs : List Stage → Bool
  | [] => false
  | s :: rest => s.acts || Stage.anyActs rest

end

end PageGuard
