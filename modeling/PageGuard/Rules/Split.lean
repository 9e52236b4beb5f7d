import PageGuard.Rules.Basic
import PageGuard.Text.Search

/-!
# Splitting the text of a rule

A rule is cut at the first place where one of the separators stands.  A text with a line feed is
no rule.
-/

namespace PageGuard

open Text

/-- Why a record adds nothing to a database. -/
inductive RuleIssue where
  | invalidRecord (reason : String)
  | noSeparator (text : String)
  | emptySelector (text : String)
deriving DecidableEq

namespace RuleIssue

/-- The name under which issues of this kind are counted. -/
def kind : RuleIssue → String
  | .invalidRecord _ => "invalid_record"
  | .noSeparator _ => "no_separator"
  | .emptySelector _ => "empty_selector"

/-- The text of an issue. -/
def message : RuleIssue → String
  | .invalidRecord reason => "Invalid record: " ++ reason
  | .noSeparator text => "No selector separator in rule '" ++ text ++ "'"
  | .emptySelector text => "Empty selector in rule '" ++ text ++ "'"

end RuleIssue

/-- The parts of the text of a rule. -/
structure RuleParts where
  /-- Domain pattern, `*` when the text has none. -/
  domain : String
  kind : SelectorKind
  selector : String
deriving DecidableEq

/-- The separator at the start of a text, and what follows it. -/
def separatorAt? (cs : List Char) : Option (SelectorKind × List Char) :=
  match afterStart? SelectorKind.extended.token.toList cs with
  | some rest => some (.extended, rest)
  | none =>
    match afterStart? SelectorKind.hide.token.toList cs with
    | some rest => some (.hide, rest)
    | none => none

/-- The text before the first separator, the separator and the text after it. -/
def firstSeparator? : List Char → Option (List Char × SelectorKind × List Char)
  | [] => none
  | c :: cs =>
    match separatorAt? (c :: cs) with
    | some (kind, rest) => some ([], kind, rest)
    | none => (firstSeparator? cs).map fun (before, kind, rest) => (c :: before, kind, rest)

/-- Cuts the text of a rule at its first separator. -/
def splitRule (text : String) : Except RuleIssue RuleParts :=
  if '\n' ∈ text.toList then .error (.noSeparator text)
  else
    match firstSeparator? text.toList with
    | none => .error (.noSeparator text)
    | some (_, _, []) => .error (.emptySelector text)
    | some (domain, kind, selector) =>
      .ok {
        domain := if domain.isEmpty then "*" else .ofList domain
        kind
        selector := .ofList selector }

end PageGuard
