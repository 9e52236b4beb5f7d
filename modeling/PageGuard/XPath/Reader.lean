import PageGuard.Text.Blank
import PageGuard.XPath.Basic

/-!
# Reading location paths

`Path.ofText` reads a path or tells why a text is none.
-/

namespace PageGuard.XPath

open Text

/-- Why a text is no location path. -/
inductive PathError where
  | notAbsolute
  | expectedSlash (rest : String)
  | emptyStep
  | nodeTest (name : String)
  | unterminated
  | zeroPosition
  | containsArguments (text : String)
  | unsupportedPredicate (text : String)
  | unsupportedExpression (text : String)
  | notLiteral (text : String)
deriving DecidableEq, Inhabited

/-- The text of an error. -/
def PathError.message : PathError → String
  | .notAbsolute => "only absolute location paths are supported"
  | .expectedSlash rest => "expected '/' at '" ++ rest ++ "'"
  | .emptyStep => "empty step"
  | .nodeTest name => "unsupported node test '" ++ name ++ "'"
  | .unterminated => "unterminated predicate"
  | .zeroPosition => "positions start at 1"
  | .containsArguments text => "contains() needs two arguments: " ++ text
  | .unsupportedPredicate text => "unsupported predicate '" ++ text ++ "'"
  | .unsupportedExpression text => "unsupported expression '" ++ text ++ "'"
  | .notLiteral text => "expected a string literal, got '" ++ text ++ "'"

/-! ## Predicates -/

/-- One more than the greatest number that counts as a position. -/
def positionBound : Nat := UInt64.size

/-- The number that a text writes in decimal digits, after at most one plus sign. -/
def number? (cs : List Char) : Option Nat :=
  let digits := match cs with
    | '+' :: rest => rest
    | _ => cs
  if digits.isEmpty || !digits.all isAsciiDigit then none
  else if decimalValue digits < positionBound then some (decimalValue digits)
  else none

/-- The subject that a text names. -/
def readSubject (cs : List Char) : Except PathError Subject :=
  if cs = "text()".toList then .ok .ownText
  else if cs = ['.'] then .ok .fullText
  else
    match cs with
    | '@' :: c :: rest => .ok (.attr (.ofList ((c :: rest).map asciiLower)))
    | _ => .error (.unsupportedExpression (.ofList cs))

/-- Whether a text starts and ends with this quote. -/
def isQuotedBy (quote : Char) (cs : List Char) : Bool :=
  cs.head? = some quote && cs.getLast? = some quote

/-- The text between quotes. -/
def readLiteral (cs : List Char) : Except PathError String :=
  if 2 ≤ cs.length ∧ (isQuotedBy '\'' cs ∨ isQuotedBy '"' cs) then
    .ok (.ofList (cs.drop 1).dropLast)
  else .error (.notLiteral (.ofList cs))

/-- The arguments of `contains(…)`. -/
def containsArguments? (cs : List Char) : Option (List Char) :=
  (afterStart? "contains(".toList cs).bind (beforeEnd? [')'])

/-- The predicate that the text between brackets writes. -/
def readPredicate (cs : List Char) : Except PathError Predicate :=
  match number? cs with
  | some 0 => .error .zeroPosition
  | some n => .ok (.position n)
  | none =>
    match containsArguments? cs with
    | some arguments =>
      match splitAtFirst? ',' arguments with
      | none => .error (.containsArguments (.ofList cs))
      | some (subject, literal) => do
        return .contains (← readSubject (trim subject)) (← readLiteral (trim literal))
    | none =>
      match splitAtFirst? '=' cs with
      | some (subject, literal) => do
        return .equals (← readSubject (trim subject)) (← readLiteral (trim literal))
      | none => do
        match ← readSubject cs with
        | .attr name => return .present name
        | _ => .error (.unsupportedPredicate (.ofList cs))

/-- The text up to the bracket that closes a predicate, and the text after it.  Brackets between
quotes do not count; `quote` is the open quote. -/
def splitPredicate? (quote : Option Char) : List Char → Option (List Char × List Char)
  | [] => none
  | c :: rest =>
    match quote with
    | some q =>
      (splitPredicate? (if c = q then none else quote) rest).map fun (body, rest) =>
        (c :: body, rest)
    | none =>
      if c = ']' then some ([], rest)
      else
        (splitPredicate? (if c = '\'' ∨ c = '"' then some c else none) rest).map fun (body, rest) =>
          (c :: body, rest)

/-- The predicates at the start of a text, at most `n`. -/
def readPredicates : Nat → List Char → Except PathError (List Predicate × List Char)
  | 0, cs => .ok ([], cs)
  | n + 1, cs =>
    match cs with
    | '[' :: inner => do
      match splitPredicate? none inner with
      | none => .error .unterminated
      | some (body, rest) => do
        let p ← readPredicate (trim body)
        let (ps, rest) ← readPredicates n rest
        return (p :: ps, rest)
    | _ => .ok ([], cs)

/-! ## Steps -/

/-- The axis at the start of a text. -/
def readAxis : List Char → Except PathError (Axis × List Char)
  | '/' :: '/' :: rest => .ok (.descendant, rest)
  | '/' :: rest => .ok (.child, rest)
  | cs => .error (.expectedSlash (.ofList cs))

/-- A character that ends the name of a step. -/
def endsName (c : Char) : Bool := c == '[' || c == '/'

/-- A character of a name. -/
def isNameChar (c : Char) : Bool := isAsciiAlnum c || c == '-' || c == '_'

/-- The name test that a text writes. -/
def readTest (cs : List Char) : Except PathError (Option String) :=
  if cs = [] then .error .emptyStep
  else if cs = ['*'] then .ok none
  else if cs.all isNameChar then .ok (some (.ofList (cs.map asciiLower)))
  else .error (.nodeTest (.ofList cs))

/-- The step at the start of a text. -/
def readStep (cs : List Char) : Except PathError (Step × List Char) := do
  let (axis, rest) ← readAxis cs
  let name ← readTest (trim (rest.takeWhile fun c => !endsName c))
  let rest := rest.dropWhile fun c => !endsName c
  let (predicates, rest) ← readPredicates rest.length rest
  return (⟨axis, name, predicates⟩, rest)

/-- The steps of a text, at most `n`. -/
def readSteps : Nat → List Char → Except PathError Path
  | 0, _ => .ok []
  | n + 1, cs =>
    if cs.isEmpty then .ok []
    else do
      let (s, rest) ← readStep cs
      return s :: (← readSteps n rest)

/-- The path that a text writes. -/
def Path.ofText (text : String) : Except PathError Path :=
  let cs := trim text.toList
  if cs.head? = some '/' then readSteps cs.length cs else .error .notAbsolute

end PageGuard.XPath
