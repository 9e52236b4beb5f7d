import PageGuard.Css.Selector

/-!
# Reading CSS selectors

`Css.ofText?` reads a list of selectors.  Any part that is not understood makes the whole text no
list of selectors.  The end of the text closes what is open.
-/

namespace PageGuard.Css

open Text

/-- Skips white space. -/
def skipSpace : List Token → List Token
  | .space :: rest => skipSpace rest
  | ts => ts

/-! ## Types and attributes -/

/-- Reads what follows the mark of a namespace. -/
def readLocal? : List Token → Option (Simple × List Token)
  | .ident name :: rest => some (.type name, rest)
  | .delim '*' :: rest => some (.universal, rest)
  | _ => none

/-- Reads the type selector at the start of a compound selector, if there is one.  No namespace
prefix is ever declared. -/
def readType? : List Token → Option (List Simple × List Token)
  | .ident _ :: .delim '|' :: _ => none
  | .ident name :: rest => some ([.type name], rest)
  | .delim '*' :: .delim '|' :: rest => (readLocal? rest).map fun (s, rest) => ([s], rest)
  | .delim '*' :: rest => some ([.universal], rest)
  | .delim '|' :: rest => (readLocal? rest).map fun (s, rest) => ([.noNamespace, s], rest)
  | rest => some ([], rest)

/-- Reads the name of an attribute and whether its namespace is free. -/
def readAttributeName? : List Token → Option (Bool × String × List Token)
  | .ident _ :: .delim '|' :: _ => none
  | .ident name :: rest => some (false, name, rest)
  | .delim '*' :: .delim '|' :: .ident name :: rest => some (true, name, rest)
  | .delim '|' :: .ident name :: rest => some (false, name, rest)
  | _ => none

/-- The closing bracket, or the end of the text. -/
def closeBracket? (ts : List Token) : Option (List Token) :=
  match skipSpace ts with
  | [] => some []
  | .closeBracket :: rest => some rest
  | _ => none

/-- The closing parenthesis, or the end of the text. -/
def closeParen? (ts : List Token) : Option (List Token) :=
  match skipSpace ts with
  | [] => some []
  | .closeParen :: rest => some rest
  | _ => none

/-- The case rule of an attribute that does not name one. -/
def defaultCase (anySpace : Bool) (name : String) : CaseRule :=
  if !anySpace && caselessAttributes.contains (lowerAscii name) then .ignoredInHtml else .exact

/-- Reads a case flag and the closing bracket. -/
def readCase? (default : CaseRule) (ts : List Token) : Option (CaseRule × List Token) :=
  match skipSpace ts with
  | .ident flag :: rest =>
    let flag := lowerAscii flag
    if flag = "i" then (closeBracket? rest).map (CaseRule.ignored, ·)
    else if flag = "s" then (closeBracket? rest).map (CaseRule.exact, ·)
    else none
  | ts => (closeBracket? ts).map (default, ·)

/-- Reads the comparison of an attribute selector. -/
def readComparison? : List Token → Option (Comparison × List Token)
  | .delim '=' :: rest => some (.equals, rest)
  | .test op :: rest => some (.test op, rest)
  | _ => none

/-- Reads an attribute selector after its opening bracket. -/
def readAttribute? (ts : List Token) : Option (Simple × List Token) := do
  let (anySpace, name, rest) ← readAttributeName? (skipSpace ts)
  match closeBracket? rest with
  | some rest => return (.attr anySpace name .present, rest)
  | none =>
    let (comparison, rest) ← readComparison? (skipSpace rest)
    match skipSpace rest with
    | .ident value :: rest | .string value :: rest =>
      let (case, rest) ← readCase? (defaultCase anySpace name) rest
      return (.attr anySpace name (.compare comparison value case), rest)
    | _ => none

/-! ## Positions among siblings -/

/-- The number of a unit such as `n-12`. -/
def dashDigits? (unit : String) : Option Int :=
  match unit.toList with
  | n :: '-' :: digits =>
    if asciiLower n = 'n' ∧ digits ≠ [] ∧ digits.all isAsciiDigit then
      some (clampNumber (-(decimalValue digits : Int)))
    else none
  | _ => none

/-- Reads a number without sign, to which `sign` gives one. -/
def readUnsigned? (step sign : Int) (ts : List Token) : Option ((Int × Int) × List Token) :=
  match skipSpace ts with
  | .number (some b) false :: rest => some ((step, sign * b), rest)
  | _ => none

/-- Reads the second half of a rule whose step is known. -/
def readStart? (step : Int) (ts : List Token) : Option ((Int × Int) × List Token) :=
  match skipSpace ts with
  | .delim '+' :: rest => readUnsigned? step 1 rest
  | .delim '-' :: rest => readUnsigned? step (-1) rest
  | .number (some b) true :: rest => some ((step, b), rest)
  | _ => some ((step, 0), ts)

/-- Reads what follows a step that ends in `unit`. -/
def readUnit? (step : Int) (unit : String) (rest : List Token) :
    Option ((Int × Int) × List Token) :=
  if lowerAscii unit = "n" then readStart? step rest
  else if lowerAscii unit = "n-" then readUnsigned? step (-1) rest
  else (dashDigits? unit).map fun b => ((step, b), rest)

/-- Reads the step and the start of a rule. -/
def readNth? (ts : List Token) : Option ((Int × Int) × List Token) :=
  match skipSpace ts with
  | .number (some b) _ :: rest => some ((0, b), rest)
  | .dimension (some a) unit :: rest => readUnit? a unit rest
  | .ident word :: rest =>
    if lowerAscii word = "even" then some ((2, 0), rest)
    else if lowerAscii word = "odd" then some ((2, 1), rest)
    else
      match word.toList with
      | '-' :: unit => readUnit? (-1) (.ofList unit) rest
      | _ => readUnit? 1 word rest
  | .delim '+' :: .ident unit :: rest => readUnit? 1 unit rest
  | _ => none

/-- The counting direction and the kind of counting of a functional pseudo-class. -/
def nthKind? (name : String) : Option (Bool × Bool) :=
  if name = "nth-child" then some (false, false)
  else if name = "nth-last-child" then some (true, false)
  else if name = "nth-of-type" then some (false, true)
  else if name = "nth-last-of-type" then some (true, true)
  else none

/-- The rule of the first sibling in a counting direction. -/
def edge (fromEnd ofType : Bool) : Simple := .nth ⟨0, 1, fromEnd, ofType⟩

/-- The conditions of a pseudo-class without argument. -/
def pseudoClass? (name : String) : Option (List Simple) :=
  if name = "root" ∨ name = "scope" then some [.root]
  else if name = "empty" then some [.empty]
  else if name = "first-child" then some [edge false false]
  else if name = "last-child" then some [edge true false]
  else if name = "only-child" then some [edge false false, edge true false]
  else if name = "first-of-type" then some [edge false true]
  else if name = "last-of-type" then some [edge true true]
  else if name = "only-of-type" then some [edge false true, edge true true]
  else none

/-! ## Selectors -/

/-- Whether a selector ends here. -/
def atEnd : List Token → Bool
  | [] => true
  | .comma :: _ => true
  | .closeParen :: _ => true
  | _ => false

/-- Reads a combinator; `spaced` tells whether white space came before.  None is left at the end of
a selector. -/
def readCombinator (spaced : Bool) : List Token → Option Combinator × List Token
  | .space :: rest => readCombinator true rest
  | .delim '>' :: rest => (some .child, rest)
  | .delim '+' :: rest => (some .nextSibling, rest)
  | .delim '~' :: rest => (some .laterSibling, rest)
  | ts => (if spaced && !atEnd ts then some .descendant else none, ts)

mutual

/-- Reads the simple selectors that follow in a compound selector. -/
def readSimples? : Nat → List Token → Option (List Simple × List Token)
  | 0, _ => none
  | n + 1, ts =>
    let more (s : List Simple) (rest : List Token) : Option (List Simple × List Token) :=
      (readSimples? n rest).map fun (ss, rest) => (s ++ ss, rest)
    match ts with
    | .hash name true :: rest => more [.id name] rest
    | .delim '.' :: rest =>
      match rest with
      | .ident name :: rest => more [.class name] rest
      | _ => none
    | .openBracket :: rest => do
      let (s, rest) ← readAttribute? rest
      more [s] rest
    | .colon :: .ident name :: rest => do
      let s ← pseudoClass? (lowerAscii name)
      more s rest
    | .colon :: .function name :: rest =>
      match nthKind? (lowerAscii name) with
      | some (fromEnd, ofType) => do
        let ((step, start), rest) ← readNth? rest
        let rest ← closeParen? rest
        more [.nth ⟨step, start, fromEnd, ofType⟩] rest
      | none =>
        if lowerAscii name = "not" then do
          let (selectors, rest) ← readList? n rest
          let rest ← closeParen? rest
          more [.not selectors] rest
        else none
    | .colon :: _ => none
    | _ => some ([], ts)

/-- Reads a compound selector, which is not empty. -/
def readCompound? : Nat → List Token → Option (List Simple × List Token)
  | 0, _ => none
  | n + 1, ts => do
    let (type, rest) ← readType? (skipSpace ts)
    let (simples, rest) ← readSimples? n rest
    let parts := type ++ simples
    if parts.isEmpty then none else return (parts, rest)

/-- Reads what follows the selector `left`. -/
def readJoined? : Nat → Selector → List Token → Option (Selector × List Token)
  | 0, _, _ => none
  | n + 1, left, ts =>
    match readCombinator false ts with
    | (none, rest) => some (left, rest)
    | (some combinator, rest) => do
      let (parts, rest) ← readCompound? n rest
      readJoined? n (.joined left combinator parts) rest

/-- Reads selectors between commas. -/
def readList? : Nat → List Token → Option (List Selector × List Token)
  | 0, _ => none
  | n + 1, ts => do
    let (parts, rest) ← readCompound? n ts
    let (first, rest) ← readJoined? n (.compound parts) rest
    match rest with
    | .comma :: rest => do
      let (others, rest) ← readList? n rest
      return (first :: others, rest)
    | _ => return ([first], rest)

end

/-- The selectors of a text. -/
def ofText? (text : String) : Option (List Selector) :=
  let ts := tokens text.toList
  match readList? (4 * ts.length + 8) ts with
  | some (selectors, []) => some selectors
  | _ => none

end PageGuard.Css
