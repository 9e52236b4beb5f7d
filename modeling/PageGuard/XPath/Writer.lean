import PageGuard.XPath.Basic

/-!
# Writing location paths

The documented form of a path.  A literal stands between quotes that it does not contain: single
quotes when it can.
-/

namespace PageGuard.XPath

/-- A literal between quotes. -/
def renderLiteral (literal : String) : List Char :=
  let quote := if '\'' ∈ literal.toList then '"' else '\''
  quote :: literal.toList ++ [quote]

/-- The text of a subject. -/
def Subject.render : Subject → List Char
  | .attr name => '@' :: name.toList
  | .ownText => "text()".toList
  | .fullText => ['.']

/-- The text of a predicate, without brackets. -/
def Predicate.render : Predicate → List Char
  | .position n => Nat.toDigits 10 n
  | .present name => '@' :: name.toList
  | .equals s literal => s.render ++ '=' :: renderLiteral literal
  | .contains s literal => "contains(".toList ++ s.render ++ ',' :: renderLiteral literal ++ [')']

/-- The text of a step. -/
def Step.render (s : Step) : List Char :=
  (match s.axis with
    | .child => ['/']
    | .descendant => ['/', '/']) ++
  (match s.name with
    | some name => name.toList
    | none => ['*']) ++
  s.predicates.flatMap fun p => '[' :: p.render ++ [']']

/-- The text of a path. -/
def Path.render (p : Path) : List Char := p.flatMap Step.render

end PageGuard.XPath
