import PageGuard.Pattern.Reader

/-!
# Compiled patterns

A pattern together with its source text.  Patterns always ignore letter case.
-/

namespace PageGuard

/-- A pattern that compiles. -/
structure Pattern where
  source : String
  regex : Pattern.Regex
  compiles : Pattern.Regex.ofText? source.toList = some regex
deriving DecidableEq

namespace Pattern

/-- The pattern of a text; absent when it does not compile. -/
def ofSource? (source : String) : Option Pattern :=
  match h : Regex.ofText? source.toList with
  | some regex => some ⟨source, regex, h⟩
  | none => none

/-- Whether the pattern matches somewhere in a text. -/
def isMatch (p : Pattern) (text : String) : Bool := p.regex.isMatch text.toList

/-- Patterns with the same source are equal. -/
theorem ext_source {p q : Pattern} (h : p.source = q.source) : p = q := by
  obtain ⟨s, r, hr⟩ := p
  obtain ⟨t, u, hu⟩ := q
  obtain rfl : s = t := h
  obtain rfl : r = u := Option.some.inj (hr.symm.trans hu)
  rfl

end Pattern

end PageGuard
