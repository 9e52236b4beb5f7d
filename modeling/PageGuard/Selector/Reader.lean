import PageGuard.Selector.Basic
import PageGuard.Text.Ascii

/-!
# Reading selectors

Operators are known by the text that opens them; what stands between them is plain CSS.  Escapes,
quoted strings, brackets and parentheses hide what is inside them.  A native `:not(…)` or `:has(…)`
with a plain CSS argument stays in the CSS when more CSS follows.

An apostrophe inside a word, or one that is never closed, opens no string.
-/

namespace PageGuard

open Text

/-! ## Passing over text -/

/-- A quote. -/
def isQuote (c : Char) : Bool := c == '"' || c == '\''

/-- The number of characters after an opening quote up to and with the closing one. -/
def closingQuote? (quote : Char) : List Char → Option Nat
  | [] => none
  | c :: rest =>
    if c = '\\' then
      match rest with
      | [] => none
      | _ :: rest => (closingQuote? quote rest).map (· + 2)
    else if c = quote then some 1
    else (closingQuote? quote rest).map (· + 1)

/-- The number of characters of a string literal after its opening quote; absent when the quote
opens none, because it follows a letter, a digit or a character outside ASCII, or is never
closed. -/
def stringLength? (before : Option Char) (quote : Char) (rest : List Char) : Option Nat :=
  match before with
  | some c => if isAsciiAlnum c || !isAscii c then none else closingQuote? quote rest
  | none => closingQuote? quote rest

/-- The number of characters after a bracket up to and with the one that closes it, or up to the
end. -/
def bracketLength (before : Char) (cs : List Char) : Nat :=
  match cs with
  | [] => 0
  | c :: rest =>
    if isQuote c then
      match stringLength? (some before) c rest with
      | some n => bracketLength c (rest.drop n) + n + 1
      | none => bracketLength c rest + 1
    else if c = ']' then 1
    else bracketLength c rest + 1
termination_by cs.length
decreasing_by
  all_goals simp only [List.length_drop, List.length_cons]; omega

/-- The number of characters after a parenthesis up to and with the one that closes it; `depth` is
the number of parentheses opened since. -/
def closingParen? (depth : Nat) (before : Char) (cs : List Char) : Option Nat :=
  match cs with
  | [] => none
  | c :: rest =>
    if c = '\\' then
      match rest with
      | [] => none
      | e :: rest => (closingParen? depth e rest).map (· + 2)
    else if isQuote c then
      match stringLength? (some before) c rest with
      | some n => (closingParen? depth c (rest.drop n)).map (· + (n + 1))
      | none => (closingParen? depth c rest).map (· + 1)
    else if c = '(' then (closingParen? (depth + 1) c rest).map (· + 1)
    else if c = ')' then
      match depth with
      | 0 => some 1
      | d + 1 => (closingParen? d c rest).map (· + 1)
    else (closingParen? depth c rest).map (· + 1)
termination_by cs.length
decreasing_by
  all_goals simp only [List.length_drop, List.length_cons]; omega

/-! ## Arguments -/

/-- The text between two slashes, if a text has that form. -/
def regexBody? (cs : List Char) : Option (List Char) :=
  match cs with
  | '/' :: rest => if rest.getLast? = some '/' then some rest.dropLast else none
  | _ => none

/-- An argument without the quotes around it. -/
def unquoted (cs : List Char) : List Char :=
  match cs with
  | q :: rest => if isQuote q && rest.getLast? == some q then rest.dropLast else q :: rest
  | [] => []

/-- The pattern of a text, or the error that it is none. -/
def readPattern (cs : List Char) : Except SelectorError Pattern :=
  match Pattern.ofSource? (.ofList cs) with
  | some p => .ok p
  | none => .error (.invalidRegex (.ofList cs))

/-- Adds the CSS of a segment to the stages, unless it is blank. -/
def addPlain (segment : List Char) (stages : List Stage) : List Stage :=
  let css := trim segment
  if css.isEmpty then stages else stages ++ [.css (.ofList css)]

/-- Attaches an action to the last stage, which is to be a plain one without action. -/
def attachAction (action : Action) (operator : String) (stages : List Stage) :
    Except SelectorError (List Stage) :=
  match stages.getLast? with
  | some (.plain target none) => .ok (stages.dropLast ++ [.plain target (some action)])
  | _ => .error (.danglingAction operator)

/-- Whether a chain is one plain CSS stage without action. -/
def isPlainCss : Except SelectorError (List Stage) → Bool
  | .ok [.plain (.css _) none] => true
  | _ => false

theorem length_trim_le (cs : List Char) : (trim cs).length ≤ cs.length := by
  have h1 : (trimStart cs).length ≤ cs.length := (List.dropWhile_sublist _).length_le
  have h2 : (trim cs).length ≤ (trimStart cs).length := by
    simp only [trim, trimEnd, List.length_reverse]
    exact Nat.le_trans (List.dropWhile_sublist _).length_le (by simp)
  omega

/-! ## Chains -/

/-- The parts of the text after the opening of an operator. -/
structure OperatorText where
  /-- The argument as written. -/
  raw : List Char
  /-- The text after the closing parenthesis. -/
  after : List Char

/-- Cuts the text after the opening of an operator at the parenthesis that closes it. -/
def operatorText? (cs : List Char) : Option OperatorText :=
  (closingParen? 0 '(' cs).map fun n => ⟨cs.take (n - 1), cs.drop n⟩

theorem length_raw_le {cs : List Char} {t : OperatorText} (h : operatorText? cs = some t) :
    t.raw.length ≤ cs.length ∧ t.after.length ≤ cs.length := by
  obtain ⟨n, -, rfl⟩ := Option.map_eq_some_iff.1 h
  simp only [List.length_take, List.length_drop]
  omega

mutual

/-- Reads a selector. -/
def readSelector (cs : List Char) : Except SelectorError (List Stage) :=
  let text := trim cs
  if text.isEmpty then .error .empty
  else
    match regexBody? text with
    | some body => do
      let p ← readPattern body
      return [.plain (.textMatch p) none]
    | none => do
      let stages ← readStages 0 none [] [] text
      if stages.isEmpty then .error .empty else .ok stages
termination_by (cs.length, 1)
decreasing_by
  have := length_trim_le cs
  rcases Nat.lt_or_eq_of_le this with h | h
  · exact Prod.Lex.left _ _ h
  · show Prod.Lex _ _ ((trim cs).length, 0) (cs.length, 1)
    rw [h]
    exact Prod.Lex.right _ (by decide)

/-- Reads the stages of the text `cs`.  `offset` is its place in bytes and `before` the character
before it; `segment` is the plain text since the last operator, in reverse order. -/
def readStages (offset : Nat) (before : Option Char) (segment : List Char) (stages : List Stage)
    (cs : List Char) : Except SelectorError (List Stage) :=
  match cs with
  | [] => .ok (addPlain segment.reverse stages)
  | c :: rest =>
    -- Goes on after `n` more characters, all of them plain.
    let pass (n : Nat) : Except SelectorError (List Stage) :=
      let taken := rest.take n
      readStages (offset + byteLength (c :: taken)) (some (taken.getLast?.getD c))
        (taken.reverse ++ c :: segment) stages (rest.drop n)
    if c = '\\' then pass 1
    else if isQuote c then pass ((stringLength? before c rest).getD 0)
    else if c = '[' then pass (bracketLength c rest)
    else if c = ':' then
      match operatorAt? (c :: rest) with
      | none => pass 0
      | some (marker, op) =>
        let inner := rest.drop (marker.length - 1)
        match h : operatorText? inner with
        | none => .error (.unbalanced (offset + marker.length - 1))
        | some t =>
          let arg := trim t.raw
          let follow := trimStart t.after
          let native := op = .not ∨ marker = ":has("
          if native ∧ ¬ follow.isEmpty ∧ (operatorAt? follow).isNone ∧
              isPlainCss (readSelector arg) then
            pass (rest.length - t.after.length)
          else do
            let stages := addPlain segment.reverse stages
            let stages ←
              match op with
              | .act action => attachAction action (operatorName marker) stages
              | _ =>
                if arg.isEmpty then .error (.emptyArgument (operatorName marker))
                else
                  match op with
                  | .contains => do
                    let text := unquoted arg
                    let p ← readPattern ((regexBody? text).getD text)
                    pure (stages ++ [.contains (.ofList text) p])
                  | .has => do pure (stages ++ [.has (← readSelector arg)])
                  | .not => do pure (stages ++ [.not (← readSelector arg)])
                  | .properties => pure (stages ++ [.properties (.ofList (unquoted arg))])
                  | _ => pure (stages ++ [.xpath (.ofList (unquoted arg))])
            let used := (c :: rest).take (rest.length + 1 - t.after.length)
            readStages (offset + byteLength used) (some ')') [] stages t.after
    else if c = '(' then
      match closingParen? 0 c rest with
      | some n => pass n
      | none => .error (.unbalanced offset)
    else if c = ')' then .error (.unbalanced offset)
    else pass 0
termination_by (cs.length, 0)
decreasing_by
  all_goals
    first
    | (apply Prod.Lex.left
       simp only [List.length_drop, List.length_cons]
       omega)
    | (apply Prod.Lex.left
       have h1 := length_raw_le h
       have h2 := length_trim_le t.raw
       simp only [arg, inner, List.length_drop, List.length_cons] at *
       omega)

end

/-- The chain that a text writes. -/
def parseSelector (text : String) : Except SelectorError Chain := readSelector text.toList

end PageGuard
