import PageGuard.Pattern.Basic
import PageGuard.Text.Search

/-!
# Reading patterns

The syntax of patterns: literals, escapes, brackets with set operations, groups with names and
flags, anchors, choices and repetitions.  There is no look-around and no back-reference.

Not supported are the classes of characters by a Unicode property: `\p{Greek}`, `\P{Greek}` and the
short forms `\pL` and `\PL`.  A pattern with one of them does not read here.

Reading keeps the flags that hold at each place, so that the pattern it gives needs none.
-/

namespace PageGuard.Pattern

open Text

/-! ## State of the reader -/

/-- The flags that hold at a place. -/
structure Flags where
  ignoreCase : Bool := false
  multiLine : Bool := false
  dotAll : Bool := false
  swapGreed : Bool := false
  unicode : Bool := true
  crlf : Bool := false
  verbose : Bool := false
deriving DecidableEq, Inhabited

/-- What is left to read, the flags that hold, and the names of the groups so far. -/
structure ReaderState where
  rest : List Char
  flags : Flags
  names : List (List Char) := []

/-- A reader of a part of a pattern; it fails on a text that is no pattern. -/
abbrev Reader (α : Type) := StateT ReaderState Option α

namespace Reader

/-- Fails. -/
def fail {α : Type} : Reader α := fun _ => none

/-- The text left. -/
def rest : Reader (List Char) := return (← get).rest

/-- The flags that hold. -/
def flags : Reader Flags := return (← get).flags

/-- The next character. -/
def peek? : Reader (Option Char) := return (← get).rest.head?

/-- Goes on at another place. -/
def setRest (cs : List Char) : Reader Unit := modify fun s => { s with rest := cs }

/-- Changes the flags. -/
def setFlags (f : Flags) : Reader Unit := modify fun s => { s with flags := f }

/-- Passes a number of characters. -/
def skip (n : Nat) : Reader Unit := modify fun s => { s with rest := s.rest.drop n }

/-- The text after the blanks and comments that verbose patterns may hold. -/
def afterLayout : Nat → List Char → List Char
  | 0, cs => cs
  | _ + 1, [] => []
  | n + 1, c :: cs =>
    if isBlank c then afterLayout n cs
    else if c = '#' then afterLayout n ((cs.dropWhile (· ≠ '\n')).drop 1)
    else c :: cs

/-- Passes blanks and comments in a verbose pattern. -/
def layout : Reader Unit := modify fun s =>
  if s.flags.verbose then { s with rest := afterLayout (s.rest.length + 1) s.rest } else s

/-- Passes a character, and blanks and comments in a verbose pattern. -/
def advance : Reader Unit := do skip 1; layout

/-- The next character; fails at the end. -/
def peek : Reader Char := do
  match ← peek? with
  | some c => return c
  | none => fail

/-- Passes a given text if it comes next, and tells whether it did. -/
def takeText (s : String) : Reader Bool := do
  match afterStart? s.toList (← rest) with
  | some cs => setRest cs; return true
  | none => return false

end Reader

open Reader

/-! ## Atoms -/

/-- What an escape or a plain character stands for. -/
inductive Atom where
  | literal (c : Char)
  | set (s : CharSet)
  | look (l : Look)

/-- A character with a meaning in patterns. -/
def isMeta (c : Char) : Bool := "\\.+*?()|[]\x7b\x7d^$#&-~".toList.contains c

/-- A character that may be escaped to stand for itself. -/
def isEscapable (c : Char) : Bool :=
  isMeta c || (isAscii c && !isAsciiAlnum c && c != '<' && c != '>')

/-- The set of a literal under the flags. -/
def literalSet (f : Flags) (c : Char) : CharSet :=
  if f.ignoreCase then
    if f.unicode then .folded (.single c)
    else .union (.single (asciiLower c))
      (.single (if isAsciiLetter c then Char.ofNat ((asciiLower c).toNat - 32) else c))
  else .single c

/-- The word characters under the flags. -/
def wordSet (f : Flags) : CharSet := if f.unicode then .word else .asciiWord

/-- The class of a letter such as `d` or `W`; a complement that is not made of whole characters
is refused. -/
def classOf? (f : Flags) (c : Char) : Option CharSet :=
  let plain? : Option CharSet :=
    if c = 'd' ∨ c = 'D' then some (if f.unicode then .digit else .range '0' '9')
    else if c = 's' ∨ c = 'S' then some (if f.unicode then .space else .asciiSpace)
    else if c = 'w' ∨ c = 'W' then some (wordSet f)
    else none
  plain?.bind fun s =>
    if isAsciiLetter c && c.isLower then some s
    else if f.unicode then some (.compl s)
    else none

/-- Reads a fixed number of hexadecimal digits. -/
def readHexDigits : Nat → List Char → Reader Char
  | 0, ds =>
    match charOfNat? (hexNumber ds.reverse) with
    | some c => return c
    | none => fail
  | n + 1, ds => do
    let c ← peek
    if (hexValue? c).isNone then fail
    advance
    readHexDigits n (c :: ds)

/-- Reads the hexadecimal digits up to a closing brace. -/
def readHexBrace : Nat → List Char → Reader Char
  | 0, _ => fail
  | n + 1, ds => do
    let c ← peek
    if c = '\x7d' then
      advance
      if ds.isEmpty ∨ ds.length > 8 then fail
      match charOfNat? (hexNumber ds.reverse) with
      | some c => return c
      | none => fail
    else
      if (hexValue? c).isNone then fail
      advance
      readHexBrace n (c :: ds)

/-- Reads the number of a character after the letter `kind` of its escape. -/
def readHex (kind : Char) : Reader Char := do
  advance
  if (← peek) = '\x7b' then
    advance
    readHexBrace ((← rest).length + 1) []
  else readHexDigits (if kind = 'x' then 2 else if kind = 'u' then 4 else 8) []

/-- The condition that a name in braces after `\b` stands for. -/
def namedBoundary? (w : CharSet) (name : String) : Option Look :=
  if name = "start" then some (.wordStart w)
  else if name = "end" then some (.wordEnd w)
  else if name = "start-half" then some (.wordStartHalf w)
  else if name = "end-half" then some (.wordEndHalf w)
  else none

/-- A character of the name of a word boundary. -/
def isBoundaryNameChar (c : Char) : Bool := isAsciiLetter c || c == '-'

/-- Reads what follows `\b`: the name of a boundary in braces, if there is one. -/
def readBoundary (w : CharSet) : Reader Look := do
  let here ← rest
  if here.head? ≠ some '\x7b' then return .boundary w
  advance
  let inside ← rest
  let name := inside.takeWhile isBoundaryNameChar
  if inside.isEmpty then fail
  if name.isEmpty then
    setRest here
    return .boundary w
  match inside.drop name.length with
  | '\x7d' :: after =>
    setRest after
    match namedBoundary? w (.ofList name) with
    | some l => return l
    | none => fail
  | _ => fail

/-- Reads an escape after its backslash.  It fails on `p` and `P`, the classes by a Unicode
property. -/
def readEscape : Reader Atom := do
  let f ← flags
  let c ← peek
  if c = 'x' ∨ c = 'u' ∨ c = 'U' then return .literal (← readHex c)
  skip 1
  match classOf? f c with
  | some s => return .set s
  | none =>
    if isEscapable c then return .literal c
    else if c = 'a' then return .literal (Char.ofNat 7)
    else if c = 'f' then return .literal (Char.ofNat 12)
    else if c = 't' then return .literal '\t'
    else if c = 'n' then return .literal '\n'
    else if c = 'r' then return .literal '\r'
    else if c = 'v' then return .literal (Char.ofNat 11)
    else if c = 'A' then return .look .textStart
    else if c = 'z' then return .look .textEnd
    else if c = 'b' then return .look (← readBoundary (wordSet f))
    else if c = 'B' then return .look (.noBoundary (wordSet f))
    else if c = '<' then return .look (.wordStart (wordSet f))
    else if c = '>' then return .look (.wordEnd (wordSet f))
    else fail

/-! ## Brackets -/

/-- An operation between the sets of a bracket. -/
inductive SetOp where
  | inter
  | diff
  | symDiff

/-- The set that an operation gives. -/
def SetOp.apply (o : SetOp) (a b : CharSet) : CharSet :=
  match o with
  | .inter => .inter a b
  | .diff => .diff a b
  | .symDiff => .symDiff a b

/-- The set closed under case if the flags ask for it. -/
def foldSet (f : Flags) (s : CharSet) : CharSet :=
  if f.ignoreCase then
    if f.unicode then .folded s
    else .union s (.inter (.folded s) (.range (Char.ofNat 0) (Char.ofNat 127)))
  else s

/-- The set on the left of an operation joined with the one on its right. -/
def joinSets (f : Flags) (left : Option (CharSet × SetOp)) (right : CharSet) : CharSet :=
  match left with
  | some (l, o) => o.apply l (foldSet f right)
  | none => foldSet f right

/-- Reads a named class after its opening bracket and colon. -/
def namedClass? (cs : List Char) : Option (CharSet × List Char) :=
  let (negated, cs) := match cs with
    | '^' :: cs => (true, cs)
    | cs => (false, cs)
  let name := cs.takeWhile (· ≠ ':')
  match cs.drop name.length with
  | ':' :: ']' :: after =>
    (CharSet.named? (.ofList name)).map fun s => (if negated then .compl s else s, after)
  | _ => none

/-- Reads one side of a range. -/
def readBracketAtom : Reader Atom := do
  let c ← peek
  skip 1
  if c = '\\' then readEscape else return .literal c

/-- Reads a character, a class or a range inside a bracket.  A hyphen before the closing bracket or
before another hyphen makes no range. -/
def readBracketItem : Reader CharSet := do
  let first ← readBracketAtom
  layout
  let here ← get
  let next ← peek
  advance
  let after ← peek?
  if next ≠ '-' ∨ after = some ']' ∨ after = some '-' then
    set here
    match first with
    | .literal c => return .single c
    | .set s => return s
    | .look _ => fail
  else
    match first, ← readBracketAtom with
    | .literal a, .literal b => if a ≤ b then return .range a b else fail
    | _, _ => fail

/-- Passes hyphens that open a bracket and stand for themselves. -/
def readHyphens : Nat → CharSet → Reader CharSet
  | 0, s => return s
  | n + 1, s => do
    if (← peek) = '-' then
      advance
      readHyphens n (.union s (.single '-'))
    else return s

/-- Reads what opens a bracket after its `[`: whether it is a complement, and the characters that
stand for themselves only there. -/
def readBracketOpen : Reader (Bool × CharSet) := do
  layout
  let negated := (← peek) = '^'
  if negated then advance
  let s ← readHyphens (← rest).length .none
  if s = .none ∧ (← peek) = ']' then
    advance
    let _ ← peek
    return (negated, .single ']')
  let _ ← peek
  return (negated, s)

/-- Reads the rest of a bracket; `left` is the set before the last operation, `s` the set since
then. -/
def readBracket : Nat → Bool → Option (CharSet × SetOp) → CharSet → Reader CharSet
  | 0, _, _, _ => fail
  | n + 1, negated, left, s => do
    layout
    let f ← flags
    match ← rest with
    | [] => fail
    | '[' :: ':' :: cs =>
      match namedClass? cs with
      | some (cls, after) =>
        setRest after
        readBracket n negated left (.union s cls)
      | none =>
        skip 1
        let (inner, opened) ← readBracketOpen
        let cls ← readBracket n inner none opened
        readBracket n negated left (.union s cls)
    | '[' :: _ =>
      skip 1
      let (inner, opened) ← readBracketOpen
      let cls ← readBracket n inner none opened
      readBracket n negated left (.union s cls)
    | ']' :: _ =>
      skip 1
      let whole := joinSets f left s
      return if negated then .compl whole else whole
    | '&' :: '&' :: _ =>
      skip 2
      readBracket n negated (some (joinSets f left s, .inter)) .none
    | '-' :: '-' :: _ =>
      skip 2
      readBracket n negated (some (joinSets f left s, .diff)) .none
    | '~' :: '~' :: _ =>
      skip 2
      readBracket n negated (some (joinSets f left s, .symDiff)) .none
    | _ =>
      let item ← readBracketItem
      readBracket n negated left (.union s item)

/-! ## Repetitions -/

/-- Reads a decimal number with blanks around it. -/
def readNumber : Reader Nat := do
  setRest ((← rest).dropWhile isBlank)
  layout
  let ds := (← rest).takeWhile isAsciiDigit
  skip ds.length
  layout
  setRest ((← rest).dropWhile isBlank)
  let n := decimalValue ds
  if ds.isEmpty || UInt32.size ≤ n then fail else return n

/-- Reads the bounds of a counted repetition after its opening brace; the lower one is required. -/
def readBounds : Reader (Nat × Option Nat) := do
  let _ ← peek
  let low ← readNumber
  let bounds ← do
    if (← peek) = ',' then
      advance
      if (← peek) = '\x7d' then pure (low, none)
      else pure (low, some (← readNumber))
    else pure (low, some low)
  if (← peek) ≠ '\x7d' then fail
  match bounds with
  | (n, some m) => if m < n then fail else return bounds
  | _ => return bounds

/-- Passes the question mark of a lazy repetition. -/
def skipLazy : Reader Unit := do
  if (← peek?) = some '?' then skip 1

/-! ## Groups -/

/-- A part of a pattern and how deep it is nested.  A change of flags is a part that matches
nothing and may not be repeated. -/
structure Part where
  regex : Option Regex
  depth : Nat

/-- The sequence of parts, which are in reverse order. -/
def sequence (parts : List Part) : Regex × Nat :=
  match parts with
  | [] => (.empty, 0)
  | [p] => (p.regex.getD .empty, p.depth)
  | parts =>
    (.cats (parts.reverse.map fun p => p.regex.getD .empty),
      (parts.map Part.depth).foldl max 0 + 1)

/-- The choice between sequences, which are in reverse order. -/
def choice (branches : List (Regex × Nat)) : Regex × Nat :=
  match branches with
  | [b] => b
  | branches =>
    (.alts (branches.reverse.map Prod.fst), (branches.map Prod.snd).foldl max 0 + 1)

/-- Sets the flag of a letter. -/
def Flags.set? (f : Flags) (c : Char) (on : Bool) : Option Flags :=
  if c = 'i' then some { f with ignoreCase := on }
  else if c = 'm' then some { f with multiLine := on }
  else if c = 's' then some { f with dotAll := on }
  else if c = 'U' then some { f with swapGreed := on }
  else if c = 'u' then some { f with unicode := on }
  else if c = 'R' then some { f with crlf := on }
  else if c = 'x' then some { f with verbose := on }
  else none

/-- Reads flags up to the colon or the parenthesis that ends them; no letter stands twice, and a
minus stands before a letter. -/
def readFlags : Nat → Flags → Bool → List Char → Reader (Flags × List Char)
  | 0, _, _, _ => fail
  | n + 1, f, on, seen => do
    let c ← peek
    if c = ':' ∨ c = ')' then
      if seen.head? = some '-' then fail
      return (f, seen)
    else if c ∈ seen then fail
    else if c = '-' then
      skip 1
      readFlags n f false (c :: seen)
    else
      match f.set? c on with
      | some f =>
        skip 1
        readFlags n f on (c :: seen)
      | none => fail

/-- A character of the name of a group. -/
def isNameChar (first : Bool) (c : Char) : Bool :=
  if first then c == '_' || (isWordChar c && !isDecimalDigit c)
  else c == '.' || c == '[' || c == ']' || isWordChar c

/-- Reads the name of a group and its closing angle, and notes it. -/
def readName : Reader Unit := do
  let cs ← rest
  let name := cs.takeWhile (· ≠ '>')
  match cs.drop name.length, name with
  | '>' :: after, c :: more =>
    if !(isNameChar true c && more.all (isNameChar false)) then fail
    if (← get).names.contains name then fail
    modify fun s => { s with rest := after, names := name :: s.names }
  | _, _ => fail

/-- What opens a group after its parenthesis: a change of flags, or a group with the flags inside
it. -/
inductive GroupOpen where
  | change (f : Flags)
  | group (f : Flags)

/-- Reads what opens a group after its parenthesis. -/
def readGroupOpen : Reader GroupOpen := do
  layout
  let f ← flags
  for ahead in ["?=", "?!", "?<=", "?<!"] do
    if ← takeText ahead then fail
  if ← takeText "?P<" then
    readName
    return .group f
  else if ← takeText "?<" then
    readName
    return .group f
  else if ← takeText "?" then
    let (g, seen) ← readFlags ((← rest).length + 1) f true []
    let ending ← peek
    skip 1
    if ending = ')' then
      if seen.isEmpty then fail
      return .change g
    else return .group g
  else return .group f

/-- The part of an atom under the flags. -/
def atomPart (f : Flags) : Atom → Part
  | .literal c => ⟨some (.set (literalSet f c)), 0⟩
  | .set s => ⟨some (.set s), 0⟩
  | .look l => ⟨some (.look l), 0⟩

/-- The repetition of the last part; fails when there is nothing to repeat. -/
def repeatLast (parts : List Part) (min : Nat) (max : Option Nat) : Reader (List Part) := do
  match parts with
  | ⟨some r, d⟩ :: before => return ⟨some (.rep r min max), d + 1⟩ :: before
  | _ => fail

/-- Reads a pattern up to its end or to a parenthesis that closes it.  `branches` are the choices
so far and `parts` the parts of the current one, both in reverse order. -/
def readBody : Nat → List (Regex × Nat) → List Part → Reader (Regex × Nat)
  | 0, _, _ => fail
  | n + 1, branches, parts => do
    layout
    let f ← flags
    match ← peek? with
    | none => return choice (sequence parts :: branches)
    | some c =>
      if c = ')' then return choice (sequence parts :: branches)
      else if c = '|' then
        skip 1
        readBody n (sequence parts :: branches) []
      else if c = '(' then
        skip 1
        match ← readGroupOpen with
        | .change g =>
          setFlags g
          readBody n branches (⟨none, 0⟩ :: parts)
        | .group g =>
          setFlags g
          let (r, d) ← readBody n [] []
          if (← peek) ≠ ')' then fail
          skip 1
          setFlags f
          readBody n branches (⟨some r, d + 1⟩ :: parts)
      else if c = '[' then
        skip 1
        let (negated, opened) ← readBracketOpen
        let s ← readBracket n negated none opened
        readBody n branches (⟨some (.set s), 1⟩ :: parts)
      else if c = '*' ∨ c = '+' ∨ c = '?' then
        skip 1
        skipLazy
        let parts ← repeatLast parts (if c = '+' then 1 else 0) (if c = '?' then some 1 else none)
        readBody n branches parts
      else if c = '\x7b' then
        if parts.isEmpty then fail
        advance
        let (low, high) ← readBounds
        advance
        skipLazy
        readBody n branches (← repeatLast parts low high)
      else if c = '\\' then
        skip 1
        readBody n branches (atomPart f (← readEscape) :: parts)
      else
        skip 1
        let part ←
          if c = '.' then
            if !f.unicode then fail
            else if f.dotAll then pure ⟨some (.set .any), 0⟩
            else if f.crlf then
              pure ⟨some (.set (.compl (.union (.single '\n') (.single '\r')))), 0⟩
            else pure ⟨some (.set .notNewline), 0⟩
          else if c = '^' then
            pure ⟨some (.look (if !f.multiLine then .textStart
              else if f.crlf then .crlfLineStart else .lineStart)), 0⟩
          else if c = '$' then
            pure ⟨some (.look (if !f.multiLine then .textEnd
              else if f.crlf then .crlfLineEnd else .lineEnd)), 0⟩
          else pure (atomPart f (.literal c))
        readBody n branches (part :: parts)

/-! ## Size -/

/-- The deepest nesting of groups, brackets, repetitions, sequences and choices. -/
def maxNesting : Nat := 250

/-- The largest size of a pattern. -/
def maxSize : Nat := 10 * 1024 * 1024

/-- The size of a set of characters as a machine that reads its bytes, roughly. -/
def CharSet.size : CharSet → Nat
  | .none => 32
  | .range lo hi => if isAscii hi then 48 else if lo = hi then 160 else 320
  | .word => 60000
  | .digit => 5000
  | .space => 800
  | .union a b | .inter a b | .diff a b | .symDiff a b => a.size + b.size
  | .compl a => a.size + 400
  | .folded a => a.size + 16

/-- The size of a pattern as a machine, roughly: a counted repetition is written out. -/
def Regex.size : Regex → Nat
  | .empty | .look _ => 32
  | .set s => s.size
  | .cat a b => a.size + b.size
  | .alt a b => a.size + b.size + 40
  | .rep a min max =>
    match max with
    | none => (if min = 0 then 1 else min) * a.size + 40
    | some m => m * (a.size + (if min < m then 32 else 0)) + 32

/-- The pattern that a text writes, with letter case ignored. -/
def Regex.ofText? (source : List Char) : Option Regex := do
  let start : ReaderState := { rest := source, flags := { ignoreCase := true } }
  let ((r, depth), after) ← (readBody (2 * source.length + 2) [] []).run start
  if after.rest.isEmpty ∧ depth ≤ maxNesting ∧ r.size ≤ maxSize then some r else none

end PageGuard.Pattern
