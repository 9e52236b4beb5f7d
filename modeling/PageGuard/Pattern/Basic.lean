import PageGuard.Pattern.CharSet

/-!
# Patterns and where they match

A pattern describes texts by character sets, places, sequences, choices and repetitions.  Greedy
and lazy repetitions differ only in which match they prefer; here it matters only whether there is
one.

Sets of positions in a text are numbers: bit `i` stands for the place before character `i`.
`Regex.run` maps the places where a match may start to the places where it may end.
-/

namespace PageGuard.Pattern

/-- A condition on a place in the text. -/
inductive Look where
  | textStart
  | textEnd
  | lineStart
  | lineEnd
  /-- A line start where carriage returns also end lines. -/
  | crlfLineStart
  | crlfLineEnd
  /-- Between a character of the set and one that is not. -/
  | boundary (w : CharSet)
  | noBoundary (w : CharSet)
  | wordStart (w : CharSet)
  | wordEnd (w : CharSet)
  | wordStartHalf (w : CharSet)
  | wordEndHalf (w : CharSet)
deriving DecidableEq, Inhabited

/-- A pattern. -/
inductive Regex where
  | empty
  | set (s : CharSet)
  | look (l : Look)
  | cat (a b : Regex)
  | alt (a b : Regex)
  /-- At least `min` times, and at most `max` times if there is a bound. -/
  | rep (a : Regex) (min : Nat) (max : Option Nat)
deriving DecidableEq, Inhabited

/-! ## Places -/

/-- The places before the characters that satisfy a test. -/
def maskOf (p : Char → Bool) : List Char → Nat
  | [] => 0
  | c :: cs => (p c).toNat + 2 * maskOf p cs

/-- All places of a text. -/
def allPlaces (text : List Char) : Nat := (1 <<< (text.length + 1)) - 1

/-- The places of a text that are not in a set. -/
def otherPlaces (text : List Char) (s : Nat) : Nat := allPlaces text ^^^ (allPlaces text &&& s)

/-- The places where a condition holds. -/
def Look.places (text : List Char) : Look → Nat
  | textStart => 1
  | textEnd => 1 <<< text.length
  | lineStart => 1 ||| maskOf (· == '\n') text <<< 1
  | lineEnd => 1 <<< text.length ||| maskOf (· == '\n') text
  | crlfLineStart =>
    let lf := maskOf (· == '\n') text
    let cr := maskOf (· == '\r') text
    1 ||| lf <<< 1 ||| otherPlaces text lf &&& (cr <<< 1)
  | crlfLineEnd =>
    let lf := maskOf (· == '\n') text
    let cr := maskOf (· == '\r') text
    1 <<< text.length ||| cr ||| otherPlaces text (cr <<< 1) &&& lf
  | boundary w => let m := maskOf w.mem text; m ^^^ m <<< 1
  | noBoundary w => let m := maskOf w.mem text; otherPlaces text (m ^^^ m <<< 1)
  | wordStart w => let m := maskOf w.mem text; m &&& otherPlaces text (m <<< 1)
  | wordEnd w => let m := maskOf w.mem text; (m <<< 1) &&& otherPlaces text m
  | wordStartHalf w => otherPlaces text (maskOf w.mem text <<< 1)
  | wordEndHalf w => otherPlaces text (maskOf w.mem text)

/-! ## Matching -/

/-- Applies `f` a number of times; an empty set stays empty. -/
def times (f : Nat → Nat) : Nat → Nat → Nat
  | 0, s => s
  | n + 1, s => if s = 0 then 0 else times f n (f s)

/-- The places reached by applying `f` at most a number of times. -/
def upTo (f : Nat → Nat) : Nat → Nat → Nat
  | 0, s => s
  | n + 1, s => if s = 0 then 0 else s ||| upTo f n (f s)

/-- The places reached by applying `f` any number of times; every round but the last adds a
place. -/
def closure (f : Nat → Nat) : Nat → Nat → Nat
  | 0, s => s
  | n + 1, s =>
    let t := s ||| f s
    if t = s then s else closure f n t

namespace Regex

/-- The places where a match ends that starts at one of the places `s`. -/
def run (text : List Char) : Regex → Nat → Nat
  | empty, s => s
  | set cs, s => (s &&& maskOf cs.mem text) <<< 1
  | look l, s => s &&& l.places text
  | cat a b, s => run text b (run text a s)
  | alt a b, s => run text a s ||| run text b s
  | rep a min max, s =>
    let once := run text a
    let start := times once min s
    match max with
    | none => closure once (text.length + 2) start
    | some m => upTo once (m - min) start

/-- Whether a pattern matches somewhere in a text. -/
def isMatch (r : Regex) (text : List Char) : Bool := r.run text (allPlaces text) != 0

/-- The choice between patterns, the first ones first. -/
def alts : List Regex → Regex
  | [] => empty
  | [r] => r
  | r :: rest => alt r (alts rest)

/-- The sequence of patterns. -/
def cats : List Regex → Regex
  | [] => empty
  | [r] => r
  | r :: rest => cat r (cats rest)

end Regex

end PageGuard.Pattern
