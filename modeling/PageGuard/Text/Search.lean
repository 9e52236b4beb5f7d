/-!
# Finding and splitting text

Texts are lists of characters.  A text is found inside another one, cut at a separator, or
measured in the bytes of its UTF-8 form.
-/

namespace PageGuard.Text

/-- The number of bytes of the UTF-8 form of a text. -/
def byteLength (cs : List Char) : Nat :=
  cs.foldr (fun c n => c.utf8Size + n) 0

/-- Whether `part` occurs inside a text. -/
def hasInfix (part : List Char) : List Char → Bool
  | [] => part.isEmpty
  | c :: rest => part.isPrefixOf (c :: rest) || hasInfix part rest

/-- Whether one string occurs inside another. -/
def occursIn (part whole : String) : Bool := hasInfix part.toList whole.toList

/-- The text after a given beginning. -/
def afterStart? (start : List Char) (cs : List Char) : Option (List Char) :=
  if start.isPrefixOf cs then some (cs.drop start.length) else none

/-- The text before a given ending. -/
def beforeEnd? (ending : List Char) (cs : List Char) : Option (List Char) :=
  if ending.isSuffixOf cs then some (cs.take (cs.length - ending.length)) else none

/-- The text before and after the first occurrence of a character. -/
def splitAtFirst? (sep : Char) (cs : List Char) : Option (List Char × List Char) :=
  match cs.dropWhile (· ≠ sep) with
  | [] => none
  | _ :: rest => some (cs.takeWhile (· ≠ sep), rest)

/-- The pieces of a text between the occurrences of a character. -/
def pieces (sep : Char) : List Char → List (List Char)
  | [] => [[]]
  | c :: rest =>
    if c = sep then [] :: pieces sep rest
    else
      match pieces sep rest with
      | [] => [[c]]
      | p :: ps => (c :: p) :: ps

/-- The lines of a text: a line ends at a line feed, with a carriage return before it dropped,
and an empty last piece is no line. -/
def lines (cs : List Char) : List (List Char) :=
  let all := pieces '\n' cs
  let kept := if all.getLast? = some [] then all.dropLast else all
  kept.map fun line =>
    if line.getLast? = some '\r' then line.dropLast else line

@[simp] theorem byteLength_nil : byteLength [] = 0 := rfl

@[simp] theorem byteLength_cons (c : Char) (cs : List Char) :
    byteLength (c :: cs) = c.utf8Size + byteLength cs := rfl

theorem byteLength_append (a b : List Char) :
    byteLength (a ++ b) = byteLength a + byteLength b := by
  induction a with
  | nil => simp
  | cons c a ih => simp [ih, Nat.add_assoc]

end PageGuard.Text
