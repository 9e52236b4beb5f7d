import PageGuard.Navigation.Block
import PageGuard.Page.Document

/-!
# What one navigation collects

A context queues elements for hiding and candidates for blocking.  Both queues keep the order of
first insertion and hold nothing twice.  Hiding takes the queued elements off the page and empties
their queue; the candidates stay queued until they are taken.
-/

namespace PageGuard

/-- Adds an item at the end of a list that does not hold it yet. -/
def enqueue {α : Type} [DecidableEq α] (l : List α) (a : α) : List α :=
  if a ∈ l then l else l ++ [a]

/-- The queues of one navigation; `N` is the type of the elements. -/
structure Context (N : Type) where
  elements : List N := []
  blocks : List Block := []
deriving DecidableEq

namespace Context

variable {N : Type}

instance : Inhabited (Context N) := ⟨{}⟩

section Queues

variable [DecidableEq N]

/-- Queues an element for hiding, and tells whether it was not queued before. -/
def addElement (c : Context N) (e : N) : Bool × Context N :=
  (e ∉ c.elements, { c with elements := enqueue c.elements e })

/-- Queues a candidate, and tells whether it was not queued before. -/
def addBlock (c : Context N) (b : Block) : Bool × Context N :=
  (b ∉ c.blocks, { c with blocks := enqueue c.blocks b })

/-- Queues elements, and counts those that were not queued before. -/
def addElements (c : Context N) : List N → Nat × Context N
  | [] => (0, c)
  | e :: rest =>
    let (new, c) := c.addElement e
    let (n, c) := addElements c rest
    (if new then n + 1 else n, c)

end Queues

/-- Takes all candidates. -/
def drain (c : Context N) : List Block × Context N := (c.blocks, { c with blocks := [] })

/-- The report of the queued candidates. -/
def report (c : Context N) : Report := .ofBlocks c.blocks

/-- Takes the queued elements off a document, and counts them. -/
def hide {D : Type} [Document D N] (c : Context N) (d : D) : Nat × D × Context N :=
  (c.elements.length, c.elements.foldl Document.remove d, { c with elements := [] })

end Context

end PageGuard
