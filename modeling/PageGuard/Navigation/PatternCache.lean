import PageGuard.Pattern
import PageGuard.Text.Search

/-!
# Domain patterns

A domain pattern is a pattern for the URL of a page, or a plain text when it does not compile as a
pattern.  Compiling is done once for each pattern: a cache keeps what became of the patterns seen
so far.  The cache never answers anything but what compiling would give, so `PatternCache.applies`
does not depend on what was asked before (`applies_fst`).
-/

namespace PageGuard

/-- What became of the patterns seen so far. -/
structure PatternCache where
  known : List (String × Option Pattern)
  faithful : ∀ e ∈ known, e.2 = Pattern.ofSource? e.1

namespace PatternCache

/-- The cache before any pattern was seen. -/
def empty : PatternCache := ⟨[], List.forall_mem_nil _⟩

instance : Inhabited PatternCache := ⟨empty⟩

/-- The pattern of a source text, compiled unless it is known. -/
def compiled (c : PatternCache) (source : String) : Option Pattern × PatternCache :=
  match c.known.find? fun e => e.1 = source with
  | some e => (e.2, c)
  | none =>
    (Pattern.ofSource? source,
      { known := (source, Pattern.ofSource? source) :: c.known
        faithful := by
          intro e he
          rcases List.mem_cons.mp he with rfl | he
          · rfl
          · exact c.faithful e he })

theorem compiled_fst (c : PatternCache) (source : String) :
    (c.compiled source).1 = Pattern.ofSource? source := by
  unfold compiled
  split
  case h_1 e he =>
    have hmem := List.mem_of_find?_eq_some he
    have hkey := List.find?_some he
    simp only [decide_eq_true_eq] at hkey
    rw [c.faithful e hmem, hkey]
  case h_2 => rfl

end PatternCache

/-- Whether a domain pattern applies to a URL, given what became of it as a pattern. -/
def applies (pattern : Option Pattern) (source url : String) : Bool :=
  match pattern with
  | some p => p.isMatch url
  | none => source.isEmpty || source = "*" || Text.occursIn source url

/-- Whether a domain pattern applies to a URL; none applies to an empty one. -/
def domainApplies (source url : String) : Bool :=
  !url.isEmpty && applies (Pattern.ofSource? source) source url

namespace PatternCache

/-- Whether a domain pattern applies to a URL, and the cache after it. -/
def applies (c : PatternCache) (source url : String) : Bool × PatternCache :=
  if url.isEmpty then (false, c)
  else
    let (pattern, c) := c.compiled source
    (PageGuard.applies pattern source url, c)

theorem applies_fst (c : PatternCache) (source url : String) :
    (c.applies source url).1 = domainApplies source url := by
  unfold applies domainApplies
  split <;> simp_all [compiled_fst]

end PatternCache

end PageGuard
