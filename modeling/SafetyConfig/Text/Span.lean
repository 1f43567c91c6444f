/-!
# Spans of code points

A character class is a list of spans, each with both ends in the class.
-/

namespace SafetyConfig

/-- The code points from `first` to `last`, both included. -/
structure Span where
  first : Nat
  last : Nat
  deriving DecidableEq, Repr

namespace Span

def has (s : Span) (n : Nat) : Bool :=
  s.first ≤ n && n ≤ s.last

/-- Membership in a class given by its spans. -/
def anyHas (spans : List Span) (n : Nat) : Bool :=
  spans.any (·.has n)

theorem anyHas_iff {spans : List Span} {n : Nat} :
    anyHas spans n = true ↔ ∃ s ∈ spans, s.first ≤ n ∧ n ≤ s.last := by
  simp [anyHas, has]

/-- The class whose spans are given as pairs of ends. -/
def ofPairs (ends : List (Nat × Nat)) : List Span :=
  ends.map fun e => ⟨e.1, e.2⟩

end Span

end SafetyConfig
