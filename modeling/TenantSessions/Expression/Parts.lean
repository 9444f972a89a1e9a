/-! Parts that stand side by side nest as deeply as the deepest of them, and by one more if there
are several. -/

namespace TenantSessions.Expression

/-- Parts that stand side by side. -/
structure Parts where
  count : Nat
  /-- How deeply the deepest part nests. -/
  deepest : Nat
deriving DecidableEq, Repr

namespace Parts

/-- No part at all. -/
def none : Parts where
  count := 0
  deepest := 0

/-- Adds a part that nests so deeply. -/
def add (parts : Parts) (depth : Nat) : Parts where
  count := parts.count + 1
  deepest := max parts.deepest depth

/-- How deeply the parts nest together. -/
def depth (parts : Parts) : Nat :=
  -- A part that stands alone needs nothing around it.
  if parts.count ≤ 1 then parts.deepest else parts.deepest + 1

end Parts

end TenantSessions.Expression
