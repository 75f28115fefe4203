/-!
# Nesting limits

Two limits bound how deep a scan may nest literals:

* `maxFStringDepth` — how many f-strings may be open at once (150 by default);
* `maxFormatSpecDepth` — how many fields may be open inside the format spec of one literal's
  innermost field, so that a literal holds at most one more field than this (2 by default).

Exceeding either is reported as `tooDeeplyNested`; nothing else depends on them.
-/

namespace ExprFront

/-- The nesting limits of a scan. -/
structure ScanLimits where
  /-- How many f-strings may be open at once. -/
  maxFStringDepth : Nat := 150
  /-- How many fields may be open in format specs of one literal, beyond the first. -/
  maxFormatSpecDepth : Nat := 2
  deriving DecidableEq, Repr, Inhabited

end ExprFront
