import ExprFront.Scan.Limits
import ExprFront.Text.Quoted
import ExprFront.Text.WhiteSpace

/-!
# Limits from the environment

The nesting limits can be set by two environment variables, read in this order:

* `fstringDepthVar` — how many f-strings may be open at once; at least 1;
* `formatSpecDepthVar` — how deep fields may nest in format specs; 0 is allowed.

A value is trimmed of white space first, and an empty value leaves the default. What remains
must be a count: an optional `+` and decimal digits, at most `2^64 - 1`. The first bad value
is the error.
-/

namespace ExprFront

/-- The variable that sets how many f-strings may be open at once. -/
def fstringDepthVar : String := "QUILL_MAX_FSTRING_DEPTH"

/-- The variable that sets how deep fields may nest in format specs. -/
def formatSpecDepthVar : String := "QUILL_MAX_FORMAT_SPEC_DEPTH"

/-- A bad setting. -/
inductive ConfigError where
  /-- The value of the variable is no count. -/
  | invalidNumber (var : String) (value : String)
  /-- The f-string depth is set to zero. -/
  | zero (var : String)
  deriving DecidableEq, Repr

/-- The text of a bad setting; the value is quoted as written, before trimming. -/
def ConfigError.message : ConfigError → String
  | .invalidNumber var value => var ++ " must be a non-negative integer, got " ++ Text.quote value
  | .zero var => var ++ " must be at least 1"

/-- The text without white space at either end. -/
def trimWhiteSpace (s : String) : String :=
  let isWhite := Text.whiteSpace.contains
  String.ofList ((s.toList.dropWhile isWhite).reverse.dropWhile isWhite).reverse

/-- The largest count a setting may hold, `2^64 - 1`. -/
def maxCount : Nat := 18446744073709551615

/-- A count written as an optional `+` and at least one decimal digit, at most `maxCount`. -/
def parseCount? (s : String) : Option Nat :=
  let digits := match s.toList with
    | '+' :: rest => rest
    | cs => cs
  if digits.isEmpty || !digits.all Char.isDigit then none
  else
    let n := digits.foldl (fun n c => n * 10 + (c.toNat - '0'.toNat)) 0
    if n ≤ maxCount then some n else none

/-- Reads one variable: nothing if it is unset or blank. -/
def readSetting (lookup : String → Option String) (var : String) :
    Except ConfigError (Option Nat) :=
  match lookup var with
  | none => .ok none
  | some value =>
    let trimmed := trimWhiteSpace value
    if trimmed.isEmpty then .ok none
    else match parseCount? trimmed with
      | some n => .ok (some n)
      | none => .error (.invalidNumber var value)

/-- The limits that the variables set, through a lookup of their values. -/
def ScanLimits.ofLookup (lookup : String → Option String) : Except ConfigError ScanLimits := do
  let depth ← readSetting lookup fstringDepthVar
  if depth = some 0 then throw (.zero fstringDepthVar)
  let spec ← readSetting lookup formatSpecDepthVar
  let defaults : ScanLimits := {}
  return { maxFStringDepth := depth.getD defaults.maxFStringDepth,
           maxFormatSpecDepth := spec.getD defaults.maxFormatSpecDepth }

end ExprFront
