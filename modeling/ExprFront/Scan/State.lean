import ExprFront.Literal.Body
import ExprFront.Scan.Limits
import ExprFront.Scan.Tag
import ExprFront.Literal.DelimiterStack
import ExprFront.Source.Buffer

/-!
# The scanner's state

All nesting lives in the `Scanner` value:

* the `DelimiterStack` of open f-strings, each with a `LiteralProgress`: its open fields,
  innermost first, and whether it has reported any piece of text or field yet;
* for each open field, a `FieldProgress`: where its `{` is, its own open brackets, whether the
  scan has reached its format spec, whether an expression has begun, and whether a `=` or `!`
  marker followed it;
* the brackets open outside any f-string;
* the site of the fault reported last, and whether the scan has stopped.

The scanner is in *text mode* when an f-string is open and it has no open field, or its
innermost field is in the format spec; otherwise it is in *code mode*. `ScanM` is the state
monad the scanning steps run in.
-/

namespace ExprFront

/-- A kind of bracket. -/
inductive Bracket where
  | paren | square | curly
  deriving DecidableEq, Repr, Inhabited

/-- An open bracket and its offset. -/
structure OpenBracket where
  /-- Which bracket. -/
  kind : Bracket
  /-- The offset of the bracket. -/
  pos : Nat
  deriving DecidableEq, Repr, Inhabited

/-- An open field of an f-string. -/
structure FieldProgress where
  /-- The offset of the field's `{`. -/
  brace : Nat
  /-- The field's own open brackets, innermost first. -/
  brackets : List OpenBracket := []
  /-- Whether the scan is in the field's format spec. -/
  inFormatSpec : Bool := false
  /-- Whether an expression has begun in the field. -/
  sawExpression : Bool := false
  /-- Whether a `=` or `!` marker has ended the expression. -/
  markerSeen : Bool := false
  deriving DecidableEq, Repr, Inhabited

/-- The scanner's record of one open f-string. -/
structure LiteralProgress where
  /-- The open fields, innermost first. -/
  fields : List FieldProgress := []
  /-- Whether a piece of text or a field of the literal has been reported. -/
  reported : Bool := false
  deriving DecidableEq, Repr, Inhabited

/-- A scan in progress. -/
structure Scanner where
  /-- The text. -/
  src : Source
  /-- The nesting limits. -/
  limits : ScanLimits
  /-- The offset of the next byte to read. -/
  pos : Nat
  /-- The open f-strings. -/
  literals : DelimiterStack LiteralProgress := {}
  /-- The brackets open outside any f-string, innermost first. -/
  brackets : List OpenBracket := []
  /-- The site of the last fault. -/
  errorSite : Option Span := none
  /-- Whether the scan has stopped at a fault. -/
  stopped : Bool := false

namespace Scanner

/-- A scan of a text from its start, past a byte-order mark if there is one. -/
def start (src : Source) (limits : ScanLimits) : Scanner :=
  { src, limits, pos := src.scanStart }

/-- The innermost open field, if any. -/
def innerField? (sc : Scanner) : Option FieldProgress :=
  sc.literals.state?.bind (·.fields.head?)

/-- The innermost open field, if no bracket of its own is open. -/
def fieldAtTop? (sc : Scanner) : Option FieldProgress :=
  sc.innerField?.filter (·.brackets.isEmpty)

/-- Changes the innermost open field; nothing if none is open. -/
def modifyField (sc : Scanner) (f : FieldProgress → FieldProgress) : Scanner :=
  { sc with
    literals := sc.literals.modifyState fun st =>
      match st.fields with
      | [] => st
      | fl :: rest => { st with fields := f fl :: rest } }

/-- The brackets that a bracket token opens or closes: those of the innermost open field, or
those outside every f-string. -/
def openBrackets (sc : Scanner) : List OpenBracket :=
  match sc.innerField? with
  | some fl => fl.brackets
  | none => sc.brackets

/-- Replaces the brackets that `openBrackets` gives. -/
def setOpenBrackets (sc : Scanner) (bs : List OpenBracket) : Scanner :=
  match sc.innerField? with
  | some _ => sc.modifyField fun fl => { fl with brackets := bs }
  | none => { sc with brackets := bs }

/-- Whether the innermost open f-string is single-quoted. -/
def inSingleQuoted (sc : Scanner) : Bool :=
  match sc.literals.current? with
  | some d => !d.spansLines
  | none => false

/-- The delimiter of the literal whose text is scanned next, if the scanner is in text mode. -/
def textDelimiter? (sc : Scanner) : Option Delimiter :=
  match sc.literals.state? with
  | none => none
  | some st =>
    match st.fields.head? with
    | some fl => if fl.inFormatSpec then sc.literals.current? else none
    | none => sc.literals.current?

end Scanner

/-- Scanning steps: computations on a scan in progress. -/
abbrev ScanM := StateM Scanner

namespace ScanM

/-- The byte `k` places after the next one. -/
def peekAt (k : Nat) : ScanM UInt8 := do
  let sc ← get
  pure (sc.src.byte (sc.pos + k))

/-- The offset of the next byte. -/
def pos : ScanM Nat := do pure (← get).pos

/-- Moves to an offset. -/
def moveTo (p : Nat) : ScanM Unit := modify fun sc => { sc with pos := p }

/-- Moves forward `n` bytes. -/
def advance (n : Nat) : ScanM Unit := modify fun sc => { sc with pos := sc.pos + n }

/-- The piece from `start` to the current offset. -/
def emit (tag : RawTag) (start : Nat) : ScanM RawToken := do
  pure ⟨tag, (← get).pos - start⟩

/-- The piece of one byte at `start`. -/
def single (tag : RawTag) (start : Nat) : ScanM RawToken := do
  advance 1
  emit tag start

/-- A fault from `start` to the current offset, reported at `site`. -/
def fault (f : ScanFault) (start : Nat) (site : Span) : ScanM RawToken := do
  modify fun sc => { sc with errorSite := some site }
  emit (.fault f) start

/-- Moves past one line break. -/
def eatLineBreak : ScanM Unit := modify fun sc => { sc with pos := sc.src.lineBreakEnd sc.pos }

end ScanM

end ExprFront
