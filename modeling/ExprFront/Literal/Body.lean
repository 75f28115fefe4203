import ExprFront.Source.Walk
import ExprFront.Literal.Delimiter

/-!
# Walking through literal bodies

A literal's body is scanned as a whole: these walks start just after an opening (or after the
previous piece of an f-string's text) and say where the scan stops and why. Each step moves
forward by at least one byte, so every walk ends.

* `escapeEnd` — past the character a backslash escapes; a line break counts as one.
* `stringBodyEnd` — past the closing quotes of an ordinary string, or where it is cut off:
  at a line break of a single-quoted string, or at the end of the text.
* `textStop` — the next boundary of an f-string's text: a `{` that opens a field, a `}`,
  a forbidden line break, the closing quotes or the end. Doubled braces are text, except that
  a format spec takes every `{` as a field. A backslash never escapes a brace, and in a
  non-raw literal `\N{…}` is skipped up to its `}`.
-/

namespace ExprFront

namespace Source

/-- Whether the closing quotes of `d` start at offset `j`. -/
def closesAt (src : Source) (d : Delimiter) (j : Nat) : Bool :=
  src.byte j == d.quote.byte &&
    (!d.spansLines || (src.byte (j + 1) == d.quote.byte && src.byte (j + 2) == d.quote.byte))

/-- The offset past the character that a backslash before offset `k` escapes: past a line
break, nothing at the end of the text, else one whole character. -/
def escapeEnd (src : Source) (k : Nat) : Nat :=
  let b := src.byte k
  if isLineBreakByte b then src.lineBreakEnd k
  else if b == 0 && src.size ≤ k then k
  else k + charWidth b

theorem le_escapeEnd (src : Source) (k : Nat) : k ≤ src.escapeEnd k := by
  unfold escapeEnd
  have := src.lt_lineBreakEnd k
  have := one_le_charWidth (src.byte k)
  dsimp only
  split
  · omega
  · split <;> omega

/-- Where the scan of an ordinary string's body stops. -/
inductive BodyEnd where
  /-- The closing quotes end just before this offset. -/
  | closed (pos : Nat)
  /-- The body is cut off at this offset. -/
  | unterminated (pos : Nat)
  deriving DecidableEq, Repr

/-- Walks an ordinary string's body from offset `i`. -/
def stringBodyEnd (src : Source) (d : Delimiter) (i : Nat) : BodyEnd :=
  match hj : src.findFrom (fun b => b == d.quote.byte || b == 92 || isLineBreakByte b) i with
  | j =>
  if j < src.size then
    let b := src.byte j
    if b == 92 then src.stringBodyEnd d (src.escapeEnd (j + 1))
    else if isLineBreakByte b then
      if d.spansLines then src.stringBodyEnd d (src.lineBreakEnd j) else .unterminated j
    else if src.closesAt d j then .closed (j + d.closeLength)
    else src.stringBodyEnd d (j + 1)
  else .unterminated j
termination_by src.size - i
decreasing_by
  all_goals
    have := src.le_findFrom (fun b => b == d.quote.byte || b == 92 || isLineBreakByte b) i
  · have := src.le_escapeEnd (j + 1); omega
  · have := src.lt_lineBreakEnd j; omega
  · omega

/-- The offset past a named escape's name, which starts at `m`: past its `}`, or at a line
break, the quote character or the end of the text, whichever comes first. -/
def namedEscapeEnd (src : Source) (q : UInt8) (m : Nat) : Nat :=
  if m < src.size then
    let b := src.byte m
    if b == 125 then m + 1
    else if isLineBreakByte b || b == q then m
    else src.namedEscapeEnd q (m + charWidth b)
  else m
termination_by src.size - m
decreasing_by have := one_le_charWidth (src.byte m); omega

theorem le_namedEscapeEnd (src : Source) (q : UInt8) (m : Nat) : m ≤ src.namedEscapeEnd q m := by
  fun_induction src.namedEscapeEnd q m <;> omega

/-- The offset past what a backslash before offset `k` covers in f-string text: nothing
before a brace, a whole named escape `\N{…}` in a non-raw literal, else what `escapeEnd`
covers. -/
def textEscapeEnd (src : Source) (d : Delimiter) (k : Nat) : Nat :=
  let b := src.byte k
  if b == 123 || b == 125 then k
  else if b == 78 && !d.flags.raw && src.byte (k + 1) == 123 then
    src.namedEscapeEnd d.quote.byte (k + 2)
  else src.escapeEnd k

theorem le_textEscapeEnd (src : Source) (d : Delimiter) (k : Nat) :
    k ≤ src.textEscapeEnd d k := by
  unfold textEscapeEnd
  have := src.le_escapeEnd k
  have := src.le_namedEscapeEnd d.quote.byte (k + 2)
  dsimp only
  split
  · omega
  · split <;> omega

/-- The next boundary in f-string text. -/
inductive TextStop where
  /-- A `{` that opens a field. -/
  | openBrace (pos : Nat)
  /-- A `}` that closes the format spec being scanned. -/
  | closeBrace (pos : Nat)
  /-- A single `}` outside a format spec. -/
  | loneBrace (pos : Nat)
  /-- A line break in a single-quoted literal. -/
  | lineBreak (pos : Nat)
  /-- The closing quotes. -/
  | closer (pos : Nat)
  /-- The end of the text. -/
  | eof (pos : Nat)
  deriving DecidableEq, Repr

/-- Walks f-string text of a literal with delimiter `d` from offset `i`; `inFormatSpec` says the
text is a format spec. -/
def textStop (src : Source) (d : Delimiter) (inFormatSpec : Bool) (i : Nat) : TextStop :=
  match hj : src.findFrom
    (fun b => b == d.quote.byte || b == 123 || b == 125 || b == 92 || isLineBreakByte b) i with
  | j =>
  if j < src.size then
    let b := src.byte j
    if b == 123 then
      if !inFormatSpec && src.byte (j + 1) == 123 then src.textStop d inFormatSpec (j + 2)
      else .openBrace j
    else if b == 125 then
      if inFormatSpec then .closeBrace j
      else if src.byte (j + 1) == 125 then src.textStop d inFormatSpec (j + 2)
      else .loneBrace j
    else if b == 92 then src.textStop d inFormatSpec (src.textEscapeEnd d (j + 1))
    else if isLineBreakByte b then
      if d.spansLines then src.textStop d inFormatSpec (src.lineBreakEnd j) else .lineBreak j
    else if src.closesAt d j then .closer j
    else src.textStop d inFormatSpec (j + 1)
  else .eof j
termination_by src.size - i
decreasing_by
  all_goals
    have := src.le_findFrom
      (fun b => b == d.quote.byte || b == 123 || b == 125 || b == 92 || isLineBreakByte b) i
  · omega
  · omega
  · have := src.le_textEscapeEnd d (j + 1); omega
  · have := src.lt_lineBreakEnd j; omega
  · omega

end Source

end ExprFront
