import ExprFront.Scan.State

/-!
# Text mode: the literal text of f-strings

In text mode the scanner reads the text of the innermost f-string, or the format spec of its
innermost field, up to the next boundary that `Source.textStop` finds. Text before a boundary
is reported first as an `fstringMiddle` piece; the boundary itself comes out on the next step:

* a `{` opens a field, unless the literal already has `maxFormatSpecDepth + 1` open fields;
* a `}` in a format spec closes its field;
* a single `}` outside a format spec, a line break in a single-quoted literal and the end of the
  text are faults;
* the closing quotes end the literal, taking along any text no earlier piece reported, unless
  a format spec is still open.
-/

namespace ExprFront

namespace ScanM

/-- Changes the state of the innermost open f-string. -/
def modifyLiteral (f : LiteralProgress → LiteralProgress) : ScanM Unit :=
  modify fun sc => { sc with literals := sc.literals.modifyState f }

/-- Reports the text since `start` as a piece of f-string text. -/
def textPiece (start : Nat) : ScanM RawToken := do
  modifyLiteral fun st => { st with reported := true }
  emit .fstringMiddle start

/-- Opens a field at the `{` at `start`. -/
def beginField (start : Nat) : ScanM RawToken := do
  advance 1
  let sc ← get
  match sc.literals.state? with
  | none => emit (.punct .lbrace) start
  | some st =>
    if st.fields.length > sc.limits.maxFormatSpecDepth then
      fault .tooDeeplyNested start ⟨start, start + 1⟩
    else
      modifyLiteral fun st =>
        { st with fields := { brace := start } :: st.fields, reported := true }
      emit (.punct .lbrace) start

/-- Closes the field whose format spec ends at the `}` at `start`. -/
def endSpec (start : Nat) : ScanM RawToken := do
  advance 1
  modifyLiteral fun st => { st with fields := st.fields.tail }
  emit (.punct .rbrace) start

/-- The fault of a field left open, reported at its `{`. -/
def openFieldFault (start : Nat) : ScanM RawToken := do
  let sc ← get
  let brace := match sc.innerField? with
    | some fl => fl.brace
    | none => start
  fault .unterminatedField start ⟨brace, brace + 1⟩

/-- Ends the innermost f-string at its closing quotes, which follow the text since `start`. -/
def closeFString (start : Nat) (d : Delimiter) : ScanM RawToken := do
  let sc ← get
  let reported := match sc.literals.state? with
    | some st => st.reported
    | none => false
  if reported && sc.pos > start then textPiece start
  else
    advance d.closeLength
    let sc ← get
    match sc.literals.close d.quote d.size with
    | .ok (_, rest) =>
      set { sc with literals := rest }
      emit .fstringEnd start
    | .error _ => fault .delimiterMismatch start ⟨start, sc.pos⟩

/-- One step in text mode, in a literal with delimiter `d`. -/
def textStep (d : Delimiter) : ScanM RawToken := do
  let sc ← get
  let start := sc.pos
  let inFormatSpec := match sc.innerField? with
    | some fl => fl.inFormatSpec
    | none => false
  match sc.src.textStop d inFormatSpec start with
  | .openBrace j =>
    moveTo j
    if j > start then textPiece start else beginField start
  | .closeBrace j =>
    moveTo j
    if j > start then textPiece start else endSpec start
  | .loneBrace j =>
    moveTo (j + 1)
    fault .loneRightBrace start ⟨j, j + 1⟩
  | .lineBreak j =>
    moveTo j
    fault .newlineInFString start ⟨j, j + 1⟩
  | .eof j =>
    moveTo j
    if inFormatSpec then openFieldFault start
    else
      let opened := sc.literals.currentStart?.getD start
      fault .unterminatedFString start ⟨opened, opened + d.openLength⟩
  | .closer j =>
    moveTo j
    if inFormatSpec then openFieldFault start else closeFString start d

end ScanM

end ExprFront
