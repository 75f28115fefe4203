import ExprFront.Scan.FString

/-!
# Code mode: names, numbers, strings and punctuation

In code mode the scanner reads ordinary tokens: outside f-strings, and in the expression part
of an f-string field. Inside a field it also keeps the field's state:

* every byte that can begin an expression marks the field as having one, until a `=` or `!`
  marker ends it;
* a `=`, `!` or `:` at the field's top level (no bracket of its own open) ends an expression,
  and is a fault if there is none; a top-level `:` moves the field into its format spec;
* a top-level `}` closes the field, again a fault if it holds no expression;
* a line break or a comment is a fault in a field of a single-quoted literal.

Brackets must match: each field has its own bracket stack, and code outside f-strings has one
more. At the end of the text an open field or an open outer bracket is a fault.
-/

namespace ExprFront

namespace Source

/-- The offset past the decimal digits and underscores from `i` on. -/
def digitsEnd (src : Source) (i : Nat) : Nat :=
  src.findFrom (fun b => !(isDigitByte b || b == 95)) i

/-- Reads an exponent at `i`: `e` or `E`, an optional sign, and at least one digit. Gives the
offset past it and whether there was one. -/
def exponentEnd (src : Source) (i : Nat) : Nat × Bool :=
  let e := src.byte i
  if e == 101 || e == 69 then
    let next := src.byte (i + 1)
    let signed := (next == 43 || next == 45) && isDigitByte (src.byte (i + 2))
    if isDigitByte next then (src.digitsEnd (i + 1), true)
    else if signed then (src.digitsEnd (i + 2), true)
    else (i, false)
  else (i, false)

end Source

namespace ScanM

/-- Whether a byte at the start of a code token begins an expression in a field. Blanks, line
breaks, comments, backslashes, the markers `= ! :` and `}` do not. -/
def beginsExpr (b : UInt8) : Bool :=
  match byteChar b with
  | '\x00' | ' ' | '\t' | '\x0c' | '\n' | '\r' | '#' | '\\' | '=' | '!' | ':' | '}' => false
  | _ => true

/-- Records the first byte of a code token in the innermost open field. -/
def markExpression (b : UInt8) : ScanM Unit :=
  modify fun sc => sc.modifyField fun fl =>
    if beginsExpr b && !fl.markerSeen then { fl with sawExpression := true } else fl

/-- An operator of `n` bytes, or an augmented assignment if a `=` follows it. -/
def operatorAt (start n : Nat) (plain : Punct) : ScanM RawToken := do
  advance n
  if (← peekAt 0) == 61 then
    advance 1
    emit (.punct .augAssign) start
  else emit (.punct plain) start

/-- A punctuation token of two bytes. -/
def pair (start : Nat) (p : Punct) : ScanM RawToken := do
  advance 2
  emit (.punct p) start

/-- A zero byte: an invalid character inside the text, else the end of the text, which is a
fault while a field or an outer bracket is open. -/
def zeroByte (start : Nat) : ScanM RawToken := do
  let sc ← get
  if sc.pos < sc.src.size then single (.fault .invalidCharacter) start
  else
    match sc.innerField? with
    | some fl => fault .unterminatedField start ⟨fl.brace, fl.brace + 1⟩
    | none =>
      match sc.brackets with
      | ob :: _ => fault .unclosedBracket start ⟨ob.pos, ob.pos + 1⟩
      | [] => emit .eof start

/-- A run of blanks. -/
def blanks (start : Nat) : ScanM RawToken := do
  let sc ← get
  moveTo (sc.src.findFrom (fun b => !(b == 32 || b == 9 || b == 12)) start)
  emit .whitespace start

/-- A line break: it ends a logical line only outside brackets and fields. -/
def lineBreak (start : Nat) : ScanM RawToken := do
  eatLineBreak
  let sc ← get
  match sc.innerField? with
  | some _ =>
    if sc.inSingleQuoted then fault .newlineInFString start ⟨start, start + 1⟩
    else emit .softNewline start
  | none => if sc.brackets.isEmpty then emit .newline start else emit .softNewline start

/-- A comment, up to the end of its line. -/
def comment (start : Nat) : ScanM RawToken := do
  let sc ← get
  if sc.innerField?.isSome && sc.inSingleQuoted then
    advance 1
    fault .commentInFString start ⟨start, start + 1⟩
  else
    moveTo (sc.src.findFrom isLineBreakByte start)
    emit .comment start

/-- A backslash: a line continuation before a line break, else a fault. -/
def continuation (start : Nat) : ScanM RawToken := do
  advance 1
  if isLineBreakByte (← peekAt 0) then
    eatLineBreak
    emit .lineContinuation start
  else emit (.fault .strayBackslash) start

/-- Opens an f-string whose opener runs from `start` to the current offset. -/
def openFString (start : Nat) (d : Delimiter) : ScanM RawToken := do
  let sc ← get
  if sc.literals.depth ≥ sc.limits.maxFStringDepth then
    fault .tooDeeplyNested start ⟨start, sc.pos⟩
  else
    set { sc with literals := sc.literals.push d start {} }
    emit .fstringStart start

/-- The fault of a string cut off: inside a field whose literal the string's own quotes would
close, the field is what is left open; otherwise the string, reported at its opener. -/
def cutOffString (start : Nat) (d : Delimiter) : ScanM RawToken := do
  let sc ← get
  let stringFault := fault .unterminatedString start ⟨start, start + d.openLength⟩
  match sc.innerField?, sc.literals.current? with
  | some fl, some enclosing =>
    if enclosing.closedBy d.quote d.size then
      fault .unterminatedField start ⟨fl.brace, fl.brace + 1⟩
    else stringFault
  | _, _ => stringFault

/-- A string or f-string whose opener, with delimiter `d`, starts at `start`. -/
def literal (start : Nat) (d : Delimiter) : ScanM RawToken := do
  advance d.openLength
  if d.flags.formatted then openFString start d
  else
    let sc ← get
    match sc.src.stringBodyEnd d sc.pos with
    | .closed j =>
      moveTo j
      emit .string start
    | .unterminated j =>
      moveTo j
      cutOffString start d

/-- The delimiter that the bytes at `start` open, looking at five bytes at most. -/
def openerAt? (start : Nat) : ScanM (Option Delimiter) := do
  let sc ← get
  pure (Delimiter.ofOpener? (sc.src.window start (min (start + 5) sc.src.size)))

/-- A quote: it always opens a string. -/
def quoted (start : Nat) : ScanM RawToken := do
  match ← openerAt? start with
  | some d => literal start d
  | none => single (.fault .invalidCharacter) start

/-- An ASCII letter or `_`: a string prefix if a quote follows, else an identifier. -/
def word (start : Nat) : ScanM RawToken := do
  match ← openerAt? start with
  | some d => literal start d
  | none =>
    let sc ← get
    moveTo (sc.src.identEnd (start + 1))
    emit .ident start

/-- A non-ASCII character: an identifier if it may start one, else an invalid character. -/
def unicodeWord (start : Nat) : ScanM RawToken := do
  let sc ← get
  let next := start + charWidth (sc.src.byte start)
  if sc.src.charAtIs start Text.xidStart.contains then
    moveTo (sc.src.identEnd next)
    emit .ident start
  else
    moveTo next
    emit (.fault .invalidCharacter) start

/-- The end of a number: `j` makes it imaginary. -/
def numberEnd (start : Nat) (isFloat : Bool) : ScanM RawToken := do
  let b ← peekAt 0
  if b == 106 || b == 74 then
    advance 1
    emit .imaginary start
  else emit (if isFloat then .float else .int) start

/-- A number starting with a digit. -/
def number (start : Nat) : ScanM RawToken := do
  let sc ← get
  let src := sc.src
  let b1 := src.byte (start + 1)
  let radix := b1 == 120 || b1 == 88 || b1 == 111 || b1 == 79 || b1 == 98 || b1 == 66
  if src.byte start == 48 && radix then
    moveTo (src.findFrom (fun b => !(isHexByte b || b == 95)) (start + 2))
    emit .int start
  else
    let p := src.digitsEnd (start + 1)
    let (p, isFloat) := if src.byte p == 46 then (src.digitsEnd (p + 1), true) else (p, false)
    let (p, hasExp) := src.exponentEnd p
    moveTo p
    numberEnd start (isFloat || hasExp)

/-- A dot: a number if a digit follows, an ellipsis, or a plain dot. -/
def dot (start : Nat) : ScanM RawToken := do
  let sc ← get
  let src := sc.src
  if isDigitByte (src.byte (start + 1)) then
    moveTo (src.exponentEnd (src.digitsEnd (start + 1))).1
    numberEnd start true
  else if src.byte (start + 1) == 46 && src.byte (start + 2) == 46 then
    advance 3
    emit (.punct .ellipsis) start
  else single (.punct .dot) start

/-- A `=` or `!` just read, which ends the expression of a field at its top level. -/
def endExpression (start : Nat) (p : Punct) : ScanM RawToken := do
  let sc ← get
  match sc.fieldAtTop? with
  | none => emit (.punct p) start
  | some fl =>
    if !fl.sawExpression then fault .emptyField start ⟨fl.brace, sc.pos⟩
    else
      modify fun sc => sc.modifyField fun fl => { fl with markerSeen := true }
      emit (.punct p) start

/-- A colon: at a field's top level it begins the format spec, elsewhere it may begin `:=`. -/
def colon (start : Nat) : ScanM RawToken := do
  advance 1
  let sc ← get
  match sc.fieldAtTop? with
  | some fl =>
    if !fl.sawExpression then fault .emptyField start ⟨fl.brace, sc.pos⟩
    else
      modify fun sc => sc.modifyField fun fl => { fl with inFormatSpec := true }
      emit (.punct .colon) start
  | none =>
    if (← peekAt 0) == 61 then
      advance 1
      emit (.punct .colonEq) start
    else emit (.punct .colon) start

/-- An opening bracket. -/
def pushBracket (start : Nat) (kind : Bracket) (p : Punct) : ScanM RawToken := do
  advance 1
  modify fun sc => sc.setOpenBrackets (⟨kind, start⟩ :: sc.openBrackets)
  emit (.punct p) start

/-- The `}` at `start` that closes the innermost field. -/
def endField (start : Nat) : ScanM RawToken := do
  advance 1
  let sc ← get
  match sc.innerField? with
  | none => emit (.punct .rbrace) start
  | some fl =>
    modifyLiteral fun st => { st with fields := st.fields.tail }
    if !fl.sawExpression then fault .emptyField start ⟨fl.brace, sc.pos⟩
    else emit (.punct .rbrace) start

/-- A closing bracket, which must match the innermost open one. -/
def popBracket (start : Nat) (kind : Bracket) (p : Punct) : ScanM RawToken := do
  let sc ← get
  if kind == .curly && sc.fieldAtTop?.isSome then endField start
  else
    advance 1
    let site : Span := ⟨start, start + 1⟩
    match sc.openBrackets with
    | ob :: rest =>
      if ob.kind == kind then
        modify fun sc => sc.setOpenBrackets rest
        emit (.punct p) start
      else fault .mismatchedBracket start site
    | [] => fault .unmatchedBracket start site

/-- Whether a byte may start an ASCII identifier: a letter or `_`. -/
def isIdentStartByte (b : UInt8) : Bool := Delimiter.isAsciiLetter b || b == 95

/-- One step in code mode. -/
def codeStep : ScanM RawToken := do
  let sc ← get
  let start := sc.pos
  let b := sc.src.byte start
  let next := sc.src.byte (start + 1)
  markExpression b
  match byteChar b with
  | '\x00' => zeroByte start
  | ' ' | '\t' | '\x0c' => blanks start
  | '\n' | '\r' => lineBreak start
  | '#' => comment start
  | '\\' => continuation start
  | '\x27' | '"' => quoted start
  | '.' => dot start
  | '+' => operatorAt start 1 .plus
  | '-' => if next == 62 then pair start .arrow else operatorAt start 1 .minus
  | '*' => if next == 42 then operatorAt start 2 .doubleStar else operatorAt start 1 .star
  | '/' => if next == 47 then operatorAt start 2 .doubleSlash else operatorAt start 1 .slash
  | '%' => operatorAt start 1 .percent
  | '@' => operatorAt start 1 .at
  | '&' => operatorAt start 1 .amp
  | '|' => operatorAt start 1 .pipe
  | '^' => operatorAt start 1 .caret
  | '~' => single (.punct .tilde) start
  | '<' =>
    if next == 60 then operatorAt start 2 .shl
    else if next == 61 then pair start .ltEq
    else single (.punct .lt) start
  | '>' =>
    if next == 62 then operatorAt start 2 .shr
    else if next == 61 then pair start .gtEq
    else single (.punct .gt) start
  | '=' =>
    if next == 61 then pair start .eqEq
    else do advance 1; endExpression start .eq
  | '!' =>
    if next == 61 then pair start .notEq
    else do advance 1; endExpression start .bang
  | ':' => colon start
  | ',' => single (.punct .comma) start
  | ';' => single (.punct .semicolon) start
  | '(' => pushBracket start .paren .lparen
  | '[' => pushBracket start .square .lbracket
  | '{' => pushBracket start .curly .lbrace
  | ')' => popBracket start .paren .rparen
  | ']' => popBracket start .square .rbracket
  | '}' => popBracket start .curly .rbrace
  | _ =>
    if isIdentStartByte b then word start
    else if isDigitByte b then number start
    else if b ≥ 0x80 then unicodeWord start
    else single (.fault .invalidCharacter) start

end ScanM

end ExprFront
