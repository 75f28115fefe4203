import ExprFront.Syntax.Cursor

/-!
# The expression grammar

A recursive-descent parser over the token stream. The productions, loosest first:

```
expressions    item (',' item)* [',']          a tuple when a comma occurs
expression     lambda | disjunction ['if' disjunction 'else' expression]
disjunction    conjunction ('or' conjunction)*
conjunction    inversion ('and' inversion)*
inversion      'not' inversion | comparison
comparison     bitwise_or (cmp_op bitwise_or)*  one flat chain
bitwise_or … term                              | ^ & << >> + - * / // % @, left-associative
factor         ('+' | '-' | '~') factor | power
power          await_primary ['**' factor]
await_primary  ['await'] primary
primary        atom ('.' NAME | call | subscript)*
atom           names, numbers, constants, strings, ( … ), [ … ], { … }
```

F-strings arrive split into start, text, field tokens and end; a field's expression is parsed
by the same grammar, and the `=`, `!` and `:` that end it were emitted by the scanner only at
the field's top level.

Every list a node holds is stored in the arena where the parser completes it (`storeList`):
a display's items and a comprehension's clauses before the closing bracket is read, a call's
arguments and a dict's entries after it. A list of more than `u16::MAX` entries makes the
parser give up there.

Errors carry the innermost context that the failing production was inside of. Every
production takes a `fuel` argument that bounds the depth of the descent; `Expr.ofTokens` gives
enough for any token stream, since each level of nesting consumes a token.
-/

namespace ExprFront

namespace Grammar

open ParseM

/-- What an expression list is made of: items that may be starred expressions, or items that
may also be assignment expressions. -/
inductive ListItem where
  | star | starNamed
  deriving DecidableEq, Repr

/-- A level of the binary-operator chain, loosest first. -/
inductive BinLevel where
  | bitOr | bitXor | bitAnd | shift | sum | term
  deriving DecidableEq, Repr

/-- The next tighter level, or none below `term`. -/
def BinLevel.next? : BinLevel → Option BinLevel
  | .bitOr => some .bitXor
  | .bitXor => some .bitAnd
  | .bitAnd => some .shift
  | .shift => some .sum
  | .sum => some .term
  | .term => none

/-- The operator a token stands for at a level. -/
def BinLevel.operator? : BinLevel → TokenKind → Option BinaryOp
  | .bitOr, .punct .pipe => some .bitOr
  | .bitXor, .punct .caret => some .bitXor
  | .bitAnd, .punct .amp => some .bitAnd
  | .shift, .punct .shl => some .shl
  | .shift, .punct .shr => some .shr
  | .sum, .punct .plus => some .add
  | .sum, .punct .minus => some .sub
  | .term, .punct .star => some .mul
  | .term, .punct .slash => some .div
  | .term, .punct .doubleSlash => some .floorDiv
  | .term, .punct .percent => some .mod
  | .term, .punct .at => some .matMul
  | _, _ => none

/-- The prefix operator a token stands for. -/
def unaryOperator? : TokenKind → Option UnaryOp
  | .punct .plus => some .pos
  | .punct .minus => some .neg
  | .punct .tilde => some .invert
  | _ => none

/-- The failure when the descent is deeper than its bound. -/
def outOfFuel {α : Type} : ParseM α := failUnexpected "expression nested too deeply"

/-- Reads a comparison operator, `not in` and `is not` included. -/
def comparisonOp? : ParseM (Option CmpOp) := do
  let simple : Option CmpOp := match ← currentKind with
    | .punct .eqEq => some .eq
    | .punct .notEq => some .notEq
    | .punct .lt => some .lt
    | .punct .ltEq => some .ltEq
    | .punct .gt => some .gt
    | .punct .gtEq => some .gtEq
    | .keyword .in => some .isIn
    | _ => none
  match simple with
  | some op =>
    discard advance
    pure (some op)
  | none =>
    match ← currentKind, ← peekKind 1 with
    | .keyword .not, .keyword .in =>
      discard advance
      discard advance
      pure (some .notIn)
    | .keyword .is, .keyword .not =>
      discard advance
      discard advance
      pure (some .isNot)
    | .keyword .is, _ =>
      discard advance
      pure (some .is)
    | _, _ => pure none

/-- Refuses a starred expression where a plain one is needed. -/
def refuseStarred (e : Expr) : ParseM Unit :=
  if e.isStarred then failAt e.span "cannot use starred expression here" else pure ()

/-- Refuses a starred element of a comprehension. -/
def refuseUnpacking (e : Expr) : ParseM Unit :=
  if e.isStarred then failAt e.span "iterable unpacking cannot be used in comprehension"
  else pure ()

/-- What an expression that cannot be assigned to is called in an error. -/
def targetNoun : Expr → String
  | .number .. | .str .. | .concat .. => "literal"
  | .fstring .. => "f-string expression"
  | .constant .ellipsis _ => "ellipsis"
  | .constant .. => "constant"
  | .call .. => "function call"
  | .binary .. | .unary .. | .boolOp .. => "expression"
  | .compare .. => "comparison"
  | .set .. | .dict .. => "display"
  | .listComp .. | .setComp .. | .dictComp .. | .generator .. => "comprehension"
  | _ => "expression"

mutual

/-- The first part of a comprehension target that cannot be assigned to. Names, attributes
and subscripts can; a starred target, a tuple or a list can if their parts can. -/
def targetError? : Expr → Option SyntaxError
  | .name _ | .attribute .. | .subscript .. => none
  | .starred inner _ => targetError? inner
  | .tuple items _ | .list items _ => firstTargetError? items
  | e => some ⟨e.span, "cannot assign to " ++ targetNoun e, none, false⟩

/-- The first error among targets. -/
def firstTargetError? : List Expr → Option SyntaxError
  | [] => none
  | e :: rest =>
    match targetError? e with
    | some err => some err
    | none => firstTargetError? rest

end

/-- Whether a comprehension clause starts here. -/
def atClause : ParseM Bool := checkAny [.keyword .for, .keyword .async]

/-- Reads the conversion after a field's `!`, which must follow it directly. -/
def conversion : ParseM Conversion := do
  let bang ← advance
  let name ← current
  if name.kind == .punct .rbrace || name.kind == .punct .colon then
    failAt name.span "f-string: missing conversion character"
  else if name.kind != .name || name.span.start != bang.span.stop then
    failAt name.span "f-string: conversion type must come right after the exclamation mark"
  else
    let text := (← read).src.slice name.span
    match Conversion.ofName? text with
    | some c =>
      discard advance
      pure c
    | none =>
      failAt name.span ("f-string: invalid conversion character '" ++ text ++
        "': expected 's', 'r', or 'a'")

mutual

/-- The expression of an f-string field: a `yield` or a list of items. -/
def fieldExpression (fuel : Nat) : ParseM Expr :=
  match fuel with
  | 0 => outOfFuel
  | n + 1 => do
    if ← check (.keyword .yield) then yieldExpr n else sequence .starNamed n
termination_by structural fuel

/-- Items separated by commas; a tuple if there is a comma, with an optional trailing one. -/
def sequence (item : ListItem) (fuel : Nat) : ParseM Expr :=
  match fuel with
  | 0 => outOfFuel
  | n + 1 => do
    let first ← element item n
    if !(← check (.punct .comma)) then
      refuseStarred first
      pure first
    else
      let items ← sequenceRest item #[first] n
      let span := first.span.merge (← previousSpan)
      storeList items.size
      pure (.tuple items.toList span)
termination_by structural fuel

/-- The items after the first: each comma is followed by an item unless nothing that can
start one follows it. -/
def sequenceRest (item : ListItem) (acc : Array Expr) (fuel : Nat) : ParseM (Array Expr) :=
  match fuel with
  | 0 => outOfFuel
  | n + 1 => do
    if ← eat (.punct .comma) then
      if (← currentKind).canStartExpr then
        let e ← element item n
        sequenceRest item (acc.push e) n
      else pure acc
    else pure acc
termination_by structural fuel

/-- One item of an expression list. -/
def element (item : ListItem) (fuel : Nat) : ParseM Expr :=
  match fuel with
  | 0 => outOfFuel
  | n + 1 => do
    if ← check (.punct .star) then starred n
    else
      match item with
      | .star => expression n
      | .starNamed => namedExpression n
termination_by structural fuel

/-- A starred expression `*value`. -/
def starred (fuel : Nat) : ParseM Expr :=
  match fuel with
  | 0 => outOfFuel
  | n + 1 => do
    let star ← advance
    let value ← operatorChain .bitOr n
    pure (.starred value (star.span.merge value.span))
termination_by structural fuel

/-- An expression, or `name := expression`. -/
def namedExpression (fuel : Nat) : ParseM Expr :=
  match fuel with
  | 0 => outOfFuel
  | n + 1 => do
    if (← check .name) && (← peekKind 1) == .punct .colonEq then
      let name ← advance
      discard advance
      let value ← expression n
      pure (.namedExpr (.name name.span) value (name.span.merge value.span))
    else
      let e ← expression n
      if ← check (.punct .colonEq) then
        failAt e.span "assignment expression target must be a name"
      else pure e
termination_by structural fuel

/-- A lambda, or a disjunction with an optional conditional. -/
def expression (fuel : Nat) : ParseM Expr :=
  match fuel with
  | 0 => outOfFuel
  | n + 1 => do
    if ← check (.keyword .lambda) then lambda n
    else
      let body ← disjunction n
      if !(← eat (.keyword .if)) then pure body
      else
        let test ← disjunction n
        if !(← check (.keyword .else)) then failUnexpected "expected `else` after `if` expression"
        else
          discard advance
          let orelse ← expression n
          pure (.ifElse test body orelse (body.span.merge orelse.span))
termination_by structural fuel

/-- A yield: bare, `yield from expression`, or `yield expressions`. -/
def yieldExpr (fuel : Nat) : ParseM Expr :=
  match fuel with
  | 0 => outOfFuel
  | n + 1 => do
    let kw ← advance
    if ← eat (.keyword .from) then
      let value ← expression n
      pure (.yieldFrom value (kw.span.merge value.span))
    else if (← currentKind).canStartExpr then
      let value ← sequence .star n
      pure (.yield (some value) (kw.span.merge value.span))
    else pure (.yield none kw.span)
termination_by structural fuel

/-- A lambda, `lambda params: body`. -/
def lambda (fuel : Nat) : ParseM Expr :=
  match fuel with
  | 0 => outOfFuel
  | n + 1 => do
    let kw ← advance
    let params ← lambdaParams #[] n
    discard (withContext .lambda (expect (.punct .colon)))
    let body ← expression n
    storeList params.size
    pure (.lambda params.toList body (kw.span.merge body.span))
termination_by structural fuel

/-- The parameters of a lambda, up to its colon. -/
def lambdaParams (acc : Array Param) (fuel : Nat) : ParseM (Array Param) :=
  match fuel with
  | 0 => outOfFuel
  | n + 1 => do
    if ← check (.punct .colon) then pure acc
    else
      let p ← withContext .lambda (lambdaParam n)
      if ← eat (.punct .comma) then lambdaParams (acc.push p) n else pure (acc.push p)
termination_by structural fuel

/-- One lambda parameter. -/
def lambdaParam (fuel : Nat) : ParseM Param :=
  match fuel with
  | 0 => outOfFuel
  | n + 1 => do
    let t ← current
    match t.kind with
    | .punct .slash =>
      discard advance
      pure (.mk .positionalOnlyMarker (Span.point t.span.start) none)
    | .punct .star =>
      discard advance
      if ← check .name then
        let name ← advance
        pure (.mk .varArgs name.span none)
      else pure (.mk .keywordOnlyMarker (Span.point t.span.start) none)
    | .punct .doubleStar =>
      discard advance
      let name ← expect .name
      pure (.mk .kwArgs name.span none)
    | .name =>
      discard advance
      if ← eat (.punct .eq) then
        let d ← expression n
        pure (.mk .normal t.span (some d))
      else pure (.mk .normal t.span none)
    | _ => failUnexpected "expected parameter"
termination_by structural fuel

/-- Conjunctions joined by `or`, left-associative. -/
def disjunction (fuel : Nat) : ParseM Expr :=
  match fuel with
  | 0 => outOfFuel
  | n + 1 => do
    let left ← conjunction n
    disjunctionRest left n
termination_by structural fuel

/-- The `or` operands after the first. -/
def disjunctionRest (left : Expr) (fuel : Nat) : ParseM Expr :=
  match fuel with
  | 0 => outOfFuel
  | n + 1 => do
    if ← eat (.keyword .or) then
      let right ← conjunction n
      disjunctionRest (.boolOp .or left right (left.span.merge right.span)) n
    else pure left
termination_by structural fuel

/-- Inversions joined by `and`, left-associative. -/
def conjunction (fuel : Nat) : ParseM Expr :=
  match fuel with
  | 0 => outOfFuel
  | n + 1 => do
    let left ← inversion n
    conjunctionRest left n
termination_by structural fuel

/-- The `and` operands after the first. -/
def conjunctionRest (left : Expr) (fuel : Nat) : ParseM Expr :=
  match fuel with
  | 0 => outOfFuel
  | n + 1 => do
    if ← eat (.keyword .and) then
      let right ← inversion n
      conjunctionRest (.boolOp .and left right (left.span.merge right.span)) n
    else pure left
termination_by structural fuel

/-- A negation `not inversion`, or a comparison. -/
def inversion (fuel : Nat) : ParseM Expr :=
  match fuel with
  | 0 => outOfFuel
  | n + 1 => do
    if ← check (.keyword .not) then
      let kw ← advance
      let operand ← inversion n
      pure (.unary .not operand (kw.span.merge operand.span))
    else comparison n
termination_by structural fuel

/-- A bitwise-or expression and any chain of comparisons after it. -/
def comparison (fuel : Nat) : ParseM Expr :=
  match fuel with
  | 0 => outOfFuel
  | n + 1 => do
    let left ← operatorChain .bitOr n
    let links ← comparisonLinks #[] n
    match links.back? with
    | none => pure left
    | some (.mk _ last) => do
      storeList links.size
      pure (.compare left links.toList (left.span.merge last.span))
termination_by structural fuel

/-- The links of a comparison chain. -/
def comparisonLinks (acc : Array Link) (fuel : Nat) : ParseM (Array Link) :=
  match fuel with
  | 0 => outOfFuel
  | n + 1 => do
    match ← comparisonOp? with
    | some op =>
      let right ← operatorChain .bitOr n
      comparisonLinks (acc.push (.mk op right)) n
    | none => pure acc
termination_by structural fuel

/-- Operands of a level joined by its operators, left-associative. -/
def operatorChain (level : BinLevel) (fuel : Nat) : ParseM Expr :=
  match fuel with
  | 0 => outOfFuel
  | n + 1 => do
    let left ← operand level n
    chainRest level left n
termination_by structural fuel

/-- The operands of a level after the first. -/
def chainRest (level : BinLevel) (left : Expr) (fuel : Nat) : ParseM Expr :=
  match fuel with
  | 0 => outOfFuel
  | n + 1 => do
    match level.operator? (← currentKind) with
    | some op =>
      discard advance
      let right ← operand level n
      chainRest level (.binary op left right (left.span.merge right.span)) n
    | none => pure left
termination_by structural fuel

/-- An operand of a level: the next tighter level, or a factor below the last. -/
def operand (level : BinLevel) (fuel : Nat) : ParseM Expr :=
  match fuel with
  | 0 => outOfFuel
  | n + 1 =>
    match level.next? with
    | some next => operatorChain next n
    | none => factor n
termination_by structural fuel

/-- A prefix `+`, `-` or `~` applied to a factor, or a power. -/
def factor (fuel : Nat) : ParseM Expr :=
  match fuel with
  | 0 => outOfFuel
  | n + 1 => do
    match unaryOperator? (← currentKind) with
    | some op =>
      let t ← advance
      let e ← factor n
      pure (.unary op e (t.span.merge e.span))
    | none => power n
termination_by structural fuel

/-- A power `await_primary ** factor`, binding tighter than a prefix operator on its left. -/
def power (fuel : Nat) : ParseM Expr :=
  match fuel with
  | 0 => outOfFuel
  | n + 1 => do
    let base ← awaitPrimary n
    if ← eat (.punct .doubleStar) then
      let exponent ← factor n
      pure (.binary .pow base exponent (base.span.merge exponent.span))
    else pure base
termination_by structural fuel

/-- An awaited primary `await primary`, or a primary. -/
def awaitPrimary (fuel : Nat) : ParseM Expr :=
  match fuel with
  | 0 => outOfFuel
  | n + 1 => do
    if ← check (.keyword .await) then
      let kw ← advance
      let value ← primary n
      pure (.await value (kw.span.merge value.span))
    else primary n
termination_by structural fuel

/-- An atom and its trailers. -/
def primary (fuel : Nat) : ParseM Expr :=
  match fuel with
  | 0 => outOfFuel
  | n + 1 => do
    let value ← atom n
    trailers value n
termination_by structural fuel

/-- Attribute accesses, calls and subscripts after a value. -/
def trailers (value : Expr) (fuel : Nat) : ParseM Expr :=
  match fuel with
  | 0 => outOfFuel
  | n + 1 => do
    match ← currentKind with
    | .punct .dot =>
      discard advance
      let attr ← expect .name
      trailers (.attribute value attr.span (value.span.merge attr.span)) n
    | .punct .lparen =>
      let e ← call value n
      trailers e n
    | .punct .lbracket =>
      let e ← subscript value n
      trailers e n
    | _ => pure value
termination_by structural fuel

/-- A call of `func`, from its `(`. -/
def call (func : Expr) (fuel : Nat) : ParseM Expr :=
  match fuel with
  | 0 => outOfFuel
  | n + 1 => do
    discard advance
    let args ← withContext .callArguments (arguments #[] false false n)
    let close ← withContext .callArguments (expect (.punct .rparen))
    storeList args.size
    pure (.call func args.toList (func.span.merge close.span))
termination_by structural fuel

/-- Call arguments up to the `)`: positional ones first, then keyword ones, with `*` among
either and `**` only among keyword ones. -/
def arguments (acc : Array Arg) (seenKeyword seenDoubleStar : Bool) (fuel : Nat) :
    ParseM (Array Arg) :=
  match fuel with
  | 0 => outOfFuel
  | n + 1 => do
    if ← check (.punct .rparen) then pure acc
    else
      let start ← currentSpan
      let (arg, seenKeyword, seenDoubleStar) ← match ← currentKind, ← peekKind 1 with
        | .punct .star, _ => do
          discard advance
          let value ← expression n
          if seenDoubleStar then
            failAt (start.merge value.span)
              "iterable argument unpacking follows keyword argument unpacking"
          else pure (Arg.star value, seenKeyword, seenDoubleStar)
        | .punct .doubleStar, _ => do
          discard advance
          let value ← expression n
          pure (Arg.doubleStar value, seenKeyword, true)
        | .name, .punct .eq => do
          let name ← advance
          discard advance
          let value ← expression n
          pure (Arg.keyword name.span value, true, seenDoubleStar)
        | _, _ => do
          let value ← namedExpression n
          let value ← if ← atClause then loneGenerator value acc.isEmpty n
            else pure value
          if seenDoubleStar then
            failAt value.span "positional argument follows keyword argument unpacking"
          else if seenKeyword then
            failAt value.span "positional argument follows keyword argument"
          else pure (Arg.positional value, seenKeyword, seenDoubleStar)
      if ← eat (.punct .comma) then arguments (acc.push arg) seenKeyword seenDoubleStar n
      else pure (acc.push arg)
termination_by structural fuel

/-- A generator expression as the sole argument of a call, without its own parentheses. -/
def loneGenerator (elt : Expr) (isFirst : Bool) (fuel : Nat) : ParseM Expr :=
  match fuel with
  | 0 => outOfFuel
  | n + 1 => do
    let clauses ← clauses #[] n
    let span := elt.span.merge (← previousSpan)
    if !isFirst || (← check (.punct .comma)) then
      failAt span "generator expression must be parenthesized"
    else pure (.generator elt clauses.toList span)
termination_by structural fuel

/-- A subscript of `value`, from its `[`. -/
def subscript (value : Expr) (fuel : Nat) : ParseM Expr :=
  match fuel with
  | 0 => outOfFuel
  | n + 1 => do
    discard advance
    let index ← withContext .subscript (slices n)
    let close ← withContext .subscript (expect (.punct .rbracket))
    pure (.subscript value index (value.span.merge close.span))
termination_by structural fuel

/-- One slice, or a tuple of slices. -/
def slices (fuel : Nat) : ParseM Expr :=
  match fuel with
  | 0 => outOfFuel
  | n + 1 => do
    let first ← slice n
    if !(← check (.punct .comma)) then pure first
    else
      let items ← slicesRest #[first] n
      let span := first.span.merge (← previousSpan)
      storeList items.size
      pure (.tuple items.toList span)
termination_by structural fuel

/-- The slices after the first. -/
def slicesRest (acc : Array Expr) (fuel : Nat) : ParseM (Array Expr) :=
  match fuel with
  | 0 => outOfFuel
  | n + 1 => do
    if ← eat (.punct .comma) then
      if (← check (.punct .colon)) || (← currentKind).canStartExpr then
        let s ← slice n
        slicesRest (acc.push s) n
      else pure acc
    else pure acc
termination_by structural fuel

/-- A starred expression, an expression, or `lower:upper:step` with each part optional. -/
def slice (fuel : Nat) : ParseM Expr :=
  match fuel with
  | 0 => outOfFuel
  | n + 1 => do
    let start ← currentSpan
    if ← check (.punct .star) then starred n
    else
      let lower ← if ← check (.punct .colon) then pure none
        else do
          let e ← namedExpression n
          pure (some e)
      match lower with
      | some e =>
        if !(← check (.punct .colon)) then pure e
        else sliceTail start lower n
      | none => sliceTail start lower n
termination_by structural fuel

/-- The rest of a slice from its first `:`. -/
def sliceTail (start : Span) (lower : Option Expr) (fuel : Nat) : ParseM Expr :=
  match fuel with
  | 0 => outOfFuel
  | n + 1 => do
    discard advance
    let upper ← bound n
    let step ← if ← eat (.punct .colon) then bound n else pure none
    pure (.slice lower upper step (start.merge (← previousSpan)))
termination_by structural fuel

/-- An optional bound of a slice. -/
def bound (fuel : Nat) : ParseM (Option Expr) :=
  match fuel with
  | 0 => outOfFuel
  | n + 1 => do
    if (← currentKind).canStartExpr then
      let e ← expression n
      pure (some e)
    else pure none
termination_by structural fuel

/-- A name, a number, a constant, strings, or a bracketed form. -/
def atom (fuel : Nat) : ParseM Expr :=
  match fuel with
  | 0 => outOfFuel
  | n + 1 => do
    let t ← current
    let leaf : Option Expr := match t.kind with
      | .name => some (.name t.span)
      | .int => some (.number .int t.span)
      | .float => some (.number .float t.span)
      | .imaginary => some (.number .imaginary t.span)
      | .keyword .none => some (.constant .none t.span)
      | .keyword .true => some (.constant .true t.span)
      | .keyword .false => some (.constant .false t.span)
      | .punct .ellipsis => some (.constant .ellipsis t.span)
      | _ => none
    match leaf with
    | some e =>
      discard advance
      pure e
    | none =>
      match t.kind with
      | .string _ | .fstringStart _ => strings t.span #[] none n
      | .punct .lparen => parenthesized n
      | .punct .lbracket => listForm n
      | .punct .lbrace => braceForm n
      | _ => failUnexpected "expected expression"
termination_by structural fuel

/-- Adjacent string literals from `start`: one literal alone, else their concatenation. Bytes
and non-bytes literals do not mix. -/
def strings (start : Span) (parts : Array Expr) (bytes : Option Bool) (fuel : Nat) :
    ParseM Expr :=
  match fuel with
  | 0 => outOfFuel
  | n + 1 => do
    let t ← current
    let next ← match t.kind with
      | .string d => do
        discard advance
        let body : Span := ⟨t.span.start + d.openLength, t.span.stop - d.closeLength⟩
        pure (some (Expr.str d body t.span, d.flags.bytes))
      | .fstringStart _ => do
        let e ← fstring n
        pure (some (e, false))
      | _ => pure none
    match next with
    | some (e, isBytes) =>
      if bytes.any (· != isBytes) then
        failAt (start.merge (← previousSpan)) "cannot mix bytes and nonbytes literals"
      else strings start (parts.push e) (some isBytes) n
    | none =>
      match parts.toList with
      | [single] => pure single
      | items => do
        let span := start.merge (← previousSpan)
        storeList items.length
        pure (.concat items span)
termination_by structural fuel

/-- A parenthesized form, from its `(`: the empty tuple, a `yield`, a generator, a tuple, or a
plain expression (which keeps its own span). -/
def parenthesized (fuel : Nat) : ParseM Expr :=
  match fuel with
  | 0 => outOfFuel
  | n + 1 => do
    let opening ← advance
    withContext .parenthesized (parenContents opening.span n)
termination_by structural fuel

/-- The inside of a parenthesized form. -/
def parenContents (opening : Span) (fuel : Nat) : ParseM Expr :=
  match fuel with
  | 0 => outOfFuel
  | n + 1 => do
    if ← check (.punct .rparen) then
      let close ← advance
      pure (.tuple [] (opening.merge close.span))
    else if ← check (.keyword .yield) then
      let value ← yieldExpr n
      discard (expect (.punct .rparen))
      pure value
    else
      let first ← element .starNamed n
      if ← atClause then
        refuseUnpacking first
        let clauses ← clauses #[] n
        let close ← expect (.punct .rparen)
        pure (.generator first clauses.toList (opening.merge close.span))
      else if !(← check (.punct .comma)) then
        discard (expect (.punct .rparen))
        refuseStarred first
        pure first
      else
        let items ← moreElements (.punct .rparen) #[first] n
        let close ← expect (.punct .rparen)
        pure (.tuple items.toList (opening.merge close.span))
termination_by structural fuel

/-- A list display or list comprehension, from its `[`. -/
def listForm (fuel : Nat) : ParseM Expr :=
  match fuel with
  | 0 => outOfFuel
  | n + 1 => do
    let opening ← advance
    withContext .display (listContents opening.span n)
termination_by structural fuel

/-- The inside of a list display. -/
def listContents (opening : Span) (fuel : Nat) : ParseM Expr :=
  match fuel with
  | 0 => outOfFuel
  | n + 1 => do
    if ← check (.punct .rbracket) then
      let close ← advance
      pure (.list [] (opening.merge close.span))
    else
      let first ← element .starNamed n
      if ← atClause then
        refuseUnpacking first
        let clauses ← clauses #[] n
        let close ← expect (.punct .rbracket)
        pure (.listComp first clauses.toList (opening.merge close.span))
      else
        let items ← moreElements (.punct .rbracket) #[first] n
        let close ← expect (.punct .rbracket)
        pure (.list items.toList (opening.merge close.span))
termination_by structural fuel

/-- A set or dict display or comprehension, from its `{`. -/
def braceForm (fuel : Nat) : ParseM Expr :=
  match fuel with
  | 0 => outOfFuel
  | n + 1 => do
    let opening ← advance
    withContext .display (braceContents opening.span n)
termination_by structural fuel

/-- The inside of a brace display. -/
def braceContents (opening : Span) (fuel : Nat) : ParseM Expr :=
  match fuel with
  | 0 => outOfFuel
  | n + 1 => do
    if ← check (.punct .rbrace) then
      let close ← advance
      pure (.dict [] (opening.merge close.span))
    else if ← check (.punct .doubleStar) then
      let first ← entry n
      dictEntries opening #[first] n
    else
      let first ← element .starNamed n
      if ← eat (.punct .colon) then
        refuseStarred first
        let value ← expression n
        if ← atClause then
          let clauses ← clauses #[] n
          let close ← expect (.punct .rbrace)
          pure (.dictComp first value clauses.toList (opening.merge close.span))
        else dictEntries opening #[.pair first value] n
      else if ← atClause then
        refuseUnpacking first
        let clauses ← clauses #[] n
        let close ← expect (.punct .rbrace)
        pure (.setComp first clauses.toList (opening.merge close.span))
      else
        let items ← moreElements (.punct .rbrace) #[first] n
        let close ← expect (.punct .rbrace)
        pure (.set items.toList (opening.merge close.span))
termination_by structural fuel

/-- The entries of a dict display after the first, up to its `}`. -/
def dictEntries (opening : Span) (acc : Array DictEntry) (fuel : Nat) : ParseM Expr :=
  match fuel with
  | 0 => outOfFuel
  | n + 1 => do
    if (← eat (.punct .comma)) && !(← check (.punct .rbrace)) then
      let e ← entry n
      dictEntries opening (acc.push e) n
    else
      let close ← expect (.punct .rbrace)
      storeList acc.size
      pure (.dict acc.toList (opening.merge close.span))
termination_by structural fuel

/-- A dict entry: `**value` or `key: value`. -/
def entry (fuel : Nat) : ParseM DictEntry :=
  match fuel with
  | 0 => outOfFuel
  | n + 1 => do
    if ← eat (.punct .doubleStar) then
      let value ← operatorChain .bitOr n
      pure (.unpack value)
    else
      let key ← expression n
      discard (expect (.punct .colon))
      let value ← expression n
      pure (.pair key value)
termination_by structural fuel

/-- The items of a display after the first, up to its closing bracket `close`. -/
def moreElements (close : TokenKind) (acc : Array Expr) (fuel : Nat) : ParseM (Array Expr) :=
  match fuel with
  | 0 => outOfFuel
  | n + 1 => do
    if (← eat (.punct .comma)) && !(← check close) then
      let e ← element .starNamed n
      moreElements close (acc.push e) n
    else
      storeList acc.size
      pure acc
termination_by structural fuel

/-- Comprehension clauses, as many as follow. -/
def clauses (acc : Array Clause) (fuel : Nat) : ParseM (Array Clause) :=
  match fuel with
  | 0 => outOfFuel
  | n + 1 => do
    if ← atClause then
      let c ← withContext .comprehension (clause n)
      clauses (acc.push c) n
    else
      storeList acc.size
      pure acc
termination_by structural fuel

/-- A clause `[async] for target in disjunction (if disjunction)*`. -/
def clause (fuel : Nat) : ParseM Clause :=
  match fuel with
  | 0 => outOfFuel
  | n + 1 => do
    let isAsync ← eat (.keyword .async)
    discard (expect (.keyword .for))
    let target ← forTarget n
    match targetError? target with
    | some err => throw err
    | none =>
      discard (expect (.keyword .in))
      let iter ← disjunction n
      let ifs ← conditions #[] n
      storeList ifs.size
      pure (.mk isAsync target iter ifs.toList)
termination_by structural fuel

/-- The `if` conditions of a comprehension clause. -/
def conditions (acc : Array Expr) (fuel : Nat) : ParseM (Array Expr) :=
  match fuel with
  | 0 => outOfFuel
  | n + 1 => do
    if ← eat (.keyword .if) then
      let c ← disjunction n
      conditions (acc.push c) n
    else pure acc
termination_by structural fuel

/-- The target of a comprehension clause: one item, or a tuple of items. -/
def forTarget (fuel : Nat) : ParseM Expr :=
  match fuel with
  | 0 => outOfFuel
  | n + 1 => do
    let first ← forTargetItem n
    if !(← check (.punct .comma)) then pure first
    else
      let items ← forTargetRest #[first] n
      let span := first.span.merge (← previousSpan)
      storeList items.size
      pure (.tuple items.toList span)
termination_by structural fuel

/-- The target items after the first, up to `in`. -/
def forTargetRest (acc : Array Expr) (fuel : Nat) : ParseM (Array Expr) :=
  match fuel with
  | 0 => outOfFuel
  | n + 1 => do
    if (← eat (.punct .comma)) && !(← check (.keyword .in)) then
      let e ← forTargetItem n
      forTargetRest (acc.push e) n
    else pure acc
termination_by structural fuel

/-- A starred target or a bitwise-or expression. -/
def forTargetItem (fuel : Nat) : ParseM Expr :=
  match fuel with
  | 0 => outOfFuel
  | n + 1 => do
    if ← check (.punct .star) then starred n else operatorChain .bitOr n
termination_by structural fuel

/-- An f-string, from its start token to its end token. -/
def fstring (fuel : Nat) : ParseM Expr :=
  match fuel with
  | 0 => outOfFuel
  | n + 1 => do
    let start ← advance
    match start.kind with
    | .fstringStart d => fstringParts d start.span #[] n
    | _ => failAt start.span "expected f-string"
termination_by structural fuel

/-- The parts of an f-string up to its end token, whose folded text is a last literal part
when it is not empty. -/
def fstringParts (d : Delimiter) (start : Span) (acc : Array FPart) (fuel : Nat) :
    ParseM Expr :=
  match fuel with
  | 0 => outOfFuel
  | n + 1 => do
    let t ← current
    match t.kind with
    | .fstringMiddle =>
      discard advance
      fstringParts d start (acc.push (.literal t.span)) n
    | .punct .lbrace =>
      let f ← field n
      fstringParts d start (acc.push (.field f)) n
    | .fstringEnd text =>
      discard advance
      let acc := if text.isEmpty then acc else acc.push (.literal text)
      storeList acc.size
      pure (.fstring d acc.toList (start.merge t.span))
    | _ => failUnexpected "f-string: expecting '\x7d'"
termination_by structural fuel

/-- A field, from its `{` to its `}`. -/
def field (fuel : Nat) : ParseM Field :=
  match fuel with
  | 0 => outOfFuel
  | n + 1 => withContext .fstringField (fieldContents n)
termination_by structural fuel

/-- The inside of a field: the expression, then optionally `=`, a conversion and a format
spec. -/
def fieldContents (fuel : Nat) : ParseM Field :=
  match fuel with
  | 0 => outOfFuel
  | n + 1 => do
    let opening ← advance
    if ← check (.keyword .lambda) then
      failAt (← currentSpan) "f-string: lambda expressions are not allowed without parentheses"
    else
      let e ← fieldExpression n
      let debug ← if ← eat (.punct .eq) then
          pure (some (⟨opening.span.stop, (← currentSpan).start⟩ : Span))
        else pure none
      let conv ← if ← check (.punct .bang) then some <$> conversion else pure none
      let spec ← if ← eat (.punct .colon) then some <$> formatSpec #[] n else pure none
      let close ← current
      if close.kind != .punct .rbrace then
        let err : SyntaxError := ⟨close.span, "f-string: expecting '\x7d'", none, false⟩
        throw (if spec.isSome then err.withinContext .formatSpec else err)
      else
        discard advance
        pure (.mk e debug conv (spec.map Array.toList) (opening.span.merge close.span))
termination_by structural fuel

/-- The parts of a format spec: text and nested fields. -/
def formatSpec (acc : Array FPart) (fuel : Nat) : ParseM (Array FPart) :=
  match fuel with
  | 0 => outOfFuel
  | n + 1 => do
    let t ← current
    match t.kind with
    | .fstringMiddle =>
      discard advance
      formatSpec (acc.push (.literal t.span)) n
    | .punct .lbrace =>
      let f ← field n
      formatSpec (acc.push (.field f)) n
    | _ => do
      storeList acc.size
      pure acc
termination_by structural fuel

end

/-- A whole input: an expression list or a `yield`, with newlines around it, and nothing
after it. -/
def wholeInput (fuel : Nat) : ParseM Expr := do
  let ts ← read
  modify fun pos => skipNewlines ts pos
  let root ← if ← check (.keyword .yield) then yieldExpr fuel else sequence .star fuel
  modify fun pos => skipNewlines ts pos
  if (← currentKind) != .eof then failUnexpected "invalid syntax"
  else pure root

end Grammar

/-- The expression a token stream holds, or the first syntax error. The bound on the depth of
descent is generous: every level of nesting consumes at least one token. -/
def Expr.ofTokens (src : Source) (tokens : Array Token) : Except SyntaxError Expr :=
  let fuel := 64 * (tokens.size + 1)
  ((Grammar.wholeInput fuel).run ⟨src, tokens⟩ |>.run 0).map Prod.fst

end ExprFront
