import ExprFront.Syntax.Error
import ExprFront.Syntax.Expr
import ExprFront.Token.Kind

/-!
# Reading tokens

The grammar reads a token array that ends with the end-of-input token, through a position.
Reading past the end gives the last token, and advancing from the last token stays there, so
the parser never runs off the array.

`ParseM` is the grammar's monad: the tokens and the source as context, the position as state,
and a `SyntaxError` as failure.

* `expect` — the token of a kind, or `expected <kind>, found <current>`;
* `unexpected` — a message with `, found <current>` appended, at the current token;
* `previousSpan` — the span of the token before the position, or `0..0` at the start;
* `storeList` — the arena's check on a list it stores, which gives up past `u16::MAX` entries.
-/

namespace ExprFront

/-- The tokens a parse reads, with the source they come from. -/
structure TokenStream where
  /-- The source text. -/
  src : Source
  /-- The tokens, ending with the end of input. -/
  tokens : Array Token

/-- The grammar's monad: tokens as context, position as state, syntax errors as failure. -/
abbrev ParseM := ReaderT TokenStream (StateT Nat (Except SyntaxError))

namespace ParseM

/-- The end-of-input token at the start of the text. -/
def endToken : Token := ⟨.eof, ⟨0, 0⟩, ⟨1, 1⟩⟩

/-- The token `n` places after the position; the last token past the end. -/
def peek (n : Nat) : ParseM Token := do
  let ts ← read
  let pos ← get
  match ts.tokens[pos + n]? with
  | some t => pure t
  | none => pure (ts.tokens.back?.getD endToken)

/-- The token at the position. -/
def current : ParseM Token := peek 0

/-- The kind of the token at the position. -/
def currentKind : ParseM TokenKind := do pure (← current).kind

/-- The span of the token at the position. -/
def currentSpan : ParseM Span := do pure (← current).span

/-- The kind of the token `n` places after the position. -/
def peekKind (n : Nat) : ParseM TokenKind := do pure (← peek n).kind

/-- The span of the token before the position, or `0..0` at the start. -/
def previousSpan : ParseM Span := do
  let ts ← read
  let pos ← get
  match pos with
  | 0 => pure ⟨0, 0⟩
  | p + 1 => pure ((ts.tokens[p]?.map (·.span)).getD ⟨0, 0⟩)

/-- The token at the position, moving past it unless it is the last. -/
def advance : ParseM Token := do
  let t ← current
  let ts ← read
  modify fun pos => if pos + 1 < ts.tokens.size then pos + 1 else pos
  pure t

/-- Whether the token at the position has the kind. -/
def check (k : TokenKind) : ParseM Bool := do pure ((← currentKind) == k)

/-- Whether the token at the position has one of the kinds. -/
def checkAny (ks : List TokenKind) : ParseM Bool := do pure (ks.contains (← currentKind))

/-- Moves past a token of the kind, saying whether there was one. -/
def eat (k : TokenKind) : ParseM Bool := do
  if ← check k then
    discard advance
    pure true
  else pure false

/-- The error `message, found <current token>` at the current token. -/
def unexpected (message : String) : ParseM SyntaxError := do
  let t ← current
  pure ⟨t.span, message ++ ", found " ++ t.kind.displayName, none, false⟩

/-- Fails with `message, found <current token>`. -/
def failUnexpected {α : Type} (message : String) : ParseM α := do
  throw (← unexpected message)

/-- Fails with a message at a span. -/
def failAt {α : Type} (span : Span) (message : String) : ParseM α :=
  throw ⟨span, message, none, false⟩

/-- The token of the kind at the position, moving past it, or the error
`expected <kind>, found <current>`. -/
def expect (k : TokenKind) : ParseM Token := do
  if ← check k then advance
  else failUnexpected ("expected " ++ k.displayName)

/-- Gives up with a panic, at the current token. -/
def abort {α : Type} (message : String) : ParseM α := do
  throw ⟨(← currentSpan), message, none, true⟩

/-- The most entries a list of the arena holds, `u16::MAX`. -/
def maxListLength : Nat := 65535

/-- Stores a list of `n` entries in the arena, which panics on a list longer than it holds. -/
def storeList (n : Nat) : ParseM Unit :=
  if n ≤ maxListLength then pure () else abort "arena list exceeds u16::MAX entries"

/-- Runs a step, giving any error it raises the context unless it has one. -/
def withContext {α : Type} (c : ErrorContext) (step : ParseM α) : ParseM α :=
  tryCatch step fun e => throw (e.withinContext c)

/-- Moves past any newline tokens. -/
def skipNewlines (ts : TokenStream) (pos : Nat) : Nat :=
  if h : pos < ts.tokens.size then
    if ts.tokens[pos].kind == .newline && pos + 1 < ts.tokens.size then skipNewlines ts (pos + 1)
    else pos
  else pos
termination_by ts.tokens.size - pos

end ParseM

end ExprFront
