import ExprFront.Token.Error

/-!
# Syntax errors

A `SyntaxError` has the span of the offending token, the parser's message, and what the parser
was inside of (`ErrorContext`). Only the innermost context is kept: `withinContext` adds one
only where none is set yet. The full message appends the context's phrase.

A `ParseError` is a lexical error, a syntax error, or the panic of a parser that gave up (an
error marked `aborts`). A lexical error whose category is syntax (a bracket error) becomes a
syntax error with the lexical message and no context.
-/

namespace ExprFront

/-- What the parser was inside of. -/
inductive ErrorContext where
  | fstringField | formatSpec | callArguments | subscript | lambda | comprehension
  | parenthesized | display
  deriving DecidableEq, Repr, Inhabited

namespace ErrorContext

/-- The words that name a context in a message. -/
def phrase : ErrorContext → String
  | .fstringField => "an f-string field"
  | .formatSpec => "an f-string format spec"
  | .callArguments => "call arguments"
  | .subscript => "a subscript"
  | .lambda => "a lambda"
  | .comprehension => "a comprehension"
  | .parenthesized => "a parenthesized expression"
  | .display => "a list, set or dict display"

/-- The name a context is reported under. -/
def name : ErrorContext → String
  | .fstringField => "FStringField" | .formatSpec => "FormatSpec"
  | .callArguments => "CallArguments" | .subscript => "Subscript" | .lambda => "Lambda"
  | .comprehension => "Comprehension" | .parenthesized => "Parenthesized"
  | .display => "Display"

end ErrorContext

/-- A malformed expression. -/
structure SyntaxError where
  /-- The span of the offending token or expression. -/
  span : Span
  /-- The parser's message. -/
  message : String
  /-- What the parser was inside of, the innermost context only. -/
  context : Option ErrorContext := none
  /-- Whether the parser gave up rather than refused the text: the arena's panic on a list longer
  than it holds. The span is then only where the parser stood. -/
  aborts : Bool := false
  deriving DecidableEq, Repr, Inhabited

namespace SyntaxError

/-- Adds a context if none is set yet. -/
def withinContext (e : SyntaxError) (c : ErrorContext) : SyntaxError :=
  match e.context with
  | some _ => e
  | none => { e with context := some c }

/-- The message with the context's phrase, if there is a context. -/
def fullMessage (e : SyntaxError) : String :=
  match e.context with
  | some c => e.message ++ " (in " ++ c.phrase ++ ")"
  | none => e.message

end SyntaxError

/-- Why an expression could not be parsed. -/
inductive ParseError where
  | lexical (e : LexError)
  | syntactic (e : SyntaxError)
  /-- The parser gave up with a panic, which has a message only. -/
  | aborted (message : String)
  deriving DecidableEq, Repr

/-- The parse error a parser's failure stands for: a panic if it gave up, else a syntax error. -/
def ParseError.ofSyntax (e : SyntaxError) : ParseError :=
  if e.aborts then .aborted e.message else .syntactic e

/-- The parse error a lexical error stands for: a syntax error if its category is syntax. -/
def ParseError.ofLex (e : LexError) : ParseError :=
  match e.kind.category with
  | .syntactic => .syntactic ⟨e.span, e.kind.message, none, false⟩
  | .lexical => .lexical e

/-- The span of a parse error. -/
def ParseError.span : ParseError → Span
  | .lexical e => e.span
  | .syntactic e => e.span
  | .aborted _ => ⟨0, 0⟩

/-- The message of a parse error. -/
def ParseError.message : ParseError → String
  | .lexical e => e.kind.message
  | .syntactic e => e.fullMessage
  | .aborted m => m

end ExprFront
