import ExprFront.Syntax.Grammar
import ExprFront.Token.Lexer

/-!
# Parsing a text

`Expr.parse` lexes a text and parses its tokens as one expression. A lexical error stops it
first; a bracket error, whose category is syntax, comes out as a syntax error, and a parser that
gave up as its panic.
`ParseError.report` prefixes an error's message with the line and column of its start.
-/

namespace ExprFront

/-- The expression a text holds under the given nesting limits, or the first error. -/
def Expr.parse (text : String) (limits : ScanLimits) : Except ParseError Expr :=
  match tokenize text limits with
  | .error e => .error (ParseError.ofLex e)
  | .ok tokens =>
    match Expr.ofTokens (Source.ofString text) tokens with
    | .ok e => .ok e
    | .error e => .error (.ofSyntax e)

/-- An error as `line:column: message`, the position being that of its start in the text. -/
def ParseError.report (e : ParseError) (text : String) : String :=
  ((LineIndex.build (Source.ofString text)).lineCol e.span.start).render ++ ": " ++ e.message

end ExprFront
