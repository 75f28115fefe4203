import ExprFront.Scan.Tag
import ExprFront.Source.LineIndex
import ExprFront.Literal.Delimiter

/-!
# Tokens

The token stream the grammar reads. A `Token` has a `TokenKind`, its span and the position of
its first byte. Names, numbers and literal bodies are read back from the source through the
span; a string or an f-string start carries its delimiter, and an f-string end carries the span
of the literal text that no earlier piece reported (empty when there was none).

* `Keyword.ofWord?` — every keyword is reserved;
* `TokenKind.displayName` — how a kind is named in syntax errors;
* `TokenKind.canStartExpr` — the kinds an expression can begin with.
-/

namespace ExprFront

/-- A reserved word. -/
inductive Keyword where
  | and | as | async | await | «else» | false | «for» | «from» | «if» | «in» | is | lambda
  | none | not | or | true | yield
  deriving DecidableEq, Repr, Inhabited

namespace Keyword

/-- The keyword a word spells, if it spells one. -/
def ofWord? (s : String) : Option Keyword :=
  match s with
  | "and" => some .and | "as" => some .as | "async" => some .async | "await" => some .await
  | "else" => some .else | "False" => some .false | "for" => some .for | "from" => some .from
  | "if" => some .if | "in" => some .in | "is" => some .is | "lambda" => some .lambda
  | "None" => some .none | "not" => some .not | "or" => some .or | "True" => some .true
  | "yield" => some .yield
  | _ => Option.none

/-- The keyword as written. -/
def word : Keyword → String
  | .and => "and" | .as => "as" | .async => "async" | .await => "await" | .else => "else"
  | .false => "False" | .for => "for" | .from => "from" | .if => "if" | .in => "in"
  | .is => "is" | .lambda => "lambda" | .none => "None" | .not => "not" | .or => "or"
  | .true => "True" | .yield => "yield"

/-- The name a keyword token is reported under. -/
def tokenName : Keyword → String
  | .and => "And" | .as => "As" | .async => "Async" | .await => "Await" | .else => "Else"
  | .false => "False" | .for => "For" | .from => "From" | .if => "If" | .in => "In"
  | .is => "Is" | .lambda => "Lambda" | .none => "None" | .not => "Not" | .or => "Or"
  | .true => "True" | .yield => "Yield"

end Keyword

/-- The kind of a token. -/
inductive TokenKind where
  | name | int | float | imaginary
  /-- A string literal and its delimiter. -/
  | string (d : Delimiter)
  /-- The opening of an f-string and its delimiter. -/
  | fstringStart (d : Delimiter)
  /-- A piece of an f-string's text. -/
  | fstringMiddle
  /-- The closing quotes of an f-string, with the span of the text folded into them. -/
  | fstringEnd (text : Span)
  | keyword (k : Keyword)
  | punct (p : Punct)
  | newline
  | eof
  deriving DecidableEq, Repr, Inhabited

namespace TokenKind

/-- The name a token kind is reported under. -/
def tokenName : TokenKind → String
  | .name => "Name" | .int => "Int" | .float => "Float" | .imaginary => "Imaginary"
  | .string _ => "String" | .fstringStart _ => "FStringStart"
  | .fstringMiddle => "FStringMiddle" | .fstringEnd _ => "FStringEnd"
  | .keyword k => k.tokenName | .punct p => p.tokenName | .newline => "Newline" | .eof => "Eof"

/-- How a token kind is named in a syntax error. -/
def displayName : TokenKind → String
  | .name => "name"
  | .int | .float | .imaginary => "number"
  | .string _ => "string literal"
  | .fstringStart _ => "f-string start"
  | .fstringMiddle => "f-string text"
  | .fstringEnd _ => "f-string end"
  | .keyword k => "`" ++ k.word ++ "`"
  | .punct p => p.displayName
  | .newline => "newline"
  | .eof => "end of input"

/-- Whether an expression can begin with a token of this kind. -/
def canStartExpr : TokenKind → Bool
  | .name | .int | .float | .imaginary | .string _ | .fstringStart _ => true
  | .keyword .none | .keyword .true | .keyword .false | .keyword .lambda | .keyword .not
  | .keyword .await => true
  | .punct .ellipsis | .punct .plus | .punct .minus | .punct .tilde | .punct .star
  | .punct .lparen | .punct .lbracket | .punct .lbrace => true
  | _ => false

end TokenKind

/-- A token: its kind, its span and the position of its first byte. -/
structure Token where
  /-- What the token is. -/
  kind : TokenKind
  /-- The bytes it covers. -/
  span : Span
  /-- The line and column of its first byte. -/
  pos : LineCol
  deriving DecidableEq, Repr, Inhabited

end ExprFront
