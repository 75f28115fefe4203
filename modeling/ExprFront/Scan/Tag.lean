/-!
# What the scanner reports

The scanner cuts a text into pieces and reports each as a `RawTag` with a byte length
(`RawToken`). Operators and brackets are `Punct`s, shared with the token stream later; the
ways a scan can fail are `ScanFault`s, and a scan stops at the first one.

The names the tags are reported under are fixed; `RawTag.name` and `Punct.scanName` give them.
-/

namespace ExprFront

/-- An operator, a delimiter or a bracket. -/
inductive Punct where
  | plus | minus | star | doubleStar | slash | doubleSlash | percent | at
  | shl | shr | amp | pipe | caret | tilde
  | lt | gt | ltEq | gtEq | eqEq | notEq | eq | colonEq | augAssign
  | dot | ellipsis | comma | colon | semicolon | arrow | bang
  | lparen | rparen | lbracket | rbracket | lbrace | rbrace
  deriving DecidableEq, Repr, Inhabited

namespace Punct

/-- The name a punctuation piece is reported under by the scanner. -/
def scanName : Punct → String
  | .plus => "Plus" | .minus => "Minus" | .star => "Star" | .doubleStar => "DoubleStar"
  | .slash => "Slash" | .doubleSlash => "DoubleSlash" | .percent => "Percent" | .at => "At"
  | .shl => "Shl" | .shr => "Shr" | .amp => "Ampersand" | .pipe => "Pipe" | .caret => "Caret"
  | .tilde => "Tilde" | .lt => "Less" | .gt => "Greater" | .ltEq => "LessEqual"
  | .gtEq => "GreaterEqual" | .eqEq => "EqualEqual" | .notEq => "BangEqual" | .eq => "Equal"
  | .colonEq => "ColonEqual" | .augAssign => "AugAssign" | .dot => "Dot"
  | .ellipsis => "Ellipsis" | .comma => "Comma" | .colon => "Colon"
  | .semicolon => "Semicolon" | .arrow => "Arrow" | .bang => "Bang"
  | .lparen => "LeftParen" | .rparen => "RightParen" | .lbracket => "LeftBracket"
  | .rbracket => "RightBracket" | .lbrace => "LeftBrace" | .rbrace => "RightBrace"

/-- The name a punctuation token is reported under in the token stream. -/
def tokenName : Punct → String
  | .plus => "Plus" | .minus => "Minus" | .star => "Star" | .doubleStar => "DoubleStar"
  | .slash => "Slash" | .doubleSlash => "DoubleSlash" | .percent => "Percent" | .at => "At"
  | .shl => "Shl" | .shr => "Shr" | .amp => "Amp" | .pipe => "Pipe" | .caret => "Caret"
  | .tilde => "Tilde" | .lt => "Lt" | .gt => "Gt" | .ltEq => "LtEq" | .gtEq => "GtEq"
  | .eqEq => "EqEq" | .notEq => "NotEq" | .eq => "Eq" | .colonEq => "ColonEq"
  | .augAssign => "AugAssign" | .dot => "Dot" | .ellipsis => "Ellipsis" | .comma => "Comma"
  | .colon => "Colon" | .semicolon => "Semicolon" | .arrow => "Arrow" | .bang => "Bang"
  | .lparen => "LParen" | .rparen => "RParen" | .lbracket => "LBracket"
  | .rbracket => "RBracket" | .lbrace => "LBrace" | .rbrace => "RBrace"

/-- How a punctuation token is named in a syntax error. -/
def displayName : Punct → String
  | .plus => "`+`" | .minus => "`-`" | .star => "`*`" | .doubleStar => "`**`"
  | .slash => "`/`" | .doubleSlash => "`//`" | .percent => "`%`" | .at => "`@`"
  | .shl => "`<<`" | .shr => "`>>`" | .amp => "`&`" | .pipe => "`|`" | .caret => "`^`"
  | .tilde => "`~`" | .lt => "`<`" | .gt => "`>`" | .ltEq => "`<=`" | .gtEq => "`>=`"
  | .eqEq => "`==`" | .notEq => "`!=`" | .eq => "`=`" | .colonEq => "`:=`"
  | .augAssign => "augmented assignment" | .dot => "`.`" | .ellipsis => "`...`"
  | .comma => "`,`" | .colon => "`:`" | .semicolon => "`;`" | .arrow => "`->`"
  | .bang => "`!`" | .lparen => "`(`" | .rparen => "`)`" | .lbracket => "`[`"
  | .rbracket => "`]`" | .lbrace => "`\x7b`" | .rbrace => "`\x7d`"

end Punct

/-- Why a scan stopped. -/
inductive ScanFault where
  | invalidCharacter | strayBackslash | unterminatedString | unterminatedFString
  | unterminatedField | emptyField | loneRightBrace | newlineInFString | commentInFString
  | tooDeeplyNested | mismatchedBracket | unmatchedBracket | unclosedBracket
  | delimiterMismatch
  deriving DecidableEq, Repr, Inhabited

/-- The name a fault is reported under by the scanner. -/
def ScanFault.name : ScanFault → String
  | .invalidCharacter => "InvalidCharacter" | .strayBackslash => "StrayBackslash"
  | .unterminatedString => "UnterminatedString" | .unterminatedFString => "UnterminatedFString"
  | .unterminatedField => "UnterminatedField" | .emptyField => "EmptyField"
  | .loneRightBrace => "LoneRightBrace" | .newlineInFString => "NewlineInFString"
  | .commentInFString => "CommentInFString" | .tooDeeplyNested => "TooDeeplyNested"
  | .mismatchedBracket => "MismatchedBracket" | .unmatchedBracket => "UnmatchedBracket"
  | .unclosedBracket => "UnclosedBracket" | .delimiterMismatch => "DelimiterMismatch"

/-- The kind of a piece the scanner cuts. -/
inductive RawTag where
  | ident | int | float | imaginary | string
  | fstringStart | fstringMiddle | fstringEnd
  | punct (p : Punct)
  /-- Blanks: spaces, tabs and form feeds. -/
  | whitespace
  | comment
  /-- A backslash and the line break after it. -/
  | lineContinuation
  /-- A line break inside brackets or a field. -/
  | softNewline
  | newline
  | fault (f : ScanFault)
  | eof
  deriving DecidableEq, Repr, Inhabited

namespace RawTag

/-- Whether the piece carries no meaning for the grammar. -/
def isTrivia : RawTag → Bool
  | .whitespace | .comment | .lineContinuation | .softNewline => true
  | _ => false

/-- Whether the piece is a fault. -/
def isFault : RawTag → Bool
  | .fault _ => true
  | _ => false

/-- The name a tag is reported under. -/
def name : RawTag → String
  | .ident => "Ident" | .int => "Int" | .float => "Float" | .imaginary => "Imaginary"
  | .string => "String" | .fstringStart => "FStringStart" | .fstringMiddle => "FStringMiddle"
  | .fstringEnd => "FStringEnd" | .punct p => p.scanName | .whitespace => "Whitespace"
  | .comment => "Comment" | .lineContinuation => "LineContinuation"
  | .softNewline => "SoftNewline" | .newline => "Newline" | .fault f => f.name | .eof => "Eof"

end RawTag

/-- A piece of the text: its kind and its length in bytes. -/
structure RawToken where
  /-- What the piece is. -/
  tag : RawTag
  /-- How many bytes it covers. -/
  len : Nat
  deriving DecidableEq, Repr, Inhabited

end ExprFront
