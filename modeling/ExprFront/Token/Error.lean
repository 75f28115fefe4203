import ExprFront.Scan.Tag
import ExprFront.Literal.DelimiterStack
import ExprFront.Source.Basic

/-!
# Lexical errors

Lexing stops at the first fault. A `LexError` says where (`span`), what (`kind`), inside what
(`context`: the innermost open f-string and how many are open) and, through
`LexErrorKind.suggestions`, how to mend it.

`LexErrorKind.ofFault` reads a scanner fault at its report site: the first character there
names the offending character or bracket (U+FFFD if the site is empty), a NUL byte is reported
as such, and an empty field is named by its last character, the marker that ended it.

Bracket errors are syntax errors by category; all others are lexical. A text longer than
`maxSourceSize` bytes is refused whole, as `sourceTooLarge` at the empty span `0..0`.
-/

namespace ExprFront

/-- What went wrong while lexing. -/
inductive LexErrorKind where
  /-- A text longer than offsets can count. -/
  | sourceTooLarge
  | nullByte
  | invalidCharacter (ch : Char)
  | strayBackslash
  | unterminatedString
  | unterminatedFString
  | unterminatedField
  /-- A field with no expression before its marker. -/
  | emptyField (marker : Char)
  | loneRightBrace
  | newlineInFString
  | commentInFString
  | tooDeeplyNested
  | delimiterMismatch (e : DelimiterError)
  | mismatchedBracket (close : Char)
  | unmatchedBracket (close : Char)
  | unclosedBracket (opening : Char)
  deriving DecidableEq, Repr

/-- Whether an error is about the text's characters or about its syntax. -/
inductive ErrorCategory where
  | lexical | syntactic
  deriving DecidableEq, Repr

/-- The largest text, in bytes, that the lexer takes: offsets are 32-bit words, so this is
`2^32 - 1`. -/
def maxSourceSize : Nat := 4294967295

namespace LexErrorKind

/-- The text of a lexical error. -/
def message : LexErrorKind → String
  | .sourceTooLarge => "source is larger than " ++ toString maxSourceSize ++ " bytes"
  | .nullByte => "source contains a null byte"
  | .invalidCharacter ch => "invalid character '" ++ ch.toString ++ "' in source"
  | .strayBackslash => "unexpected character after line continuation character"
  | .unterminatedString => "unterminated string literal"
  | .unterminatedFString => "unterminated f-string literal"
  | .unterminatedField => "f-string: expecting '\x7d'"
  | .emptyField m => "f-string: valid expression required before '" ++ m.toString ++ "'"
  | .loneRightBrace => "f-string: single '\x7d' is not allowed"
  | .newlineInFString => "f-string: newline not allowed in single-quoted f-string"
  | .commentInFString =>
    "f-string expression part cannot include '#' in a single-quoted f-string"
  | .tooDeeplyNested => "f-string: too deeply nested"
  | .delimiterMismatch e => "f-string: " ++ e.message
  | .mismatchedBracket c =>
    "closing '" ++ c.toString ++ "' does not match the innermost open bracket"
  | .unmatchedBracket c => "unmatched '" ++ c.toString ++ "'"
  | .unclosedBracket c => "'" ++ c.toString ++ "' was never closed"

/-- The name a lexical error is reported under. -/
def name : LexErrorKind → String
  | .sourceTooLarge => "SourceTooLarge"
  | .nullByte => "NullByte" | .invalidCharacter _ => "InvalidCharacter"
  | .strayBackslash => "StrayBackslash" | .unterminatedString => "UnterminatedString"
  | .unterminatedFString => "UnterminatedFString" | .unterminatedField => "UnterminatedField"
  | .emptyField _ => "EmptyField" | .loneRightBrace => "LoneRightBrace"
  | .newlineInFString => "NewlineInFString" | .commentInFString => "CommentInSingleLineFString"
  | .tooDeeplyNested => "TooDeeplyNested" | .delimiterMismatch _ => "DelimiterMismatch"
  | .mismatchedBracket _ => "MismatchedBracket" | .unmatchedBracket _ => "UnmatchedBracket"
  | .unclosedBracket _ => "UnclosedBracket"

/-- Bracket errors are syntax errors; all others are lexical. -/
def category : LexErrorKind → ErrorCategory
  | .mismatchedBracket _ | .unmatchedBracket _ | .unclosedBracket _ => .syntactic
  | _ => .lexical

/-- How to mend the error, where there is a standard way. -/
def suggestions : LexErrorKind → List String
  | .unterminatedField => ["add '\x7d' to close the field"]
  | .loneRightBrace => ["use '\x7d\x7d' for a literal '\x7d'"]
  | .newlineInFString | .commentInFString => ["use a triple-quoted f-string to span lines"]
  | .emptyField _ => ["put an expression inside the braces, or use '\x7b\x7b' for a literal '\x7b'"]
  | _ => []

/-- The error a scanner fault stands for, read off the text at its report site. -/
def ofFault (f : ScanFault) (site : Span) (src : Source) : LexErrorKind :=
  let text := (src.slice site).toList
  let first := text.head?.getD '�'
  match f with
  | .invalidCharacter => if first = '\x00' then .nullByte else .invalidCharacter first
  | .strayBackslash => .strayBackslash
  | .unterminatedString => .unterminatedString
  | .unterminatedFString => .unterminatedFString
  | .unterminatedField => .unterminatedField
  | .emptyField => .emptyField (text.getLast?.getD '\x7d')
  | .loneRightBrace => .loneRightBrace
  | .newlineInFString => .newlineInFString
  | .commentInFString => .commentInFString
  | .tooDeeplyNested => .tooDeeplyNested
  | .delimiterMismatch => .delimiterMismatch .empty
  | .mismatchedBracket => .mismatchedBracket first
  | .unmatchedBracket => .unmatchedBracket first
  | .unclosedBracket => .unclosedBracket first

end LexErrorKind

/-- What the lexer was inside of when it failed. -/
inductive LexErrorContext where
  | topLevel
  /-- Inside f-strings: the start of the innermost and how many are open. -/
  | insideFString (start depth : Nat)
  deriving DecidableEq, Repr

/-- A lexical error: where, what, and inside what. -/
structure LexError where
  /-- The report site. -/
  span : Span
  /-- What went wrong. -/
  kind : LexErrorKind
  /-- What the lexer was inside of. -/
  context : LexErrorContext
  deriving DecidableEq, Repr

end ExprFront
