import ExprFront.Text.GraphemeExtend
import ExprFront.Text.Unprintable

/-!
# Quoted text

`quote` writes a text between double quotes so that every character can be read back and none
is invisible. The rules are those of the dump format:

* NUL, tab, carriage return, line feed, the backslash and the double quote take a backslash
  escape (`\0 \t \r \n \\ \"`); the single quote stands as itself.
* A mark that extends the grapheme before it, or a character that has no visible form, is
  written `\u{h}` with its code point in lowercase hexadecimal, without padding. The two
  halfwidth katakana sound marks, which Unicode counts as extenders but are letters, stand as
  themselves.
* Every other character stands as itself.

The rules apply at every position, so a combining accent after a letter is escaped too.
-/

namespace ExprFront.Text

/-- Lowercase hexadecimal digits of `n`, without padding. -/
def hexDigits (n : Nat) : String :=
  String.ofList (Nat.toDigits 16 n)

/-- Whether a character is written as a code-point escape inside quoted text. -/
def needsCodeEscape (c : Char) : Bool :=
  graphemeExtend.contains c || unprintable.contains c

/-- How one character is written inside quoted text. -/
def escapeChar (c : Char) : String :=
  match c with
  | '\x00' => "\\0"
  | '\t' => "\\t"
  | '\r' => "\\r"
  | '\n' => "\\n"
  | '\\' => "\\\\"
  | '"' => "\\\""
  | c => if needsCodeEscape c then "\\u\x7b" ++ hexDigits c.toNat ++ "\x7d" else c.toString

/-- The text between double quotes, each character written by `escapeChar`. -/
def quote (s : String) : String :=
  s.toList.foldl (fun acc c => acc ++ escapeChar c) "\"" ++ "\""

end ExprFront.Text
