import ExprFront.Literal.Flags

/-!
# Delimiters of string literals

A `Delimiter` says what closes one literal: its quote character, whether the quotes are
tripled, and the prefix letters with their byte length. It is fixed when the literal opens.

* `Delimiter.ofOpener?` reads the opening text of a literal: the ASCII letters among its first
  three bytes form the prefix, which must be valid, and a quote must follow. Three equal quotes
  open a triple-quoted literal.
* `Delimiter.render` writes `r`, `b` and `f` for the letters set (never `u`), then the closing
  quotes.
-/

namespace ExprFront

/-- The quote character of a literal. -/
inductive Quote where
  /-- The apostrophe `'`. -/
  | single
  /-- The double quote `"`. -/
  | double
  deriving DecidableEq, Repr, Inhabited

namespace Quote

/-- The quote a byte stands for, if any. -/
def ofByte? (b : UInt8) : Option Quote :=
  match byteChar b with
  | '\x27' => some .single
  | '"' => some .double
  | _ => none

/-- The byte of the quote character. -/
def byte : Quote → UInt8
  | .single => 39
  | .double => 34

/-- The quote character. -/
def char : Quote → Char
  | .single => '\x27'
  | .double => '"'

/-- The name of the quote, as error messages give it. -/
def name : Quote → String
  | .single => "Single"
  | .double => "Double"

end Quote

/-- How many quote characters open and close a literal. -/
inductive QuoteSize where
  /-- One quote: the body may not hold a line break. -/
  | single
  /-- Three quotes: the body may span lines. -/
  | triple
  deriving DecidableEq, Repr, Inhabited

namespace QuoteSize

/-- The number of quote characters. -/
def len : QuoteSize → Nat
  | .single => 1
  | .triple => 3

/-- The name of the size, as error messages give it. -/
def name : QuoteSize → String
  | .single => "Single"
  | .triple => "Triple"

end QuoteSize

/-- What closes one literal, and how its body is read. -/
structure Delimiter where
  /-- The quote character. -/
  quote : Quote
  /-- One or three quotes. -/
  size : QuoteSize
  /-- The prefix letters. -/
  flags : StringFlags
  /-- The byte length of the prefix letters. -/
  prefixLen : Nat
  deriving DecidableEq, Repr, Inhabited

namespace Delimiter

/-- Whether the body may hold line breaks. -/
def spansLines (d : Delimiter) : Bool := d.size == .triple

/-- The byte length of the closing quotes. -/
def closeLength (d : Delimiter) : Nat := d.size.len

/-- The byte length of the opening text: prefix letters and quotes. -/
def openLength (d : Delimiter) : Nat := d.prefixLen + d.size.len

/-- Whether a quote and size close a literal opened with this delimiter; the letters do not
matter. -/
def closedBy (d : Delimiter) (q : Quote) (z : QuoteSize) : Bool :=
  d.quote == q && d.size == z

/-- The closing quotes. -/
def closingQuotes (d : Delimiter) : String :=
  String.ofList (List.replicate d.size.len d.quote.char)

/-- The delimiter written as `r`, `b`, `f` for the letters set, then the closing quotes. -/
def render (d : Delimiter) : String :=
  (if d.flags.raw then "r" else "") ++ (if d.flags.bytes then "b" else "") ++
    (if d.flags.formatted then "f" else "") ++ d.closingQuotes

/-- Whether a byte is an ASCII letter. -/
def isAsciiLetter (b : UInt8) : Bool := (65 ≤ b && b ≤ 90) || (97 ≤ b && b ≤ 122)

/-- The delimiter that the bytes of an opening text begin with, if they begin one: up to two
valid prefix letters (the ASCII letters among the first three bytes), then a quote, tripled
if the next two bytes repeat it. -/
def ofOpener? (bs : List UInt8) : Option Delimiter := do
  let pre := (bs.take 3).takeWhile isAsciiLetter
  let flags ← StringFlags.ofPrefixBytes? pre
  let rest := bs.drop pre.length
  let first ← rest.head?
  let quote ← Quote.ofByte? first
  let size := if rest[1]? == some first && rest[2]? == some first then QuoteSize.triple
    else QuoteSize.single
  return ⟨quote, size, flags, pre.length⟩

end Delimiter

end ExprFront
