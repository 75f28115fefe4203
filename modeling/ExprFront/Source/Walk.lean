import ExprFront.Source.Basic
import ExprFront.Text.Identifier

/-!
# Reading bytes forward

The scanner moves through the text byte by byte. Every walk here starts at an offset and
returns the offset where it stops, never before its start (`le_findFrom`, `le_identEnd`),
and stops at the end of the text at the latest: past the end every byte reads as zero.

* `findFrom` — the first offset whose byte passes a test, or the end;
* `charWidth` — the length of a UTF-8 character from its first byte;
* `lineBreakEnd` — past one line break, where `\r\n` counts as one;
* `charAt?` — the character starting at an offset;
* `identEnd` — past the rest of an identifier.
-/

namespace ExprFront

/-- Whether a byte is an ASCII decimal digit. -/
def isDigitByte (b : UInt8) : Bool := 48 ≤ b && b ≤ 57

/-- Whether a byte is an ASCII hex digit. -/
def isHexByte (b : UInt8) : Bool :=
  isDigitByte b || (97 ≤ b && b ≤ 102) || (65 ≤ b && b ≤ 70)

/-- Whether a byte may go on an ASCII identifier: a letter, a digit or `_`. -/
def isIdentByte (b : UInt8) : Bool :=
  (97 ≤ b && b ≤ 122) || (65 ≤ b && b ≤ 90) || isDigitByte b || b == 95

/-- Whether a byte is a line feed or a carriage return. -/
def isLineBreakByte (b : UInt8) : Bool := b == 10 || b == 13

/-- The length of the UTF-8 character a byte begins; a byte that begins none counts as one. -/
def charWidth (b : UInt8) : Nat :=
  if 0xC0 ≤ b && b ≤ 0xDF then 2
  else if 0xE0 ≤ b && b ≤ 0xEF then 3
  else if 0xF0 ≤ b && b ≤ 0xF7 then 4
  else 1

theorem one_le_charWidth (b : UInt8) : 1 ≤ charWidth b := by
  unfold charWidth; split <;> (try split) <;> (try split) <;> omega

namespace Source

/-- The first offset from `i` on whose byte passes `p`, or `i` itself once past the last byte. -/
def findFrom (src : Source) (p : UInt8 → Bool) (i : Nat) : Nat :=
  if i < src.size then
    if p (src.byte i) then i else src.findFrom p (i + 1)
  else i
termination_by src.size - i

theorem le_findFrom (src : Source) (p : UInt8 → Bool) (i : Nat) : i ≤ src.findFrom p i := by
  fun_induction src.findFrom p i <;> omega

/-- The offset just past the line break at `i`: two bytes for `\r\n`, else one. -/
def lineBreakEnd (src : Source) (i : Nat) : Nat :=
  if src.byte i == 13 && src.byte (i + 1) == 10 then i + 2 else i + 1

theorem lt_lineBreakEnd (src : Source) (i : Nat) : i < src.lineBreakEnd i := by
  unfold lineBreakEnd; split <;> omega

/-- The character that starts at offset `i`, if one does. -/
def charAt? (src : Source) (i : Nat) : Option Char :=
  if i < src.size then
    let stop := min (i + charWidth (src.byte i)) src.size
    (String.fromUTF8? (src.bytes.extract i stop)).bind fun s => s.toList.head?
  else none

/-- Whether the character at offset `i` passes a test. -/
def charAtIs (src : Source) (i : Nat) (p : Char → Bool) : Bool :=
  match src.charAt? i with
  | some c => p c
  | none => false

/-- The offset past the identifier characters from `i` on: ASCII letters, digits and `_`, and
non-ASCII characters with the property `XID_Continue`. -/
def identEnd (src : Source) (i : Nat) : Nat :=
  if i < src.size then
    let b := src.byte i
    if isIdentByte b then src.identEnd (i + 1)
    else if b ≥ 0x80 && src.charAtIs i Text.xidContinue.contains then
      src.identEnd (i + charWidth b)
    else i
  else i
termination_by src.size - i
decreasing_by
  · omega
  · have := one_le_charWidth (src.byte i); omega

theorem le_identEnd (src : Source) (i : Nat) : i ≤ src.identEnd i := by
  fun_induction src.identEnd i <;> omega

end Source

end ExprFront
