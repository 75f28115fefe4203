/-!
# Source text and spans

The scanner works on the UTF-8 bytes of a program text; every position it reports is a byte
offset. This module holds the two nouns all later stages share:

* `Span` — a half-open range `start..stop` of byte offsets, written `a..b`.
* `Source` — the bytes of a text, read so that every offset past the end holds a zero byte.
  The scanner relies on this: a zero byte at or past the end is the end of input, and a
  zero byte before it is an ordinary (invalid) character.

`Source.slice` cuts a span back out as text; a span that does not lie on character
boundaries inside the text gives the empty text.
-/

namespace ExprFront

/-- The character a byte stands for when read on its own; for an ASCII byte, the character
itself. -/
def byteChar (b : UInt8) : Char := Char.ofNat b.toNat

/-- A half-open range of byte offsets `start..stop` into a source text. -/
structure Span where
  /-- The first byte of the range. -/
  start : Nat
  /-- One past the last byte of the range. -/
  stop : Nat
  deriving DecidableEq, Repr, Inhabited

namespace Span

/-- The empty span at an offset. -/
def point (n : Nat) : Span := ⟨n, n⟩

/-- The smallest span covering both spans. -/
def merge (a b : Span) : Span := ⟨min a.start b.start, max a.stop b.stop⟩

/-- The number of bytes the span covers. -/
def len (sp : Span) : Nat := sp.stop - sp.start

/-- Whether the span covers no byte. -/
def isEmpty (sp : Span) : Bool := sp.start == sp.stop

/-- A span is written `start..stop`. -/
def render (sp : Span) : String := toString sp.start ++ ".." ++ toString sp.stop

end Span

/-- The UTF-8 bytes of a program text. -/
structure Source where
  /-- The bytes, without any terminator. -/
  bytes : ByteArray

namespace Source

/-- The source of a text. -/
def ofString (s : String) : Source := ⟨s.toUTF8⟩

/-- The length of the text in bytes. -/
def size (src : Source) : Nat := src.bytes.size

/-- The byte at offset `i`; every offset past the end reads as zero. -/
def byte (src : Source) (i : Nat) : UInt8 :=
  if h : i < src.bytes.size then src.bytes[i] else 0

/-- The bytes of the offsets `a ≤ i < b`, each read as `byte` reads it. -/
def window (src : Source) (a b : Nat) : List UInt8 :=
  (List.range (b - a)).map fun k => src.byte (a + k)

/-- The text a span covers, or the empty text if the span does not lie on character
boundaries inside the source. -/
def slice (src : Source) (sp : Span) : String :=
  if sp.start ≤ sp.stop ∧ sp.stop ≤ src.size then
    (String.fromUTF8? (src.bytes.extract sp.start sp.stop)).getD ""
  else ""

end Source

end ExprFront
