import ExprFront.Source.Basic

/-!
# What the scanner is handed

Before scanning, a text is checked for two encoding matters, both reported and neither fatal:

* a leading byte-order mark (`EF BB BF`), which the scanner steps over, so that scanning
  starts at offset 3 while every offset still counts it;
* NUL bytes inside the text, which reach the scanner and come out as invalid characters.

The text is stored with at least one zero byte after it, padded to a multiple of 64 bytes;
`paddedLength` is that size.
-/

namespace ExprFront

/-- An encoding matter found in a text. -/
inductive EncodingNote where
  /-- The text starts with a byte-order mark. -/
  | byteOrderMark
  /-- The text holds a NUL byte at this offset. -/
  | interiorNull (pos : Nat)
  deriving DecidableEq, Repr

namespace EncodingNote

/-- The offset of the bytes concerned. -/
def pos : EncodingNote → Nat
  | .byteOrderMark => 0
  | .interiorNull p => p

/-- The number of bytes concerned. -/
def len : EncodingNote → Nat
  | .byteOrderMark => 3
  | .interiorNull _ => 1

end EncodingNote

namespace Source

/-- Whether the text starts with the UTF-8 byte-order mark. -/
def hasByteOrderMark (src : Source) : Bool :=
  src.size ≥ 3 && src.byte 0 == 0xEF && src.byte 1 == 0xBB && src.byte 2 == 0xBF

/-- Where scanning starts: after a byte-order mark, else at the start. -/
def scanStart (src : Source) : Nat := if src.hasByteOrderMark then 3 else 0

/-- The offsets of the NUL bytes of the text, in order. -/
def nullOffsets (src : Source) : List Nat :=
  (List.range src.size).filter fun i => src.byte i == 0

/-- The encoding matters of a text: the byte-order mark first, then each NUL byte in order. -/
def encodingNotes (src : Source) : List EncodingNote :=
  (if src.hasByteOrderMark then [.byteOrderMark] else []) ++
    src.nullOffsets.map .interiorNull

/-- The stored size: the text and at least one zero byte, rounded up to a multiple of 64. -/
def paddedLength (src : Source) : Nat := (src.size + 1 + 63) / 64 * 64

end Source

end ExprFront
