import ExprFront.Source.Basic

/-!
# Lines and columns

Positions are reported as 1-based `line:column`. Only a line feed starts a new line, and a
column counts characters, not bytes: it is one more than the number of bytes from the start of
the line that are not UTF-8 continuation bytes. An offset past the end reports the end.

`LineIndex.build` records where every line starts, in one pass over the text. A position is
then found by a binary search for the line among those starts, and a count of the character
starts between the line's start and the offset.
-/

namespace ExprFront

/-- A 1-based line and column. -/
structure LineCol where
  /-- The line, counting from 1. -/
  line : Nat
  /-- The column in characters, counting from 1. -/
  column : Nat
  deriving DecidableEq, Repr, Inhabited

/-- A position is written `line:column`. -/
def LineCol.render (p : LineCol) : String := toString p.line ++ ":" ++ toString p.column

/-- Whether a byte begins a UTF-8 character, that is, is not a continuation byte. -/
def isCharStart (b : UInt8) : Bool := b &&& 0xC0 != 0x80

/-- The window `base … base + size` of an array sorted in ascending order, narrowed down to one
element: each round compares the middle element with `x` and keeps the half where `x` belongs. -/
def narrowSearch (a : Array Nat) (x : Nat) (base size : Nat) : Nat :=
  if size ≤ 1 then base
  else
    let half := size / 2
    let mid := base + half
    narrowSearch a x (if a.getD mid 0 > x then base else mid) (size - half)
termination_by size

/-- Binary search in an array sorted in ascending order: `.ok i` where the element at `i` is
`x`, or `.error i` where `i` is the place where `x` would be inserted to keep the order. -/
def binarySearch (a : Array Nat) (x : Nat) : Except Nat Nat :=
  if a.size = 0 then .error 0
  else
    let base := narrowSearch a x 0 a.size
    let v := a.getD base 0
    if v = x then .ok base
    else if v < x then .error (base + 1)
    else .error base

namespace Source

/-- The offsets of the text's line feeds, in order. -/
def lineFeeds (src : Source) : List Nat :=
  (List.range src.size).filter fun i => src.byte i == 10

end Source

/-- A text with the offsets where its lines start. -/
structure LineIndex where
  /-- The text. -/
  src : Source
  /-- The offset of each line's first byte, in order; the first is `0`. -/
  lineStarts : Array Nat

namespace LineIndex

/-- The index of a text: line 1 starts at `0`, and every other line one past a line feed. -/
def build (src : Source) : LineIndex :=
  ⟨src, (0 :: src.lineFeeds.map (· + 1)).toArray⟩

/-- The number of lines: one more than the number of line feeds. -/
def lineCount (ix : LineIndex) : Nat := ix.lineStarts.size

/-- The offset where line `n` starts, for `1 ≤ n ≤ lineCount`. -/
def lineStart? (ix : LineIndex) (n : Nat) : Option Nat :=
  if n = 0 then none else ix.lineStarts[n - 1]?

/-- The 0-based number of the line holding offset `o`: the line that starts there, or the one
before the place where `o` would go among the line starts. -/
def lineIndexOf (ix : LineIndex) (o : Nat) : Nat :=
  match binarySearch ix.lineStarts o with
  | .ok exact => exact
  | .error insert => insert - 1

/-- The position of an offset; an offset past the end is read as the end. The column counts
the character starts from the line's start up to the offset. -/
def lineCol (ix : LineIndex) (o : Nat) : LineCol :=
  let o := min o ix.src.size
  let line := ix.lineIndexOf o
  let start := ix.lineStarts.getD line 0
  ⟨line + 1, (ix.src.window start o).countP isCharStart + 1⟩

end LineIndex

end ExprFront
