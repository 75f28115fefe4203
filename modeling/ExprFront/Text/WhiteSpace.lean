import ExprFront.Text.Ranges

/-!
# White space

The Unicode property `White_Space` as sorted, disjoint ranges of code points: the characters
that trimming removes from both ends of a text.
-/

namespace ExprFront.Text

/-- Code points with the Unicode property `White_Space`. -/
def whiteSpace : CharRanges where
  ranges := #[
    (0x9, 0xD),
    (0x20, 0x20),
    (0x85, 0x85),
    (0xA0, 0xA0),
    (0x1680, 0x1680),
    (0x2000, 0x200A),
    (0x2028, 0x2029),
    (0x202F, 0x202F),
    (0x205F, 0x205F),
    (0x3000, 0x3000)]

end ExprFront.Text
