import Mathlib
import ExprFront.Proofs.Shift
import ExprFront.Scan.Code

/-!
# A text read further on

A text that stands `k` bytes into a larger one, with nothing after it, reads the same there:
every walk of the scanner from an offset `i + k` of the larger text stops `k` bytes after the
same walk from `i` in the text alone (`Moved.findFrom`, `Moved.identEnd`,
`Moved.stringBodyEnd`, `Moved.textStop`, …), and a span cut out `k` bytes further on is the
same text (`Moved.slice`). The walks only read forward, so the `k` bytes before never come
into it.

A text after a byte-order mark is such a text, three bytes on (`moved_byteOrderMark`), and
its scan starts past the mark (`scanStart_byteOrderMark`).
-/

namespace ExprFront

namespace Source

/-- A text that holds `src` from offset `k` on: the same bytes `k` further on, and nothing
after them. -/
structure Moved (k : Nat) (src src' : Source) : Prop where
  size : src'.size = src.size + k
  byte : ∀ i, src'.byte (i + k) = src.byte i

variable {k : Nat} {src src' : Source}

lemma Moved.findFrom (h : src.Moved k src') (p : UInt8 → Bool) (i : Nat) :
    src'.findFrom p (i + k) = src.findFrom p i + k := by
  fun_induction src.findFrom p i with
  | case1 i hi hp => rw [Source.findFrom]; simp [h.size, h.byte, hi, hp]
  | case2 i hi hp ih => rw [Source.findFrom]; simp [h.size, h.byte, hi, hp, ← ih, Nat.add_right_comm]
  | case3 i hi => rw [Source.findFrom]; simp [h.size, hi]

lemma Moved.bytes_size (h : src.Moved k src') : src'.bytes.size = src.bytes.size + k := h.size

lemma Moved.lt_size_iff (h : src.Moved k src') {i : Nat} : i + k < src'.size ↔ i < src.size := by
  rw [h.size]
  omega

lemma Moved.byte_add (h : src.Moved k src') (i n : Nat) :
    src'.byte (i + k + n) = src.byte (i + n) := by
  rw [Nat.add_right_comm, h.byte]

lemma Moved.getElem (h : src.Moved k src') {i : Nat} (hi : i < src.bytes.size)
    (hi' : i + k < src'.bytes.size) : src'.bytes[i + k] = src.bytes[i] := by
  have hb := h.byte i
  unfold Source.byte at hb
  rwa [dif_pos hi', dif_pos hi] at hb

lemma Moved.extract (h : src.Moved k src') {a b : Nat} (hb : b ≤ src.size) :
    src'.bytes.extract (a + k) (b + k) = src.bytes.extract a b := by
  have hsize := h.bytes_size
  change b ≤ src.bytes.size at hb
  apply ByteArray.ext
  simp only [ByteArray.data_extract]
  apply Array.ext
  · simp [hsize]
    omega
  · intro m hm hm'
    simp only [Array.getElem_extract]
    have hm₁ : a + m < src.bytes.size := by simp at hm'; omega
    have := h.getElem hm₁ (by rw [hsize]; omega)
    have e : a + k + m = a + m + k := by omega
    simp only [e]
    exact this

lemma Moved.lineBreakEnd (h : src.Moved k src') (i : Nat) :
    src'.lineBreakEnd (i + k) = src.lineBreakEnd i + k := by
  unfold Source.lineBreakEnd
  rw [Nat.add_right_comm, h.byte, h.byte]
  split <;> omega

lemma Moved.window (h : src.Moved k src') (a b : Nat) :
    src'.window (a + k) (b + k) = src.window a b := by
  unfold Source.window
  rw [Nat.add_sub_add_right]
  refine List.map_congr_left fun m _ => ?_
  rw [Nat.add_right_comm, h.byte]

lemma Moved.slice (h : src.Moved k src') (sp : Span) : src'.slice (sp.shift k) = src.slice sp := by
  unfold Source.slice
  simp only [Span.start_shift, Span.stop_shift, Nat.add_le_add_iff_right, h.size]
  split
  · rename_i hsp
    rw [h.extract hsp.2]
  · rfl

lemma Moved.charAt? (h : src.Moved k src') (i : Nat) : src'.charAt? (i + k) = src.charAt? i := by
  unfold Source.charAt?
  by_cases hi : i < src.size
  · rw [if_pos (h.lt_size_iff.2 hi), if_pos hi, h.byte, h.size, Nat.add_right_comm,
      Nat.add_min_add_right]
    dsimp only
    rw [h.extract (min_le_right _ _)]
  · rw [if_neg (mt h.lt_size_iff.1 hi), if_neg hi]

lemma Moved.charAtIs (h : src.Moved k src') (i : Nat) (p : Char → Bool) :
    src'.charAtIs (i + k) p = src.charAtIs i p := by
  unfold Source.charAtIs
  rw [h.charAt?]

lemma Moved.identEnd (h : src.Moved k src') (i : Nat) :
    src'.identEnd (i + k) = src.identEnd i + k := by
  fun_induction src.identEnd i with
  | case1 i hi b hb ih =>
    rw [Source.identEnd.eq_1 src' (i + k), if_pos (h.lt_size_iff.2 hi)]
    dsimp only
    rw [h.byte, if_pos hb, Nat.add_right_comm, ih]
  | case2 i hi b hb hu ih =>
    rw [Source.identEnd.eq_1 src' (i + k), if_pos (h.lt_size_iff.2 hi)]
    dsimp only
    rw [h.byte, if_neg (by simpa using hb), h.charAtIs, if_pos hu, Nat.add_right_comm, ih]
  | case3 i hi b hb hu =>
    rw [Source.identEnd.eq_1 src' (i + k), if_pos (h.lt_size_iff.2 hi)]
    dsimp only
    rw [h.byte, if_neg (by simpa using hb), h.charAtIs, if_neg hu]
  | case4 i hi =>
    rw [Source.identEnd.eq_1 src' (i + k), if_neg (mt h.lt_size_iff.1 hi)]

lemma Moved.digitsEnd (h : src.Moved k src') (i : Nat) :
    src'.digitsEnd (i + k) = src.digitsEnd i + k :=
  h.findFrom _ i

lemma Moved.exponentEnd (h : src.Moved k src') (i : Nat) :
    src'.exponentEnd (i + k) = ((src.exponentEnd i).1 + k, (src.exponentEnd i).2) := by
  unfold Source.exponentEnd
  simp only [h.byte, ← Nat.add_right_comm i 1 k, ← Nat.add_right_comm i 2 k,
    h.digitsEnd]
  split_ifs <;> rfl

lemma Moved.closesAt (h : src.Moved k src') (d : Delimiter) (j : Nat) :
    src'.closesAt d (j + k) = src.closesAt d j := by
  unfold Source.closesAt
  rw [h.byte, h.byte_add, h.byte_add]

lemma Moved.escapeEnd (h : src.Moved k src') (i : Nat) :
    src'.escapeEnd (i + k) = src.escapeEnd i + k := by
  unfold Source.escapeEnd
  simp only [h.byte, h.lineBreakEnd, h.size, Nat.add_le_add_iff_right]
  split_ifs <;> omega

/-- Where a walk through a string's body stops, `k` bytes further on. -/
def BodyEnd.shift (k : Nat) : BodyEnd → BodyEnd
  | .closed j => .closed (j + k)
  | .unterminated j => .unterminated (j + k)

lemma Moved.stringBodyEnd (h : src.Moved k src') (d : Delimiter) (i : Nat) :
    src'.stringBodyEnd d (i + k) = (src.stringBodyEnd d i).shift k := by
  fun_induction src.stringBodyEnd d i
  all_goals
    rw [Source.stringBodyEnd.eq_1 src' d (_ + k), h.findFrom]
    dsimp only
    simp only [h.lt_size_iff, h.byte, h.closesAt, ← Nat.add_right_comm _ 1 k, h.escapeEnd,
      h.lineBreakEnd, Nat.add_right_comm _ k d.closeLength]
  all_goals simp_all +zetaDelta [BodyEnd.shift]

lemma Moved.namedEscapeEnd (h : src.Moved k src') (q : UInt8) (m : Nat) :
    src'.namedEscapeEnd q (m + k) = src.namedEscapeEnd q m + k := by
  fun_induction src.namedEscapeEnd q m
  all_goals
    rw [Source.namedEscapeEnd.eq_1 src' q (_ + k)]
    simp only [h.lt_size_iff, h.byte, Nat.add_right_comm _ k 1, Nat.add_right_comm _ k (charWidth _)]
  all_goals simp_all +zetaDelta

lemma Moved.textEscapeEnd (h : src.Moved k src') (d : Delimiter) (i : Nat) :
    src'.textEscapeEnd d (i + k) = src.textEscapeEnd d i + k := by
  unfold Source.textEscapeEnd
  simp only [h.byte, h.byte_add, ← Nat.add_right_comm i 2 k, h.namedEscapeEnd, h.escapeEnd]
  split_ifs <;> rfl

/-- The next boundary of f-string text, `k` bytes further on. -/
def TextStop.shift (k : Nat) : TextStop → TextStop
  | .openBrace j => .openBrace (j + k)
  | .closeBrace j => .closeBrace (j + k)
  | .loneBrace j => .loneBrace (j + k)
  | .lineBreak j => .lineBreak (j + k)
  | .closer j => .closer (j + k)
  | .eof j => .eof (j + k)

lemma Moved.textStop (h : src.Moved k src') (d : Delimiter) (inFormatSpec : Bool) (i : Nat) :
    src'.textStop d inFormatSpec (i + k) = (src.textStop d inFormatSpec i).shift k := by
  fun_induction src.textStop d inFormatSpec i
  all_goals
    rw [Source.textStop.eq_1 src' d inFormatSpec (_ + k), h.findFrom]
    dsimp only
    simp only [h.lt_size_iff, h.byte, h.closesAt, ← Nat.add_right_comm _ 1 k,
      ← Nat.add_right_comm _ 2 k, h.textEscapeEnd, h.lineBreakEnd]
  all_goals simp_all +zetaDelta [TextStop.shift]

/-! ## A text after a byte-order mark -/

/-- A text after some bytes holds the text that many bytes on. -/
lemma moved_append (pre : ByteArray) (src : Source) : src.Moved pre.size ⟨pre ++ src.bytes⟩ where
  size := by
    simp only [size, ByteArray.size_append]
    omega
  byte i := by
    unfold byte
    by_cases hi : i < src.bytes.size
    · rw [dif_pos (by simp only [ByteArray.size_append]; omega), dif_pos hi,
        ByteArray.getElem_append_right (by omega)]
      simp
    · rw [dif_neg (by simp only [ByteArray.size_append]; omega), dif_neg hi]

lemma byte_append_left {pre b : ByteArray} {i : Nat} (hi : i < pre.size) :
    (⟨pre ++ b⟩ : Source).byte i = pre[i] := by
  unfold byte
  rw [dif_pos (by simp only [ByteArray.size_append]; omega), ByteArray.getElem_append_left hi]

lemma ofString_byteOrderMark (s : String) :
    ofString ("\uFEFF" ++ s) = ⟨"\uFEFF".toUTF8 ++ (ofString s).bytes⟩ :=
  congrArg Source.mk (ByteArray.ext rfl)

lemma size_toUTF8_byteOrderMark : "\uFEFF".toUTF8.size = 3 := by decide

/-- A text after a byte-order mark holds the text three bytes on. -/
theorem moved_byteOrderMark (s : String) : (ofString s).Moved 3 (ofString ("\uFEFF" ++ s)) := by
  rw [ofString_byteOrderMark, ← size_toUTF8_byteOrderMark]
  exact moved_append _ _

/-- The three bytes of the mark. -/
lemma bytes_byteOrderMark (s : String) :
    (ofString ("\uFEFF" ++ s)).byte 0 = 0xEF ∧ (ofString ("\uFEFF" ++ s)).byte 1 = 0xBB ∧
      (ofString ("\uFEFF" ++ s)).byte 2 = 0xBF := by
  rw [ofString_byteOrderMark]
  refine ⟨?_, ?_, ?_⟩ <;> rw [byte_append_left (by rw [size_toUTF8_byteOrderMark]; omega)] <;> rfl

/-- Scanning a text with a byte-order mark starts past it. -/
lemma scanStart_byteOrderMark (s : String) : (ofString ("\uFEFF" ++ s)).scanStart = 3 := by
  have hsize : 3 ≤ (ofString ("\uFEFF" ++ s)).size := by
    rw [(moved_byteOrderMark s).size]
    omega
  obtain ⟨h₀, h₁, h₂⟩ := bytes_byteOrderMark s
  have hbom : (ofString ("\uFEFF" ++ s)).hasByteOrderMark = true := by
    simp only [hasByteOrderMark, h₀, h₁, h₂, ge_iff_le, decide_eq_true hsize, beq_self_eq_true,
      Bool.and_self]
  rw [scanStart, if_pos hbom]

end Source

end ExprFront
