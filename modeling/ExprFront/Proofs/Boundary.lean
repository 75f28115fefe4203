import Mathlib
import ExprFront.Scan.Run

/-!
# Character boundaries

The scanner reads a text byte by byte, yet every offset it stops at has to fall between two
characters, so that no piece it reports splits a UTF-8 sequence. `CharBoundary s i` says that
offset `i` of the text `s` is such a place; it is the library's `String.Pos.Raw.IsValid`.

What makes the scanner keep to boundaries is little:

* an ASCII byte is a character of its own, so the offsets on either side of it are boundaries
  (`CharBoundary.of_lt`, `CharBoundary.succ`), and so is the end of a run of ASCII bytes
  (`CharBoundary.add_of_ascii`);
* the first byte of a character gives its width (`CharBoundary.add_charWidth`), which is how
  the scanner steps over non-ASCII characters;
* a walk that only passes ASCII bytes, or only stops on one, stops on a boundary
  (`CharBoundary.findFrom`, `charBoundary_findFrom`); identifiers and numbers are read that
  way (`CharBoundary.identEnd`, `CharBoundary.digitsEnd`, `CharBoundary.exponentEnd`).
-/

namespace ExprFront

/-! ## The bytes of a text -/

namespace Source

@[simp] lemma size_ofString (s : String) : (ofString s).size = s.utf8ByteSize := rfl

lemma byte_ofString {s : String} {i : Nat} (h : i < s.toByteArray.size) :
    (ofString s).byte i = s.toByteArray[i] := by
  have hi : i < s.utf8ByteSize := h
  simp [byte, ofString, hi]

/-- Past the end every offset reads as zero. -/
lemma byte_of_size_le {src : Source} {i : Nat} (h : src.size ≤ i) : src.byte i = 0 := by
  have : ¬ i < src.bytes.size := by simpa [size] using h
  simp [byte, this]

/-- A byte other than zero lies inside the text. -/
lemma lt_size_of_byte_ne_zero {src : Source} {i : Nat} (h : src.byte i ≠ 0) : i < src.size := by
  by_contra hi
  exact h (byte_of_size_le (Nat.le_of_not_lt hi))

end Source

/-! ## Bytes that begin characters -/

set_option maxRecDepth 10000 in
/-- A byte below `0x80` is a character of its own. -/
lemma isUTF8FirstByte_of_lt : ∀ c : UInt8, c < 128 → c.IsUTF8FirstByte := by decide

set_option maxRecDepth 10000 in
/-- The width that `charWidth` reads off the first byte of a character is its UTF-8 length. -/
lemma utf8ByteSize_eq_charWidth :
    ∀ (c : UInt8) (h : c.IsUTF8FirstByte), c.utf8ByteSize h = charWidth c := by decide

lemma charWidth_of_lt {c : UInt8} (h : c < 128) : charWidth c = 1 := by
  have : c.toNat < 128 := h
  simp only [charWidth, Bool.and_eq_true, decide_eq_true_eq, UInt8.le_iff_toNat_le]
  split_ifs <;> simp_all <;> omega

/-! ## Boundaries -/

/-- Offset `i` falls on a character boundary of `s`: at either end of its UTF-8 bytes, or
just before the first byte of one of its characters. -/
def CharBoundary (s : String) (i : Nat) : Prop := (String.Pos.Raw.mk i).IsValid s

namespace CharBoundary

variable {s : String} {i : Nat}

lemma le_size (h : CharBoundary s i) : i ≤ s.utf8ByteSize := String.Pos.Raw.IsValid.le_utf8ByteSize h

lemma zero (s : String) : CharBoundary s 0 := String.Pos.Raw.isValid_zero

lemma size (s : String) : CharBoundary s s.utf8ByteSize := String.Pos.Raw.isValid_rawEndPos

/-- The offset of an ASCII byte is a boundary. -/
lemma of_lt (hi : i < s.utf8ByteSize) (hb : (Source.ofString s).byte i < 128) :
    CharBoundary s i := by
  rw [CharBoundary, String.Pos.Raw.isValid_iff_isUTF8FirstByte]
  refine Or.inr ⟨by simpa [String.Pos.Raw.lt_iff] using hi, ?_⟩
  rw [Source.byte_ofString (by simpa using hi)] at hb
  simpa [String.getUTF8Byte_eq_getElem] using isUTF8FirstByte_of_lt _ hb

/-- A boundary inside the text is a position of the library, before a character; the next
position lies the first byte's width further on. -/
lemma exists_next (h : CharBoundary s i) (hi : i < s.utf8ByteSize) :
    ∃ (p : s.Pos) (hne : p ≠ s.endPos), p.offset.byteIdx = i ∧
      (p.next hne).offset.byteIdx = i + charWidth ((Source.ofString s).byte i) := by
  let p : s.Pos := ⟨⟨i⟩, h⟩
  have hne : p ≠ s.endPos := by
    intro hp
    have := congrArg (fun q => q.offset.byteIdx) hp
    simp [p] at this
    omega
  -- the next position of the library is `i` plus the UTF-8 size of the character at `i`
  have hwidth : (p.get hne).utf8Size = charWidth ((Source.ofString s).byte i) := by
    rw [String.Pos.get_eq_get_toSlice, String.Slice.Pos.get_eq_utf8DecodeChar,
      ByteArray.utf8Size_utf8DecodeChar, utf8ByteSize_eq_charWidth,
      Source.byte_ofString (by simpa using hi)]
    simp [p]
  refine ⟨p, hne, rfl, ?_⟩
  rw [String.Pos.offset_next, ← hwidth]
  rfl

/-- From a boundary inside the text, the first byte's width leads to the next boundary. -/
lemma add_charWidth (h : CharBoundary s i) (hi : i < s.utf8ByteSize) :
    CharBoundary s (i + charWidth ((Source.ofString s).byte i)) := by
  obtain ⟨p, hne, -, hnext⟩ := h.exists_next hi
  rw [← hnext]
  exact (p.next hne).isValid

/-- Past an ASCII byte inside the text is a boundary again. -/
lemma succ (h : CharBoundary s i) (hi : i < s.utf8ByteSize)
    (hb : (Source.ofString s).byte i < 128) : CharBoundary s (i + 1) := by
  simpa [charWidth_of_lt hb] using h.add_charWidth hi

/-- Past a run of `n` nonzero ASCII bytes is a boundary again. -/
lemma add_of_ascii (h : CharBoundary s i) {n : Nat}
    (hb : ∀ k < n, (Source.ofString s).byte (i + k) ≠ 0 ∧ (Source.ofString s).byte (i + k) < 128) :
    CharBoundary s (i + n) := by
  induction n with
  | zero => simpa using h
  | succ n ih =>
    have hstep := hb n (by omega)
    have hlt : i + n < s.utf8ByteSize := by
      simpa using Source.lt_size_of_byte_ne_zero hstep.1
    simpa [Nat.add_assoc] using
      (ih fun k hk => hb k (by omega)).succ hlt hstep.2

end CharBoundary

/-! ## Walks -/

set_option maxRecDepth 10000 in
lemma ascii_of_isLineBreakByte : ∀ b : UInt8, isLineBreakByte b = true → b ≠ 0 ∧ b < 128 := by
  decide

set_option maxRecDepth 10000 in
lemma ascii_of_isIdentByte : ∀ b : UInt8, isIdentByte b = true → b ≠ 0 ∧ b < 128 := by
  decide

namespace Source

variable {src : Source} {p : UInt8 → Bool} {i : Nat}

lemma findFrom_le_size (hi : i ≤ src.size) : src.findFrom p i ≤ src.size := by
  fun_induction src.findFrom p i <;> omega

/-- Inside the text, a walk stops only on a byte that passes its test. -/
lemma findFrom_stops (h : src.findFrom p i < src.size) : p (src.byte (src.findFrom p i)) = true := by
  fun_induction src.findFrom p i with
  | case1 => assumption
  | case2 _ _ _ ih => exact ih h
  | case3 => omega

end Source

namespace CharBoundary

variable {s : String} {i : Nat}

/-- A walk that passes only ASCII bytes goes from a boundary to a boundary. -/
lemma findFrom {p : UInt8 → Bool} (hp : ∀ b, p b = false → b < 128) (h : CharBoundary s i) :
    CharBoundary s ((Source.ofString s).findFrom p i) := by
  fun_induction (Source.ofString s).findFrom p i with
  | case1 => exact h
  | case2 j hj hpj ih => exact ih (h.succ (by simpa using hj) (hp _ (by simpa using hpj)))
  | case3 => exact h

/-- A walk that stops only on ASCII bytes stops on a boundary. -/
lemma of_findFrom {p : UInt8 → Bool} (hp : ∀ b, p b = true → b < 128) (hi : i ≤ s.utf8ByteSize) :
    CharBoundary s ((Source.ofString s).findFrom p i) := by
  have hle : (Source.ofString s).findFrom p i ≤ (Source.ofString s).size :=
    Source.findFrom_le_size (by simpa using hi)
  by_cases hlt : (Source.ofString s).findFrom p i < s.utf8ByteSize
  · exact of_lt hlt (hp _ (Source.findFrom_stops (by simpa using hlt)))
  · have heq : (Source.ofString s).findFrom p i = s.utf8ByteSize := by simp at hle; omega
    rw [heq]
    exact size s

/-- Past a line break is a boundary, whether the break is one byte or `\r\n`. -/
lemma lineBreakEnd (h : CharBoundary s i)
    (hb : isLineBreakByte ((Source.ofString s).byte i) = true) :
    CharBoundary s ((Source.ofString s).lineBreakEnd i) := by
  have hi := ascii_of_isLineBreakByte _ hb
  unfold Source.lineBreakEnd
  split
  · next hcrlf =>
    simp only [Bool.and_eq_true, beq_iff_eq] at hcrlf
    refine h.add_of_ascii fun k hk => ?_
    match k, hk with
    | 0, _ => exact hi
    | 1, _ => rw [hcrlf.2]; decide
  · exact h.add_of_ascii fun k hk => by
      match k, hk with
      | 0, _ => exact hi

/-- Past the rest of an identifier is a boundary. -/
lemma identEnd (h : CharBoundary s i) : CharBoundary s ((Source.ofString s).identEnd i) := by
  fun_induction (Source.ofString s).identEnd i with
  | case1 j hj b hid ih =>
    exact ih (h.succ (by simpa using hj) (ascii_of_isIdentByte _ hid).2)
  | case2 j hj b _ _ ih => exact ih (h.add_charWidth (by simpa using hj))
  | case3 => exact h
  | case4 => exact h

set_option maxRecDepth 10000 in
/-- Past the digits and underscores from a boundary is a boundary. -/
lemma digitsEnd (h : CharBoundary s i) : CharBoundary s ((Source.ofString s).digitsEnd i) :=
  h.findFrom (by decide)

/-- Past an exponent from a boundary is a boundary. -/
lemma exponentEnd (h : CharBoundary s i) : CharBoundary s ((Source.ofString s).exponentEnd i).1 := by
  unfold Source.exponentEnd
  dsimp only
  split
  · next he =>
    have he' : (Source.ofString s).byte i = 101 ∨ (Source.ofString s).byte i = 69 := by
      simpa using he
    have hi : (Source.ofString s).byte i ≠ 0 ∧ (Source.ofString s).byte i < 128 := by
      rcases he' with he' | he' <;> rw [he'] <;> decide
    have h1 : CharBoundary s (i + 1) := h.add_of_ascii fun k hk => by
      match k, hk with
      | 0, _ => exact hi
    split
    · exact h1.digitsEnd
    · split
      · next hsigned =>
        simp only [Bool.and_eq_true, Bool.or_eq_true, beq_iff_eq] at hsigned
        have h2 : CharBoundary s (i + 1 + 1) := h1.add_of_ascii fun k hk => by
          match k, hk with
          | 0, _ => rcases hsigned.1 with hs | hs <;> rw [hs] <;> decide
        exact h2.digitsEnd
      · exact h
  · exact h

end CharBoundary

namespace Source

variable {src : Source} {i : Nat}

lemma le_digitsEnd (src : Source) (i : Nat) : i ≤ src.digitsEnd i := src.le_findFrom _ i

lemma le_exponentEnd (src : Source) (i : Nat) : i ≤ (src.exponentEnd i).1 := by
  unfold exponentEnd
  have h1 := src.le_digitsEnd (i + 1)
  have h2 := src.le_digitsEnd (i + 2)
  dsimp only
  split
  · split
    · simp only
      omega
    · split <;> simp only <;> omega
  · simp

end Source

end ExprFront
