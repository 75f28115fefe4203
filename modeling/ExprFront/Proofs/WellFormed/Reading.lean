import Mathlib
import ExprFront.Proofs.WellFormed.Grammar
import ExprFront.Proofs.Closers

/-!
# Reading ahead over known bytes

The scanner's walks (`Source.findFrom`, `Source.textStop`, `Source.stringBodyEnd`,
`Source.identEnd`, `Source.digitsEnd`) and its reading of openers look at the bytes ahead of an
offset. `Source.Rest src i bs` says what those bytes are: all of them, up to the end of the
text. This module reads off where each walk stops over the parts of a well-formed f-string:

* a walk passes bytes it does not stop on (`Rest.findFrom_skip`), so f-string text, which holds
  no byte a text walk stops on but in doubled braces, is passed whole (`Rest.textStop_text`),
  and so is format spec text (`Rest.textStop_spec`);
* the body of a single-quoted string ends at its quote (`Rest.stringBodyEnd_body`), a name and
  digits at the byte after them (`Rest.identEnd_name`, `Rest.digitsEnd_digits`);
* the bytes of a name read as no opener (`Delimiter.ofOpener?_eq_none`), `f"` reads as the
  opener of an f-string (`Delimiter.ofOpener?_fstring`) and `'` as that of a string
  (`Delimiter.ofOpener?_string`).
-/

namespace ExprFront

open FGrammar

namespace Delimiter

/-- The delimiter that `f"` opens. -/
def fDouble : Delimiter := ⟨.double, .single, { formatted := true }, 1⟩

/-- The delimiter that `'` opens. -/
def plainSingle : Delimiter := ⟨.single, .single, {}, 0⟩

end Delimiter

namespace Source

/-- The bytes of the text from offset `i` to its end are `bs`. -/
def Rest (src : Source) (i : Nat) (bs : List UInt8) : Prop :=
  i ≤ src.size ∧ src.bytes.data.toList.drop i = bs

variable {src : Source} {i : Nat} {a bs : List UInt8} {b : UInt8} {p : UInt8 → Bool}

/-- A text written out as characters has their UTF-8 bytes ahead of its start. -/
lemma rest_ofList (cs : List Char) : (ofString (String.ofList cs)).Rest 0 (utf8 cs) := by
  refine ⟨Nat.zero_le _, ?_⟩
  simp [ofString, utf8, List.utf8Encode]

lemma Rest.size_eq (h : src.Rest i bs) : src.size = i + bs.length := by
  obtain ⟨hle, rfl⟩ := h
  simp only [size] at hle ⊢
  simp only [List.length_drop, Array.length_toList, ByteArray.size_data]
  omega

/-- The byte `k` places ahead, and zero past the end. -/
lemma Rest.byte (h : src.Rest i bs) (k : Nat) : src.byte (i + k) = bs.getD k 0 := by
  obtain ⟨hle, rfl⟩ := h
  unfold Source.byte
  split
  · next hk =>
    have hk' : i + k < src.bytes.data.toList.length := by simpa using hk
    simp [List.getD_eq_getElem?_getD, List.getElem?_drop, List.getElem?_eq_getElem hk']
    rfl
  · next hk =>
    have hk' : src.bytes.data.toList.length ≤ i + k := by simpa using hk
    simp [List.getD_eq_getElem?_getD, List.getElem?_drop, List.getElem?_eq_none hk']

lemma Rest.byte_cons (h : src.Rest i (b :: bs)) : src.byte i = b := by
  simpa using h.byte 0

lemma Rest.byte_one (h : src.Rest i (b :: bs)) : src.byte (i + 1) = bs.getD 0 0 := by
  simpa using h.byte 1

lemma Rest.lt_size (h : src.Rest i (b :: bs)) : i < src.size := by
  rw [h.size_eq]
  simp

/-- Past bytes ahead, the bytes after them are ahead. -/
lemma Rest.append (h : src.Rest i (a ++ bs)) : src.Rest (i + a.length) bs := by
  obtain ⟨hle, hdrop⟩ := h
  have hsize := Rest.size_eq ⟨hle, hdrop⟩
  refine ⟨by simp at hsize; omega, ?_⟩
  rw [← List.drop_drop, hdrop, List.drop_left]

lemma Rest.cons (h : src.Rest i (b :: bs)) : src.Rest (i + 1) bs :=
  Rest.append (a := [b]) h

/-- The five bytes the scanner reads an opener from. -/
lemma Rest.window_five (h : src.Rest i bs) : src.window i (min (i + 5) src.size) = bs.take 5 := by
  apply List.ext_getElem
  · simp [window, h.size_eq]
  · intro k hk _
    simp only [window, List.getElem_map, List.getElem_range, h.byte k, List.getElem_take]
    have hk' : k < bs.length := by
      simp [window, h.size_eq] at hk
      omega
    simp [List.getD_eq_getElem?_getD, List.getElem?_eq_getElem hk']

/-! ## Walks -/

/-- A walk passes the bytes ahead that it does not stop on. -/
lemma Rest.findFrom_skip (h : src.Rest i (a ++ bs)) (ha : ∀ x ∈ a, p x = false) :
    src.findFrom p i = src.findFrom p (i + a.length) := by
  induction a generalizing i with
  | nil => rfl
  | cons x a ih =>
    have hlt : i < src.size := Rest.lt_size h
    rw [findFrom, if_pos hlt, Rest.byte_cons h, ha x (by simp), if_neg (by simp),
      ih (Rest.cons h) fun y hy => ha y (by simp [hy])]
    simp [Nat.add_assoc, Nat.add_comm 1]

/-- A walk stops on a byte ahead that it stops on. -/
lemma Rest.findFrom_stop (h : src.Rest i (b :: bs)) (hb : p b = true) : src.findFrom p i = i := by
  rw [findFrom, if_pos (Rest.lt_size h), Rest.byte_cons h, if_pos hb]

/-- A walk through f-string text passes the bytes ahead that it does not stop on. -/
lemma Rest.textStop_skip {d : Delimiter} {sp : Bool} (h : src.Rest i (a ++ bs))
    (ha : ∀ x ∈ a, textTest d x = false) :
    src.textStop d sp i = src.textStop d sp (i + a.length) := by
  have hf : src.findFrom
      (fun b => b == d.quote.byte || b == 123 || b == 125 || b == 92 || isLineBreakByte b) i =
      src.findFrom
        (fun b => b == d.quote.byte || b == 123 || b == 125 || b == 92 || isLineBreakByte b)
        (i + a.length) := h.findFrom_skip ha
  rw [textStop, hf]
  conv_rhs => rw [textStop]

/-! ## F-string text -/

/-- No byte of `0x80` or more stops a walk through f-string text. -/
lemma textTest_high (d : Delimiter) : ∀ x : UInt8, 128 ≤ x.toNat → textTest d x = false := by
  intro x hx
  cases hx' : textTest d x
  · rfl
  · have := textStopTest_ascii d.quote x hx'
    simp [UInt8.lt_iff_toNat_lt] at this
    omega

set_option maxRecDepth 10000 in
/-- The ASCII characters of f-string text are no bytes a walk through it stops on. -/
lemma textTest_textChar (q : Quote) :
    ∀ n, n < 128 → TextChar (Char.ofNat n) →
      textTest ⟨q, .single, {}, 0⟩ (Char.ofNat n).toUInt8 = false := by
  cases q <;> decide

/-- Characters whose ASCII members no text walk stops on: none of their bytes stops it. -/
lemma textTest_utf8_of {d : Delimiter} {P : Char → Prop}
    (hP : ∀ n, n < 128 → P (Char.ofNat n) →
      textTest ⟨d.quote, .single, {}, 0⟩ (Char.ofNat n).toUInt8 = false)
    {cs : List Char} (hcs : ∀ c ∈ cs, P c) : ∀ x ∈ utf8 cs, textTest d x = false :=
  utf8_avoids (textTest_high d) fun c hc hlt =>
    ascii_forall (P := fun c => P c → textTest d c.toUInt8 = false) hP hlt (hcs c hc)

/-- **F-string text ahead is passed whole** by a walk out of a format spec: its characters are
no stops, and a doubled brace is text. -/
lemma Rest.textStop_text {d : Delimiter} (ts : List TextPiece)
    (h : src.Rest i (utf8 (textChars ts) ++ bs)) :
    src.textStop d false i = src.textStop d false (i + (utf8 (textChars ts)).length) := by
  induction ts generalizing i with
  | nil => simp
  | cons t ts ih =>
    simp only [textChars_cons, utf8_append, List.append_assoc, List.length_append] at h ⊢
    rw [← Nat.add_assoc, ← ih h.append]
    cases t with
    | char c hc =>
      exact h.textStop_skip
        (textTest_utf8_of (textTest_textChar d.quote) (by simpa [TextPiece.chars] using hc))
    | openPair =>
      rw [utf8_openPair] at h ⊢
      rw [textStop, h.findFrom_stop (by simp)]
      simp [h.lt_size, h.byte_cons, h.byte_one]
    | closePair =>
      rw [utf8_closePair] at h ⊢
      rw [textStop, h.findFrom_stop (by simp)]
      simp [h.lt_size, h.byte_cons, h.byte_one]

/-! ## Format spec text -/

set_option maxRecDepth 10000 in
/-- The characters of a format spec are no bytes a walk through it stops on. -/
lemma textTest_specChar (q : Quote) :
    ∀ n, n < 128 → SpecChar (Char.ofNat n) →
      textTest ⟨q, .single, {}, 0⟩ (Char.ofNat n).toUInt8 = false := by
  cases q <;> decide

/-- **Format spec text ahead is passed whole** by a walk through a format spec. -/
lemma Rest.textStop_spec {d : Delimiter} (t : SpecText) (h : src.Rest i (utf8 t.chars ++ bs)) :
    src.textStop d true i = src.textStop d true (i + (utf8 t.chars).length) :=
  h.textStop_skip (textTest_utf8_of (textTest_specChar d.quote) t.chars_ok)

/-! ## Strings, names and digits -/

set_option maxRecDepth 10000 in
/-- The characters of a string body are no bytes a walk through it stops on. -/
lemma bodyTest_strChar :
    ∀ n, n < 128 → StrChar (Char.ofNat n) →
      ((Char.ofNat n).toUInt8 == 39 || (Char.ofNat n).toUInt8 == 92 ||
        isLineBreakByte (Char.ofNat n).toUInt8) = false := by
  decide

/-- The bytes of a string body are none a walk through it stops on. -/
lemma bodyTest_utf8 (body : StrBody) :
    ∀ x ∈ utf8 body.chars, (x == 39 || x == 92 || isLineBreakByte x) = false :=
  utf8_avoids (fun x hx => by
      cases hx' : (x == 39 || x == 92 || isLineBreakByte x)
      · rfl
      · have := bodyTest_ascii .single x hx'
        simp [UInt8.lt_iff_toNat_lt] at this
        omega)
    fun c hc hlt => ascii_forall
      (P := fun c => StrChar c → (c.toUInt8 == 39 || c.toUInt8 == 92 ||
        isLineBreakByte c.toUInt8) = false) bodyTest_strChar hlt (body.chars_ok c hc)

/-- **A string body ahead ends at its quote.** -/
lemma Rest.stringBodyEnd_body (body : StrBody) (h : src.Rest i (utf8 body.chars ++ 39 :: bs)) :
    src.stringBodyEnd Delimiter.plainSingle i = .closed (i + (utf8 body.chars).length + 1) := by
  have hq := h.append
  have hf : src.findFrom
      (fun b => b == Delimiter.plainSingle.quote.byte || b == 92 || isLineBreakByte b) i =
      i + (utf8 body.chars).length := by
    rw [show (fun b => b == Delimiter.plainSingle.quote.byte || b == 92 || isLineBreakByte b) =
      (fun b => b == 39 || b == 92 || isLineBreakByte b) from rfl,
      h.findFrom_skip (bodyTest_utf8 body), hq.findFrom_stop (by decide)]
  rw [stringBodyEnd, hf]
  simp [hq.lt_size, hq.byte_cons, closesAt, Delimiter.plainSingle, Delimiter.closeLength,
    Delimiter.spansLines, Quote.byte, QuoteSize.len, isLineBreakByte]

/-- **A name ahead ends at the byte after it**, when that byte is ASCII and can go on no
identifier. -/
lemma Rest.identEnd_of {c : UInt8} (h : src.Rest i (a ++ c :: bs))
    (ha : ∀ x ∈ a, isIdentByte x = true) (hc : isIdentByte c = false) (hc' : c < 128) :
    src.identEnd i = i + a.length := by
  induction a generalizing i with
  | nil =>
    have h' : src.Rest i (c :: bs) := h
    rw [identEnd, if_pos h'.lt_size]
    simp [h'.byte_cons, hc, UInt8.le_iff_toNat_le, UInt8.lt_iff_toNat_lt] at hc' ⊢
    omega
  | cons x a ih =>
    rw [identEnd, if_pos h.lt_size]
    simp only [h.byte_cons, ha x (by simp), if_true]
    rw [ih h.cons fun y hy => ha y (by simp [hy])]
    simp only [List.length_cons]
    omega

/-- **Digits ahead end at the byte after them**, when that byte is no digit and no `_`. -/
lemma Rest.digitsEnd_of {c : UInt8} (h : src.Rest i (a ++ c :: bs))
    (ha : ∀ x ∈ a, isDigitByte x = true) (hc : (isDigitByte c || c == 95) = false) :
    src.digitsEnd i = i + a.length := by
  unfold digitsEnd
  rw [h.findFrom_skip fun x hx => by simp [ha x hx], h.append.findFrom_stop (by simp [hc])]

/-- No exponent starts at a byte other than `e` and `E`. -/
lemma exponentEnd_of (h : (src.byte i == 101 || src.byte i == 69) = false) :
    src.exponentEnd i = (i, false) := by
  simp [exponentEnd, h]

end Source

/-! ## The bytes of names and digits -/

namespace FGrammar

/-- Letters and digits are ASCII. -/
lemma toNat_lt_of_isAlphanum {c : Char} (h : c.isAlphanum = true) : c.toNat < 128 := by
  simp only [Char.isAlphanum, Char.isAlpha, Char.isUpper, Char.isLower, Char.isDigit,
    Bool.or_eq_true, Bool.and_eq_true, decide_eq_true_eq, UInt32.le_iff_toNat_le] at h
  have hv : c.toNat = c.val.toNat := rfl
  have hz : ('z' : Char).val.toNat = 122 := rfl
  have hZ : ('Z' : Char).val.toNat = 90 := rfl
  have h9 : ('9' : Char).val.toNat = 57 := rfl
  omega

lemma toNat_lt_of_isNameChar {c : Char} (h : isNameChar c = true) : c.toNat < 128 := by
  simp only [isNameChar, Bool.or_eq_true, beq_iff_eq] at h
  rcases h with h | rfl
  · exact toNat_lt_of_isAlphanum h
  · decide

set_option maxRecDepth 10000 in
lemma isIdentStartByte_of_char :
    ∀ n, n < 128 → ((Char.ofNat n).isAlpha || Char.ofNat n == '_') = true →
      ScanM.isIdentStartByte (Char.ofNat n).toUInt8 = true := by
  decide

set_option maxRecDepth 10000 in
lemma isIdentByte_of_char :
    ∀ n, n < 128 → isNameChar (Char.ofNat n) = true → isIdentByte (Char.ofNat n).toUInt8 = true := by
  decide

set_option maxRecDepth 10000 in
lemma isDigitByte_of_char :
    ∀ n, n < 128 → (Char.ofNat n).isDigit = true → isDigitByte (Char.ofNat n).toUInt8 = true := by
  decide

/-- The bytes of a name: its ASCII codes. -/
lemma Name.utf8_chars (x : Name) : utf8 x.chars = x.first.toUInt8 :: x.rest.map Char.toUInt8 := by
  have hfirst : x.first.toNat < 128 := toNat_lt_of_isNameChar (by
    have := x.first_ok
    simp only [Bool.or_eq_true, beq_iff_eq] at this
    simp only [isNameChar, Char.isAlphanum, Bool.or_eq_true, beq_iff_eq]
    tauto)
  rw [utf8_of_ascii]
  · rfl
  · intro c hc
    rcases List.mem_cons.mp hc with rfl | hc
    · exact hfirst
    · exact toNat_lt_of_isNameChar (x.rest_ok c hc)

lemma Name.identStart (x : Name) : ScanM.isIdentStartByte x.first.toUInt8 = true := by
  have hfirst := x.first_ok
  refine ascii_forall (P := fun c => (c.isAlpha || c == '_') = true →
    ScanM.isIdentStartByte c.toUInt8 = true) isIdentStartByte_of_char ?_ hfirst
  simp only [Bool.or_eq_true, beq_iff_eq] at hfirst
  rcases hfirst with h | h
  · exact toNat_lt_of_isAlphanum (by simp [Char.isAlphanum, h])
  · rw [h]; decide

lemma Name.ident_rest (x : Name) : ∀ y ∈ x.rest.map Char.toUInt8, isIdentByte y = true := by
  intro y hy
  obtain ⟨c, hc, rfl⟩ := List.mem_map.mp hy
  exact ascii_forall (P := fun c => isNameChar c = true → isIdentByte c.toUInt8 = true)
    isIdentByte_of_char (toNat_lt_of_isNameChar (x.rest_ok c hc)) (x.rest_ok c hc)

/-- The bytes of digits: their ASCII codes. -/
lemma Digits.utf8_chars (d : Digits) : utf8 d.chars = d.first.toUInt8 :: d.rest.map Char.toUInt8 := by
  rw [utf8_of_ascii fun c hc => toNat_lt_of_isAlphanum (by
    simp [Char.isAlphanum, d.digits_ok c hc])]
  rfl

lemma Digits.digit_bytes (d : Digits) : ∀ y ∈ d.chars.map Char.toUInt8, isDigitByte y = true := by
  intro y hy
  obtain ⟨c, hc, rfl⟩ := List.mem_map.mp hy
  have hdigit := d.digits_ok c hc
  exact ascii_forall (P := fun c => c.isDigit = true → isDigitByte c.toUInt8 = true)
    isDigitByte_of_char (toNat_lt_of_isAlphanum (by simp [Char.isAlphanum, hdigit])) hdigit

end FGrammar

/-! ## Openers -/

namespace Delimiter

/-- `f"` followed by a byte other than `"` opens an f-string. -/
lemma ofOpener?_fstring {x : UInt8} (hx : x ≠ 34) (bs : List UInt8) :
    ofOpener? (102 :: 34 :: x :: bs) = some fDouble := by
  rw [show 102 :: 34 :: x :: bs = [102] ++ 34 :: x :: bs from rfl,
    ofOpener?_append (fun y hy => by simp at hy; subst hy; decide) (by simp) (by decide)]
  have hf : StringFlags.ofPrefixBytes? [102] = some { formatted := true } := by decide
  have hq : Quote.ofByte? 34 = some .double := by decide
  simp [hx, hf, hq, fDouble]

/-- `'` not followed by two more opens a single-quoted string. -/
lemma ofOpener?_string {bs : List UInt8} (h : ¬ (bs[0]? = some 39 ∧ bs[1]? = some 39)) :
    ofOpener? (39 :: bs) = some plainSingle := by
  rw [show 39 :: bs = [] ++ 39 :: bs from rfl, ofOpener?_append (by simp) (by simp) (by decide)]
  have hf : StringFlags.ofPrefixBytes? [] = some {} := by decide
  have hq : Quote.ofByte? 39 = some .single := by decide
  simp [h, hf, hq, plainSingle]

/-- **Bytes with no quote up to one that is no letter read as no opener**: the opener's quote
would be the first byte that is no letter. -/
lemma ofOpener?_eq_none {a bs : List UInt8} {c : UInt8} (ha : ∀ x ∈ a, Quote.ofByte? x = none)
    (hc : Quote.ofByte? c = none) (hcl : isAsciiLetter c = false) :
    ofOpener? (a ++ c :: bs) = none := by
  cases hd : ofOpener? (a ++ c :: bs) with
  | none => rfl
  | some d =>
    exfalso
    obtain ⟨pre, c', tl, heq, hpre, hlen, hc'⟩ := ofOpener?_split hd
    have hq : Quote.ofByte? c' ≠ none := by
      intro hnone
      rw [heq, ofOpener?_append hpre hlen hc', hnone] at hd
      simp at hd
    rcases List.append_eq_append_iff.mp heq with ⟨a', rfl, hrest⟩ | ⟨c'', rfl, hrest⟩
    · cases a' with
      | nil => exact hq (by simp_all)
      | cons y a' =>
        obtain ⟨rfl, -⟩ := List.cons.inj hrest
        simp [hpre c (by simp)] at hcl
    · cases c'' with
      | nil => exact hq (by simp_all)
      | cons z c'' =>
        obtain ⟨rfl, -⟩ := List.cons.inj hrest
        exact hq (ha c' (by simp))

end Delimiter

end ExprFront
