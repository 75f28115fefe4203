import Mathlib
import ExprFront.Proofs.StreamShape

/-!
# Openers and closing quotes, read back

The token builder reads two things back from the text of a piece the scanner has already cut:
the delimiter of a string, from the bytes it opens with, and the quote and size of an f-string's
end, from the bytes it closes with. This module shows that both readings agree with the scan.

* An opener is read from its first five bytes (`Delimiter.ofOpener?_take_five`) and still reads
  the same when cut to any length that keeps it whole (`Delimiter.ofOpener?_take_of_le`), so the
  whole text of a string reads as the opener the scanner found at its start
  (`Source.ofOpener?_window`).
* No character boundary falls inside a character (`CharBoundary.add_charWidth_le`), so an escape
  never swallows a quote that follows the character it escapes. In the text of a single-quoted
  literal every quote is the escaped character of a backslash right before it
  (`Source.escaped_of_textStop`).
* Hence the bytes of an end piece close the innermost literal as the builder reads them: its
  last byte is the literal's quote, and its last three bytes are all quotes exactly when the
  literal is triple-quoted (`Source.closesText_window`). A single-quoted literal's text would
  need two unescaped quotes at its end to fake a triple, and it has none.
-/

namespace ExprFront

/-! ## Boundaries -/

namespace CharBoundary

variable {s : String} {i k : Nat}

/-- **No boundary falls inside a character**: past a boundary `i` inside the text, the next
boundary is a whole character further on. -/
lemma add_charWidth_le (h : CharBoundary s i) (hk : CharBoundary s k) (hlt : i < k) :
    i + charWidth ((Source.ofString s).byte i) ≤ k := by
  have hi : i < s.utf8ByteSize := Nat.lt_of_lt_of_le hlt hk.le_size
  let p : s.Pos := ⟨⟨i⟩, h⟩
  have hne : p ≠ s.endPos := by
    intro hp
    have := congrArg (fun q => q.offset.byteIdx) hp
    simp [p] at this
    omega
  have hwidth : (p.get hne).utf8Size = charWidth ((Source.ofString s).byte i) := by
    rw [String.Pos.get_eq_get_toSlice, String.Slice.Pos.get_eq_utf8DecodeChar,
      ByteArray.utf8Size_utf8DecodeChar, utf8ByteSize_eq_charWidth,
      Source.byte_ofString (by simpa using hi)]
    simp [p]
  have hnext : p.next hne ≤ ⟨⟨k⟩, hk⟩ := String.Pos.next_le_of_lt (by
    rw [String.Pos.lt_iff]
    simpa [p, String.Pos.Raw.lt_iff] using hlt)
  rw [String.Pos.le_iff, String.Pos.offset_next] at hnext
  simpa [p, String.Pos.Raw.le_iff, hwidth] using hnext

/-- A nonzero ASCII byte after a boundary lies a whole character further on. -/
lemma add_charWidth_le_of_ascii (h : CharBoundary s i) (hik : i < k)
    (hb : (Source.ofString s).byte k ≠ 0 ∧ (Source.ofString s).byte k < 128) :
    i + charWidth ((Source.ofString s).byte i) ≤ k :=
  h.add_charWidth_le (of_lt (by simpa using Source.lt_size_of_byte_ne_zero hb.1) hb.2) hik

end CharBoundary

/-! ## Escapes never swallow a quote -/

/-- A quote byte is none of the bytes a text walk handles apart from it. -/
lemma Quote.byte_ne (q : Quote) : q.byte ≠ 123 ∧ q.byte ≠ 125 ∧ q.byte ≠ 92 ∧ q.byte ≠ 78 ∧
    isLineBreakByte q.byte = false := by
  cases q <;> decide


namespace Source

variable {s : String} {src : Source} {p : UInt8 → Bool} {i k : Nat}

/-- A walk passes only bytes that fail its test. -/
lemma findFrom_skips : ∀ k, i ≤ k → k < src.findFrom p i → p (src.byte k) = false := by
  fun_induction src.findFrom p i with
  | case1 j _ _ => intro k hjk hk; omega
  | case2 j _ hpj ih =>
    intro k hjk hk
    rcases Nat.eq_or_lt_of_le hjk with rfl | hlt
    · simpa using hpj
    · exact ih k hlt hk
  | case3 j _ => intro k hjk hk; omega

/-- What a backslash escapes holds a quote only as the escaped character itself: from a boundary
`k`, every quote byte before `escapeEnd k` is the one at `k`. -/
lemma eq_of_quote_lt_escapeEnd (h : CharBoundary s k) (q : Quote) {m : Nat} (hkm : k ≤ m)
    (hm : m < (ofString s).escapeEnd k) (hb : (ofString s).byte m = q.byte) : m = k := by
  unfold escapeEnd at hm
  dsimp only at hm
  split at hm
  · unfold lineBreakEnd at hm
    split at hm
    · next hcrlf =>
      simp only [Bool.and_eq_true, beq_iff_eq] at hcrlf
      rcases (by omega : m = k ∨ m = k + 1) with rfl | rfl
      · rfl
      · rw [hcrlf.2] at hb
        exact absurd hb.symm (by cases q <;> decide)
    · omega
  · split at hm
    · omega
    · by_contra hne
      have := h.add_charWidth_le_of_ascii (by omega : k < m) (hb ▸ q.byte_ascii)
      omega

/-- The name of a named escape holds no quote: the walk through it stops before one. -/
lemma quote_not_lt_namedEscapeEnd (q : Quote) (h : CharBoundary s k) :
    ∀ m, k ≤ m → m < (ofString s).namedEscapeEnd q.byte k → (ofString s).byte m ≠ q.byte := by
  fun_induction (ofString s).namedEscapeEnd q.byte k with
  | case1 j _ b hb =>
    intro m hjm hm hq
    obtain rfl : m = j := by omega
    simp only [b, hq, beq_iff_eq] at hb
    exact q.byte_ne.2.1 hb
  | case2 j _ _ _ _ => intro m hjm hm; omega
  | case3 j hj b _ hnot ih =>
    intro m hjm hm hq
    rcases Nat.eq_or_lt_of_le hjm with rfl | hlt
    · simp [b, hq] at hnot
    · by_cases hw : j + charWidth b ≤ m
      · exact ih (h.add_charWidth (by simpa using hj)) m hw hm hq
      · have hle : j + charWidth b ≤ m := h.add_charWidth_le_of_ascii hlt (hq ▸ q.byte_ascii)
        omega
  | case4 j _ => intro m hjm hm; omega

/-- What a backslash covers in f-string text holds a quote only as the escaped character: from
a boundary `k`, every quote byte before `textEscapeEnd d k` is the one at `k`. -/
lemma eq_of_quote_lt_textEscapeEnd (h : CharBoundary s k) (d : Delimiter) {m : Nat}
    (hkm : k ≤ m) (hm : m < (ofString s).textEscapeEnd d k)
    (hb : (ofString s).byte m = d.quote.byte) : m = k := by
  unfold textEscapeEnd at hm
  dsimp only at hm
  split at hm
  · omega
  · split at hm
    · next hN =>
      simp only [Bool.and_eq_true, beq_iff_eq, Bool.not_eq_true'] at hN
      by_contra hne
      have hk2 : CharBoundary s (k + 2) := h.add_of_ascii fun j hj => by
        match j, hj with
        | 0, _ => simp [hN.1.1]
        | 1, _ => simp [hN.2]
      rcases (by omega : m = k + 1 ∨ k + 2 ≤ m) with rfl | hm2
      · rw [hN.2] at hb
        exact d.quote.byte_ne.1 hb.symm
      · exact quote_not_lt_namedEscapeEnd d.quote hk2 m hm2 hm hb
    · exact eq_of_quote_lt_escapeEnd h d.quote hkm hm hb

/-- The bytes a walk through the f-string text of a literal with delimiter `d` stops on. -/
def textTest (d : Delimiter) (b : UInt8) : Bool :=
  b == d.quote.byte || b == 123 || b == 125 || b == 92 || isLineBreakByte b

/-- Before the byte a text walk stops on, there is no quote. -/
lemma quote_ne_of_lt_textStop {d : Delimiter} {x : Nat} (hxk : x ≤ k)
    (hk : k < (ofString s).findFrom (textTest d) x) : (ofString s).byte k ≠ d.quote.byte := by
  intro hq
  have := findFrom_skips k hxk hk
  simp [textTest, hq] at this

/-- **In the text of a single-quoted literal every quote is escaped**: a walk from a boundary to
closing quotes passes a quote only as the character a backslash right before it escapes. -/
theorem escaped_of_textStop {d : Delimiter} {inSpec : Bool} (hsingle : d.spansLines = false)
    (h : CharBoundary s i) : ∀ j, (ofString s).textStop d inSpec i = .closer j →
      ∀ k, i ≤ k → k < j → (ofString s).byte k = d.quote.byte →
        i < k ∧ (ofString s).byte (k - 1) = 92 := by
  fun_induction (ofString s).textStop d inSpec i with
  | case1 x hlt b hb hdouble ih =>
    intro j hj k hxk hkj hq
    simp only [b, beq_iff_eq] at hb
    simp only [Bool.and_eq_true, beq_iff_eq] at hdouble
    set f := (ofString s).findFrom
      (fun b => b == d.quote.byte || b == 123 || b == 125 || b == 92 || isLineBreakByte b) x
    have hnext : CharBoundary s (f + 2) := CharBoundary.add_of_ascii
      (CharBoundary.of_lt (by simpa using hlt) (by rw [hb]; decide)) fun k hk => by
        rcases (by omega : k = 0 ∨ k = 1) with rfl | rfl
        · simp [hb]
        · simp [hdouble.2]
    rcases Nat.lt_or_ge k f with hk | hk
    · exact absurd hq (quote_ne_of_lt_textStop hxk hk)
    rcases (by omega : k = f ∨ k = f + 1 ∨ f + 2 ≤ k) with rfl | rfl | hk2
    · exact absurd (hb ▸ hq) d.quote.byte_ne.1.symm
    · exact absurd (hdouble.2 ▸ hq) d.quote.byte_ne.1.symm
    · have hxf : x ≤ f := le_findFrom _ _ x
      exact ⟨by omega, (ih hnext j hj k hk2 hkj hq).2⟩
  | case2 => intro j hj; cases hj
  | case3 => intro j hj; cases hj
  | case4 x _ hlt b _ hb hdouble ih =>
    intro j hj k hxk hkj hq
    simp only [b, beq_iff_eq] at hb
    simp only [beq_iff_eq] at hdouble
    set f := (ofString s).findFrom
      (fun b => b == d.quote.byte || b == 123 || b == 125 || b == 92 || isLineBreakByte b) x
    have hnext : CharBoundary s (f + 2) := CharBoundary.add_of_ascii
      (CharBoundary.of_lt (by simpa using hlt) (by rw [hb]; decide)) fun k hk => by
        rcases (by omega : k = 0 ∨ k = 1) with rfl | rfl
        · simp [hb]
        · simp [hdouble]
    rcases Nat.lt_or_ge k f with hk | hk
    · exact absurd hq (quote_ne_of_lt_textStop hxk hk)
    rcases (by omega : k = f ∨ k = f + 1 ∨ f + 2 ≤ k) with rfl | rfl | hk2
    · exact absurd (hb ▸ hq) d.quote.byte_ne.2.1.symm
    · exact absurd (hdouble ▸ hq) d.quote.byte_ne.2.1.symm
    · have hxf : x ≤ f := le_findFrom _ _ x
      exact ⟨by omega, (ih hnext j hj k hk2 hkj hq).2⟩
  | case5 => intro j hj; cases hj
  | case6 x hlt b _ _ hbs ih =>
    intro j hj k hxk hkj hq
    simp only [b, beq_iff_eq] at hbs
    set f := (ofString s).findFrom
      (fun b => b == d.quote.byte || b == 123 || b == 125 || b == 92 || isLineBreakByte b) x
    have hf := CharBoundary.of_lt (by simpa using hlt) (by rw [hbs]; decide)
    have hf1 := hf.succ (by simpa using hlt) (by rw [hbs]; decide)
    have hxf : x ≤ f := le_findFrom _ _ x
    rcases Nat.lt_or_ge k f with hk | hk
    · exact absurd hq (quote_ne_of_lt_textStop hxk hk)
    rcases (by omega : k = f ∨ f + 1 ≤ k) with rfl | hk1
    · exact absurd (hbs ▸ hq) d.quote.byte_ne.2.2.1.symm
    by_cases he : k < (ofString s).textEscapeEnd d (f + 1)
    · obtain rfl := eq_of_quote_lt_textEscapeEnd hf1 d hk1 he hq
      exact ⟨by omega, by simpa using hbs⟩
    · exact ⟨by omega, (ih (hf1.textEscapeEnd d) j hj k (by omega) hkj hq).2⟩
  | case7 x hspans => simp [hspans] at hsingle
  | case8 => intro j hj; cases hj
  | case9 x _ b _ _ _ _ _ =>
    intro j hj k hxk hkj hq
    cases hj
    exact absurd hq (quote_ne_of_lt_textStop hxk hkj)
  | case10 x hlt b hb1 hb2 hb3 hlb hclose _ =>
    have htest := findFrom_stops hlt
    simp only [b, beq_iff_eq] at hb1 hb2 hb3
    simp only [b] at hlb
    simp only [closesAt, hsingle, Bool.not_false, Bool.true_or, Bool.and_true,
      beq_iff_eq] at hclose
    simp [hb1, hb2, hb3, hlb, hclose] at htest
  | case11 => intro j hj; cases hj

end Source

/-! ## Openers -/

namespace Delimiter

/-- **An opener is read from its first five bytes**: at most two prefix letters, then at most
three quotes. -/
lemma ofOpener?_take_five (bs : List UInt8) : ofOpener? (bs.take 5) = ofOpener? bs := by
  have hpre : ((bs.take 5).take 3).takeWhile isAsciiLetter = (bs.take 3).takeWhile isAsciiLetter :=
    by rw [List.take_take]; rfl
  simp only [ofOpener?, hpre, Option.bind_eq_bind]
  cases hflags : StringFlags.ofPrefixBytes? ((bs.take 3).takeWhile isAsciiLetter) with
  | none => rfl
  | some fl =>
    have hlen := StringFlags.length_le_of_ofPrefixBytes? hflags
    simp only [Option.bind_some, List.drop_take, List.head?_take, List.getElem?_take]
    have h0 : 5 - ((bs.take 3).takeWhile isAsciiLetter).length ≠ 0 := by omega
    have h1 : 1 < 5 - ((bs.take 3).takeWhile isAsciiLetter).length := by omega
    have h2 : 2 < 5 - ((bs.take 3).takeWhile isAsciiLetter).length := by omega
    simp [h0, h1, h2]

/-- **An opener cut to any length that keeps it whole reads as the same delimiter.** -/
lemma ofOpener?_take_of_le {bs : List UInt8} {d : Delimiter} (h : ofOpener? bs = some d) {m : Nat}
    (hm : d.openLength ≤ m) : ofOpener? (bs.take m) = some d := by
  obtain ⟨pre, c, tl, rfl, hpre, hlen, hc⟩ := ofOpener?_split h
  rw [ofOpener?_append hpre hlen hc] at h
  simp only [Option.bind_eq_some_iff, Option.map_eq_some_iff] at h
  obtain ⟨flags, hflags, q, hq, rfl⟩ := h
  simp only [openLength] at hm
  obtain ⟨m', rfl⟩ : ∃ m', m = pre.length + 1 + m' := ⟨m - pre.length - 1, by
    split_ifs at hm <;> simp [QuoteSize.len] at hm <;> omega⟩
  rw [show pre.length + 1 + m' = pre.length + (m' + 1) by omega, List.take_length_add_append,
    List.take_succ_cons, ofOpener?_append hpre hlen hc]
  simp only [hflags, hq, Option.bind_some, Option.map_some, Option.some.injEq,
    Delimiter.mk.injEq, and_true, true_and]
  simp only [List.getElem?_take]
  by_cases htriple : tl[0]? = some c ∧ tl[1]? = some c
  · have hm2 : 2 ≤ m' := by simp [htriple, QuoteSize.len] at hm; omega
    simp [htriple, show 0 < m' by omega, show 1 < m' by omega]
  · simpa [htriple] using fun (_ : 0 < m') h0 (_ : 1 < m') h1 => htriple ⟨h0, h1⟩

end Delimiter

namespace Source

variable {src : Source} {i j : Nat} {d : Delimiter}

/-- **The whole text of a string reads as the opener the scanner found at its start**, from the
five bytes ahead of it, as long as it holds the opener. -/
lemma ofOpener?_window (hd : Delimiter.ofOpener? (src.window i (min (i + 5) src.size)) = some d)
    (hj : i + d.openLength ≤ j) (hjs : j ≤ src.size) :
    Delimiter.ofOpener? (src.window i j) = some d := by
  by_cases hfive : j ≤ i + 5
  · have hcut := Delimiter.ofOpener?_take_of_le hd (m := j - i) (by omega)
    rwa [src.window_take (by omega), show i + (j - i) = j by omega] at hcut
  · have hlead : (src.window i j).take 5 = src.window i (i + 5) := src.window_take (by omega)
    rwa [show min (i + 5) src.size = i + 5 by omega, ← hlead, Delimiter.ofOpener?_take_five] at hd

end Source

/-! ## Closing quotes -/

namespace Delimiter

/-- Whether the bytes of an end piece close a literal with delimiter `d` as the token builder
reads them back: the last byte is `d`'s quote, and the last three bytes are that quote exactly
when `d` is triple-quoted. -/
def closesText (d : Delimiter) (bytes : List UInt8) : Prop :=
  (bytes.getLast? >>= Quote.ofByte?) = some d.quote ∧
    (if bytes.drop (bytes.length - 3) == List.replicate 3 d.quote.byte then QuoteSize.triple
      else .single) = d.size

end Delimiter

@[simp] lemma Quote.ofByte?_byte (q : Quote) : Quote.ofByte? q.byte = some q := by
  cases q <;> rfl

namespace Source

variable {src : Source} {a b c : Nat}

/-- Two adjacent windows make one. -/
lemma window_append (hab : a ≤ b) (hbc : b ≤ c) :
    src.window a b ++ src.window b c = src.window a c := by
  have hlen : c - a = (b - a) + (c - b) := by omega
  simp only [window, hlen, List.range_add, List.map_append, List.map_map]
  congr 1
  apply List.map_congr_left
  intro k _
  simp only [Function.comp_apply]
  congr 1
  omega

/-- A window of two bytes. -/
lemma window_two (src : Source) (a : Nat) : src.window a (a + 2) = [src.byte a, src.byte (a + 1)] := by
  simp [window, List.range_succ]

/-- **An end piece closes its literal.** Its bytes end in the literal's quote, and in three of
them exactly when the literal is triple-quoted. -/
theorem closesText_window {s : String} {d : Delimiter} {inSpec : Bool} {i j : Nat}
    (h : CharBoundary s i) (hstop : (ofString s).textStop d inSpec i = .closer j) :
    d.closesText ((ofString s).window i (j + d.closeLength)) := by
  have hfits : ((ofString s).textStop d inSpec i).Fits (ofString s) d inSpec i := textStop_fits h
  rw [hstop] at hfits
  obtain ⟨hij, hclose⟩ := hfits
  rw [← window_append hij (Nat.le_add_right _ _), window_of_closesAt hclose]
  have hq := Quote.ofByte?_byte d.quote
  cases hz : d.size with
  | triple =>
    have hcl : d.closeLength = 3 := by simp [Delimiter.closeLength, hz, QuoteSize.len]
    rw [hcl]
    refine ⟨by simp [List.getLast?_append, hq], ?_⟩
    simp [List.replicate, hz]
  | single =>
    have hcl : d.closeLength = 1 := by simp [Delimiter.closeLength, hz, QuoteSize.len]
    have hsingle : d.spansLines = false := by simp [Delimiter.spansLines, hz]
    rw [hcl]
    refine ⟨by simp [List.getLast?_append, hq], ?_⟩
    rw [hz, if_neg]
    intro htest
    rw [beq_iff_eq] at htest
    rcases Nat.lt_or_ge (j - i) 2 with hshort | hlong
    · have := congrArg List.length htest
      simp [window] at this
      omega
    · obtain ⟨m, rfl⟩ : ∃ m, j = m + 2 := ⟨j - 2, by omega⟩
      rw [← window_append (show i ≤ m by omega) (Nat.le_add_right m 2), window_two] at htest
      simp [window] at htest
      have hesc := (escaped_of_textStop hsingle h (m + 2) hstop (m + 1) (by omega) (by omega)
        htest.2).2
      rw [Nat.add_sub_cancel, htest.1] at hesc
      exact d.quote.byte_ne.2.2.1 hesc

end Source

end ExprFront
