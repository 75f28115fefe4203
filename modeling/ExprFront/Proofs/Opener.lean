import Mathlib
import ExprFront.Proofs.BodyWalk
import ExprFront.Token.Lexer

/-!
# Spans read back as text

The token builder reads some pieces back from the text: the opening text of a string or an
f-string, to recover its delimiter, and whatever a token's span covers. This module says what it
reads there.

* A span between two character boundaries reads back as the bytes it covers
  (`Source.toUTF8_slice`, `Source.toList_toUTF8_slice`), and two adjacent such spans read back
  as the span they make together (`Source.slice_append`).
* An opener still reads as the same delimiter when cut to its own length
  (`Delimiter.ofOpener?_take`): the prefix letters and the quotes are all it is read from. So
  the builder finds, in the span of an opener, the delimiter that the scanner found in the bytes
  from its start (`TokenBuilder.delimiterAt_opener`).
-/

namespace ExprFront

/-! ## Bytes -/

lemma byteArray_toList_loop (b : ByteArray) (i : Nat) (r : List UInt8) :
    ByteArray.toList.loop b i r = r.reverse ++ b.data.toList.drop i := by
  fun_induction ByteArray.toList.loop b i r with
  | case1 i r hi ih =>
    rw [ih, List.reverse_cons, List.append_assoc, List.singleton_append]
    congr 1
    have hi' : i < b.data.toList.length := by simpa using hi
    rw [List.drop_eq_getElem_cons hi']
    simp [ByteArray.get!, getElem!_pos b.data i (by simpa using hi)]
  | case2 i r hi =>
    have : b.data.toList.length ≤ i := by simpa using hi
    simp [List.drop_eq_nil_of_le this]

lemma byteArray_toList (b : ByteArray) : b.toList = b.data.toList := by
  simp [ByteArray.toList, byteArray_toList_loop]

namespace Source

variable {s : String} {a b c : Nat}

/-- Inside the text, the bytes between two offsets are those that `window` reads. -/
lemma toList_extract {src : Source} (hb : b ≤ src.size) :
    (src.bytes.extract a b).toList = src.window a b := by
  rw [byteArray_toList]
  apply List.ext_getElem
  · simp [window, size] at hb ⊢
    omega
  · intro k h₁ h₂
    have hk : a + k < src.bytes.size := by
      simp only [window, List.length_map, List.length_range, size] at h₂ hb
      omega
    simp [window, byte, hk]
    rfl

/-- A span between two boundaries reads back as the bytes it covers. -/
lemma toUTF8_slice (ha : CharBoundary s a) (hb : CharBoundary s b) (hab : a ≤ b) :
    ((ofString s).slice ⟨a, b⟩).toUTF8 = s.toUTF8.extract a b := by
  have hvalid : (s.toByteArray.extract a b).IsValidUTF8 := by
    have := (String.extract (s := s) ⟨⟨a⟩, ha⟩ ⟨⟨b⟩, hb⟩).isValidUTF8
    rw [String.toByteArray_extract] at this
    simpa using this
  have hsome : String.fromUTF8? (s.toByteArray.extract a b) = some (String.fromUTF8 _ hvalid) := by
    unfold String.fromUTF8?
    simp [hvalid]
  have hle : b ≤ (ofString s).size := by simpa using hb.le_size
  simp only [slice, hab, hle, and_self, if_true]
  simp only [ofString, String.toUTF8] at hsome ⊢
  rw [hsome]
  rfl

lemma toList_toUTF8_slice (ha : CharBoundary s a) (hb : CharBoundary s b) (hab : a ≤ b) :
    ((ofString s).slice ⟨a, b⟩).toUTF8.toList = (ofString s).window a b := by
  rw [toUTF8_slice ha hb hab]
  change ((ofString s).bytes.extract a b).toList = _
  exact toList_extract (by simpa using hb.le_size)

/-- Two adjacent spans between boundaries read back as the span they make together. -/
lemma slice_append (ha : CharBoundary s a) (hb : CharBoundary s b) (hc : CharBoundary s c)
    (hab : a ≤ b) (hbc : b ≤ c) :
    (ofString s).slice ⟨a, b⟩ ++ (ofString s).slice ⟨b, c⟩ = (ofString s).slice ⟨a, c⟩ := by
  apply String.toByteArray_inj.mp
  rw [String.toByteArray_append]
  have hab' := toUTF8_slice ha hb hab
  have hbc' := toUTF8_slice hb hc hbc
  have hac' := toUTF8_slice ha hc (le_trans hab hbc)
  simp only [String.toUTF8] at hab' hbc' hac'
  rw [hab', hbc', hac', ByteArray.extract_append_extract, min_eq_left hab, max_eq_right hbc]

lemma window_take (src : Source) {n : Nat} (h : a + n ≤ b) :
    (src.window a b).take n = src.window a (a + n) := by
  simp only [window, ← List.map_take, List.take_range]
  congr 2
  omega

end Source

/-! ## Openers -/

lemma StringFlags.length_le_of_ofPrefixBytes? {pre : List UInt8} {fl : StringFlags}
    (h : StringFlags.ofPrefixBytes? pre = some fl) : pre.length ≤ 2 := by
  unfold StringFlags.ofPrefixBytes? at h
  split_ifs at h with hlen
  · omega

namespace Delimiter

set_option maxRecDepth 10000 in
lemma isAsciiLetter_of_quote :
    ∀ (b : UInt8) (q : Quote), Quote.ofByte? b = some q → isAsciiLetter b = false := by
  decide

/-- An opener read as its prefix letters, then its first quote, then the bytes after. -/
lemma ofOpener?_append {pre tl : List UInt8} {c : UInt8}
    (hpre : ∀ x ∈ pre, isAsciiLetter x = true) (hlen : pre.length ≤ 2)
    (hc : isAsciiLetter c = false) :
    ofOpener? (pre ++ c :: tl) = (StringFlags.ofPrefixBytes? pre).bind fun flags =>
      (Quote.ofByte? c).map fun q =>
        ⟨q, if tl[0]? == some c && tl[1]? == some c then .triple else .single, flags,
          pre.length⟩ := by
  have htake : ((pre ++ c :: tl).take 3).takeWhile isAsciiLetter = pre := by
    obtain ⟨m, hm⟩ : ∃ m, 3 - pre.length = m + 1 := ⟨2 - pre.length, by omega⟩
    rw [List.take_append, List.take_of_length_le (by omega), hm, List.take_succ_cons,
      List.takeWhile_append_of_pos hpre, List.takeWhile_cons_of_neg (by simp [hc]),
      List.append_nil]
  simp only [ofOpener?, htake, List.drop_left, List.head?_cons, Option.bind_eq_bind]
  congr 1
  funext flags
  cases hq : Quote.ofByte? c <;> simp [hq]

/-- An opener splits into its prefix letters, at most two, then a quote, then the bytes after. -/
lemma ofOpener?_split {bs : List UInt8} {d : Delimiter} (h : ofOpener? bs = some d) :
    ∃ pre c tl, bs = pre ++ c :: tl ∧ (∀ x ∈ pre, isAsciiLetter x = true) ∧ pre.length ≤ 2 ∧
      isAsciiLetter c = false := by
  simp only [ofOpener?, Option.bind_eq_bind, Option.bind_eq_some_iff, Option.pure_def,
    Option.some.injEq] at h
  obtain ⟨flags, hflags, c, hc, q, hq, -⟩ := h
  set pre := (bs.take 3).takeWhile isAsciiLetter
  have hprefix : pre <+: bs := (List.takeWhile_prefix _).trans (List.take_prefix _ _)
  obtain ⟨tl, htl⟩ := List.head?_eq_some_iff.mp hc
  refine ⟨pre, c, tl, ?_, fun x hx => List.mem_takeWhile_imp hx,
    StringFlags.length_le_of_ofPrefixBytes? hflags, isAsciiLetter_of_quote c q hq⟩
  rw [← htl]
  exact (List.prefix_iff_eq_append.mp hprefix).symm

/-- An opener cut to its own length reads as the same delimiter. -/
lemma ofOpener?_take {bs : List UInt8} {d : Delimiter} (h : ofOpener? bs = some d) :
    ofOpener? (bs.take d.openLength) = some d := by
  obtain ⟨pre, c, tl, rfl, hpre, hlen, hc⟩ := ofOpener?_split h
  rw [ofOpener?_append hpre hlen hc] at h
  simp only [Option.bind_eq_some_iff, Option.map_eq_some_iff] at h
  obtain ⟨flags, hflags, q, hq, rfl⟩ := h
  simp only [openLength]
  rw [List.take_length_add_append]
  split_ifs with hsize
  · simp only [Bool.and_eq_true, beq_iff_eq] at hsize
    simp only [QuoteSize.len, List.take_succ_cons]
    rw [ofOpener?_append hpre hlen hc, hflags]
    simp [hq, hsize]
  · simp only [QuoteSize.len, List.take_succ_cons, List.take_zero]
    rw [ofOpener?_append hpre hlen hc, hflags]
    simp [hq]

end Delimiter

/-! ## What the token builder reads -/

/-- An opener read at a boundary from the bytes ahead reads back from the span it covers. -/
lemma Source.ofOpener?_slice {s : String} {i : Nat} {d : Delimiter} (hi : CharBoundary s i)
    (hd : Delimiter.ofOpener?
      ((Source.ofString s).window i (min (i + 5) (Source.ofString s).size)) = some d) :
    Delimiter.ofOpener? ((Source.ofString s).slice ⟨i, i + d.openLength⟩).toUTF8.toList = some d := by
  have hend := hi.opener hd
  have hlen := (Delimiter.ofOpener?_ascii hd).1
  simp only [Source.window, List.length_map, List.length_range] at hlen
  have hsize : i ≤ (Source.ofString s).size := by simpa using hi.le_size
  rw [Source.toList_toUTF8_slice hi hend (by omega),
    ← Source.window_take (b := min (i + 5) (Source.ofString s).size) _ (by omega)]
  exact Delimiter.ofOpener?_take hd

/-- **The builder reads an opener as the scanner did.** Where the scanner, at a boundary, read
the opener of a literal with delimiter `d` from the bytes ahead, the builder, reading only the
span of that opener, finds `d` as well. -/
lemma TokenBuilder.delimiterAt_opener {tb : TokenBuilder} {s : String}
    (hsrc : tb.src = Source.ofString s) {i : Nat} {d : Delimiter} (hi : CharBoundary s i)
    (hd : Delimiter.ofOpener?
      ((Source.ofString s).window i (min (i + 5) (Source.ofString s).size)) = some d) :
    tb.delimiterAt ⟨i, i + d.openLength⟩ = .ok d := by
  simp only [delimiterAt, hsrc, Source.ofOpener?_slice hi hd]

end ExprFront
