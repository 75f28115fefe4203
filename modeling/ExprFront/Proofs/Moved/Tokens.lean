import Mathlib
import ExprFront.Proofs.Moved.Scan
import ExprFront.Proofs.Positions
import ExprFront.Token.Lexer

/-!
# Tokens behind a mark

A text lexed behind a mark of `k` bytes gives the same pieces (`scanText_moved`); the builder
then turns them into the same tokens `k` bytes further on (`TokenBuilder.Moved.build`): every
token's span and every f-string end's text move by `k`, every error's site and context start
move by `k`, and nothing else changes. Lines and columns are read through a map `g`; behind a
mark with no line feed, the line stays and the column moves on the first line only
(`Source.Moved.positionOf`).

The byte-order mark is such a mark, three bytes and one character long
(`Source.lineCol_byteOrderMark`). A text that does not start with the mark itself has no mark
for the scanner to skip (`Source.startsWith_of_hasByteOrderMark`), so behind the mark it lexes
to its own tokens moved (`tokenize_byteOrderMark`).
-/

namespace ExprFront

/-! ## Moving positions, tokens and errors -/

/-- A position in a text after a mark of `c` characters that holds no line feed: on the first
line the column moves by `c`, elsewhere nothing moves. -/
def LineCol.afterMark (c : Nat) (p : LineCol) : LineCol :=
  ⟨p.line, if p.line = 1 then p.column + c else p.column⟩

/-- A token `k` bytes further on, with its line and column read by `g`. -/
def Token.moveBy (k : Nat) (g : LineCol → LineCol) (t : Token) : Token :=
  ⟨t.kind.shift k, t.span.shift k, g t.pos⟩

/-- Where the lexer was, `k` bytes further on. -/
def LexErrorContext.shift (k : Nat) : LexErrorContext → LexErrorContext
  | .topLevel => .topLevel
  | .insideFString start depth => .insideFString (start + k) depth

/-- A lexical error `k` bytes further on: the same kind, at the moved site and context. -/
def LexError.shift (k : Nat) (e : LexError) : LexError := ⟨e.span.shift k, e.kind, e.context.shift k⟩

namespace Source

/-- A slice has no more bytes than its span covers. -/
lemma size_toUTF8_slice_le (src : Source) (sp : Span) :
    (src.slice sp).toUTF8.size ≤ sp.stop - sp.start := by
  unfold slice
  split
  · cases h : String.fromUTF8? (src.bytes.extract sp.start sp.stop) with
    | none => simp
    | some s =>
      have hs : s.toUTF8 = src.bytes.extract sp.start sp.stop := by
        unfold String.fromUTF8? at h
        split at h
        · cases h
          rfl
        · cases h
      simp only [Option.getD_some, hs, ByteArray.size_extract]
      omega
  · simp

lemma Moved.ofFault {k : Nat} {src src' : Source} (h : src.Moved k src') (f : ScanFault)
    (site : Span) : LexErrorKind.ofFault f (site.shift k) src' = LexErrorKind.ofFault f site src := by
  unfold LexErrorKind.ofFault
  rw [h.slice]

section Mark

variable {k : Nat} {src src' : Source}

/-- Behind a mark with no line feed, the line feeds of a text are its own, moved. -/
lemma Moved.feedsBefore (h : src.Moved k src') (hmark : ∀ i < k, src'.byte i ≠ 10) (p : Nat) :
    src'.feedsBefore (k + p) = (src.feedsBefore p).map (· + k) := by
  have h₀ : src'.feedsBefore k = [] := by
    simp only [Source.feedsBefore, List.filter_eq_nil_iff, List.mem_range, beq_iff_eq]
    exact hmark
  have hf : ((fun i => src'.byte i == 10) ∘ (k + ·)) = fun i => src.byte i == 10 := by
    funext i
    simp only [Function.comp, Nat.add_comm k i, h.byte]
  rw [feedsBefore_add, h₀, List.nil_append, List.filter_map, hf]
  exact List.map_congr_left fun i _ => Nat.add_comm k i

lemma Moved.lineStartBefore (h : src.Moved k src') (hmark : ∀ i < k, src'.byte i ≠ 10)
    (p : Nat) : src'.lineStartBefore (k + p) =
      if src.feedsBefore p = [] then 0 else src.lineStartBefore p + k := by
  unfold Source.lineStartBefore
  rw [h.feedsBefore hmark, List.getLast?_map]
  cases hfs : src.feedsBefore p with
  | nil => rfl
  | cons a l =>
    simp only [List.getLast?_cons, Option.map_some, reduceCtorEq, if_false]
    omega

/-- **A mark with no line feed moves columns on the first line only.** Behind a mark of `k`
bytes that holds no line feed, an offset `k` further on has the same line, and on the first
line as many more columns as the mark has characters. -/
theorem Moved.positionOf (h : src.Moved k src') (hmark : ∀ i < k, src'.byte i ≠ 10) (o : Nat) :
    src'.positionOf (o + k) =
      LineCol.afterMark ((src'.window 0 k).countP isCharStart) (src.positionOf o) := by
  set p := min o src.size with hp
  have hp' : min (o + k) src'.size = k + p := by
    rw [h.size]
    omega
  have hwin : src'.window 0 (k + p) = src'.window 0 k ++ src.window 0 p := by
    rw [← window_append (Nat.zero_le k) (by omega), ← h.window 0 p, Nat.zero_add, Nat.add_comm p k]
  have hcount : (src'.window 0 k).count 10 = 0 := by
    rw [count_window_zero, List.length_eq_zero_iff, ← Nat.add_zero k, h.feedsBefore hmark,
      List.map_eq_nil_iff]
    simp [Source.feedsBefore]
  have hline : (src.window 0 p).count 10 = 0 ↔ src.feedsBefore p = [] := by
    rw [count_window_zero, List.length_eq_zero_iff]
  unfold Source.positionOf LineCol.afterMark
  simp only [← hp, hp', hwin, List.count_append, hcount, Nat.zero_add, Nat.add_eq_right, hline,
    h.lineStartBefore hmark]
  split_ifs with hnil
  · have hstart : src.lineStartBefore p = 0 := by
      simp [Source.lineStartBefore, hnil]
    rw [hstart, hwin, List.countP_append]
    congr 1
    omega
  · rw [Nat.add_comm k p, h.window]

end Mark

end Source

/-! ## The builder behind a mark -/

/-- What a close gives back is a delimiter that the quote and size close. -/
lemma DelimiterStack.closedBy_of_close {α : Type} {st : DelimiterStack α} {q : Quote} {z : QuoteSize}
    {d : Delimiter} {rest : DelimiterStack α} (h : st.close q z = .ok (d, rest)) :
    d.closedBy q z = true := by
  unfold DelimiterStack.close at h
  split at h
  · simp at h
  · split at h
    · simp only [Except.ok.injEq, Prod.mk.injEq] at h
      rw [← h.1]
      assumption
    · simp at h

namespace TokenBuilder

/-- The builder of a text `k` bytes into a larger one: its f-strings opened `k` bytes further
on, and its positions read through `g`. -/
structure Moved (k : Nat) (g : LineCol → LineCol) (tb tb' : TokenBuilder) : Prop where
  src : tb.src.Moved k tb'.src
  index : ∀ o, tb'.index.lineCol (o + k) = g (tb.index.lineCol o)
  literals : tb'.literals = tb.literals.shift k id

variable {k : Nat} {g : LineCol → LineCol} {tb tb' : TokenBuilder}

lemma Moved.context (hm : tb.Moved k g tb') : tb'.context = tb.context.shift k := by
  unfold TokenBuilder.context
  rw [hm.literals, DelimiterStack.currentStart?_shift, DelimiterStack.depth_shift]
  cases tb.literals.currentStart? <;> rfl

lemma Moved.invalidAt (hm : tb.Moved k g tb') (span : Span) :
    tb'.invalidAt (span.shift k) = (tb.invalidAt span).shift k := by
  unfold TokenBuilder.invalidAt LexErrorKind.ofFault
  simp only [hm.src.slice, hm.context]
  rfl

lemma Moved.delimiterAt (hm : tb.Moved k g tb') (span : Span) :
    tb'.delimiterAt (span.shift k) = (tb.delimiterAt span).mapError (LexError.shift k) := by
  unfold TokenBuilder.delimiterAt
  rw [hm.src.slice]
  split <;> simp [Except.mapError, hm.invalidAt]

/-- A step of the builder and the same step `k` bytes further on: the same failure moved, or
the value moved by `f` and moved builders. -/
def StepMoved {α : Type} (k : Nat) (g : LineCol → LineCol) (f : α → α) :
    Except LexError (α × TokenBuilder) → Except LexError (α × TokenBuilder) → Prop
  | .error e, .error e' => e' = e.shift k
  | .ok (a, tb₁), .ok (a', tb₁') => a' = f a ∧ tb₁.Moved k g tb₁'
  | _, _ => False

lemma Moved.setLiterals (hm : tb.Moved k g tb') (lits : DelimiterStack Unit) :
    ({ tb with literals := lits } : TokenBuilder).Moved k g { tb' with literals := lits.shift k id } :=
  { hm with literals := rfl }

/-- The quotes that close an f-string fit in the span of its end piece. -/
lemma closeLength_le {d : Delimiter} {rest : DelimiterStack Unit} {span : Span} {q : Quote}
    (hq : ((tb.src.slice span).toUTF8.toList.getLast? >>= Quote.ofByte?) = some q)
    (hclose : tb.literals.close q (if (tb.src.slice span).toUTF8.toList.drop
        ((tb.src.slice span).toUTF8.toList.length - 3) == List.replicate 3 q.byte
        then QuoteSize.triple else QuoteSize.single) = .ok (d, rest)) :
    d.closeLength ≤ span.stop := by
  have hlen := tb.src.size_toUTF8_slice_le span
  set bytes := (tb.src.slice span).toUTF8.toList with hbytes
  have hsize : bytes.length = (tb.src.slice span).toUTF8.size := by
    rw [hbytes, byteArray_toList, Array.length_toList]
    rfl
  have hne : bytes ≠ [] := by
    intro h
    simp [h] at hq
  have hpos : 1 ≤ bytes.length := List.length_pos_iff.2 hne
  have hd : d.size = (if bytes.drop (bytes.length - 3) == List.replicate 3 q.byte
      then QuoteSize.triple else QuoteSize.single) := by
    have hby := DelimiterStack.closedBy_of_close hclose
    simp only [Delimiter.closedBy, Bool.and_eq_true] at hby
    exact beq_iff_eq.1 hby.2
  unfold Delimiter.closeLength
  rw [hd]
  split
  · rename_i htriple
    have h3 : (bytes.drop (bytes.length - 3)).length = 3 := by
      rw [beq_iff_eq.1 htriple, List.length_replicate]
    simp only [List.length_drop] at h3
    simp [QuoteSize.len]
    omega
  · simp [QuoteSize.len]
    omega

lemma Moved.popFString (hm : tb.Moved k g tb') (span : Span) :
    StepMoved k g (TokenKind.shift k) (tb.popFString span) (tb'.popFString (span.shift k)) := by
  unfold TokenBuilder.popFString
  dsimp only
  rw [hm.src.slice, hm.literals]
  simp only [DelimiterStack.close_shift]
  split
  · exact hm.invalidAt span
  · rename_i q hq
    cases hclose : tb.literals.close q _ with
    | error e =>
      simp only [Except.map, StepMoved, LexError.shift, hm.context]
    | ok r =>
      obtain ⟨d, rest⟩ := r
      have hc := closeLength_le hq hclose
      refine ⟨?_, hm.setLiterals rest⟩
      simp only [TokenKind.shift_fstringEnd, Span.shift]
      congr 2
      omega

lemma Moved.classify (hm : tb.Moved k g tb') (tag : RawTag) (span : Span) :
    StepMoved k g (Option.map (TokenKind.shift k)) (tb.classify tag span)
      (tb'.classify tag (span.shift k)) := by
  unfold TokenBuilder.classify
  split
  · exact ⟨rfl, hm⟩
  · split
    · rw [hm.src.slice]
      exact ⟨by cases Keyword.ofWord? (tb.src.slice span) <;> rfl, hm⟩
    all_goals try exact ⟨rfl, hm⟩
    · rw [hm.delimiterAt]
      cases tb.delimiterAt span with
      | error e => rfl
      | ok d => exact ⟨rfl, hm⟩
    · rw [hm.delimiterAt]
      cases tb.delimiterAt span with
      | error e => rfl
      | ok d =>
        refine ⟨rfl, { hm with literals := ?_ }⟩
        rw [hm.literals, DelimiterStack.shift_push]
        rfl
    · have hp := hm.popFString span
      revert hp
      cases tb.popFString span <;> cases tb'.popFString (span.shift k) <;>
        simp_all [StepMoved, bind, Except.bind, pure, Except.pure]
    · exact hm.invalidAt span

lemma Moved.build (hm : tb.Moved k g tb') (site : Option Span) (offset : Nat) (acc : Array Token)
    (pieces : List RawToken) :
    tb'.build (site.map (Span.shift k)) (offset + k) (acc.map (Token.moveBy k g)) pieces =
      ((tb.build site offset acc pieces).map (·.map (Token.moveBy k g))).mapError
        (LexError.shift k) := by
  induction pieces generalizing tb tb' offset acc with
  | nil => rfl
  | cons t rest ih =>
    have hspan : (⟨offset + k, offset + k + t.len⟩ : Span) =
        (⟨offset, offset + t.len⟩ : Span).shift k := by
      simp only [Span.shift]
      congr 1
      omega
    rw [TokenBuilder.build.eq_2, TokenBuilder.build.eq_2]
    dsimp only
    rw [hspan]
    split
    · have hsite : (site.map (Span.shift k)).getD ((⟨offset, offset + t.len⟩ : Span).shift k) =
          (site.getD ⟨offset, offset + t.len⟩).shift k := by
        cases site <;> rfl
      simp only [hsite, hm.src.ofFault, hm.context, Except.map, Except.mapError, LexError.shift]
    · have hc := hm.classify t.tag ⟨offset, offset + t.len⟩
      revert hc
      cases tb.classify t.tag ⟨offset, offset + t.len⟩ with
      | error e =>
        cases tb'.classify t.tag _ with
        | error e' =>
          rintro rfl
          rfl
        | ok r => exact False.elim
      | ok r =>
        obtain ⟨kind?, tb₁⟩ := r
        cases tb'.classify t.tag _ with
        | error e' => exact False.elim
        | ok r' =>
          obtain ⟨kind?', tb₁'⟩ := r'
          rintro ⟨rfl, hm₁⟩
          have htok : ∀ kind : TokenKind, (⟨kind.shift k, (⟨offset, offset + t.len⟩ : Span).shift k,
              tb'.index.lineCol (offset + k)⟩ : Token) =
              Token.moveBy k g ⟨kind, ⟨offset, offset + t.len⟩, tb.index.lineCol offset⟩ := by
            intro kind
            simp only [Token.moveBy, hm.index]
          rw [show offset + k + t.len = offset + t.len + k by omega]
          by_cases heof : (t.tag == RawTag.eof) = true
          · cases kind? <;> simp [heof, htok, Except.map, Except.mapError]
          · cases kind? <;> simp only [heof, Option.map_some, Option.map_none, htok,
              ← Array.map_push, ih hm₁, if_false, Bool.false_eq_true]

end TokenBuilder

/-! ## The byte-order mark -/

namespace Source

/-- A character whose encoding opens with the three bytes of the byte-order mark is the mark:
only a three-byte encoding opens with `0xEF`, and its three bytes give the code point. -/
lemma eq_byteOrderMark_of_bytes {c : Char} {rest : List UInt8}
    (h₀ : (String.utf8EncodeChar c ++ rest).getD 0 0 = 0xEF)
    (h₁ : (String.utf8EncodeChar c ++ rest).getD 1 0 = 0xBB)
    (h₂ : (String.utf8EncodeChar c ++ rest).getD 2 0 = 0xBF) : c = '\uFEFF' := by
  unfold String.utf8EncodeChar at h₀ h₁ h₂
  dsimp only at h₀ h₁ h₂
  rw [show c.val.toNat = c.toNat from rfl] at h₀ h₁ h₂
  split_ifs at h₀ h₁ h₂
  all_goals simp only [List.cons_append, List.nil_append, List.getD_cons_zero,
    List.getD_cons_succ] at h₀ h₁ h₂
  all_goals have e₀ := congrArg UInt8.toNat h₀
  all_goals simp at e₀
  · omega
  · omega
  · have e₁ := congrArg UInt8.toNat h₁
    have e₂ := congrArg UInt8.toNat h₂
    simp at e₁ e₂
    apply Char.ext
    apply UInt32.toNat_inj.1
    show c.toNat = 0xFEFF
    omega
  · omega

/-- The bytes of a text are the encodings of its characters, one after another. -/
lemma byte_ofString_eq_getD (s : String) (i : Nat) :
    (ofString s).byte i = (s.toList.flatMap String.utf8EncodeChar).getD i 0 := by
  have hb : (ofString s).bytes = (s.toList.flatMap String.utf8EncodeChar).toByteArray := by
    rw [← List.utf8Encode.eq_1, String.utf8Encode_toList]
    rfl
  unfold byte
  simp only [hb]
  split
  · rw [List.getElem_toByteArray, List.getD_eq_getElem]
  · rename_i hi
    rw [List.getD_eq_default]
    simpa using hi

/-- A text whose bytes open with the byte-order mark starts with the mark. -/
theorem startsWith_of_hasByteOrderMark {s : String} (h : (ofString s).hasByteOrderMark = true) :
    s.startsWith "\uFEFF" = true := by
  unfold hasByteOrderMark at h
  simp only [Bool.and_eq_true, decide_eq_true_eq, beq_iff_eq, byte_ofString_eq_getD] at h
  obtain ⟨⟨⟨-, h₀⟩, h₁⟩, h₂⟩ := h
  rw [String.startsWith_string_iff]
  cases hl : s.toList with
  | nil => simp [hl] at h₀
  | cons c cs =>
    rw [hl, List.flatMap_cons] at h₀ h₁ h₂
    rw [eq_byteOrderMark_of_bytes h₀ h₁ h₂]
    exact ⟨cs, rfl⟩

/-- The byte-order mark holds no line feed. -/
lemma byte_byteOrderMark_ne_feed (s : String) :
    ∀ i < 3, (ofString ("\uFEFF" ++ s)).byte i ≠ 10 := by
  obtain ⟨h₀, h₁, h₂⟩ := bytes_byteOrderMark s
  intro i hi
  interval_cases i <;> simp [h₀, h₁, h₂]

/-- The byte-order mark is one character. -/
lemma countP_window_byteOrderMark (s : String) :
    ((ofString ("\uFEFF" ++ s)).window 0 3).countP isCharStart = 1 := by
  obtain ⟨h₀, h₁, h₂⟩ := bytes_byteOrderMark s
  have hw : (ofString ("\uFEFF" ++ s)).window 0 3 = [0xEF, 0xBB, 0xBF] := by
    simp [window, List.range_succ, h₀, h₁, h₂]
  rw [hw]
  decide

/-- **Behind a byte-order mark, columns move on the first line only.** An offset three bytes
into a text with the mark has the line of the offset in the text alone, and on the first line
one column more. -/
theorem lineCol_byteOrderMark (s : String) (o : Nat) :
    (LineIndex.build (ofString ("\uFEFF" ++ s))).lineCol (o + 3) =
      LineCol.afterMark 1 ((LineIndex.build (ofString s)).lineCol o) := by
  rw [LineIndex.lineCol_build, LineIndex.lineCol_build,
    (moved_byteOrderMark s).positionOf (byte_byteOrderMark_ne_feed s), countP_window_byteOrderMark]

end Source

/-- **A byte-order mark only moves the tokens.** A text that does not start with the mark,
lexed behind it, gives the same tokens three bytes on with one more column on the first line,
or the same error three bytes on. -/
theorem tokenize_byteOrderMark {s : String} (hs : s.startsWith "\uFEFF" = false)
    (hsize : s.utf8ByteSize + 3 ≤ maxSourceSize) (limits : ScanLimits) :
    tokenize ("\uFEFF" ++ s) limits =
      ((tokenize s limits).map (·.map (Token.moveBy 3 (LineCol.afterMark 1)))).mapError
        (LexError.shift 3) := by
  have hm := Source.moved_byteOrderMark s
  have hstart : (Source.ofString ("\uFEFF" ++ s)).scanStart =
      (Source.ofString s).scanStart + 3 := by
    have hbom : (Source.ofString s).hasByteOrderMark = false := by
      by_contra hb
      rw [Source.startsWith_of_hasByteOrderMark (by simpa using hb)] at hs
      exact absurd hs (by decide)
    rw [Source.scanStart_byteOrderMark]
    simp [Source.scanStart, hbom]
  have htb : TokenBuilder.Moved 3 (LineCol.afterMark 1)
      ⟨Source.ofString s, LineIndex.build (Source.ofString s), {}⟩
      ⟨Source.ofString ("\uFEFF" ++ s), LineIndex.build (Source.ofString ("\uFEFF" ++ s)), {}⟩ :=
    ⟨hm, Source.lineCol_byteOrderMark s, rfl⟩
  have hsize' : ("\uFEFF" ++ s).utf8ByteSize = s.utf8ByteSize + 3 := by
    rw [String.utf8ByteSize_append, Nat.add_comm]
    rfl
  unfold tokenize
  rw [if_neg (by omega), if_neg (by omega)]
  obtain ⟨hpieces, hlast⟩ := scanText_moved hm hstart limits
  dsimp only
  rw [hpieces, hlast.errorSite, hstart]
  simpa using htb.build (scanText (Source.ofString s) limits).2.errorSite _ #[]
    (scanText (Source.ofString s) limits).1

end ExprFront
