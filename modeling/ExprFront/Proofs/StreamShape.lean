import Mathlib
import ExprFront.Proofs.Frames
import ExprFront.Proofs.Opener

/-!
# Token streams have their shape

Every token stream that `tokenize` returns is read to its end by the reader of
`ExprFront.Proofs.TokenShape` (`tokenize_shape`): f-string starts and ends nest like brackets
and an end has the quotes of its start, a literal's text is pieces and fields, no piece is empty
or follows another piece, brackets balance within each field and at the top level, and an end
folds in the literal's text only where nothing of the literal came before it.

The proof follows the scan step by step. `Tracks` says that the token builder and the reader
follow a running scan: the reader's stack is the scanner's frames, the builder's stack of
delimiters is that of the literal frames, and a literal none of whose text was read ends where
its opening quotes do. Each step of the scan is one of the moves of `Scanner.Move`
(`Scanner.move_step`), and for each move the builder's token is one the reader reads into the
frames the scanner reached (`Tracks.step`). Along the whole run, by induction on what is left to
scan, the reader reads every token the builder returns (`Tracks.build`).
-/

namespace ExprFront

/-! ## The delimiters of the open literals -/

namespace Frame

/-- The delimiters of the open literals, innermost first. -/
def delimiters (frames : List Frame) : List Delimiter :=
  frames.filterMap fun
    | .literal d _ _ => some d
    | _ => none

@[simp] lemma delimiters_literal (d : Delimiter) (o : Span) (p : Bool) (frames : List Frame) :
    delimiters (.literal d o p :: frames) = d :: delimiters frames := rfl

@[simp] lemma delimiters_bracket (k : Bracket) (frames : List Frame) :
    delimiters (.bracket k :: frames) = delimiters frames := rfl

@[simp] lemma delimiters_field (frames : List Frame) :
    delimiters (.field :: frames) = delimiters frames := rfl

@[simp] lemma delimiters_spec (frames : List Frame) :
    delimiters (.spec :: frames) = delimiters frames := rfl

@[simp] lemma delimiters_markPiece (frames : List Frame) :
    delimiters (markPiece frames) = delimiters frames := by
  rcases frames with _ | ⟨_ | _ | _ | _, rest⟩ <;> rfl

/-- A stack whose innermost frame is a literal is in text. -/
lemma inText_of_head? {frames : List Frame} {d : Delimiter} {o : Span} {p : Bool}
    (hh : frames.head? = some (.literal d o p)) : inText frames = true := by
  rcases frames with _ | ⟨f, rest⟩
  · cases hh
  · cases hh
    rfl

/-- Below the innermost frame of a settled stack there is no unread literal. -/
lemma Settled.head?_tail {f : Frame} {frames : List Frame} (h : Settled (f :: frames))
    (d : Delimiter) (o : Span) : frames.head? ≠ some (.literal d o false) := by
  intro hh
  rcases frames with _ | ⟨g, rest⟩
  · cases hh
  · cases hh
    exact h.unread_innermost _ (by simp) d o rfl

end Frame

/-! ## The reader -/

namespace ShapeState

variable {src : Source} {st st' : ShapeState} {t : Token} {frames : List Frame}

lemma read_code (hcode : Frame.inText st.frames = false)
    (hr : Frame.readCode t st.frames = some frames) :
    st.read src t = some ⟨frames, t.kind == .fstringMiddle⟩ := by
  simp [read, hcode, hr]

lemma read_text (htext : Frame.inText st.frames = true)
    (hr : Frame.readText src st.afterMiddle t st.frames = some frames) :
    st.read src t = some ⟨frames, t.kind == .fstringMiddle⟩ := by
  simp [read, htext, hr]

lemma afterMiddle_of_read (hr : st.read src t = some st') :
    st'.afterMiddle = (t.kind == .fstringMiddle) := by
  simp only [read, Option.map_eq_some_iff] at hr
  obtain ⟨_, -, rfl⟩ := hr
  rfl

end ShapeState

/-! ## The builder -/

/-- A close succeeds only by popping the innermost literal and giving back its delimiter. -/
lemma DelimiterStack.close_ok {α : Type} {st rest : DelimiterStack α} {q : Quote} {z : QuoteSize}
    {d : Delimiter} (h : st.close q z = .ok (d, rest)) :
    ∃ e es, st.entries = e :: es ∧ d = e.delimiter ∧ rest = ⟨es⟩ := by
  unfold DelimiterStack.close at h
  split at h
  · cases h
  · next e es hentries =>
    split_ifs at h
    cases h
    exact ⟨e, es, hentries, rfl, rfl⟩

namespace TokenBuilder

variable {tb tb' : TokenBuilder} {span : Span}

/-- A piece of code that opens and closes nothing becomes no token, or a token other than the
end and a piece of text that the reader reads in code without a change, a colon apart; the
builder stays as it was. -/
lemma classify_plain {tag : RawTag} {kind? : Option TokenKind} (htag : tag.IsPlain)
    (hc : tb.classify tag span = .ok (kind?, tb')) :
    tb' = tb ∧ ∀ k ∈ kind?, k ≠ .eof ∧ k ≠ .fstringMiddle ∧
      ∀ (frames : List Frame) (lc : LineCol), Frame.readCode ⟨k, span, lc⟩ frames =
        some (if tag = .punct .colon then Frame.colon frames else frames) := by
  cases tag with
  | string =>
    simp only [classify, RawTag.isTrivia, Bool.false_eq_true, if_false] at hc
    cases hd : tb.delimiterAt span with
    | error e => simp [hd] at hc
    | ok d =>
      simp only [hd] at hc
      cases hc
      exact ⟨rfl, by simp [Frame.readCode]⟩
  | punct p =>
    simp only [classify, RawTag.isTrivia, Bool.false_eq_true, if_false] at hc
    cases hc
    obtain ⟨hopen, hclose⟩ := htag
    refine ⟨rfl, fun k hk => ?_⟩
    cases hk
    exact ⟨by simp, by simp, fun frames lc => by simp [Frame.readCode, hopen, hclose]⟩
  | ident =>
    simp only [classify, RawTag.isTrivia, Bool.false_eq_true, if_false] at hc
    cases hc
    refine ⟨rfl, fun k hk => ?_⟩
    cases hk
    cases Keyword.ofWord? (tb.src.slice span) <;> simp [Frame.readCode]
  | fstringStart | fstringMiddle | fstringEnd | eof | fault f => exact htag.elim
  | _ =>
    simp only [classify, RawTag.isTrivia, Bool.false_eq_true, if_false, if_true] at hc
    cases hc
    exact ⟨rfl, by simp [Frame.readCode]⟩

/-- The builder closes a literal at an end piece only by popping its innermost delimiter, and
the end's text is the piece less that delimiter's closing quotes. -/
lemma popFString_ok {k : TokenKind} (hp : tb.popFString span = .ok (k, tb')) :
    ∃ e rest, tb.literals.entries = e :: rest ∧
      k = .fstringEnd ⟨span.start, span.stop - e.delimiter.closeLength⟩ ∧
      tb' = { tb with literals := ⟨rest⟩ } := by
  unfold popFString at hp
  dsimp only at hp
  split at hp
  · cases hp
  · split at hp
    · next d rest hclose =>
      obtain ⟨e, es, hentries, rfl, rfl⟩ := DelimiterStack.close_ok hclose
      cases hp
      exact ⟨e, es, hentries, rfl, rfl⟩
    · cases hp

@[simp] lemma classify_punct (p : Punct) : tb.classify (.punct p) span = .ok (some (.punct p), tb) :=
  rfl

@[simp] lemma classify_fstringMiddle :
    tb.classify .fstringMiddle span = .ok (some .fstringMiddle, tb) := rfl

end TokenBuilder

lemma Punct.opening?_eq_none_of_closing? {p : Punct} {k : Bracket} (hp : p.closing? = some k) :
    p.opening? = none := by
  cases p <;> simp_all [Punct.opening?, Punct.closing?]

/-! ## Following the scan -/

/-- The bytes at the closing quotes of a literal are its quote, as many as it closes with. -/
lemma Source.window_of_closesAt {src : Source} {d : Delimiter} {j : Nat}
    (h : src.closesAt d j = true) :
    src.window j (j + d.closeLength) = List.replicate d.closeLength d.quote.byte := by
  apply List.ext_getElem
  · simp [Source.window]
  · intro k hk _
    simp only [Source.window, Nat.add_sub_cancel_left, List.getElem_map, List.getElem_range,
      List.getElem_replicate]
    exact Source.byte_of_closesAt h k (by simpa [Source.window] using hk)

/-- The token builder and the shape reader follow a running scan of `text`. The reader's stack is
the scanner's frames, which are settled; a piece of text was the last token only where the
scanner stands at a text stop; a literal none of whose text was read is innermost only right
after its opening quotes, which start on a character boundary; and the builder's stack of
delimiters is that of the literal frames. -/
structure Tracks (text : String) (tb : TokenBuilder) (st : ShapeState) (sc : Scanner) : Prop where
  placed : sc.Placed text
  running : sc.stopped = false
  src_eq : tb.src = Source.ofString text
  frames_eq : st.frames = sc.frames
  settled : Frame.Settled sc.frames
  afterMiddle : st.afterMiddle = true → sc.AtTextStop
  fresh : ∀ d o, sc.frames.head? = some (.literal d o false) →
    sc.pos = o.stop ∧ CharBoundary text o.start ∧ o.start ≤ o.stop
  delimiters : tb.literals.entries.map (·.delimiter) = Frame.delimiters sc.frames

/-- What the builder makes of one piece keeps the reader following the scan: no token, with the
reader as it was, or a token other than the end that the reader reads. -/
def Tracks.Next (text : String) (st : ShapeState) (span : Span) (sc' : Scanner) :
    Option TokenKind × TokenBuilder → Prop
  | (none, tb') => Tracks text tb' st sc'
  | (some k, tb') => k ≠ .eof ∧ ∀ lc, ∃ st', st.read (Source.ofString text) ⟨k, span, lc⟩ = some st' ∧
      Tracks text tb' st' sc'

namespace Tracks

open Scanner

variable {text : String} {tb tb' : TokenBuilder} {st : ShapeState} {sc sc' : Scanner}

/-- In code the token before was no piece of text. -/
lemma afterMiddle_eq_false (h : Tracks text tb st sc) (hcode : Frame.inText sc.frames = false) :
    st.afterMiddle = false := by
  rw [Bool.eq_false_iff]
  intro hm
  obtain ⟨d, hd, -⟩ := h.afterMiddle hm
  rw [inText_frames_of_text h.settled hd] at hcode
  cases hcode

/-- After a token that the reader reads into the frames the scanner reached, the builder and the
reader follow the scan again, given what the step did to the frames' innermost literal and to
the builder's delimiters. -/
lemma of_read (h : Tracks text tb st sc) {t : Token} {st' : ShapeState}
    (hr : st.read (Source.ofString text) t = some st') (hframes : st'.frames = sc'.frames)
    (hsc' : sc'.Placed text) (hgo' : sc'.stopped = false) (hsrc : tb'.src = tb.src)
    (hmid : t.kind = .fstringMiddle → sc'.AtTextStop)
    (hfresh : ∀ d o, sc'.frames.head? = some (.literal d o false) →
      sc'.pos = o.stop ∧ CharBoundary text o.start ∧ o.start ≤ o.stop)
    (hdelim : tb'.literals.entries.map (·.delimiter) = Frame.delimiters sc'.frames) :
    Tracks text tb' st' sc' where
  placed := hsc'
  running := hgo'
  src_eq := hsrc.trans h.src_eq
  frames_eq := hframes
  settled := hframes ▸ ShapeState.settled_read (h.frames_eq ▸ h.settled) hr
  afterMiddle hm := hmid (by simpa [ShapeState.afterMiddle_of_read hr] using hm)
  fresh := hfresh
  delimiters := hdelim

variable {n : Nat} {kind? : Option TokenKind}

/-- A piece of code that opens and closes nothing. -/
lemma next_code (h : Tracks text tb st sc) {tag : RawTag} (hcode : Frame.inText sc.frames = false)
    (htag : tag.IsPlain) (hcolon : tag = .punct .colon → Frame.colon sc.frames = sc.frames)
    (hframes : sc'.frames = sc.frames) (hsc' : sc'.Placed text) (hgo' : sc'.stopped = false)
    {span : Span} (hc : tb.classify tag span = .ok (kind?, tb')) :
    Next text st span sc' (kind?, tb') := by
  obtain ⟨rfl, hkind⟩ := TokenBuilder.classify_plain htag hc
  have hfresh : ∀ d o, sc'.frames.head? ≠ some (.literal d o false) := fun d o hh =>
    absurd (Frame.inText_of_head? (hframes ▸ hh)) (by simp [hcode])
  cases kind? with
  | none =>
    have hmid := h.afterMiddle_eq_false hcode
    exact ⟨hsc', hgo', h.src_eq, h.frames_eq.trans hframes.symm, hframes ▸ h.settled,
      fun hm => absurd hm (by simp [hmid]), fun d o hh => absurd hh (hfresh d o),
      hframes ▸ h.delimiters⟩
  | some k =>
    obtain ⟨hk, hmiddle, hread⟩ := hkind k rfl
    refine ⟨hk, fun lc => ⟨_, ShapeState.read_code (h.frames_eq ▸ hcode) (hread _ lc), ?_⟩⟩
    have hsame : (if tag = .punct .colon then Frame.colon st.frames else st.frames) =
        sc'.frames := by
      rw [hframes, h.frames_eq]
      split_ifs with hc'
      · exact hcolon hc'
      · rfl
    exact h.of_read (ShapeState.read_code (h.frames_eq ▸ hcode) (hread _ lc)) hsame hsc' hgo'
      rfl (fun hm => absurd hm hmiddle) (fun d o hh => absurd hh (hfresh d o))
      (hframes ▸ h.delimiters)

/-- A token the reader reads into the frames the scanner reached keeps it following the scan. -/
lemma next_token (h : Tracks text tb st sc) {k : TokenKind} {span : Span} (hk : k ≠ .eof)
    (hr : ∀ lc, st.read (Source.ofString text) ⟨k, span, lc⟩ =
      some ⟨sc'.frames, k == .fstringMiddle⟩)
    (hsc' : sc'.Placed text) (hgo' : sc'.stopped = false) (hsrc : tb'.src = tb.src)
    (hmid : k = .fstringMiddle → sc'.AtTextStop)
    (hfresh : ∀ d o, sc'.frames.head? = some (.literal d o false) →
      sc'.pos = o.stop ∧ CharBoundary text o.start ∧ o.start ≤ o.stop)
    (hdelim : tb'.literals.entries.map (·.delimiter) = Frame.delimiters sc'.frames) :
    Next text st span sc' (some k, tb') :=
  ⟨hk, fun lc => ⟨_, hr lc, h.of_read (hr lc) rfl hsc' hgo' hsrc hmid hfresh hdelim⟩⟩

/-- Where a step closed the innermost frame, no unread literal is innermost after it. -/
lemma fresh_of_pop (h : Tracks text tb st sc) {f : Frame} (hframes : sc.frames = f :: sc'.frames)
    (d : Delimiter) (o : Span) (hh : sc'.frames.head? = some (.literal d o false)) :
    sc'.pos = o.stop ∧ CharBoundary text o.start ∧ o.start ≤ o.stop :=
  absurd hh (Frame.Settled.head?_tail (hframes ▸ h.settled) d o)

/-- Where a step opened a frame other than a literal, no unread literal is innermost after it. -/
lemma fresh_of_push {f : Frame} {rest : List Frame} (hframes : sc'.frames = f :: rest)
    (hf : ∀ d o, f ≠ .literal d o false) (d : Delimiter) (o : Span)
    (hh : sc'.frames.head? = some (.literal d o false)) :
    sc'.pos = o.stop ∧ CharBoundary text o.start ∧ o.start ≤ o.stop := by
  rw [hframes] at hh
  exact absurd (Option.some.inj hh) (hf d o)

/-- An opening bracket in code. -/
lemma next_openBracket (h : Tracks text tb st sc) {p : Punct} {k : Bracket}
    (hcode : Frame.inText sc.frames = false) (hp : p.opening? = some k)
    (hframes : sc'.frames = .bracket k :: sc.frames) (hsc' : sc'.Placed text)
    (hgo' : sc'.stopped = false) {span : Span}
    (hc : tb.classify (.punct p) span = .ok (kind?, tb')) : Next text st span sc' (kind?, tb') := by
  rw [TokenBuilder.classify_punct] at hc
  cases hc
  refine h.next_token (by simp) (fun lc => ShapeState.read_code (h.frames_eq ▸ hcode) ?_) hsc'
    hgo' rfl (by simp) (fresh_of_push hframes (by simp)) (by simp [hframes, h.delimiters])
  simp [Frame.readCode, hp, hframes, h.frames_eq]

/-- A closing bracket that closes the innermost bracket, or a `}` that closes a field from its
expression: in code, the reader closes the same frame. -/
lemma next_close (h : Tracks text tb st sc) {p : Punct} {k : Bracket} {f : Frame}
    (hp : p.closing? = some k) (hf : Frame.close k (f :: sc'.frames) = some sc'.frames)
    (hcode : Frame.inText (f :: sc'.frames) = false) (hframes : sc.frames = f :: sc'.frames)
    (hsc' : sc'.Placed text) (hgo' : sc'.stopped = false) {span : Span}
    (hc : tb.classify (.punct p) span = .ok (kind?, tb')) : Next text st span sc' (kind?, tb') := by
  rw [TokenBuilder.classify_punct] at hc
  cases hc
  refine h.next_token (by simp) (fun lc => ShapeState.read_code (by rw [h.frames_eq, hframes]; exact hcode) ?_)
    hsc' hgo' rfl (by simp) (h.fresh_of_pop hframes) ?_
  · simp [Frame.readCode, Punct.opening?_eq_none_of_closing? hp, hp, h.frames_eq, hframes, hf]
  · have hdelim := h.delimiters
    rw [hframes] at hdelim
    rcases f with _ | _ | _ | _ <;> first | exact hdelim | simp [Frame.inText] at hcode

/-- A `:` that begins a field's format spec. -/
lemma next_beginSpec (h : Tracks text tb st sc) {rest : List Frame}
    (hframes : sc.frames = .field :: rest) (hframes' : sc'.frames = .spec :: rest)
    (hsc' : sc'.Placed text) (hgo' : sc'.stopped = false) {span : Span}
    (hc : tb.classify (.punct .colon) span = .ok (kind?, tb')) :
    Next text st span sc' (kind?, tb') := by
  rw [TokenBuilder.classify_punct] at hc
  cases hc
  refine h.next_token (by simp)
    (fun lc => ShapeState.read_code (by rw [h.frames_eq, hframes]; rfl) ?_) hsc' hgo' rfl
    (by simp) (fresh_of_push hframes' (by simp)) ?_
  · simp [Frame.readCode, Punct.opening?, Punct.closing?, Frame.colon, h.frames_eq, hframes,
      hframes']
  · simpa [hframes, hframes'] using h.delimiters

/-- The opening text of an f-string: the builder finds the delimiter the scanner found, and
pushes it as the reader pushes the literal. -/
lemma next_openLiteral (h : Tracks text tb st sc) {d : Delimiter}
    (hcode : Frame.inText sc.frames = false)
    (hd : Delimiter.ofOpener? (sc.src.window sc.pos (min (sc.pos + 5) sc.src.size)) = some d)
    (hn : n = d.openLength)
    (hframes : sc'.frames = .literal d ⟨sc.pos, sc.pos + d.openLength⟩ false :: sc.frames)
    (hpos : sc'.pos = sc.pos + n) (hsc' : sc'.Placed text) (hgo' : sc'.stopped = false)
    (hc : tb.classify .fstringStart ⟨sc.pos, sc.pos + n⟩ = .ok (kind?, tb')) :
    Next text st ⟨sc.pos, sc.pos + n⟩ sc' (kind?, tb') := by
  subst hn
  have hdelim : tb.delimiterAt ⟨sc.pos, sc.pos + d.openLength⟩ = .ok d :=
    TokenBuilder.delimiterAt_opener h.src_eq h.placed.boundary (h.placed.src_eq ▸ hd)
  simp only [TokenBuilder.classify, RawTag.isTrivia, Bool.false_eq_true, if_false, hdelim] at hc
  cases hc
  refine h.next_token (by simp) (fun lc => ShapeState.read_code (h.frames_eq ▸ hcode) ?_) hsc'
    hgo' rfl (by simp) (fun d' o hh => ?_) (by simp [hframes, h.delimiters])
  · simp [Frame.readCode, hframes, h.frames_eq]
  · rw [hframes] at hh
    cases hh
    exact ⟨hpos, h.placed.boundary, Nat.le_add_right _ _⟩

/-- A piece of f-string text: never empty, and never right after another piece. -/
lemma next_middle (h : Tracks text tb st sc) (htext : Frame.inText sc.frames = true) (hn : 0 < n)
    (hnot : ¬ sc.AtTextStop) (hstop : sc'.AtTextStop)
    (hframes : sc'.frames = Frame.markPiece sc.frames) (hsc' : sc'.Placed text)
    (hgo' : sc'.stopped = false)
    (hc : tb.classify .fstringMiddle ⟨sc.pos, sc.pos + n⟩ = .ok (kind?, tb')) :
    Next text st ⟨sc.pos, sc.pos + n⟩ sc' (kind?, tb') := by
  rw [TokenBuilder.classify_fstringMiddle] at hc
  cases hc
  have hmid : st.afterMiddle = false := Bool.eq_false_iff.mpr fun hm => hnot (h.afterMiddle hm)
  refine h.next_token (by simp) (fun lc => ShapeState.read_text (h.frames_eq ▸ htext) ?_) hsc'
    hgo' rfl (fun _ => hstop) (fun d o hh => absurd (hframes ▸ hh) (Frame.head?_markPiece _ d o))
    (by simp [hframes, h.delimiters])
  simp [Frame.readText, hmid, hn, hframes, h.frames_eq]

/-- A `{` that opens a field in f-string text. -/
lemma next_beginField (h : Tracks text tb st sc) (htext : Frame.inText sc.frames = true)
    (hframes : sc'.frames = .field :: Frame.markPiece sc.frames) (hsc' : sc'.Placed text)
    (hgo' : sc'.stopped = false) {span : Span}
    (hc : tb.classify (.punct .lbrace) span = .ok (kind?, tb')) :
    Next text st span sc' (kind?, tb') := by
  rw [TokenBuilder.classify_punct] at hc
  cases hc
  refine h.next_token (by simp) (fun lc => ShapeState.read_text (h.frames_eq ▸ htext) ?_) hsc'
    hgo' rfl (by simp) (fresh_of_push hframes (by simp)) (by simp [hframes, h.delimiters])
  simp [Frame.readText, hframes, h.frames_eq]

/-- A `}` that ends a format spec, and its field. -/
lemma next_endSpec (h : Tracks text tb st sc) (hframes : sc.frames = .spec :: sc'.frames)
    (hsc' : sc'.Placed text) (hgo' : sc'.stopped = false) {span : Span}
    (hc : tb.classify (.punct .rbrace) span = .ok (kind?, tb')) :
    Next text st span sc' (kind?, tb') := by
  rw [TokenBuilder.classify_punct] at hc
  cases hc
  refine h.next_token (by simp)
    (fun lc => ShapeState.read_text (by rw [h.frames_eq, hframes]; rfl) ?_) hsc' hgo' rfl
    (by simp) (h.fresh_of_pop hframes) (by simpa [hframes] using h.delimiters)
  simp [Frame.readText, h.frames_eq, hframes]

/-- The end token of a literal closed by the quotes at `j` fits the literal: its text is the
bytes before the quotes, which are the literal's own quotes, and there is text only where the
end follows the opening quotes directly, the two together being the literal. -/
lemma endFits (h : Tracks text tb st sc) {d : Delimiter} {o : Span} {rep : Bool} {j : Nat}
    {rest : List Frame} (hframes : sc.frames = .literal d o rep :: rest) (hle : sc.pos ≤ j)
    (hclose : sc.src.closesAt d j = true) (hrep : rep = true → j = sc.pos)
    (hend : CharBoundary text (j + d.closeLength)) (lc : LineCol) :
    Frame.EndFits (Source.ofString text) d o rep
      ⟨.fstringEnd ⟨sc.pos, j⟩, ⟨sc.pos, j + d.closeLength⟩, lc⟩ ⟨sc.pos, j⟩ := by
  refine ⟨by simp, by simp only; omega, ?_, fun hlt => ?_⟩
  · simp only [Nat.add_sub_cancel]
    rw [← h.placed.src_eq]
    exact Source.window_of_closesAt hclose
  · simp only at hlt
    have hrep' : rep = false := by
      cases rep
      · rfl
      · exact absurd (hrep rfl) (by omega)
    subst hrep'
    obtain ⟨hstop, hstart, hle'⟩ := h.fresh d o (by simp [hframes])
    refine ⟨rfl, hstop, ?_⟩
    have hjoin := Source.slice_append hstart (hstop ▸ h.placed.boundary) hend hle' (by omega)
    simp only
    rw [hstop]
    exact hjoin

/-- The closing quotes of an f-string: the builder pops the delimiter the reader closes, and the
end token fits the literal. -/
lemma next_closeLiteral (h : Tracks text tb st sc) {d : Delimiter} {o : Span} {rep : Bool}
    {j : Nat} (hframes : sc.frames = .literal d o rep :: sc'.frames) (hle : sc.pos ≤ j)
    (hclose : sc.src.closesAt d j = true) (hrep : rep = true → j = sc.pos)
    (hpos : sc'.pos = j + d.closeLength) (hsc' : sc'.Placed text) (hgo' : sc'.stopped = false)
    (hc : tb.classify .fstringEnd ⟨sc.pos, j + d.closeLength⟩ = .ok (kind?, tb')) :
    Next text st ⟨sc.pos, j + d.closeLength⟩ sc' (kind?, tb') := by
  simp only [TokenBuilder.classify, RawTag.isTrivia, Bool.false_eq_true, if_false] at hc
  cases hp : tb.popFString ⟨sc.pos, j + d.closeLength⟩ with
  | error e => simp [hp] at hc
  | ok r =>
    obtain ⟨k, tb₁⟩ := r
    simp only [hp] at hc
    cases hc
    obtain ⟨e, es, hentries, rfl, rfl⟩ := TokenBuilder.popFString_ok hp
    have hdelims := h.delimiters
    rw [hentries, hframes] at hdelims
    simp only [List.map_cons, Frame.delimiters_literal, List.cons.injEq] at hdelims
    obtain ⟨hd, hes⟩ := hdelims
    have htext : Frame.inText st.frames = true := by rw [h.frames_eq, hframes]; rfl
    have hfits := h.endFits hframes hle hclose hrep (hpos ▸ hsc'.boundary)
    refine h.next_token (by simp) (fun lc => ShapeState.read_text htext ?_) hsc' hgo' rfl
      (by simp) (h.fresh_of_pop hframes) hes
    simp [Frame.readText, h.frames_eq, hframes, hd, hfits lc]

/-- **One step of the scan, through the builder and the reader.** Whatever the builder makes of
a piece other than a fault or the end keeps the reader following the scan. -/
lemma step (h : Tracks text tb st sc) {tag : RawTag} (hmove : sc.Move (⟨tag, n⟩, sc'))
    (hpos : sc'.pos = sc.pos + n) (hsc' : sc'.Placed text) (hgo' : sc'.stopped = false)
    (he : tag ≠ .eof) (hc : tb.classify tag ⟨sc.pos, sc.pos + n⟩ = .ok (kind?, tb')) :
    Next text st ⟨sc.pos, sc.pos + n⟩ sc' (kind?, tb') := by
  cases hmove with
  | fault => simp [TokenBuilder.classify, RawTag.isTrivia] at hc
  | eof => exact absurd rfl he
  | code hcode htag hcolon hframes => exact h.next_code hcode htag hcolon hframes hsc' hgo' hc
  | openBracket hcode hp hframes => exact h.next_openBracket hcode hp hframes hsc' hgo' hc
  | closeBracket hp hframes =>
    exact h.next_close hp (by simp [Frame.close]) rfl hframes hsc' hgo' hc
  | endField hframes => exact h.next_close rfl (by simp [Frame.close]) rfl hframes hsc' hgo' hc
  | beginSpec hframes hframes' => exact h.next_beginSpec hframes hframes' hsc' hgo' hc
  | openLiteral hcode hd hn hframes => exact h.next_openLiteral hcode hd hn hframes hpos hsc' hgo' hc
  | middle htext hn hnot hstop hframes =>
    exact h.next_middle htext hn hnot hstop hframes hsc' hgo' hc
  | beginField htext hframes => exact h.next_beginField htext hframes hsc' hgo' hc
  | endSpec hframes => exact h.next_endSpec hframes hsc' hgo' hc
  | @closeLiteral d o rep j _ hframes hle hclose hrep =>
    have hstop : sc.pos + (j + d.closeLength - sc.pos) = j + d.closeLength := by omega
    rw [hstop] at hc hpos ⊢
    exact h.next_closeLiteral hframes hle hclose hrep hpos hsc' hgo' hc

/-- **Along the whole run, the reader reads every token the builder returns**, up to the end of
the input, where nothing is open. -/
theorem build (h : Tracks text tb st sc) {site : Option Span} {acc toks : Array Token}
    (hb : tb.build site sc.pos acc sc.run.1 = .ok toks) :
    ∃ ts, toks.toList = acc.toList ++ ts ∧ st.accepts (Source.ofString text) ts = true := by
  -- by induction on what is left to scan, which every step short of the end makes smaller
  induction hp : sc.progress using Nat.strongRecOn generalizing sc tb st acc with
  | ind p ih =>
  have hmove := move_step h.placed h.running h.settled
  have hadv := h.placed.stepAdvance
  have hlt := progress_step_lt h.placed
  rw [Scanner.run] at hb
  generalize ScanM.step.run sc = r at hmove hadv hlt hb
  obtain ⟨⟨tag, n⟩, sc'⟩ := r
  by_cases he : tag = .eof
  · subst he
    simp [TokenBuilder.build, TokenBuilder.classify, RawTag.isTrivia] at hb
    subst hb
    refine ⟨[⟨.eof, ⟨sc.pos, sc.pos + n⟩, tb.index.lineCol sc.pos⟩], by simp, ?_⟩
    cases hmove with
    | eof hframes => simp [ShapeState.accepts, h.frames_eq, hframes]
    | code _ htag => exact htag.elim
  · have hless : sc'.progress < sc.progress := hlt he
    simp only [beq_iff_eq, he, if_false, hless, if_true] at hb
    rw [TokenBuilder.build] at hb
    split at hb
    · cases hb
    · next hnot =>
      split at hb
      · cases hb
      · next kind? tb' hc =>
        simp only [beq_iff_eq, he, if_false] at hb
        have hnf : tag.isFault = false := by
          cases tag <;> first | rfl | exact absurd rfl (hnot _)
        have hgo' : sc'.stopped = false := by simpa [h.running, hnf] using hadv.stopped_eq
        have hnext := h.step hmove hadv.pos_eq hadv.placed hgo' he hc
        cases kind? with
        | none =>
          exact ih _ (hp ▸ hless) hnext (by rw [hadv.pos_eq]; exact hb) rfl
        | some k =>
          dsimp only at hb
          obtain ⟨hk, hread⟩ := hnext
          obtain ⟨st', hr, htr⟩ := hread (tb.index.lineCol sc.pos)
          obtain ⟨ts, hts, hacc⟩ := ih _ (hp ▸ hless) htr (by rw [hadv.pos_eq]; exact hb) rfl
          refine ⟨⟨k, ⟨sc.pos, sc.pos + n⟩, tb.index.lineCol sc.pos⟩ :: ts, by simp [hts], ?_⟩
          simp [ShapeState.accepts, hk, hr, hacc]

/-- The builder and the reader, fresh, follow a fresh scan. -/
lemma start (text : String) (limits : ScanLimits) :
    Tracks text ⟨Source.ofString text, LineIndex.build (Source.ofString text), {}⟩
      ShapeState.init (Scanner.start (Source.ofString text) limits) where
  placed := placed_start text limits
  running := rfl
  src_eq := rfl
  frames_eq := rfl
  settled := Frame.Settled.nil
  afterMiddle hm := absurd hm (by decide)
  fresh _ _ hh := by simp [Scanner.frames, Scanner.start] at hh
  delimiters := rfl

end Tracks

/-- **The tokens of a text have their shape.** Every token stream that `tokenize` returns is read
to its end by the shape reader. -/
theorem tokenize_shape (text : String) (limits : ScanLimits) {toks : Array Token}
    (h : tokenize text limits = .ok toks) :
    ShapeState.init.accepts (Source.ofString text) toks.toList = true := by
  unfold tokenize at h
  split_ifs at h
  dsimp only at h
  generalize hscan : scanText (Source.ofString text) limits = r at h
  obtain ⟨pieces, last⟩ := r
  rw [scanText] at hscan
  have hb : TokenBuilder.build ⟨Source.ofString text, LineIndex.build (Source.ofString text), {}⟩
      last.errorSite (Scanner.start (Source.ofString text) limits).pos #[]
      (Scanner.start (Source.ofString text) limits).run.1 = .ok toks := by
    rw [hscan]
    exact h
  obtain ⟨ts, hts, hacc⟩ := (Tracks.start text limits).build hb
  rw [hts]
  simpa using hacc

/-- The tokens of `f'a{x:{y}}'`: a piece of text, then a field whose format spec holds a field. -/
def specFieldTokens : Array Token := #[
  ⟨.fstringStart ⟨.single, .single, { formatted := true }, 1⟩, ⟨0, 2⟩, ⟨1, 1⟩⟩,
  ⟨.fstringMiddle, ⟨2, 3⟩, ⟨1, 3⟩⟩, ⟨.punct .lbrace, ⟨3, 4⟩, ⟨1, 4⟩⟩, ⟨.name, ⟨4, 5⟩, ⟨1, 5⟩⟩,
  ⟨.punct .colon, ⟨5, 6⟩, ⟨1, 6⟩⟩, ⟨.punct .lbrace, ⟨6, 7⟩, ⟨1, 7⟩⟩, ⟨.name, ⟨7, 8⟩, ⟨1, 8⟩⟩,
  ⟨.punct .rbrace, ⟨8, 9⟩, ⟨1, 9⟩⟩, ⟨.punct .rbrace, ⟨9, 10⟩, ⟨1, 10⟩⟩,
  ⟨.fstringEnd ⟨10, 10⟩, ⟨10, 11⟩, ⟨1, 11⟩⟩, ⟨.eof, ⟨11, 11⟩, ⟨1, 12⟩⟩]

theorem tokenize_shape_spec_field :
    tokenize "f'a\x7bx:\x7by\x7d\x7d'" {} = .ok specFieldTokens ∧
      ShapeState.init.accepts (Source.ofString "f'a\x7bx:\x7by\x7d\x7d'")
        specFieldTokens.toList = true := by
  have h : tokenize "f'a\x7bx:\x7by\x7d\x7d'" {} = .ok specFieldTokens := by decide +kernel
  exact ⟨h, tokenize_shape _ {} h⟩

end ExprFront
