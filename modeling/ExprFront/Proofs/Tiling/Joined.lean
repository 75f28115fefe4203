import Mathlib
import ExprFront.Proofs.Spans.Lexed
import ExprFront.Proofs.Tiling.Reading

/-!
# Tokens read in text follow one another without a gap

Inside an f-string the scanner reports no trivia: blanks and comments are pieces of code only.
So every token that the shape reader reads in text, the text of a literal or of a format spec,
starts where the token before it stops, and an f-string start covers exactly its opener
(`ShapeState.Joined`). The proof follows the scan as `Tracks.build_ordered` does
(`Tracks.build_joined`).

`TokenStream.Laid` gathers what the grammar's f-string productions rely on in the tokens of a
text: they are ordered, the shape reader reads them to their end, and they are joined. Stated
by position, the reader's state exists before every token (`Laid.stateAt_some`), a token read in
text starts where the one before it stops (`Laid.glued`), and an f-string start covers its
opener (`Laid.opener`).
-/

namespace ExprFront

namespace ShapeState

/-- The tokens read from `st`, after a token that stopped at `last`, are laid as f-strings need
them: a token read in text starts where the token before it stopped, and an f-string start
covers exactly its opener. -/
def Joined (src : Source) : ShapeState → Nat → List Token → Prop
  | _, _, [] => True
  | st, last, t :: ts =>
    (Frame.inText st.frames = true → t.span.start = last) ∧
      (∀ d, t.kind = .fstringStart d → t.span.stop = t.span.start + d.openLength) ∧
      ∀ st', st.read src t = some st' → Joined src st' t.span.stop ts

end ShapeState

/-! ## Along the run -/

/-- The builder makes no token of trivia alone. -/
lemma TokenBuilder.classify_none {tb tb' : TokenBuilder} {tag : RawTag} {span : Span}
    (hc : tb.classify tag span = .ok (none, tb')) : tag.isTrivia = true := by
  unfold TokenBuilder.classify at hc
  split_ifs at hc with htriv
  · exact htriv
  · cases tag with
    | string | fstringStart =>
      cases hd : tb.delimiterAt span with
      | error e => simp [hd] at hc
      | ok d => simp [hd] at hc
    | fstringEnd =>
      cases hp : tb.popFString span with
      | error e => simp [hp] at hc
      | ok r => simp [hp] at hc
    | _ => simp at hc

/-- The builder makes an f-string start only of an f-string start piece, with the delimiter it
reads back. -/
lemma TokenBuilder.classify_fstringStart {tb tb' : TokenBuilder} {tag : RawTag} {span : Span}
    {d : Delimiter} (hc : tb.classify tag span = .ok (some (.fstringStart d), tb')) :
    tag = .fstringStart ∧ tb.delimiterAt span = .ok d := by
  unfold TokenBuilder.classify at hc
  split_ifs at hc with htriv
  · cases hc
  cases tag with
  | fstringStart =>
    cases hd : tb.delimiterAt span with
    | error e => simp [hd] at hc
    | ok d' =>
      simp only [hd] at hc
      cases hc
      exact ⟨rfl, rfl⟩
  | ident => cases hw : Keyword.ofWord? (tb.src.slice span) <;> simp [hw] at hc
  | string =>
    cases hd : tb.delimiterAt span with
    | error e => simp [hd] at hc
    | ok d' => simp [hd] at hc
  | fstringEnd =>
    cases hp : tb.popFString span with
    | error e => simp [hp] at hc
    | ok r =>
      obtain ⟨k, tb₁⟩ := r
      obtain ⟨e, rest, -, rfl, -⟩ := TokenBuilder.popFString_ok hp
      simp [hp] at hc
  | _ => simp at hc

namespace Scanner

variable {sc sc' : Scanner} {tag : RawTag} {n : Nat}

/-- Trivia is scanned only in code, where it changes no frame. -/
lemma Move.code_of_trivia (hmove : sc.Move (⟨tag, n⟩, sc')) (ht : tag.isTrivia = true) :
    Frame.inText sc.frames = false ∧ sc'.frames = sc.frames := by
  cases hmove with
  | code hcode _ _ hframes => exact ⟨hcode, hframes⟩
  | _ => simp [RawTag.isTrivia] at ht

/-- An f-string start is scanned from an opener, over exactly its length. -/
lemma Move.opener_of_fstringStart (hmove : sc.Move (⟨.fstringStart, n⟩, sc')) :
    ∃ d, Delimiter.ofOpener? (sc.src.window sc.pos (min (sc.pos + 5) sc.src.size)) = some d ∧
      n = d.openLength := by
  cases hmove with
  | openLiteral _ hd hn _ => exact ⟨_, hd, hn⟩
  | code _ htag => exact htag.elim

end Scanner

namespace Tracks

open Scanner

variable {text : String} {tb : TokenBuilder} {st : ShapeState} {sc : Scanner}

/-- The token the builder makes of an f-string start piece covers exactly the opener. -/
lemma opener_length (h : Tracks text tb st sc) {n : Nat} {sc' : Scanner} {tag : RawTag}
    {d : Delimiter} {tb' : TokenBuilder} (hmove : sc.Move (⟨tag, n⟩, sc'))
    (hc : tb.classify tag ⟨sc.pos, sc.pos + n⟩ = .ok (some (.fstringStart d), tb')) :
    n = d.openLength := by
  obtain ⟨rfl, hdelim⟩ := TokenBuilder.classify_fstringStart hc
  obtain ⟨d', hd', rfl⟩ := hmove.opener_of_fstringStart
  have hback := TokenBuilder.delimiterAt_opener h.src_eq h.placed.boundary (h.placed.src_eq ▸ hd')
  rw [hdelim, Except.ok.injEq] at hback
  rw [hback]

/-- **Along the whole run, the tokens read in text follow one another.** With the builder and
the reader following the scan, and the token before stopping at the scanner's offset wherever
the reader is in text, the tokens the builder returns are joined. -/
theorem build_joined (h : Tracks text tb st sc) {site : Option Span} {acc toks : Array Token}
    (last : Nat) (hlast : Frame.inText st.frames = true → last = sc.pos)
    (hb : tb.build site sc.pos acc sc.run.1 = .ok toks) :
    ∃ ts, toks.toList = acc.toList ++ ts ∧ st.Joined (Source.ofString text) last ts := by
  -- by induction on what is left to scan, as for the reader
  induction hp : sc.progress using Nat.strongRecOn generalizing sc tb st acc last with
  | ind p ih =>
  have hmove := move_step h.placed h.running h.settled
  have hadv := h.placed.stepAdvance
  have hlt := progress_step_lt h.placed
  rw [Scanner.run] at hb
  generalize ScanM.step.run sc = r at hmove hadv hlt hb
  obtain ⟨⟨tag, n⟩, sc'⟩ := r
  have hpos : sc'.pos = sc.pos + n := hadv.pos_eq
  by_cases he : tag = .eof
  · subst he
    simp [TokenBuilder.build, TokenBuilder.classify, RawTag.isTrivia] at hb
    subst hb
    refine ⟨[⟨.eof, ⟨sc.pos, sc.pos + n⟩, tb.index.lineCol sc.pos⟩], by simp, ?_⟩
    refine ⟨fun htext => (hlast htext).symm, by simp, fun _ _ => trivial⟩
  · have hless : sc'.progress < sc.progress := hlt he
    simp only [beq_iff_eq, he, if_false, hless, if_true] at hb
    rw [TokenBuilder.build] at hb
    split at hb
    · cases hb
    · next hnot =>
      split at hb
      · cases hb
      · next kind? tb' hc =>
        simp only [beq_iff_eq, he, if_false] at hb
        have hnf : tag.isFault = false := by
          cases tag <;> first | rfl | exact absurd rfl (hnot _)
        have hgo' : sc'.stopped = false := by simpa [h.running, hnf] using hadv.stopped_eq
        have hnext := h.step hmove hpos hadv.placed hgo' he hc
        cases kind? with
        | none =>
          -- trivia: in code, where the reader is not in text before or after it
          obtain ⟨hcode, -⟩ := hmove.code_of_trivia (TokenBuilder.classify_none hc)
          have hnot_text : Frame.inText st.frames = false := h.frames_eq ▸ hcode
          exact ih _ (hp ▸ hless) hnext last (fun ht => absurd ht (by simp [hnot_text]))
            (by rw [hpos]; exact hb) rfl
        | some k =>
          dsimp only at hb
          obtain ⟨hk, hread⟩ := hnext
          obtain ⟨st', hr, htr⟩ := hread (tb.index.lineCol sc.pos)
          obtain ⟨ts, hts, hjoin⟩ := ih _ (hp ▸ hless) htr (sc.pos + n) (fun _ => hpos.symm)
            (by rw [hpos]; exact hb) rfl
          refine ⟨⟨k, ⟨sc.pos, sc.pos + n⟩, tb.index.lineCol sc.pos⟩ :: ts, by simp [hts], ?_⟩
          refine ⟨fun htext => (hlast htext).symm, fun d hkd => ?_, fun st'' hr'' => ?_⟩
          · subst hkd
            simp [h.opener_length hmove hc]
          · rw [hr, Option.some.injEq] at hr''
            exact hr'' ▸ hjoin

end Tracks

/-- **The tokens of a text are joined.** -/
theorem tokenize_joined {text : String} {limits : ScanLimits} {toks : Array Token}
    (h : tokenize text limits = .ok toks) :
    ShapeState.init.Joined (Source.ofString text) 0 toks.toList := by
  unfold tokenize at h
  split_ifs at h
  dsimp only at h
  generalize hscan : scanText (Source.ofString text) limits = r at h
  obtain ⟨pieces, last⟩ := r
  rw [scanText] at hscan
  have hb : TokenBuilder.build ⟨Source.ofString text, LineIndex.build (Source.ofString text), {}⟩
      last.errorSite (Scanner.start (Source.ofString text) limits).pos #[]
      (Scanner.start (Source.ofString text) limits).run.1 = .ok toks := by
    rw [hscan]
    exact h
  obtain ⟨ts, hts, hjoin⟩ := (Tracks.start text limits).build_joined 0
    (fun htext => absurd htext (by simp [ShapeState.init, Frame.inText])) hb
  rw [hts]
  simpa using hjoin

/-! ## By position -/

namespace ShapeState

variable {src : Source}

/-- A reader that reads a list to its end reads every prefix short of its end. -/
lemma readAll_take_of_accepts : ∀ {st : ShapeState} {l : List Token}, st.accepts src l = true →
    ∀ j < l.length, ∃ st', st.readAll src (l.take j) = some st'
  | _, [], h, _, _ => by simp [accepts] at h
  | st, t :: ts, h, j, hj => by
    cases j with
    | zero => exact ⟨st, rfl⟩
    | succ j =>
      unfold accepts at h
      split_ifs at h with heof
      · simp only [Bool.and_eq_true, List.isEmpty_iff] at h
        simp [h.2] at hj
      · split at h
        · next st₁ hr =>
          obtain ⟨st', hst'⟩ := readAll_take_of_accepts h j (by simpa using hj)
          exact ⟨st', by simp [List.take_succ_cons, readAll_cons, hr, hst']⟩
        · cases h

/-- What joined tokens give at each position the reader reaches: read in text, the token starts
where the one before it stops (`last` before the first), and an f-string start covers its
opener. -/
lemma Joined.of_readAll :
    ∀ {st : ShapeState} {last : Nat} {l : List Token}, st.Joined src last l →
    ∀ {j st'} (hj : j < l.length), st.readAll src (l.take j) = some st' →
      (Frame.inText st'.frames = true →
        l[j].span.start = if j = 0 then last else (l.get ⟨j - 1, by omega⟩).span.stop) ∧
      ∀ d, l[j].kind = .fstringStart d → l[j].span.stop = l[j].span.start + d.openLength
  | _, _, [], _, _, _, hj, _ => absurd hj (by simp)
  | st, last, t :: ts, h, j, st', hj, hread => by
    obtain ⟨hglue, hopen, hrest⟩ := h
    cases j with
    | zero =>
      cases hread
      exact ⟨fun htext => by simpa using hglue htext, fun d hd => hopen d hd⟩
    | succ j =>
      simp only [List.take_succ_cons, readAll_cons, Option.bind_eq_some_iff] at hread
      obtain ⟨st₁, hr, hread⟩ := hread
      obtain ⟨hg, ho⟩ := Joined.of_readAll (hrest st₁ hr) (by simpa using hj) hread
      refine ⟨fun htext => ?_, fun d hd => ho d (by simpa using hd)⟩
      have := hg htext
      cases j with
      | zero => simpa using this
      | succ j => simpa using this

end ShapeState

/-- What the grammar's f-string productions rely on in the tokens of a text: they are ordered,
the shape reader reads them to their end, and every token it reads in text starts where the
token before it stops. -/
structure TokenStream.Laid (ts : TokenStream) : Prop where
  ordered : ts.Ordered
  accepts : ShapeState.init.accepts ts.src ts.tokens.toList = true
  joined : ShapeState.init.Joined ts.src 0 ts.tokens.toList

/-- **The tokens of a text are laid.** -/
theorem tokenize_laid {text : String} {limits : ScanLimits} {toks : Array Token}
    (h : tokenize text limits = .ok toks) : TokenStream.Laid ⟨Source.ofString text, toks⟩ :=
  ⟨tokenize_ordered h, tokenize_shape text limits h, tokenize_joined h⟩

namespace TokenStream.Laid

variable {ts : TokenStream} (hts : ts.Laid) {j : Nat}
include hts

/-- The reader reaches every position of the stream. -/
lemma stateAt_some (hj : j < ts.tokens.size) : ∃ st, ts.stateAt j = some st :=
  ShapeState.readAll_take_of_accepts hts.accepts j (by simpa using hj)

/-- **A token read in text starts where the token before it stops.** -/
lemma glued {st : ShapeState} (hst : ts.stateAt j = some st) (htext : Frame.inText st.frames = true)
    (h0 : 0 < j) (hj : j < ts.tokens.size) : ts.startAt j = ts.stopBefore j := by
  have hat := (hts.joined.of_readAll (by simpa using hj) hst).1 htext
  obtain ⟨i, rfl⟩ : ∃ i, j = i + 1 := ⟨j - 1, by omega⟩
  rw [startAt, stopBefore_succ (by omega), tokenAt_eq hj, tokenAt_eq (by omega)]
  simpa using hat

/-- An f-string start covers exactly its opener. -/
lemma opener {d : Delimiter} (hj : j < ts.tokens.size)
    (hk : (ts.tokenAt j).kind = .fstringStart d) :
    (ts.tokenAt j).span.stop = (ts.tokenAt j).span.start + d.openLength := by
  obtain ⟨st, hst⟩ := hts.stateAt_some hj
  have hfirst := (hts.joined.of_readAll (by simpa using hj) hst).2 d
  simp only [Array.getElem_toList] at hfirst
  rw [tokenAt_eq hj] at hk ⊢
  exact hfirst hk

end TokenStream.Laid

end ExprFront
