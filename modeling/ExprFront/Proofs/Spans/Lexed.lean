import Mathlib
import ExprFront.Proofs.WellFormed.Scan
import ExprFront.Proofs.Lockstep
import ExprFront.Proofs.StreamShape
import ExprFront.Proofs.Spans.Sound
import ExprFront.Syntax.Parse

/-!
# The lexer gives ordered token streams

Every token stream that `tokenize` returns is `TokenStream.Ordered`: its tokens lie one after
another inside the text, only the last is the end, each token other than the end covers at
least one byte, a string covers its opening and its closing quotes, and the text of an f-string
end lies inside it. With `Expr.ofTokens_nested`, every expression that `Expr.parse` returns has
spans that nest, within the text (`parse_spans_nest`).

Only one fact is new at the level of the scan: a string piece holds its closing quotes as well
as its opener (`Scanner.string_fits`). A string piece is the scan of a literal at an opener, in
code mode, and the walk through its body stops past its closing quotes.
-/

namespace ExprFront

namespace Delimiter

/-- An opener begins with a prefix letter or with its quote. -/
lemma head_of_ofOpener? {bs : List UInt8} {d : Delimiter} (h : ofOpener? bs = some d) :
    ∃ b tl, bs = b :: tl ∧ (isAsciiLetter b = true ∨ ∃ q, Quote.ofByte? b = some q) := by
  obtain ⟨pre, c, tl, rfl, hpre, hlen, hc⟩ := ofOpener?_split h
  cases pre with
  | cons x pre => exact ⟨x, _, rfl, Or.inl (hpre x (by simp))⟩
  | nil =>
    rw [ofOpener?_append hpre hlen hc] at h
    simp only [Option.bind_eq_some_iff, Option.map_eq_some_iff] at h
    obtain ⟨_, _, q, hq, _⟩ := h
    exact ⟨c, tl, rfl, Or.inr ⟨q, hq⟩⟩

end Delimiter

namespace Scanner

open ScanM

variable {s : String} {sc : Scanner} {b : UInt8}

set_option maxRecDepth 10000 in
lemma identStart_of_asciiLetter :
    ∀ b : UInt8, Delimiter.isAsciiLetter b = true → isIdentStartByte b = true := by
  decide

/-- A code token that begins with a quote is a quoted literal. -/
lemma codeStep_quoted {q : Quote} (hb : sc.src.byte sc.pos = b) (hq : Quote.ofByte? b = some q) :
    codeStep.run sc = (quoted sc.pos).run (sc.marked b) := by
  have hchar : byteChar b = '\x27' ∨ byteChar b = '"' := by
    unfold Quote.ofByte? at hq
    split at hq <;> simp_all
  simp only [codeStep, markExpression, run_get_bind, run_modify_bind, hb]
  rcases hchar with hc | hc <;> simp only [hc] <;> rfl

/-- At the opener of a literal, a step in code mode scans the literal. -/
lemma codeStep_opener {d : Delimiter}
    (hd : Delimiter.ofOpener? (sc.src.window sc.pos (min (sc.pos + 5) sc.src.size)) = some d) :
    codeStep.run sc = (literal sc.pos d).run (sc.marked (sc.src.byte sc.pos)) := by
  obtain ⟨b, tl, hwin, hb⟩ := Delimiter.head_of_ofOpener? hd
  have hbyte : sc.src.byte sc.pos = b := by
    have hhead := congrArg List.head? hwin
    simp only [Source.window, List.head?_map, List.head?_cons, Option.map_eq_some_iff,
      List.head?_range] at hhead
    obtain ⟨k, hk, rfl⟩ := hhead
    split_ifs at hk with h0
    simp only [Option.some.injEq] at hk
    rw [← hk, Nat.add_zero]
  rw [hbyte]
  rcases hb with hletter | ⟨q, hq⟩
  · rw [codeStep_word hbyte (identStart_of_asciiLetter b hletter)]
    simp only [word, run_openerAt?_bind, src_marked, hd]
  · rw [codeStep_quoted hbyte hq]
    simp only [quoted, run_openerAt?_bind, src_marked, hd]

/-- A literal scanned as a string holds its opener and its closing quotes. -/
lemma literal_string_fits (hsc : sc.Placed s) {d : Delimiter}
    (hd : Delimiter.ofOpener? (sc.src.window sc.pos (min (sc.pos + 5) sc.src.size)) = some d) :
    ((literal sc.pos d).run sc).1.tag = .string →
      d.openLength + d.closeLength ≤ ((literal sc.pos d).run sc).1.len := by
  simp only [literal, openFString, cutOffString, run_advance_bind, run_get_bind, run_ite,
    run_set_bind, run_fault, run_emit]
  split
  · split <;> simp
  · have hopen : CharBoundary s (sc.pos + d.openLength) := by
      rw [hsc.src_eq] at hd
      exact hsc.boundary.opener hd
    have hfits := Source.stringBodyEnd_fits (d := d) hopen
    rw [← hsc.src_eq] at hfits
    split
    · next j hj =>
      rw [hj] at hfits
      obtain ⟨k, hk, -, rfl⟩ := hfits
      simp only [run_moveTo_bind, run_emit]
      intro _
      omega
    · simp only [run_moveTo_bind, run_get_bind]
      split
      · split <;> simp
      · simp

/-- A step of a running scan reports the piece of the step of its mode. -/
lemma step_piece (hgo : sc.stopped = false) : (step.run sc).1 = (modeStep.run sc).1 := by
  simp only [step, run_get_bind, hgo, Bool.false_eq_true, if_false]
  rw [run_bind]
  generalize modeStep.run sc = r
  obtain ⟨tok, sc'⟩ := r
  dsimp only
  split <;> rfl

/-- **A string piece holds its opening and its closing quotes.** A step of a running scan that
reports a string read the opener of a delimiter `d` at its start, and covers at least the
opener and the closing quotes of `d`. -/
theorem string_fits (hsc : sc.Placed s) (hgo : sc.stopped = false)
    (hset : Frame.Settled sc.frames) (htag : (step.run sc).1.tag = .string) :
    ∃ d, Delimiter.ofOpener? (sc.src.window sc.pos (min (sc.pos + 5) sc.src.size)) = some d ∧
      d.openLength + d.closeLength ≤ (step.run sc).1.len := by
  obtain ⟨d, hd, -⟩ := (cooks_step hsc).opener (Or.inl htag)
  have hmode : sc.textDelimiter? = none := by
    cases hdelim : sc.textDelimiter? with
    | none => rfl
    | some d' =>
      have htext := inText_frames_of_text hset hdelim
      have hmove := move_step hsc hgo hset
      generalize step.run sc = r at hmove htag
      cases hmove <;> simp_all
  have hpiece : (step.run sc).1 = ((literal sc.pos d).run (sc.marked (sc.src.byte sc.pos))).1 := by
    rw [step_piece hgo, ← codeStep_opener hd]
    simp only [modeStep, run_get_bind, hmode]
  have hmarked : (sc.marked (sc.src.byte sc.pos)).Placed s := ⟨hsc.src_eq, hsc.boundary⟩
  rw [hpiece] at htag ⊢
  exact ⟨d, hd, literal_string_fits hmarked (by simpa using hd) htag⟩

end Scanner

/-! ## Tokens laid in order -/

namespace Token

/-- What an ordered stream asks of each of its tokens on its own, in the text `src`: its span is
well formed and ends inside the text, it covers a byte unless it is the end, a string covers its
opening and its closing quotes, and the text of an f-string end lies inside it. -/
structure Fits (src : Source) (t : Token) : Prop where
  wf : t.span.WF
  solid : t.kind ≠ .eof → t.span.start < t.span.stop
  bounded : t.span.stop ≤ src.size
  strings : ∀ d, t.kind = .string d → t.span.start + d.openLength + d.closeLength ≤ t.span.stop
  ends : ∀ text, t.kind = .fstringEnd text → text.WF ∧ text.Inside t.span

/-- Tokens laid before the offset `pos` of the text `src`: each fits the text and is not the end,
and each stops before the next starts. -/
structure Laid (src : Source) (acc : Array Token) (pos : Nat) : Prop where
  fits : ∀ t ∈ acc, t.Fits src ∧ t.kind ≠ .eof
  chain : ∀ i (hi : i + 1 < acc.size), acc[i].span.stop ≤ acc[i + 1].span.start
  before : ∀ t ∈ acc, t.span.stop ≤ pos

namespace Laid

variable {src : Source} {acc : Array Token} {pos pos' : Nat} {t : Token}

lemma empty : Laid src #[] pos := ⟨by simp, fun i hi => absurd hi (by simp), by simp⟩

lemma mono (h : Laid src acc pos) (hle : pos ≤ pos') : Laid src acc pos' :=
  ⟨h.fits, h.chain, fun t ht => (h.before t ht).trans hle⟩

/-- A token from where the others stop keeps them in order. -/
lemma chain_push (h : Laid src acc pos) (hstart : pos ≤ t.span.start) :
    ∀ i (hi : i + 1 < (acc.push t).size),
      (acc.push t)[i].span.stop ≤ (acc.push t)[i + 1].span.start := by
  intro i hi
  rw [Array.size_push] at hi
  rcases Nat.lt_or_eq_of_le (Nat.le_of_lt_succ hi) with hlt | heq
  · rw [Array.getElem_push_lt (by omega), Array.getElem_push_lt hlt]
    exact h.chain i hlt
  · rw [Array.getElem_push_lt (by omega), Array.getElem_push, dif_neg (by omega)]
    exact (h.before _ (Array.getElem_mem _)).trans hstart

/-- A token other than the end, from where the others stop up to `pos'`. -/
lemma push (h : Laid src acc pos) (ht : t.Fits src) (hk : t.kind ≠ .eof)
    (hstart : pos ≤ t.span.start) (hstop : t.span.stop ≤ pos') : Laid src (acc.push t) pos' := by
  refine ⟨?_, h.chain_push hstart, ?_⟩
  · simp only [Array.mem_push]
    rintro t' (ht' | rfl)
    · exact h.fits t' ht'
    · exact ⟨ht, hk⟩
  · simp only [Array.mem_push]
    rintro t' (ht' | rfl)
    · have := ht.wf
      unfold Span.WF at this
      have := h.before t' ht'
      omega
    · exact hstop

/-- The end, from where the others stop, completes an ordered stream. -/
lemma ordered (h : Laid src acc pos) (ht : t.Fits src) (hk : t.kind = .eof)
    (hstart : pos ≤ t.span.start) : TokenStream.Ordered ⟨src, acc.push t⟩ := by
  have hfits : ∀ i (hi : i < (acc.push t).size),
      (acc.push t)[i].Fits src ∧ ((acc.push t)[i].kind = .eof ↔ i + 1 = (acc.push t).size) := by
    intro i hi
    rw [Array.size_push] at hi ⊢
    rw [Array.getElem_push]
    split
    · next hlt =>
      obtain ⟨hf, hne⟩ := h.fits _ (Array.getElem_mem hlt)
      exact ⟨hf, ⟨fun he => absurd he hne, fun he => by omega⟩⟩
    · exact ⟨ht, ⟨fun _ => by omega, fun _ => hk⟩⟩
  exact
    { nonempty := by simp
      eof_iff := fun i hi => (hfits i hi).2
      wf := fun i hi => (hfits i hi).1.wf
      solid := fun i hi => (hfits i hi).1.solid
      chain := h.chain_push hstart
      bounded := fun i hi => (hfits i hi).1.bounded
      strings := fun i hi => (hfits i hi).1.strings
      ends := fun i hi => (hfits i hi).1.ends }

end Laid

end Token

/-- The reader takes an f-string end only where it closes a literal, less its closing quotes:
the end's text lies inside it. -/
lemma ShapeState.ends_of_read {src : Source} {st st' : ShapeState} {t : Token} {text : Span}
    (hr : st.read src t = some st') (hk : t.kind = .fstringEnd text) :
    text.WF ∧ text.Inside t.span := by
  simp only [ShapeState.read, Option.map_eq_some_iff] at hr
  obtain ⟨frames, hframes, -⟩ := hr
  split at hframes
  · obtain ⟨d, o, p, hfits⟩ : ∃ d o p, Frame.EndFits src d o p t text := by
      rcases hfs : st.frames with _ | ⟨_ | ⟨d, o, p⟩ | _ | _, rest⟩ <;>
        simp [hfs, Frame.readText, hk] at hframes
      exact ⟨d, o, p, hframes.1⟩
    obtain ⟨rfl, hle, -⟩ := hfits
    exact ⟨by simp only [Span.WF]; omega, le_rfl, Nat.sub_le _ _⟩
  · simp [Frame.readCode, hk] at hframes

/-- The builder makes a string token only of a string piece, with the delimiter it reads back. -/
lemma TokenBuilder.classify_string {tb tb' : TokenBuilder} {tag : RawTag} {span : Span}
    {d : Delimiter} (hc : tb.classify tag span = .ok (some (.string d), tb')) :
    tag = .string ∧ tb.delimiterAt span = .ok d := by
  unfold TokenBuilder.classify at hc
  split_ifs at hc with htriv
  · cases hc
  cases tag with
  | string =>
    cases hd : tb.delimiterAt span with
    | error e => simp [hd] at hc
    | ok d' =>
      simp only [hd] at hc
      cases hc
      exact ⟨rfl, rfl⟩
  | ident => cases hw : Keyword.ofWord? (tb.src.slice span) <;> simp [hw] at hc
  | fstringStart =>
    cases hd : tb.delimiterAt span with
    | error e => simp [hd] at hc
    | ok d' => simp [hd] at hc
  | fstringEnd =>
    cases hp : tb.popFString span with
    | error e => simp [hp] at hc
    | ok r =>
      obtain ⟨k, tb₁⟩ := r
      obtain ⟨e, rest, -, rfl, -⟩ := TokenBuilder.popFString_ok hp
      simp [hp] at hc
  | _ => simp at hc

/-! ## Along the run -/

namespace Tracks

open Scanner

variable {text : String} {tb : TokenBuilder} {st : ShapeState} {sc : Scanner}

/-- The token the builder makes of a piece of `n` bytes from the scanner's offset fits the text:
a string holds both quotes of the opener the scan read, and the text of an f-string end that the
reader takes lies inside it. -/
lemma fits_token (h : Tracks text tb st sc) {tag : RawTag} {n : Nat} {k : TokenKind}
    {tb' : TokenBuilder} {lc : LineCol} {st' : ShapeState} (hlen : 0 < n)
    (hend : CharBoundary text (sc.pos + n))
    (hstring : tag = .string → ∃ d, Delimiter.ofOpener?
      (sc.src.window sc.pos (min (sc.pos + 5) sc.src.size)) = some d ∧
        d.openLength + d.closeLength ≤ n)
    (hc : tb.classify tag ⟨sc.pos, sc.pos + n⟩ = .ok (some k, tb'))
    (hr : st.read (Source.ofString text) ⟨k, ⟨sc.pos, sc.pos + n⟩, lc⟩ = some st') :
    Token.Fits (Source.ofString text) ⟨k, ⟨sc.pos, sc.pos + n⟩, lc⟩ := by
  have hstr : ∀ d, k = .string d → d.openLength + d.closeLength ≤ n := by
    intro d hkd
    subst hkd
    obtain ⟨rfl, hdelim⟩ := TokenBuilder.classify_string hc
    obtain ⟨d', hd', hfit⟩ := hstring rfl
    have hwin := TokenBuilder.delimiterAt_window h.src_eq h.placed.boundary hend
      (h.placed.src_eq ▸ hd') (by omega)
    rw [hdelim, Except.ok.injEq] at hwin
    subst hwin
    exact hfit
  have hbound : sc.pos + n ≤ (Source.ofString text).size := by simpa using hend.le_size
  exact ⟨by simp [Span.WF], fun _ => by simp only; omega, hbound,
    fun d hkd => by have := hstr d hkd; simp only; omega,
    fun _ hkt => ShapeState.ends_of_read hr hkt⟩

/-- **Along the whole run, the builder lays its tokens in order.** From tokens laid before the
scanner's offset, with the builder and the reader following the scan, every stream the builder
returns is ordered. -/
theorem build_ordered (h : Tracks text tb st sc) {site : Option Span} {acc toks : Array Token}
    (hacc : Token.Laid (Source.ofString text) acc sc.pos)
    (hb : tb.build site sc.pos acc sc.run.1 = .ok toks) :
    TokenStream.Ordered ⟨Source.ofString text, toks⟩ := by
  -- by induction on what is left to scan, as for the reader
  induction hp : sc.progress using Nat.strongRecOn generalizing sc tb st acc with
  | ind p ih =>
  have hmove := move_step h.placed h.running h.settled
  have hadv := h.placed.stepAdvance
  have hlt := progress_step_lt h.placed
  have hstring := string_fits h.placed h.running h.settled
  rw [Scanner.run] at hb
  generalize ScanM.step.run sc = r at hmove hadv hlt hstring hb
  obtain ⟨⟨tag, n⟩, sc'⟩ := r
  have hpos : sc'.pos = sc.pos + n := hadv.pos_eq
  have hbound : sc.pos + n ≤ (Source.ofString text).size := by
    simpa [hpos] using hadv.placed.boundary.le_size
  by_cases he : tag = .eof
  · subst he
    simp [TokenBuilder.build, TokenBuilder.classify, RawTag.isTrivia] at hb
    subst hb
    refine hacc.ordered ⟨by simp [Span.WF], fun hk => absurd rfl hk, hbound, ?_, ?_⟩ rfl le_rfl
    · simp
    · simp
  · have hless : sc'.progress < sc.progress := hlt he
    simp only [beq_iff_eq, he, if_false, hless, if_true] at hb
    rw [TokenBuilder.build] at hb
    split at hb
    · cases hb
    · next hnot =>
      split at hb
      · cases hb
      · next kind? tb' hc =>
        simp only [beq_iff_eq, he, if_false] at hb
        have hnf : tag.isFault = false := by
          cases tag <;> first | rfl | exact absurd rfl (hnot _)
        have hgo' : sc'.stopped = false := by simpa [h.running, hnf] using hadv.stopped_eq
        have hlen : 0 < n := by
          rcases hadv.covers h.running with h' | h' | h'
          · exact absurd h' he
          · simp [hnf] at h'
          · exact h'
        have hnext := h.step hmove hpos hadv.placed hgo' he hc
        cases kind? with
        | none =>
          exact ih _ (hp ▸ hless) hnext (hacc.mono (by omega)) (by rw [hpos]; exact hb) rfl
        | some k =>
          dsimp only at hb
          obtain ⟨hk, hread⟩ := hnext
          obtain ⟨st', hr, htr⟩ := hread (tb.index.lineCol sc.pos)
          have hfits := h.fits_token hlen (hpos ▸ hadv.placed.boundary) hstring hc hr
          exact ih _ (hp ▸ hless) htr (hacc.push hfits hk le_rfl (by simp [hpos]))
            (by rw [hpos]; exact hb) rfl

end Tracks

/-- **The lexer gives ordered token streams**: the tokens lie one after another inside the text,
each but the final end of input covering a byte. -/
theorem tokenize_ordered {text : String} {limits : ScanLimits} {toks : Array Token}
    (h : tokenize text limits = .ok toks) : TokenStream.Ordered ⟨Source.ofString text, toks⟩ := by
  unfold tokenize at h
  split_ifs at h
  dsimp only at h
  generalize hscan : scanText (Source.ofString text) limits = r at h
  obtain ⟨pieces, last⟩ := r
  rw [scanText] at hscan
  have hb : TokenBuilder.build ⟨Source.ofString text, LineIndex.build (Source.ofString text), {}⟩
      last.errorSite (Scanner.start (Source.ofString text) limits).pos #[]
      (Scanner.start (Source.ofString text) limits).run.1 = .ok toks := by
    rw [hscan]
    exact h
  exact (Tracks.start text limits).build_ordered Token.Laid.empty hb

/-- **The spans of a parsed expression nest.** Every node has a non-empty span within the text,
its children lie inside it one after another, and its other spans lie where
`Expr.LocalSpans` says. -/
theorem parse_spans_nest {text : String} {limits : ScanLimits} {e : Expr}
    (h : Expr.parse text limits = .ok e) {d : Expr} (hd : d.Below e) :
    d.Nested ∧ d.span.stop ≤ text.utf8ByteSize := by
  unfold Expr.parse at h
  split at h
  · cases h
  · next toks htoks =>
    split at h
    · next e' he =>
      cases h
      obtain ⟨hnest, hsize⟩ := Expr.ofTokens_nested (tokenize_ordered htoks) he
      obtain ⟨hd', hin⟩ := hnest.reachable hd
      exact ⟨hd', hin.2.trans hsize⟩
    · cases h

/-- Whether a parse gave the list of the two ellipses of `[..., ...]`: expressions have no
decidable equality, so the kernel runs the parse and checks its shape with this. -/
def isEllipsesPair : Except ParseError Expr → Bool
  | .ok (.list [.constant .ellipsis ⟨1, 4⟩, .constant .ellipsis ⟨6, 9⟩] ⟨0, 10⟩) => true
  | _ => false

theorem parse_spans_nest_ellipses :
    Expr.parse "[..., ...]" {} =
        .ok (.list [.constant .ellipsis ⟨1, 4⟩, .constant .ellipsis ⟨6, 9⟩] ⟨0, 10⟩) ∧
      (Expr.list [.constant .ellipsis ⟨1, 4⟩, .constant .ellipsis ⟨6, 9⟩] ⟨0, 10⟩).Nested ∧
      (Expr.list [.constant .ellipsis ⟨1, 4⟩, .constant .ellipsis ⟨6, 9⟩] ⟨0, 10⟩).span.stop ≤ 10 := by
  have hcheck : isEllipsesPair (Expr.parse "[..., ...]" {}) = true := by decide +kernel
  have h : Expr.parse "[..., ...]" {} =
      .ok (.list [.constant .ellipsis ⟨1, 4⟩, .constant .ellipsis ⟨6, 9⟩] ⟨0, 10⟩) := by
    unfold isEllipsesPair at hcheck
    split at hcheck
    · assumption
    · cases hcheck
  exact ⟨h, parse_spans_nest h (.refl _)⟩

end ExprFront
