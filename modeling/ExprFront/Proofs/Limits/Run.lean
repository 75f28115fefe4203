import Mathlib
import ExprFront.Proofs.Limits.Step
import ExprFront.Proofs.ErrorSite
import ExprFront.Syntax.Parse

/-!
# The nesting limits act only by refusing

A step that opens an f-string, or in text a field, is *refused* by limits that allow no more
(`ScanLimits.Refuses`): limits that allow as many f-strings as are open, or fewer format-spec
fields than the literal has open. Compared with a scan that no limit stops, a scan under any
limits takes the same steps up to the first step its limits refuse, and that step gives a fault
`tooDeeplyNested` over the piece it refuses (`Scanner.after_withLimits`,
`Scanner.pieceAt_withLimits_of_refuses`).

Limits beyond the length of the text stop no scan of it (`ScanLimits.unbounded`,
`unbounded_never_refuses`): every open f-string and field has an opener behind the scanner.

So the result of lexing, and of parsing, under given limits is that under unbounded limits,
unless those limits refuse a step of the unbounded scan; then it is the error `tooDeeplyNested`
at the first step they refuse.
-/

namespace ExprFront

/-- Limits refuse the step from `sc`, which gives the piece `t` where no limit stops it: the
step opens an f-string where the limits allow no more than are open, or, in text, opens a field
of a literal that already has more fields open than the limit on format specs allows. -/
def ScanLimits.Refuses (L : ScanLimits) (sc : Scanner) (t : RawToken) : Prop :=
  (t.tag = .fstringStart ∧ L.maxFStringDepth ≤ sc.literals.depth) ∨
  (t.tag = .punct .lbrace ∧ sc.textDelimiter?.isSome = true ∧
    L.maxFormatSpecDepth < sc.fieldCount)

namespace Scanner

open ScanM

variable {s : String} {sc : Scanner}

/-- A step that makes a check, and whose own limits do not refuse it: those limits pass the
check, and the step under any limits is the pass or the refusal, as they pass it or not. -/
lemma step_of_checks {c : NestCheck} {t : RawToken} {p r : Scanner}
    (hm : step.Checks sc c (t, p) (⟨.fault .tooDeeplyNested, t.len⟩, r))
    (hgo : (step.run sc).1.tag ≠ .fault .tooDeeplyNested) :
    step.run sc = (t, p.withLimits sc.limits) ∧ ∀ L, step.run (sc.withLimits L) =
      if c.passes L then (t, p.withLimits L) else (⟨.fault .tooDeeplyNested, t.len⟩, r.withLimits L) := by
  have hown := hm sc.limits
  rw [withLimits_limits] at hown
  refine ⟨?_, hm⟩
  split at hown
  · exact hown
  · rw [hown] at hgo
    exact absurd rfl hgo

/-- **One step under other limits.** Where the scanner's own limits do not refuse the step,
limits that do not refuse it either take the same step, and limits that do refuse it give a
fault `tooDeeplyNested` over the piece the step would give, reported there. -/
lemma step_withLimits (hsc : sc.Placed s) (hgo : (step.run sc).1.tag ≠ .fault .tooDeeplyNested)
    (L : ScanLimits) :
    (¬ L.Refuses sc (step.run sc).1 →
      step.run (sc.withLimits L) = ((step.run sc).1, (step.run sc).2.withLimits L)) ∧
    (L.Refuses sc (step.run sc).1 →
      (step.run (sc.withLimits L)).1 = ⟨.fault .tooDeeplyNested, (step.run sc).1.len⟩ ∧
      (step.run (sc.withLimits L)).2.errorSite = some ⟨sc.pos, sc.pos + (step.run sc).1.len⟩) := by
  cases limitUse_step hsc with
  | blind hm hlit hfield =>
    refine ⟨fun _ => by simpa [NestCheck.passes] using hm L, fun hre => ?_⟩
    rcases hre with ⟨hs, -⟩ | ⟨hb, htext, -⟩
    · exact absurd hs hlit.1
    · exact absurd hb (hfield htext)
  | @literal n p r hm hsite =>
    obtain ⟨hown, hrun⟩ := step_of_checks (t := ⟨.fstringStart, n⟩) hm hgo
    rw [hown]
    have hre : L.Refuses sc ⟨.fstringStart, n⟩ ↔ ¬ (NestCheck.literal sc.literals.depth).passes L := by
      simp [ScanLimits.Refuses, NestCheck.passes]
    refine ⟨fun hno => ?_, fun hyes => ?_⟩
    · rw [hrun, if_pos (by simpa [hre] using hno)]
      simp
    · rw [hrun, if_neg (hre.mp hyes)]
      exact ⟨rfl, hsite⟩
  | @field n p r htext hm hsite =>
    obtain ⟨hown, hrun⟩ := step_of_checks (t := ⟨.punct .lbrace, n⟩) hm hgo
    rw [hown]
    have hre : L.Refuses sc ⟨.punct .lbrace, n⟩ ↔ ¬ (NestCheck.field sc.fieldCount).passes L := by
      simp [ScanLimits.Refuses, NestCheck.passes, htext]
    refine ⟨fun hno => ?_, fun hyes => ?_⟩
    · rw [hrun, if_pos (by simpa [hre] using hno)]
      simp
    · rw [hrun, if_neg (hre.mp hyes)]
      exact ⟨rfl, hsite⟩

/-- A step keeps the scanner's limits. -/
lemma limits_step (hsc : sc.Placed s) : (step.run sc).2.limits = sc.limits := by
  cases limitUse_step hsc with
  | blind hm =>
    have h := hm sc.limits
    rw [withLimits_limits] at h
    rw [h]
    simp [NestCheck.passes]
  | literal hm =>
    have h := hm sc.limits
    rw [withLimits_limits] at h
    rw [h]
    split <;> rfl
  | field _ hm =>
    have h := hm sc.limits
    rw [withLimits_limits] at h
    rw [h]
    split <;> rfl

lemma limits_after (hsc : sc.Placed s) (k : Nat) : (sc.after k).limits = sc.limits := by
  induction k with
  | zero => rfl
  | succ k ih => rw [after_succ, limits_step (hsc.after k), ih]

lemma Placed.withLimits (hsc : sc.Placed s) (L : ScanLimits) : (sc.withLimits L).Placed s :=
  ⟨hsc.src_eq, hsc.boundary⟩

section Reference

/-! ## A scan under other limits

Here `sc` is a scanner on a boundary whose run no limit of its own refuses. -/

variable (hsc : sc.Placed s) (hU : ∀ k, (sc.pieceAt k).tag ≠ .fault .tooDeeplyNested)
  (L : ScanLimits)
include hsc hU

/-- **Up to the first step other limits refuse**, the scan under them reaches the scanners the
reference run reaches, under those limits. -/
lemma after_withLimits {k : Nat} (hk : ∀ i < k, ¬ L.Refuses (sc.after i) (sc.pieceAt i)) :
    (sc.withLimits L).after k = (sc.after k).withLimits L := by
  induction k with
  | zero => rfl
  | succ k ih =>
    have hstep := (step_withLimits (hsc.after k) (by rw [step_after]; exact hU k) L).1
    rw [step_after] at hstep
    rw [after_succ, ih fun i hi => hk i (by omega), hstep (hk k (by omega))]

/-- A step that the limits do not refuse, with none refused before it, gives the same piece. -/
lemma pieceAt_withLimits {k : Nat} (hk : ∀ i ≤ k, ¬ L.Refuses (sc.after i) (sc.pieceAt i)) :
    (sc.withLimits L).pieceAt k = sc.pieceAt k := by
  have hstep := (step_withLimits (hsc.after k) (by rw [step_after]; exact hU k) L).1
  rw [step_after] at hstep
  rw [pieceAt, after_withLimits hsc hU L fun i hi => hk i hi.le, hstep (hk k le_rfl)]

/-- **The first step the limits refuse** gives a fault `tooDeeplyNested` as long as the piece the
reference run gives there, and reports it over that piece. -/
lemma pieceAt_withLimits_of_refuses {k : Nat} (hk : ∀ i < k, ¬ L.Refuses (sc.after i) (sc.pieceAt i))
    (hre : L.Refuses (sc.after k) (sc.pieceAt k)) :
    (sc.withLimits L).pieceAt k = ⟨.fault .tooDeeplyNested, (sc.pieceAt k).len⟩ ∧
      ((sc.withLimits L).after (k + 1)).errorSite =
        some ⟨(sc.after k).pos, (sc.after k).pos + (sc.pieceAt k).len⟩ := by
  have hstep := (step_withLimits (hsc.after k) (by rw [step_after]; exact hU k) L).2
  rw [step_after] at hstep
  obtain ⟨hpiece, hsite⟩ := hstep hre
  rw [pieceAt, after_succ, after_withLimits hsc hU L hk]
  exact ⟨hpiece, hsite⟩

/-- Limits that refuse no step of the reference run give the same run, under those limits. -/
lemma run_withLimits (hL : ∀ k, ¬ L.Refuses (sc.after k) (sc.pieceAt k)) :
    (sc.withLimits L).run = (sc.run.1, sc.run.2.withLimits L) := by
  classical
  have hex : ∃ e, (sc.pieceAt e).tag = .eof := by
    obtain ⟨e, -, he⟩ := exists_pieceAt_eof hsc
    exact ⟨e, he⟩
  have hpieces : (sc.withLimits L).pieceAt = sc.pieceAt :=
    funext fun i => pieceAt_withLimits hsc hU L fun j _ => hL j
  have hne : ∀ i < Nat.find hex, (sc.pieceAt i).tag ≠ .eof := fun i hi => Nat.find_min hex hi
  rw [run_eq_pieces hsc hne (Nat.find_spec hex),
    run_eq_pieces (hsc.withLimits L) (fun i hi => by rw [hpieces]; exact hne i hi)
      (by rw [hpieces]; exact Nat.find_spec hex),
    after_withLimits hsc hU L fun i _ => hL i, hpieces]

end Reference

end Scanner

/-! ## Limits beyond the text

Every open f-string and every field of the innermost one has a frame of its own, and every frame
was opened by a step that consumed text; so a running scan has no more of them open than it has
read bytes. -/

@[simp] lemma Frame.length_markPiece (frames : List Frame) :
    (Frame.markPiece frames).length = frames.length := by
  rcases frames with _ | ⟨_ | _ | _ | _, rest⟩ <;> rfl

/-- Limits that allow more f-strings than the text has bytes, and as many format-spec fields. -/
def ScanLimits.unbounded (text : String) : ScanLimits :=
  ⟨text.utf8ByteSize + 1, text.utf8ByteSize⟩

namespace Scanner

open ScanM

variable {s : String} {sc : Scanner}

/-- Each open literal has a frame of its own. -/
lemma depth_le_frames (sc : Scanner) : sc.literals.depth ≤ sc.frames.length := by
  have hlit : ∀ lits : List (OpenLiteral LiteralProgress),
      lits.length ≤ (lits.flatMap OpenLiteral.frames).length := by
    intro lits
    induction lits with
    | nil => rfl
    | cons lit lits ih => simp [OpenLiteral.frames]; omega
  have := hlit sc.literals.entries
  simp only [frames, List.length_append]
  exact Nat.le_add_right_of_le this

/-- Each open field of the innermost literal has a frame of its own. -/
lemma fieldCount_le_frames (sc : Scanner) : sc.fieldCount ≤ sc.frames.length := by
  have hfield : ∀ fls : List FieldProgress, fls.length ≤ (fls.flatMap FieldProgress.frames).length := by
    intro fls
    induction fls with
    | nil => rfl
    | cons fl fls ih => simp [FieldProgress.frames]; omega
  unfold fieldCount frames
  cases hent : sc.literals.entries with
  | nil => simp [DelimiterStack.state?, hent]
  | cons lit lits =>
    have := hfield lit.state.fields
    simp only [DelimiterStack.state?, hent, List.head?_cons, Option.map_some, List.flatMap_cons,
      OpenLiteral.frames, List.length_append]
    omega

/-- **One step opens at most one frame**, and only over a piece it consumes. -/
lemma frames_length_step (hsc : sc.Placed s) (hgo : sc.stopped = false)
    (hset : Frame.Settled sc.frames) (hnf : (step.run sc).1.tag.isFault = false) :
    (step.run sc).2.frames.length ≤ sc.frames.length + (step.run sc).1.len := by
  have hmove := move_step hsc hgo hset
  have hadv := hsc.stepAdvance
  generalize step.run sc = r at hmove hadv hnf ⊢
  obtain ⟨⟨tag, n⟩, sc'⟩ := r
  dsimp only at hnf ⊢
  have hlen : tag ≠ .eof → 0 < n := fun he => by
    rcases hadv.covers hgo with h | h | h
    · exact absurd h he
    · simp only [h, Bool.true_eq_false] at hnf
    · exact h
  cases hmove with
  | fault => simp [RawTag.isFault] at hnf
  | eof =>
    have hsame : sc' = sc := (hadv.atEnd rfl).1
    subst hsame
    omega
  | code _ _ _ hframes => rw [hframes]; omega
  | openBracket _ _ hframes => have := hlen (by simp); simp only [hframes, List.length_cons]; omega
  | closeBracket _ hframes => simp only [hframes, List.length_cons]; omega
  | endField hframes => simp only [hframes, List.length_cons]; omega
  | beginSpec hframes hframes' => simp only [hframes, hframes', List.length_cons]; omega
  | openLiteral _ _ _ hframes => have := hlen (by simp); simp only [hframes, List.length_cons]; omega
  | middle _ _ _ _ hframes => simp only [hframes, Frame.length_markPiece]; omega
  | beginField _ hframes =>
    have := hlen (by simp)
    simp only [hframes, List.length_cons, Frame.length_markPiece]
    omega
  | endSpec hframes => simp only [hframes, List.length_cons]; omega
  | closeLiteral hframes _ _ _ => simp only [hframes, List.length_cons]; omega

/-- **Along a run, no more frames are open than bytes read**, up to the first fault. -/
lemma frames_length_le_pos (text : String) (limits : ScanLimits) {k : Nat}
    (hnf : ∀ i < k, ((start (Source.ofString text) limits).pieceAt i).tag.isFault = false) :
    ((start (Source.ofString text) limits).after k).frames.length ≤
      ((start (Source.ofString text) limits).after k).pos := by
  induction k with
  | zero => exact Nat.zero_le _
  | succ k ih =>
    have hk := ih fun i hi => hnf i (by omega)
    obtain ⟨tb, -, hls⟩ := (Lockstep.start text limits).after k fun i hi => hnf i (by omega)
    obtain ⟨st, htr⟩ := hls.tracks
    have hstep := frames_length_step htr.placed htr.running htr.settled (hnf k (by omega))
    have hpos := htr.placed.stepAdvance.pos_eq
    rw [after_succ]
    omega

/-- A step whose scanner's limits allow one more f-string and one more field than it has open
is refused by none of them. -/
lemma step_ne_tooDeep (hsc : sc.Placed s) (hdepth : sc.literals.depth < sc.limits.maxFStringDepth)
    (hcount : sc.fieldCount ≤ sc.limits.maxFormatSpecDepth) :
    (step.run sc).1.tag ≠ .fault .tooDeeplyNested := by
  cases limitUse_step hsc with
  | blind _ hlit _ => exact hlit.2
  | literal hm _ =>
    have h := hm sc.limits
    rw [withLimits_limits, if_pos (by simpa [NestCheck.passes] using hdepth)] at h
    rw [h]
    simp
  | field _ hm _ =>
    have h := hm sc.limits
    rw [withLimits_limits, if_pos (by simpa [NestCheck.passes] using hcount)] at h
    rw [h]
    simp

end Scanner

open Scanner in
/-- **Limits beyond the text stop no scan of it.** -/
lemma unbounded_never_refuses (text : String) (k : Nat) :
    ((start (Source.ofString text) (ScanLimits.unbounded text)).pieceAt k).tag ≠
      .fault .tooDeeplyNested := by
  have hsc := placed_start text (ScanLimits.unbounded text)
  by_cases hf : ∃ i < k, ((start (Source.ofString text) (ScanLimits.unbounded text)).pieceAt i).tag.isFault
  · obtain ⟨i, hi, hfi⟩ := hf
    rw [pieceAt_of_lt hsc (Or.inr hfi) hi]
    nofun
  · have hnf : ∀ i < k, ((start (Source.ofString text) (ScanLimits.unbounded text)).pieceAt i).tag.isFault = false :=
      fun i hi => by simpa using fun h => hf ⟨i, hi, h⟩
    have hframes := frames_length_le_pos text (ScanLimits.unbounded text) hnf
    have hsize := (hsc.after k).boundary.le_size
    have hlim : ((start (Source.ofString text) (ScanLimits.unbounded text)).after k).limits =
        ScanLimits.unbounded text := limits_after hsc k
    have hdepth := depth_le_frames ((start (Source.ofString text) (ScanLimits.unbounded text)).after k)
    have hcount := fieldCount_le_frames ((start (Source.ofString text) (ScanLimits.unbounded text)).after k)
    refine step_ne_tooDeep (hsc.after k) ?_ ?_ <;> rw [hlim]
    · exact Nat.lt_succ_of_le (hdepth.trans (hframes.trans hsize))
    · exact hcount.trans (hframes.trans hsize)

/-! ## Lexing under other limits -/

open Scanner

section Lexing

variable {text : String} {U L : ScanLimits}

/-- A fresh scan under limits `L` is a fresh scan under other limits, put under `L`. -/
lemma start_eq_withLimits (src : Source) (U L : ScanLimits) :
    Scanner.start src L = (Scanner.start src U).withLimits L := rfl

/-- **Limits that refuse no step** of a scan under limits that refuse none lex the text alike. -/
lemma tokenize_eq_of_not_refuses
    (hU : ∀ k, ((start (Source.ofString text) U).pieceAt k).tag ≠ .fault .tooDeeplyNested)
    (hL : ∀ k, ¬ L.Refuses ((start (Source.ofString text) U).after k)
      ((start (Source.ofString text) U).pieceAt k)) :
    tokenize text L = tokenize text U := by
  unfold tokenize scanText
  split
  · rfl
  · dsimp only
    rw [start_eq_withLimits _ U L, run_withLimits (placed_start text U) hU L hL]
    generalize (start (Source.ofString text) U).run = r
    obtain ⟨pieces, last⟩ := r
    rfl

/-- **At the first step the limits refuse**, lexing fails with `tooDeeplyNested`, over the piece
that a scan under limits refusing nothing gives there, inside the f-strings open there. -/
lemma tokenize_of_refuses (hsize : text.utf8ByteSize ≤ maxSourceSize)
    (hU : ∀ k, ((start (Source.ofString text) U).pieceAt k).tag ≠ .fault .tooDeeplyNested) {k : Nat}
    (hk : ∀ i < k, ¬ L.Refuses ((start (Source.ofString text) U).after i)
      ((start (Source.ofString text) U).pieceAt i))
    (hre : L.Refuses ((start (Source.ofString text) U).after k)
      ((start (Source.ofString text) U).pieceAt k)) :
    let u := start (Source.ofString text) U
    tokenize text L = .error ⟨⟨(u.after k).pos, (u.after k).pos + (u.pieceAt k).len⟩,
      .tooDeeplyNested, (u.after k).literals.errorContext⟩ := by
  dsimp only
  have hsc := placed_start text U
  obtain ⟨hpiece, hsite⟩ := pieceAt_withLimits_of_refuses hsc hU L hk hre
  -- the refused piece opens something, so no fault of the reference run comes before it
  have hopen : ((start (Source.ofString text) U).pieceAt k).tag.isFault = false ∧
      ((start (Source.ofString text) U).pieceAt k).tag ≠ .eof := by
    rcases hre with ⟨h, -⟩ | ⟨h, -⟩ <;> rw [h] <;> exact ⟨rfl, by simp⟩
  have hnf : ∀ i < k, ((start (Source.ofString text) L).pieceAt i).tag.isFault = false := by
    intro i hi
    rw [start_eq_withLimits _ U L, pieceAt_withLimits hsc hU L fun j hj => hk j (by omega)]
    cases hf : ((start (Source.ofString text) U).pieceAt i).tag.isFault
    · rfl
    · exact absurd (by rw [pieceAt_of_lt hsc (Or.inr hf) hi]) hopen.2
  have h := tokenize_of_fault hsize (f := .tooDeeplyNested)
    (by rw [start_eq_withLimits _ U L, hpiece]) hnf
  simp only [start_eq_withLimits _ U L, hsite, Option.getD_some,
    after_withLimits hsc hU L hk] at h
  exact h

end Lexing

/-! ## Measured against limits beyond the text -/

@[simp] lemma LexErrorKind.ofFault_eq_tooDeeplyNested {f : ScanFault} {site : Span} {src : Source} :
    LexErrorKind.ofFault f site src = .tooDeeplyNested ↔ f = .tooDeeplyNested := by
  cases f <;> simp only [LexErrorKind.ofFault] <;> try split
  all_goals simp

/-- A text too large lexes under no limits. -/
lemma tokenize_of_too_large {text : String} (L : ScanLimits)
    (hsize : ¬ text.utf8ByteSize ≤ maxSourceSize) :
    tokenize text L = .error ⟨⟨0, 0⟩, .sourceTooLarge, .topLevel⟩ := by
  simp only [tokenize, gt_iff_lt, not_le.mp hsize, if_true]

/-- Parsing reads the limits only through lexing. -/
lemma Expr.parse_eq_of_tokenize_eq {text : String} {L L' : ScanLimits}
    (h : tokenize text L = tokenize text L') : Expr.parse text L = Expr.parse text L' := by
  simp only [Expr.parse, h]

/-- Parsing fails with a lexical error exactly where lexing fails with an error of that
category. -/
lemma Expr.parse_eq_lexical {text : String} {L : ScanLimits} {e : LexError} :
    Expr.parse text L = .error (.lexical e) ↔
      tokenize text L = .error e ∧ e.kind.category = .lexical := by
  cases h : tokenize text L with
  | error e' =>
    simp only [Expr.parse, h, ParseError.ofLex, Except.error.injEq]
    split
    · next hc => simp only [reduceCtorEq, false_iff, not_and]; rintro rfl; simp [hc]
    · next hc => simp only [ParseError.lexical.injEq]; constructor <;> rintro ⟨rfl⟩ <;> simp [hc]
  | ok toks =>
    simp only [Expr.parse, h, reduceCtorEq, false_and, iff_false]
    split
    · simp
    · simp only [ParseError.ofSyntax]
      split <;> simp

namespace ScanLimits

open Scanner

/-- Limits `L` refuse the `k`-th step of the scan of `text` under limits beyond it. -/
def RefusesAt (L : ScanLimits) (text : String) (k : Nat) : Prop :=
  L.Refuses ((start (Source.ofString text) (unbounded text)).after k)
    ((start (Source.ofString text) (unbounded text)).pieceAt k)

/-- The error of limits that first refuse the `k`-th step of the scan of `text` under limits
beyond it: `tooDeeplyNested`, over the piece that step gives, inside the f-strings open there. -/
def refusal (text : String) (k : Nat) : LexError :=
  ⟨⟨((start (Source.ofString text) (unbounded text)).after k).pos,
      ((start (Source.ofString text) (unbounded text)).after k).pos +
        ((start (Source.ofString text) (unbounded text)).pieceAt k).len⟩,
    .tooDeeplyNested,
    ((start (Source.ofString text) (unbounded text)).after k).literals.errorContext⟩

/-- Lexing `text` under `L` fails with `tooDeeplyNested`. -/
def LexTooDeep (L : ScanLimits) (text : String) : Prop :=
  ∃ e, tokenize text L = .error e ∧ e.kind = .tooDeeplyNested

/-- Parsing `text` under `L` fails with `tooDeeplyNested`. -/
def ParseTooDeep (L : ScanLimits) (text : String) : Prop :=
  ∃ e, Expr.parse text L = .error (.lexical e) ∧ e.kind = .tooDeeplyNested

variable {L L' : ScanLimits} {text : String}

/-- Higher limits refuse only steps that lower ones refuse. -/
lemma RefusesAt.of_le (hd : L.maxFStringDepth ≤ L'.maxFStringDepth)
    (hs : L.maxFormatSpecDepth ≤ L'.maxFormatSpecDepth) {k : Nat} (h : L'.RefusesAt text k) :
    L.RefusesAt text k := by
  rcases h with ⟨ht, hle⟩ | ⟨ht, htext, hlt⟩
  · exact .inl ⟨ht, hd.trans hle⟩
  · exact .inr ⟨ht, htext, lt_of_le_of_lt hs hlt⟩

lemma tokenize_of_no_refusal (h : ∀ k, ¬ L.RefusesAt text k) :
    tokenize text L = tokenize text (unbounded text) :=
  tokenize_eq_of_not_refuses (unbounded_never_refuses text) h

lemma tokenize_of_first_refusal (hsize : text.utf8ByteSize ≤ maxSourceSize) {k : Nat}
    (hre : L.RefusesAt text k) (hk : ∀ i < k, ¬ L.RefusesAt text i) :
    tokenize text L = .error (refusal text k) :=
  tokenize_of_refuses hsize (unbounded_never_refuses text) hk hre

/-- Lexing under limits beyond the text never fails with `tooDeeplyNested`. -/
lemma not_lexTooDeep_unbounded : ¬ (unbounded text).LexTooDeep text := by
  rintro ⟨e, h, hkind⟩
  by_cases hsize : text.utf8ByteSize ≤ maxSourceSize
  · obtain ⟨k, f, hf, -, rfl⟩ := exists_first_fault hsize h
    have hdeep : f = .tooDeeplyNested := LexErrorKind.ofFault_eq_tooDeeplyNested.mp hkind
    exact unbounded_never_refuses text k (hdeep ▸ hf)
  · rw [tokenize_of_too_large _ hsize, Except.error.injEq] at h
    subst h
    cases hkind

/-- **Lexing fails with `tooDeeplyNested` exactly where the limits refuse a step** of the scan
under limits beyond the text. -/
lemma lexTooDeep_iff :
    L.LexTooDeep text ↔ text.utf8ByteSize ≤ maxSourceSize ∧ ∃ k, L.RefusesAt text k := by
  classical
  constructor
  · rintro ⟨e, he, hkind⟩
    by_cases hsize : text.utf8ByteSize ≤ maxSourceSize
    · refine ⟨hsize, ?_⟩
      by_contra hno
      rw [tokenize_of_no_refusal (not_exists.mp hno)] at he
      exact not_lexTooDeep_unbounded ⟨e, he, hkind⟩
    · rw [tokenize_of_too_large _ hsize, Except.error.injEq] at he
      subst he
      cases hkind
  · rintro ⟨hsize, hex⟩
    exact ⟨_, tokenize_of_first_refusal hsize (Nat.find_spec hex) fun i hi => Nat.find_min hex hi,
      rfl⟩

lemma parseTooDeep_iff_lexTooDeep : L.ParseTooDeep text ↔ L.LexTooDeep text := by
  constructor
  · rintro ⟨e, he, hkind⟩
    exact ⟨e, (Expr.parse_eq_lexical.mp he).1, hkind⟩
  · rintro ⟨e, he, hkind⟩
    exact ⟨e, Expr.parse_eq_lexical.mpr ⟨he, by rw [hkind]; rfl⟩, hkind⟩

/-- Two limits neither of which fails with `tooDeeplyNested` lex alike. -/
lemma tokenize_eq_of_not_lexTooDeep (h : ¬ L.LexTooDeep text) (h' : ¬ L'.LexTooDeep text) :
    tokenize text L = tokenize text L' := by
  by_cases hsize : text.utf8ByteSize ≤ maxSourceSize
  · have hno : ∀ {M : ScanLimits}, ¬ M.LexTooDeep text → ∀ k, ¬ M.RefusesAt text k :=
      fun hM k hk => hM (lexTooDeep_iff.mpr ⟨hsize, k, hk⟩)
    rw [tokenize_of_no_refusal (hno h), tokenize_of_no_refusal (hno h')]
  · rw [tokenize_of_too_large _ hsize, tokenize_of_too_large _ hsize]

end ScanLimits

open ScanLimits in
/-- **The nesting limits act only by refusing.** Limits that refuse no step of a text lex and
parse it as unbounded limits do; limits that refuse one fail with `tooDeeplyNested` at the first
step they refuse, and only then. -/
theorem nesting_limits_only_refuse (text : String) (L L' : ScanLimits) :
    ((∀ k, ¬ L.RefusesAt text k) →
      tokenize text L = tokenize text (.unbounded text) ∧
      Expr.parse text L = Expr.parse text (.unbounded text)) ∧
    (∀ k, text.utf8ByteSize ≤ maxSourceSize → L.RefusesAt text k →
      (∀ i < k, ¬ L.RefusesAt text i) →
      tokenize text L = .error (refusal text k) ∧
      Expr.parse text L = .error (.lexical (refusal text k))) ∧
    (L.LexTooDeep text ↔ text.utf8ByteSize ≤ maxSourceSize ∧ ∃ k, L.RefusesAt text k) ∧
    (L.ParseTooDeep text ↔ text.utf8ByteSize ≤ maxSourceSize ∧ ∃ k, L.RefusesAt text k) ∧
    (¬ L.LexTooDeep text → ¬ L'.LexTooDeep text → tokenize text L = tokenize text L') ∧
    (¬ L.ParseTooDeep text → ¬ L'.ParseTooDeep text → Expr.parse text L = Expr.parse text L') ∧
    (L.maxFStringDepth ≤ L'.maxFStringDepth → L.maxFormatSpecDepth ≤ L'.maxFormatSpecDepth →
      (∀ toks, tokenize text L = .ok toks → tokenize text L' = .ok toks) ∧
      (∀ ex, Expr.parse text L = .ok ex → Expr.parse text L' = .ok ex)) := by
  refine ⟨fun hno => ?_, fun k hsize hre hk => ?_, lexTooDeep_iff,
    parseTooDeep_iff_lexTooDeep.trans lexTooDeep_iff, tokenize_eq_of_not_lexTooDeep,
    fun h h' => ?_, fun hd hs => ?_⟩
  · have heq := tokenize_of_no_refusal hno
    exact ⟨heq, Expr.parse_eq_of_tokenize_eq heq⟩
  · have heq := tokenize_of_first_refusal hsize hre hk
    exact ⟨heq, Expr.parse_eq_lexical.mpr ⟨heq, rfl⟩⟩
  · rw [parseTooDeep_iff_lexTooDeep] at h h'
    exact Expr.parse_eq_of_tokenize_eq (tokenize_eq_of_not_lexTooDeep h h')
  · -- a text that lexes under `L` is refused nowhere by `L`, so nowhere by the higher `L'`
    have heq : ∀ toks, tokenize text L = .ok toks → tokenize text L = tokenize text L' := by
      intro toks hok
      have hL : ¬ L.LexTooDeep text := by
        rintro ⟨e, he, -⟩
        rw [hok] at he
        cases he
      refine tokenize_eq_of_not_lexTooDeep hL fun hL' => hL (lexTooDeep_iff.mpr ?_)
      obtain ⟨hsize, k, hk⟩ := lexTooDeep_iff.mp hL'
      exact ⟨hsize, k, hk.of_le hd hs⟩
    refine ⟨fun toks hok => (heq toks hok).symm.trans hok, fun ex hok => ?_⟩
    obtain ⟨toks, htoks⟩ : ∃ toks, tokenize text L = .ok toks := by
      revert hok
      unfold Expr.parse
      split
      · next e _ => simp only [ParseError.ofLex]; split <;> simp
      · next toks h => exact fun _ => ⟨toks, h⟩
    rw [← Expr.parse_eq_of_tokenize_eq (heq toks htoks)]
    exact hok

end ExprFront
