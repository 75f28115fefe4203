import Mathlib
import ExprFront.Proofs.Closers

/-!
# The token builder keeps step with the scan

The token builder keeps its own stack of open f-strings and reads delimiters back from the text
of the pieces, apart from the scanner that cut them. This module shows that the two never
disagree, so that lexing fails only where the scan does.

`Scanner.Cooks` says what the builder needs of one step, beyond what the step does to the
scanner's frames (`Scanner.Move`): a string piece holds the opener the scanner read at its start,
an end piece closes the innermost literal as the builder reads its bytes back, and no step
reports a delimiter mismatch. Every step of a running scan does so (`Scanner.cooks_step`), one
lemma for each scanning helper.
-/

namespace ExprFront

/-! ## What the builder needs of a step -/

namespace Scanner

/-- What the token builder needs of a step from `sc` that gives the piece and scanner `r`: a
string piece holds the opener the scanner read from the five bytes at its start; an end piece
closes the innermost open literal as the builder reads its bytes back; and the step reports no
delimiter mismatch. -/
structure Cooks (sc : Scanner) (r : RawToken × Scanner) : Prop where
  opener : r.1.tag = .string ∨ r.1.tag = .fstringStart → ∃ d, Delimiter.ofOpener?
    (sc.src.window sc.pos (min (sc.pos + 5) sc.src.size)) = some d ∧ d.openLength ≤ r.1.len
  closer : r.1.tag = .fstringEnd → ∃ d, sc.literals.current? = some d ∧
    d.closesText (sc.src.window sc.pos (sc.pos + r.1.len))
  noMismatch : r.1.tag ≠ .fault .delimiterMismatch

namespace Cooks

variable {sc sc' : Scanner} {tag : RawTag} {n : Nat}

/-- A piece that opens no literal, ends none and is no delimiter mismatch asks nothing. -/
lemma quiet (hq : tag ≠ .string ∧ tag ≠ .fstringStart ∧ tag ≠ .fstringEnd ∧
    tag ≠ .fault .delimiterMismatch) : Cooks sc (⟨tag, n⟩, sc') :=
  ⟨fun h => h.elim (absurd · hq.1) (absurd · hq.2.1), fun h => absurd h hq.2.2.1, hq.2.2.2⟩

/-- What a step asks of a scanner it asks of any with the same text, offset and innermost
literal. -/
lemma of_eq {sc₁ : Scanner} {r : RawToken × Scanner} (h : Cooks sc₁ r) (hsrc : sc₁.src = sc.src)
    (hpos : sc₁.pos = sc.pos) (hcur : sc₁.literals.current? = sc.literals.current?) :
    Cooks sc r := by
  obtain ⟨ho, he, hm⟩ := h
  refine ⟨fun ht => ?_, fun ht => ?_, hm⟩
  · rw [← hsrc, ← hpos]
    exact ho ht
  · rw [← hsrc, ← hpos, ← hcur]
    exact he ht

end Cooks

/-- In text mode the text's delimiter is the innermost literal's. -/
lemma current?_of_textDelimiter? {d : Delimiter} {sc : Scanner} (hd : sc.textDelimiter? = some d) :
    sc.literals.current? = some d := by
  simp only [textDelimiter?] at hd
  split at hd
  · cases hd
  · split at hd
    · split at hd
      · exact hd
      · cases hd
    · exact hd

/-- Changing the innermost field leaves the innermost literal's delimiter alone. -/
@[simp] lemma current?_modifyField {g : FieldProgress → FieldProgress} {sc : Scanner} :
    (sc.modifyField g).literals.current? = sc.literals.current? := by
  rcases sc with ⟨src, limits, pos, ⟨_ | ⟨⟨d, start, ⟨_ | ⟨fl, fls⟩, rep⟩⟩, rest⟩⟩, brackets, site,
    stopped⟩ <;> rfl

/-- Recording a byte in the innermost field changes nothing that a step is asked about. -/
lemma Cooks.of_modifyField {g : FieldProgress → FieldProgress} {sc : Scanner}
    {m : ScanM RawToken} (h : Cooks (sc.modifyField g) (m.run (sc.modifyField g))) :
    Cooks sc (m.run (sc.modifyField g)) :=
  h.of_eq rfl rfl current?_modifyField

end Scanner

/-! ## The literals open, as the builder sees them -/

/-- What the builder keeps of an open literal: its delimiter and where it starts. -/
def OpenLiteral.opening {α : Type} (lit : OpenLiteral α) : Delimiter × Nat :=
  (lit.delimiter, lit.start)

namespace Frame

/-- The delimiter and start of each open literal, innermost first. -/
def openings (frames : List Frame) : List (Delimiter × Nat) :=
  frames.filterMap fun
    | .literal d o _ => some (d, o.start)
    | _ => none

@[simp] lemma openings_nil : openings [] = [] := rfl

@[simp] lemma openings_literal (d : Delimiter) (o : Span) (p : Bool) (frames : List Frame) :
    openings (.literal d o p :: frames) = (d, o.start) :: openings frames := rfl

@[simp] lemma openings_bracket (k : Bracket) (frames : List Frame) :
    openings (.bracket k :: frames) = openings frames := rfl

@[simp] lemma openings_field (frames : List Frame) : openings (.field :: frames) = openings frames :=
  rfl

@[simp] lemma openings_spec (frames : List Frame) : openings (.spec :: frames) = openings frames :=
  rfl

@[simp] lemma openings_append (frames frames' : List Frame) :
    openings (frames ++ frames') = openings frames ++ openings frames' :=
  List.filterMap_append

@[simp] lemma openings_markPiece (frames : List Frame) :
    openings (markPiece frames) = openings frames := by
  rcases frames with _ | ⟨_ | _ | _ | _, rest⟩ <;> rfl

end Frame

namespace Scanner

/-- Open brackets hold no literal. -/
lemma openings_bracketFrames (obs : List OpenBracket) :
    Frame.openings (obs.map OpenBracket.frame) = [] := by
  induction obs with
  | nil => rfl
  | cons ob obs ih => simpa [OpenBracket.frame] using ih

/-- The frames of an open field hold no literal. -/
lemma openings_fieldFrames (fl : FieldProgress) : Frame.openings fl.frames = [] := by
  simp only [FieldProgress.frames, Frame.openings_append, openings_bracketFrames, List.nil_append]
  split <;> rfl

/-- The frames of the open literals hold their openings, innermost first. -/
lemma openings_literalFrames (lits : List (OpenLiteral LiteralProgress)) :
    Frame.openings (lits.flatMap OpenLiteral.frames) = lits.map OpenLiteral.opening := by
  induction lits with
  | nil => rfl
  | cons lit lits ih =>
    have hfields : ∀ fls : List FieldProgress, Frame.openings (fls.flatMap FieldProgress.frames) = [] := by
      intro fls
      induction fls with
      | nil => rfl
      | cons fl fls ihf => simp [List.flatMap_cons, openings_fieldFrames, ihf]
    simp [List.flatMap_cons, OpenLiteral.frames, hfields, ih, OpenLiteral.opener,
      OpenLiteral.opening]

/-- **The frames show the open literals as the builder keeps them.** -/
lemma openings_frames (sc : Scanner) :
    Frame.openings sc.frames = sc.literals.entries.map OpenLiteral.opening := by
  simp [frames, openings_literalFrames, openings_bracketFrames]

end Scanner

/-- Where an error inside the literals `st` stands: in the innermost, with how many are open, or
at the top level. -/
def DelimiterStack.errorContext {α : Type} (st : DelimiterStack α) : LexErrorContext :=
  match st.currentStart? with
  | some start => .insideFString start st.depth
  | none => .topLevel

namespace DelimiterStack

variable {α β : Type} {st : DelimiterStack α} {st' : DelimiterStack β}

/-- Two stacks with the same openings have the same depth. -/
lemma depth_eq_of_openings
    (h : st.entries.map OpenLiteral.opening = st'.entries.map OpenLiteral.opening) :
    st.depth = st'.depth := by
  simpa [depth] using congrArg List.length h

/-- Two stacks with the same openings give an error the same context. -/
lemma errorContext_eq_of_openings
    (h : st.entries.map OpenLiteral.opening = st'.entries.map OpenLiteral.opening) :
    st.errorContext = st'.errorContext := by
  have hstart : st.currentStart? = st'.currentStart? := by
    have hhead := congrArg (fun l => (List.head? l).map Prod.snd) h
    simpa [currentStart?, OpenLiteral.opening, Option.map_map, Function.comp_def] using hhead
  simp only [errorContext, hstart, depth_eq_of_openings h]

end DelimiterStack


/-! ## Each scanning step gives the builder what it needs -/

namespace ScanM

open Scanner

variable {s : String} {sc sc₁ : Scanner}

lemma cooks_zeroByte : Cooks sc ((zeroByte sc₁.pos).run sc₁) := by
  simp only [zeroByte, run_get_bind, run_ite, run_single]
  split
  · exact .quiet (by decide)
  · split
    · exact .quiet (by decide)
    · split <;> exact .quiet (by decide)

lemma cooks_blanks : Cooks sc ((blanks sc₁.pos).run sc₁) :=
  .quiet (by decide)

lemma cooks_lineBreak : Cooks sc ((lineBreak sc₁.pos).run sc₁) := by
  simp only [lineBreak, run_eatLineBreak_bind, run_get_bind]
  split
  · simp only [run_ite, run_fault, run_emit]
    split <;> exact .quiet (by decide)
  · simp only [run_ite, run_emit]
    split <;> exact .quiet (by decide)

lemma cooks_comment : Cooks sc ((comment sc₁.pos).run sc₁) := by
  simp only [comment, run_get_bind, run_ite, run_advance_bind, run_fault, run_moveTo_bind,
    run_emit]
  split <;> exact .quiet (by decide)

lemma cooks_continuation : Cooks sc ((continuation sc₁.pos).run sc₁) := by
  simp only [continuation, run_advance_bind, run_peekAt_bind, run_ite, run_eatLineBreak_bind,
    run_emit]
  split <;> exact .quiet (by decide)

lemma cooks_operatorAt (start n : Nat) (p : Punct) : Cooks sc ((operatorAt start n p).run sc₁) := by
  simp only [operatorAt, run_advance_bind, run_peekAt_bind, run_ite, run_emit]
  split <;> exact .quiet (by simp)

lemma cooks_pair (start : Nat) (p : Punct) : Cooks sc ((pair start p).run sc₁) :=
  .quiet (by simp)

lemma cooks_single {tag : RawTag} (start : Nat)
    (hq : tag ≠ .string ∧ tag ≠ .fstringStart ∧ tag ≠ .fstringEnd ∧
      tag ≠ .fault .delimiterMismatch) : Cooks sc ((single tag start).run sc₁) :=
  .quiet hq

/-- A string or an f-string: its piece holds its opener. -/
lemma cooks_literal (hsc : sc.Placed s) {d : Delimiter}
    (hd : Delimiter.ofOpener? (sc.src.window sc.pos (min (sc.pos + 5) sc.src.size)) = some d) :
    Cooks sc ((literal sc.pos d).run sc) := by
  simp only [literal, openFString, cutOffString, run_advance_bind, run_get_bind, run_ite,
    run_set_bind, run_fault, run_emit]
  split
  · split
    · exact .quiet (by decide)
    · exact ⟨fun _ => ⟨d, hd, by simp only; omega⟩, fun h => (by cases h), by simp⟩
  · have hopen : CharBoundary s (sc.pos + d.openLength) := by
      rw [hsc.src_eq] at hd
      exact hsc.boundary.opener hd
    have hfits := Source.stringBodyEnd_fits (d := d) hopen
    rw [← hsc.src_eq] at hfits
    split
    · next j hj =>
      rw [hj] at hfits
      obtain ⟨k, hk, -, rfl⟩ := hfits
      simp only [run_moveTo_bind, run_emit]
      exact ⟨fun _ => ⟨d, hd, by simp only; omega⟩, fun h => (by cases h), by simp⟩
    · simp only [run_moveTo_bind, run_get_bind]
      split
      · split <;> exact .quiet (by decide)
      · exact .quiet (by decide)

lemma cooks_quoted (hsc : sc.Placed s) : Cooks sc ((quoted sc.pos).run sc) := by
  simp only [quoted, run_openerAt?_bind]
  split
  · exact cooks_literal hsc ‹_›
  · exact cooks_single _ (by decide)

lemma cooks_word (hsc : sc.Placed s) : Cooks sc ((word sc.pos).run sc) := by
  simp only [word, run_openerAt?_bind]
  split
  · exact cooks_literal hsc ‹_›
  · simp only [run_get_bind, run_moveTo_bind, run_emit]
    exact .quiet (by decide)

lemma cooks_unicodeWord : Cooks sc ((unicodeWord sc₁.pos).run sc₁) := by
  simp only [unicodeWord, run_get_bind, run_ite, run_moveTo_bind, run_emit]
  split <;> exact .quiet (by decide)

lemma cooks_numberEnd (start q : Nat) (isFloat : Bool) :
    Cooks sc ((numberEnd start isFloat).run { sc₁ with pos := q }) := by
  simp only [numberEnd, run_peekAt_bind, run_ite, run_advance_bind, run_emit]
  split
  · exact .quiet (by decide)
  · cases isFloat <;> exact .quiet (by decide)

lemma cooks_number : Cooks sc ((number sc₁.pos).run sc₁) := by
  simp only [number, run_get_bind, run_ite, run_moveTo_bind, run_emit]
  split
  · exact .quiet (by decide)
  · split <;> exact cooks_numberEnd _ _ _

lemma cooks_dot : Cooks sc ((dot sc₁.pos).run sc₁) := by
  simp only [dot, run_get_bind, run_ite, run_moveTo_bind, run_advance_bind, run_emit]
  split
  · exact cooks_numberEnd _ _ _
  · split
    · exact .quiet (by decide)
    · exact cooks_single _ (by decide)

lemma cooks_endExpression (start q : Nat) (p : Punct) :
    Cooks sc ((endExpression start p).run { sc₁ with pos := q }) := by
  simp only [endExpression, run_get_bind]
  split
  · simp only [run_emit]
    exact .quiet (by simp)
  · simp only [run_ite, run_fault, run_modify_bind, run_emit]
    split
    · exact .quiet (by decide)
    · exact .quiet (by simp)

lemma cooks_colon : Cooks sc ((colon sc₁.pos).run sc₁) := by
  simp only [colon, run_advance_bind, run_get_bind]
  split
  · simp only [run_ite, run_fault, run_modify_bind, run_emit]
    split <;> exact .quiet (by decide)
  · simp only [run_peekAt_bind, run_ite, run_advance_bind, run_emit]
    split <;> exact .quiet (by decide)

lemma cooks_pushBracket (kind : Bracket) (p : Punct) :
    Cooks sc ((pushBracket sc₁.pos kind p).run sc₁) := by
  simp only [pushBracket, run_advance_bind, run_modify_bind, run_emit]
  exact .quiet (by simp)

lemma cooks_popBracket (kind : Bracket) (p : Punct) :
    Cooks sc ((popBracket sc₁.pos kind p).run sc₁) := by
  simp only [popBracket, endField, run_get_bind, run_ite, run_advance_bind]
  split
  · split
    · simp only [run_emit]
      exact .quiet (by simp)
    · simp only [run_modifyLiteral_bind, run_ite, run_fault, run_emit]
      split
      · exact .quiet (by decide)
      · exact .quiet (by simp)
  · split
    · simp only [run_ite, run_modify_bind, run_emit, run_fault]
      split
      · exact .quiet (by simp)
      · exact .quiet (by decide)
    · simp only [run_fault]
      exact .quiet (by decide)

/-! ## Steps in text mode -/

lemma cooks_textPiece (start : Nat) : Cooks sc ((textPiece start).run sc₁) := by
  rw [run_textPiece]
  exact .quiet (by decide)

lemma cooks_beginField (start : Nat) : Cooks sc ((beginField start).run sc₁) := by
  simp only [beginField, run_advance_bind, run_get_bind]
  split
  · simp only [run_emit]
    exact .quiet (by decide)
  · simp only [run_ite, run_fault, run_modifyLiteral_bind, run_emit]
    split <;> exact .quiet (by decide)

lemma cooks_openFieldFault (start : Nat) : Cooks sc ((openFieldFault start).run sc₁) := by
  simp only [openFieldFault, run_get_bind, run_fault]
  exact .quiet (by decide)

/-- The closing quotes at `j`: the end piece closes the innermost literal, whose delimiter text
mode reads, so the builder reads that delimiter back and no mismatch arises. -/
lemma cooks_closeFString (hsc : sc.Placed s) {d : Delimiter} (hd : sc.textDelimiter? = some d)
    {inSpec : Bool} {j : Nat} (heq : sc.src.textStop d inSpec sc.pos = .closer j) :
    Cooks sc ((closeFString sc.pos d).run { sc with pos := j }) := by
  have hcur := current?_of_textDelimiter? hd
  obtain ⟨hle, -⟩ := hsc.textStop_fits heq
  simp only [closeFString, run_get_bind, run_ite, run_advance_bind]
  split
  · exact cooks_textPiece _
  · split
    · simp only [run_set_bind, run_emit]
      refine ⟨fun h => (by simp at h), fun _ => ⟨d, hcur, ?_⟩, by simp⟩
      have hwin := Source.closesText_window hsc.boundary (hsc.src_eq ▸ heq)
      rw [hsc.src_eq, show sc.pos + (j + d.closeLength - sc.pos) = j + d.closeLength by omega]
      exact hwin
    · next e herr =>
      obtain ⟨⟨d', start, st⟩, rest, hentries⟩ : ∃ e rest, sc.literals.entries = e :: rest := by
        simp only [DelimiterStack.current?, Option.map_eq_some_iff] at hcur
        obtain ⟨e, he, -⟩ := hcur
        exact ⟨e, _, List.eq_cons_of_mem_head? he⟩
      have hd' : d' = d := by simpa [DelimiterStack.current?, hentries] using hcur
      subst hd'
      simp [DelimiterStack.close, hentries, Delimiter.closedBy] at herr

lemma cooks_textStep (hsc : sc.Placed s) {d : Delimiter} (hd : sc.textDelimiter? = some d) :
    Cooks sc ((textStep d).run sc) := by
  simp only [textStep, run_get_bind]
  split
  · simp only [run_moveTo_bind, run_ite]
    split
    · exact cooks_textPiece _
    · exact cooks_beginField _
  · simp only [run_moveTo_bind, run_ite]
    split
    · exact cooks_textPiece _
    · simp only [endSpec, run_advance_bind, run_modifyLiteral_bind, run_emit]
      exact .quiet (by decide)
  · simp only [run_moveTo_bind, run_fault]
    exact .quiet (by decide)
  · simp only [run_moveTo_bind, run_fault]
    exact .quiet (by decide)
  · simp only [run_moveTo_bind, run_ite, run_fault]
    split_ifs
    · exact cooks_openFieldFault _
    · exact .quiet (by decide)
  · next j heq =>
    simp only [run_moveTo_bind, run_ite]
    split_ifs
    · exact cooks_openFieldFault _
    · exact cooks_closeFString hsc hd heq

/-! ## Every step -/

lemma cooks_codeStep (hsc : sc.Placed s) : Cooks sc (codeStep.run sc) := by
  simp only [codeStep, markExpression, run_get_bind, run_modify_bind]
  apply Cooks.of_modifyField
  -- only a quote or a name may open a string; no code step ends a literal
  split
  · exact cooks_zeroByte
  · exact cooks_blanks
  · exact cooks_blanks
  · exact cooks_blanks
  · exact cooks_lineBreak
  · exact cooks_lineBreak
  · exact cooks_comment
  · exact cooks_continuation
  · exact cooks_quoted hsc.modifyField
  · exact cooks_quoted hsc.modifyField
  · exact cooks_dot
  · exact cooks_operatorAt _ _ _
  · rw [run_ite]; split
    · exact cooks_pair _ _
    · exact cooks_operatorAt _ _ _
  · rw [run_ite]; split <;> exact cooks_operatorAt _ _ _
  · rw [run_ite]; split <;> exact cooks_operatorAt _ _ _
  · exact cooks_operatorAt _ _ _
  · exact cooks_operatorAt _ _ _
  · exact cooks_operatorAt _ _ _
  · exact cooks_operatorAt _ _ _
  · exact cooks_operatorAt _ _ _
  · exact cooks_single _ (by decide)
  · simp only [run_ite]; split
    · exact cooks_operatorAt _ _ _
    · split
      · exact cooks_pair _ _
      · exact cooks_single _ (by decide)
  · simp only [run_ite]; split
    · exact cooks_operatorAt _ _ _
    · split
      · exact cooks_pair _ _
      · exact cooks_single _ (by decide)
  · rw [run_ite]; split
    · exact cooks_pair _ _
    · exact cooks_endExpression _ _ _
  · rw [run_ite]; split
    · exact cooks_pair _ _
    · exact cooks_endExpression _ _ _
  · exact cooks_colon
  · exact cooks_single _ (by decide)
  · exact cooks_single _ (by decide)
  · exact cooks_pushBracket _ _
  · exact cooks_pushBracket _ _
  · exact cooks_pushBracket _ _
  · exact cooks_popBracket _ _
  · exact cooks_popBracket _ _
  · exact cooks_popBracket _ _
  · simp only [run_ite]
    split
    · exact cooks_word hsc.modifyField
    · split
      · exact cooks_number
      · split
        · exact cooks_unicodeWord
        · exact cooks_single _ (by decide)

lemma cooks_modeStep (hsc : sc.Placed s) : Cooks sc (modeStep.run sc) := by
  simp only [modeStep, run_get_bind]
  split
  · next d hd => exact cooks_textStep hsc hd
  · exact cooks_codeStep hsc

end ScanM

namespace Scanner

open ScanM

variable {s : String} {sc : Scanner}

/-- **Every step of a scan gives the token builder what it needs.** -/
theorem cooks_step (hsc : sc.Placed s) : Cooks sc (ScanM.step.run sc) := by
  cases hgo : sc.stopped
  · simp only [ScanM.step, run_get_bind, hgo, Bool.false_eq_true, if_false]
    rw [run_bind]
    have hmode := cooks_modeStep hsc
    generalize modeStep.run sc = r at hmode ⊢
    obtain ⟨⟨tag, n⟩, sc'⟩ := r
    dsimp only
    split
    · exact ⟨hmode.opener, hmode.closer, hmode.noMismatch⟩
    · exact hmode
  · simp only [ScanM.step, run_get_bind, hgo, if_true]
    exact .quiet (by decide)

end Scanner

/-! ## The builder reads back what the scan did -/

namespace TokenBuilder

/-- The builder after classifying the pieces `ts` one by one, the first at `offset`: the state
it reaches over a stretch of the scan. -/
def cook (tb : TokenBuilder) (offset : Nat) : List RawToken → Except LexError TokenBuilder
  | [] => .ok tb
  | t :: rest =>
    match tb.classify t.tag ⟨offset, offset + t.len⟩ with
    | .error e => .error e
    | .ok (_, tb') => tb'.cook (offset + t.len) rest

variable {tb : TokenBuilder} {s : String}

/-- A piece between two boundaries that holds an opener the scanner read ahead opens with that
opener's delimiter. -/
lemma delimiterAt_window (hsrc : tb.src = Source.ofString s) {i j : Nat} {d : Delimiter}
    (hi : CharBoundary s i) (hj : CharBoundary s j)
    (hd : Delimiter.ofOpener?
      ((Source.ofString s).window i (min (i + 5) (Source.ofString s).size)) = some d)
    (hlen : i + d.openLength ≤ j) : tb.delimiterAt ⟨i, j⟩ = .ok d := by
  have hbytes : (tb.src.slice ⟨i, j⟩).toUTF8.toList = (Source.ofString s).window i j := by
    rw [hsrc, Source.toList_toUTF8_slice hi hj (by omega)]
  simp only [delimiterAt, hbytes, Source.ofOpener?_window hd hlen (by simpa using hj.le_size)]

/-- An end piece whose bytes close the innermost literal pops it. -/
lemma popFString_closesText (hsrc : tb.src = Source.ofString s) {i j : Nat}
    (hi : CharBoundary s i) (hj : CharBoundary s j) (hij : i ≤ j)
    {e : OpenLiteral Unit} {es : List (OpenLiteral Unit)} (hentries : tb.literals.entries = e :: es)
    (hcl : e.delimiter.closesText ((Source.ofString s).window i j)) :
    tb.popFString ⟨i, j⟩ =
      .ok (.fstringEnd ⟨i, j - e.delimiter.closeLength⟩, { tb with literals := ⟨es⟩ }) := by
  have hbytes : (tb.src.slice ⟨i, j⟩).toUTF8.toList = (Source.ofString s).window i j := by
    rw [hsrc, Source.toList_toUTF8_slice hi hj hij]
  obtain ⟨hq, hz⟩ := hcl
  simp only [popFString, hbytes, hq, hz, DelimiterStack.close, hentries, Delimiter.closedBy,
    beq_self_eq_true, Bool.and_self, if_true]

/-- A piece of code that opens and closes nothing is classified without error, a string given
the delimiter of its text. -/
lemma classify_plain_ok {tag : RawTag} (htag : tag.IsPlain) {span : Span}
    (hstr : tag = .string → ∃ d, tb.delimiterAt span = .ok d) :
    ∃ kind?, tb.classify tag span = .ok (kind?, tb) := by
  cases tag with
  | string =>
    obtain ⟨d, hd⟩ := hstr rfl
    exact ⟨_, by simp only [classify, RawTag.isTrivia, Bool.false_eq_true, if_false, hd]; rfl⟩
  | fstringStart | fstringMiddle | fstringEnd | eof | fault f => exact htag.elim
  | _ => exact ⟨_, rfl⟩

end TokenBuilder

/-- The token builder keeps step with a running scan of `text`: the reader of `Tracks` follows
along, and the builder holds the delimiter and start of each open literal, innermost first. -/
structure Lockstep (text : String) (tb : TokenBuilder) (sc : Scanner) : Prop where
  tracks : ∃ st, Tracks text tb st sc
  openings : tb.literals.entries.map OpenLiteral.opening = Frame.openings sc.frames

namespace Lockstep

open Scanner TokenBuilder

variable {text : String} {tb : TokenBuilder} {sc : Scanner}

/-- For each move of the scan but the end, the builder classifies the piece without error and
keeps the openings of the literals the scan keeps. -/
lemma classify_move (h : Lockstep text tb sc) {tag : RawTag} {n : Nat} {sc' : Scanner}
    (hmove : sc.Move (⟨tag, n⟩, sc')) (hcook : sc.Cooks (⟨tag, n⟩, sc'))
    (hadv : StepAdvance text sc (⟨tag, n⟩, sc')) (he : tag ≠ .eof) (hnf : tag.isFault = false) :
    ∃ kind? tb', tb.classify tag ⟨sc.pos, sc.pos + n⟩ = .ok (kind?, tb') ∧
      tb'.literals.entries.map OpenLiteral.opening = Frame.openings sc'.frames := by
  obtain ⟨st, htr⟩ := h.tracks
  have hend : CharBoundary text (sc.pos + n) := hadv.pos_eq ▸ hadv.placed.boundary
  have hopen := h.openings
  cases hmove with
  | fault => simp [RawTag.isFault] at hnf
  | eof => exact absurd rfl he
  | code _ htag _ hframes =>
    obtain ⟨kind?, hc⟩ := classify_plain_ok htag fun hs => by
      obtain ⟨d, hd, hlen⟩ := hcook.opener (Or.inl hs)
      exact ⟨d, delimiterAt_window htr.src_eq htr.placed.boundary hend
        (htr.placed.src_eq ▸ hd) (by simp only at hlen; omega)⟩
    exact ⟨kind?, tb, hc, hframes ▸ hopen⟩
  | openBracket _ _ hframes => exact ⟨_, tb, classify_punct _, by simpa [hframes] using hopen⟩
  | closeBracket _ hframes => exact ⟨_, tb, classify_punct _, by simpa [hframes] using hopen⟩
  | endField hframes => exact ⟨_, tb, classify_punct _, by simpa [hframes] using hopen⟩
  | beginSpec hframes hframes' =>
    exact ⟨_, tb, classify_punct _, by simpa [hframes, hframes'] using hopen⟩
  | openLiteral _ hd hn hframes =>
    subst hn
    have hdelim := delimiterAt_opener htr.src_eq htr.placed.boundary (htr.placed.src_eq ▸ hd)
    refine ⟨_, _, by simp only [classify, RawTag.isTrivia, Bool.false_eq_true, if_false, hdelim]; rfl,
      ?_⟩
    simp [hframes, hopen, OpenLiteral.opening]
  | middle _ _ _ _ hframes =>
    exact ⟨_, tb, classify_fstringMiddle, by simpa [hframes] using hopen⟩
  | beginField _ hframes => exact ⟨_, tb, classify_punct _, by simpa [hframes] using hopen⟩
  | endSpec hframes => exact ⟨_, tb, classify_punct _, by simpa [hframes] using hopen⟩
  | @closeLiteral d o rep j _ hframes hle _ _ =>
    rw [hframes] at hopen
    obtain ⟨e, es, hentries, hhead, hes⟩ : ∃ e es, tb.literals.entries = e :: es ∧
        e.opening = (d, o.start) ∧ es.map OpenLiteral.opening = Frame.openings sc'.frames := by
      cases hent : tb.literals.entries with
      | nil => simp [hent] at hopen
      | cons e es =>
        simp only [hent, List.map_cons, Frame.openings_literal, List.cons.injEq] at hopen
        exact ⟨e, es, rfl, hopen.1, hopen.2⟩
    have hde : e.delimiter = d := congrArg Prod.fst hhead
    obtain ⟨d', hcur, hcl⟩ := hcook.closer rfl
    have hd' : d' = d := by
      have hlits := openings_frames sc
      rw [hframes, Frame.openings_literal] at hlits
      cases hsl : sc.literals.entries with
      | nil => simp [hsl] at hlits
      | cons e' es' =>
        simp only [hsl, List.map_cons, List.cons.injEq] at hlits
        simp only [DelimiterStack.current?, hsl, List.head?_cons, Option.map_some,
          Option.some.injEq] at hcur
        rw [← hcur]
        exact congrArg Prod.fst hlits.1.symm
    subst hd'
    have hpop := popFString_closesText htr.src_eq htr.placed.boundary hend (by omega) hentries
      (by rw [hde, ← htr.placed.src_eq]; exact hcl)
    refine ⟨_, _, by simp only [classify, RawTag.isTrivia, Bool.false_eq_true, if_false, hpop]; rfl,
      hes⟩

/-- **One step of the scan through the builder.** The builder classifies every piece but a
fault without error, and keeps step with the scan. -/
lemma step (h : Lockstep text tb sc) (hnf : (ScanM.step.run sc).1.tag.isFault = false) :
    ∃ kind? tb', tb.classify (ScanM.step.run sc).1.tag
        ⟨sc.pos, sc.pos + (ScanM.step.run sc).1.len⟩ = .ok (kind?, tb') ∧
      Lockstep text tb' (ScanM.step.run sc).2 := by
  obtain ⟨st, htr⟩ := h.tracks
  have hmove := move_step htr.placed htr.running htr.settled
  have hcook := cooks_step htr.placed
  have hadv := htr.placed.stepAdvance
  generalize ScanM.step.run sc = r at hmove hcook hadv hnf ⊢
  obtain ⟨⟨tag, n⟩, sc'⟩ := r
  dsimp only at hnf ⊢
  by_cases he : tag = .eof
  · subst he
    obtain ⟨rfl, -⟩ := hadv.atEnd rfl
    exact ⟨_, tb, rfl, h⟩
  · obtain ⟨kind?, tb', hc, hopen⟩ := h.classify_move hmove hcook hadv he hnf
    have hgo' : sc'.stopped = false := by simpa [htr.running, hnf] using hadv.stopped_eq
    have hnext := htr.step hmove hadv.pos_eq hadv.placed hgo' he hc
    refine ⟨kind?, tb', hc, ⟨?_, hopen⟩⟩
    cases kind? with
    | none => exact ⟨st, hnext⟩
    | some k =>
      obtain ⟨st', -, htr'⟩ := hnext.2 (tb.index.lineCol sc.pos)
      exact ⟨st', htr'⟩

/-- **Along a run, the builder keeps step with the scan** up to the first fault, cooking every
piece before it without error. -/
lemma after (h : Lockstep text tb sc) (k : Nat)
    (hnf : ∀ i < k, (sc.pieceAt i).tag.isFault = false) :
    ∃ tb', tb.cook sc.pos ((List.range k).map sc.pieceAt) = .ok tb' ∧
      Lockstep text tb' (sc.after k) := by
  induction k generalizing tb sc with
  | zero => exact ⟨tb, rfl, h⟩
  | succ k ih =>
    obtain ⟨st, htr⟩ := h.tracks
    obtain ⟨kind?, tb₁, hc, h₁⟩ := h.step (hnf 0 (Nat.succ_pos k))
    obtain ⟨tb', hcook, h'⟩ := ih h₁ fun i hi => hnf (i + 1) (by omega)
    refine ⟨tb', ?_, h'⟩
    have hpos : (ScanM.step.run sc).2.pos = sc.pos + (ScanM.step.run sc).1.len :=
      htr.placed.stepAdvance.pos_eq
    have h0 : sc.pieceAt 0 = (ScanM.step.run sc).1 := rfl
    have hrest : sc.pieceAt ∘ Nat.succ = (ScanM.step.run sc).2.pieceAt := rfl
    rw [List.range_succ_eq_map, List.map_cons, List.map_map, cook]
    simp only [h0, hc, hrest]
    rw [← hpos]
    exact hcook

end Lockstep

namespace TokenBuilder

/-- Over pieces with no fault and no end, building passes through the state that cooking
reaches, having pushed their tokens. -/
lemma build_append {tb tb' : TokenBuilder} {offset : Nat}
    {ts : List RawToken} (hts : ∀ t ∈ ts, t.tag ≠ .eof ∧ t.tag.isFault = false)
    (hc : tb.cook offset ts = .ok tb') (acc : Array Token) :
    ∃ acc', ∀ site rest, tb.build site offset acc (ts ++ rest) =
      tb'.build site (offset + (ts.map RawToken.len).sum) acc' rest := by
  induction ts generalizing tb offset acc with
  | nil =>
    cases hc
    exact ⟨acc, fun site rest => by simp⟩
  | cons t ts ih =>
    obtain ⟨hne, hnf⟩ := hts t List.mem_cons_self
    simp only [cook] at hc
    split at hc
    · cases hc
    · next kind? tb₁ hcl =>
      let acc₁ := kind?.elim acc fun k =>
        acc.push ⟨k, ⟨offset, offset + t.len⟩, tb.index.lineCol offset⟩
      obtain ⟨acc', hacc⟩ := ih (fun t' ht' => hts t' (List.mem_cons_of_mem t ht')) hc acc₁
      refine ⟨acc', fun site rest => ?_⟩
      rw [List.cons_append, build]
      split
      · next f hf => simp [hf, RawTag.isFault] at hnf
      · simp only [hcl, beq_iff_eq, hne, if_false]
        rw [List.map_cons, List.sum_cons, ← Nat.add_assoc]
        convert hacc site rest using 2
        cases kind? <;> rfl

end TokenBuilder


/-! ## The lexer fails only where the scan does -/

namespace Scanner

open ScanM

variable {s : String} {sc : Scanner}

/-- What the builder needs of the step after `k` steps. -/
lemma cooks_after (h : sc.Placed s) (k : Nat) :
    Cooks (sc.after k) (sc.pieceAt k, sc.after (k + 1)) := by
  rw [← step_after]
  exact cooks_step (h.after k)

/-- The offset after `k` steps is the start plus the lengths of the `k` pieces. -/
lemma pos_after_eq_sum (h : sc.Placed s) (k : Nat) :
    (sc.after k).pos = sc.pos + (((List.range k).map sc.pieceAt).map RawToken.len).sum := by
  induction k with
  | zero => simp
  | succ k ih =>
    rw [(stepAdvance_after h k).pos_eq, ih, List.range_succ, List.map_append, List.map_append,
      List.sum_append]
    simp [Nat.add_assoc]

/-- Before a fault no step reports the end. -/
lemma pieceAt_ne_eof (h : sc.Placed s) {k i : Nat} (hf : (sc.pieceAt k).tag.isFault = true)
    (hi : i < k) : (sc.pieceAt i).tag ≠ .eof := fun he => by
  rw [pieceAt_of_lt h (Or.inl he) hi] at hf
  cases hf

/-- The whole run up to the first fault: the pieces before it, the fault, and the end that
follows, the scanner then at rest. -/
lemma run_of_fault (h : sc.Placed s) {k : Nat} (hf : (sc.pieceAt k).tag.isFault = true) :
    sc.run = ((List.range k).map sc.pieceAt ++ [sc.pieceAt k, sc.pieceAt (k + 1)],
      sc.after (k + 1)) := by
  have hnext : sc.pieceAt (k + 1) = ⟨.eof, 0⟩ := pieceAt_of_lt h (Or.inr hf) (Nat.lt_succ_self k)
  have hrest : (sc.after (k + 1)).AtRest := by
    rw [after_succ]
    exact atRest_of_fault (h.after k) (by rw [step_after]; exact hf)
  have hstay : sc.after (k + 1 + 1) = sc.after (k + 1) := by
    rw [after_add sc (k + 1) 1]
    exact hrest.after 1
  have heof : (sc.pieceAt (k + 1)).tag = .eof := by rw [hnext]
  rw [run_eq_pieces h (fun i hi => ?_) heof]
  · rw [List.range_succ, List.range_succ, List.map_append, List.map_append, List.append_assoc,
      hstay]
    rfl
  · rcases Nat.lt_succ_iff_lt_or_eq.mp hi with hi | rfl
    · exact pieceAt_ne_eof h hf hi
    · intro he
      rw [he] at hf
      cases hf

end Scanner

namespace Lockstep

/-- A fresh builder keeps step with a fresh scan. -/
lemma start (text : String) (limits : ScanLimits) :
    Lockstep text ⟨Source.ofString text, LineIndex.build (Source.ofString text), {}⟩
      (Scanner.start (Source.ofString text) limits) :=
  ⟨⟨_, Tracks.start text limits⟩, rfl⟩

end Lockstep

open Scanner in
/-- **Lexing fails at the first fault of the scan**, reported at the scanner's site for it, or at
the piece if the scanner gave none, in the context of the literals open there. -/
lemma tokenize_of_fault {text : String} {limits : ScanLimits}
    (hsize : text.utf8ByteSize ≤ maxSourceSize) {k : Nat} {f : ScanFault}
    (hf : ((Scanner.start (Source.ofString text) limits).pieceAt k).tag = .fault f)
    (hnf : ∀ i < k, ((Scanner.start (Source.ofString text) limits).pieceAt i).tag.isFault = false) :
    let sc := Scanner.start (Source.ofString text) limits
    let site := (sc.after (k + 1)).errorSite.getD
      ⟨(sc.after k).pos, (sc.after k).pos + (sc.pieceAt k).len⟩
    tokenize text limits =
      .error ⟨site, LexErrorKind.ofFault f site (Source.ofString text),
        (sc.after k).literals.errorContext⟩ := by
  intro sc site
  have h := placed_start text limits
  have hf' : (sc.pieceAt k).tag = .fault f := hf
  have hfault : (sc.pieceAt k).tag.isFault = true := by rw [hf']; rfl
  obtain ⟨tb', hcook, hstep⟩ := (Lockstep.start text limits).after k hnf
  obtain ⟨st, htr⟩ := hstep.tracks
  have hts : ∀ t ∈ (List.range k).map sc.pieceAt, t.tag ≠ .eof ∧ t.tag.isFault = false := by
    intro t ht
    obtain ⟨i, hi, rfl⟩ := List.mem_map.mp ht
    have hi' := List.mem_range.mp hi
    exact ⟨pieceAt_ne_eof h hfault hi', hnf i hi'⟩
  obtain ⟨acc', hbuild⟩ := TokenBuilder.build_append hts hcook #[]
  have hscan : scanText (Source.ofString text) limits =
      ((List.range k).map sc.pieceAt ++ [sc.pieceAt k, sc.pieceAt (k + 1)], sc.after (k + 1)) :=
    run_of_fault h hfault
  have hctx : tb'.context = (sc.after k).literals.errorContext :=
    DelimiterStack.errorContext_eq_of_openings (hstep.openings.trans (openings_frames _))
  simp only [tokenize, gt_iff_lt, not_lt.mpr hsize, if_false, hscan]
  rw [show (Source.ofString text).scanStart = sc.pos from rfl, hbuild, ← pos_after_eq_sum h,
    TokenBuilder.build]
  simp only [hf', htr.src_eq, hctx]
  rfl

open Scanner in
/-- A scan with no fault lexes. -/
lemma exists_tokenize_ok {text : String} {limits : ScanLimits}
    (hsize : text.utf8ByteSize ≤ maxSourceSize)
    (hnf : ∀ i, ((Scanner.start (Source.ofString text) limits).pieceAt i).tag.isFault = false) :
    ∃ toks, tokenize text limits = .ok toks := by
  let sc := Scanner.start (Source.ofString text) limits
  have h : sc.Placed text := placed_start text limits
  classical
  have hex : ∃ e, (sc.pieceAt e).tag = .eof := by
    obtain ⟨e, -, heof⟩ := exists_pieceAt_eof h
    exact ⟨e, heof⟩
  have hE : (sc.pieceAt (Nat.find hex)).tag = .eof := Nat.find_spec hex
  have hbefore : ∀ i < Nat.find hex, (sc.pieceAt i).tag ≠ .eof := fun i hi => Nat.find_min hex hi
  obtain ⟨tb', hcook, -⟩ := (Lockstep.start text limits).after (Nat.find hex) fun i _ => hnf i
  have hts : ∀ t ∈ (List.range (Nat.find hex)).map sc.pieceAt,
      t.tag ≠ .eof ∧ t.tag.isFault = false := by
    intro t ht
    obtain ⟨i, hi, rfl⟩ := List.mem_map.mp ht
    exact ⟨hbefore i (List.mem_range.mp hi), hnf i⟩
  obtain ⟨acc', hbuild⟩ := TokenBuilder.build_append hts hcook #[]
  have hscan : scanText (Source.ofString text) limits =
      ((List.range (Nat.find hex)).map sc.pieceAt ++ [sc.pieceAt (Nat.find hex)],
        sc.after (Nat.find hex + 1)) := by
    rw [scanText, run_eq_pieces h hbefore hE, List.range_succ, List.map_append]
    rfl
  simp only [tokenize, gt_iff_lt, not_lt.mpr hsize, if_false, hscan]
  rw [show (Source.ofString text).scanStart = sc.pos from rfl, hbuild, ← pos_after_eq_sum h,
    TokenBuilder.build]
  simp only [hE]
  exact ⟨_, rfl⟩

open Scanner TokenBuilder in
/-- **The token builder keeps step with the scan.** Up to the first fault the builder turns every
piece into a token or nothing, holding the scanner's open literals; so lexing fails only on a text
too large, or at the scan's first fault, reported at its site. -/
theorem tokenize_follows_scan (text : String) (limits : ScanLimits) :
    let src := Source.ofString text
    let sc := Scanner.start src limits
    let tb : TokenBuilder := ⟨src, LineIndex.build src, {}⟩
    let span := fun k => (⟨(sc.after k).pos, (sc.after k).pos + (sc.pieceAt k).len⟩ : Span)
    (∀ k, (∀ i < k, (sc.pieceAt i).tag.isFault = false) →
      ∃ tb', tb.cook src.scanStart ((List.range k).map sc.pieceAt) = .ok tb' ∧
        tb'.literals.depth = (sc.after k).literals.depth ∧
        tb'.literals.entries.map OpenLiteral.opening =
          (sc.after k).literals.entries.map OpenLiteral.opening) ∧
    (∀ k, (sc.pieceAt k).tag = .string ∨ (sc.pieceAt k).tag = .fstringStart →
      ∃ d, Delimiter.ofOpener?
          (src.window (sc.after k).pos (min ((sc.after k).pos + 5) src.size)) = some d ∧
        tb.delimiterAt (span k) = .ok d) ∧
    (∀ k, (sc.pieceAt k).tag = .fstringEnd → ∃ d, (sc.after k).literals.current? = some d ∧
        d.closesText (src.window (span k).start (span k).stop)) ∧
    (∀ k, (sc.pieceAt k).tag ≠ .fault .delimiterMismatch) ∧
    (∀ e, tokenize text limits = .error e ↔
      (maxSourceSize < text.utf8ByteSize ∧ e = ⟨⟨0, 0⟩, .sourceTooLarge, .topLevel⟩) ∨
      (text.utf8ByteSize ≤ maxSourceSize ∧ ∃ k f, (sc.pieceAt k).tag = .fault f ∧
        (∀ i < k, (sc.pieceAt i).tag.isFault = false) ∧
        e = ⟨(sc.after (k + 1)).errorSite.getD (span k),
          LexErrorKind.ofFault f ((sc.after (k + 1)).errorSite.getD (span k)) src,
          (sc.after k).literals.errorContext⟩)) := by
  intro src sc tb span
  have h : sc.Placed text := placed_start text limits
  refine ⟨fun k hnf => ?_, fun k htag => ?_, fun k htag => ?_, fun k => ?_, fun e => ?_⟩
  · obtain ⟨tb', hcook, hstep⟩ := (Lockstep.start text limits).after k hnf
    have hopen := hstep.openings.trans (openings_frames _)
    exact ⟨tb', hcook, DelimiterStack.depth_eq_of_openings hopen, hopen⟩
  · obtain ⟨d, hd, hlen⟩ := (cooks_after h k).opener htag
    have hadv := stepAdvance_after h k
    rw [(h.after k).src_eq] at hd
    exact ⟨d, hd, delimiterAt_window rfl (h.after k).boundary
      (hadv.pos_eq ▸ hadv.placed.boundary) hd (by simp only at hlen; omega)⟩
  · have hclose := (cooks_after h k).closer htag
    rw [(h.after k).src_eq] at hclose
    exact hclose
  · exact (cooks_after h k).noMismatch
  · constructor
    · intro herr
      by_cases hsize : maxSourceSize < text.utf8ByteSize
      · simp only [tokenize, gt_iff_lt, hsize, if_true, Except.error.injEq] at herr
        exact Or.inl ⟨hsize, herr.symm⟩
      · classical
        by_cases hex : ∃ k, (sc.pieceAt k).tag.isFault = true
        · obtain ⟨f, hf⟩ : ∃ f, (sc.pieceAt (Nat.find hex)).tag = .fault f := by
            have hfault := Nat.find_spec hex
            cases htag : (sc.pieceAt (Nat.find hex)).tag <;> simp_all [RawTag.isFault]
          have hnf : ∀ i < Nat.find hex, (sc.pieceAt i).tag.isFault = false := fun i hi => by
            simpa using Nat.find_min hex hi
          refine Or.inr ⟨not_lt.mp hsize, Nat.find hex, f, hf, hnf, ?_⟩
          rw [tokenize_of_fault (not_lt.mp hsize) hf hnf] at herr
          exact (Except.error.inj herr).symm
        · obtain ⟨toks, hok⟩ := exists_tokenize_ok (not_lt.mp hsize) fun i => by
            simpa using fun hf => hex ⟨i, hf⟩
          rw [hok] at herr
          cases herr
    · rintro (⟨hsize, rfl⟩ | ⟨hsize, k, f, hf, hnf, rfl⟩)
      · simp [tokenize, hsize]
      · exact tokenize_of_fault hsize hf hnf

end ExprFront
