import Mathlib
import ExprFront.Proofs.Nesting
import ExprFront.Proofs.TokenShape

/-!
# What a scan has open, and what one step does to it

A scanner keeps its open f-strings, the fields of each and the brackets of each field, and the
brackets open outside all f-strings. `Scanner.frames` reads these as the stack of the token
reader of `TokenShape`: for each open literal, innermost first, the brackets and the frame of
each of its fields, innermost first, then the literal itself; below them all, the brackets
outside any f-string.

`Scanner.Move` says once everything one step of a running scan can do to that stack. It can
report a fault, or the end with nothing open, or code that opens and closes nothing. It can open
or close a bracket, close a field or begin its format spec, or open an f-string. In text it can
report a piece that ends where the walk through the text stops, open a field, end a format spec,
or close the f-string at its closing quotes. `Scanner.move_step` proves that every step of a
running scan whose stack is settled is one of these.
-/

namespace ExprFront

/-- The frame of an open bracket. -/
def OpenBracket.frame (ob : OpenBracket) : Frame := .bracket ob.kind

/-- The frames of an open field: its brackets, innermost first, then the field itself, in its
expression or in its format spec. -/
def FieldProgress.frames (fl : FieldProgress) : List Frame :=
  fl.brackets.map OpenBracket.frame ++ [if fl.inFormatSpec then .spec else .field]

/-- The span of the opening text of an open literal. -/
def OpenLiteral.opener (lit : OpenLiteral LiteralProgress) : Span :=
  ⟨lit.start, lit.start + lit.delimiter.openLength⟩

/-- The frames of an open literal: those of its fields, innermost first, then its text. -/
def OpenLiteral.frames (lit : OpenLiteral LiteralProgress) : List Frame :=
  lit.state.fields.flatMap FieldProgress.frames ++
    [.literal lit.delimiter lit.opener lit.state.reported]

namespace Scanner

/-- What a scanner has open, as the stack of a token reader. -/
def frames (sc : Scanner) : List Frame :=
  sc.literals.entries.flatMap OpenLiteral.frames ++ sc.brackets.map OpenBracket.frame

/-- Whether the scanner is in a format spec, as a step in text mode reads it. -/
def inSpec (sc : Scanner) : Bool :=
  match sc.innerField? with
  | some fl => fl.inFormatSpec
  | none => false

/-- Whether the innermost literal has reported a piece, as the closing quotes read it. -/
def reported (sc : Scanner) : Bool :=
  match sc.literals.state? with
  | some st => st.reported
  | none => false

/-- The scanner stands where its walk through f-string text stops: it is in text mode, and the
walk from its offset stops at once. -/
def AtTextStop (sc : Scanner) : Prop :=
  ∃ d, sc.textDelimiter? = some d ∧ (sc.src.textStop d sc.inSpec sc.pos).pos = sc.pos

variable {sc : Scanner}

@[simp] lemma frames_moveTo (p : Nat) : ({ sc with pos := p } : Scanner).frames = sc.frames := rfl

/-! ## The frames of the innermost field -/

/-- The innermost field's frames come first; changing the field changes only them, and closing
it leaves the rest. -/
lemma frames_of_innerField? {fl : FieldProgress} (hin : sc.innerField? = some fl) :
    ∃ rest, sc.frames = fl.frames ++ rest ∧
      (∀ g : FieldProgress → FieldProgress, (sc.modifyField g).frames = (g fl).frames ++ rest) ∧
      ({ sc with literals := sc.literals.modifyState fun st =>
        { st with fields := st.fields.tail } } : Scanner).frames = rest := by
  rcases sc with ⟨src, limits, pos, ⟨entries⟩, brackets, site, stopped⟩
  rcases entries with _ | ⟨⟨d, start, ⟨fields, reported⟩⟩, lits⟩
  · simp [innerField?, DelimiterStack.state?] at hin
  · rcases fields with _ | ⟨fl₀, fls⟩
    · simp [innerField?, DelimiterStack.state?] at hin
    · obtain rfl : fl₀ = fl := by simpa [innerField?, DelimiterStack.state?] using hin
      refine ⟨fls.flatMap FieldProgress.frames ++ .literal d ⟨start, start + d.openLength⟩ reported ::
        (lits.flatMap OpenLiteral.frames ++ brackets.map OpenBracket.frame), ?_, fun g => ?_, ?_⟩ <;>
      simp [frames, modifyField, DelimiterStack.modifyState, OpenLiteral.frames, OpenLiteral.opener]

/-- In code mode the innermost field, if any, is in its expression. -/
lemma inFormatSpec_of_code {fl : FieldProgress} (hmode : sc.textDelimiter? = none)
    (hin : sc.innerField? = some fl) : fl.inFormatSpec = false := by
  rcases sc with ⟨src, limits, pos, ⟨_ | ⟨lit, lits⟩⟩, brackets, site, stopped⟩
  · simp [innerField?, DelimiterStack.state?] at hin
  · simp only [innerField?, DelimiterStack.state?, List.head?_cons, Option.map_some,
      Option.bind_some] at hin
    simp only [textDelimiter?, DelimiterStack.state?, DelimiterStack.current?, List.head?_cons,
      Option.map_some, hin] at hmode
    cases h : fl.inFormatSpec <;> simp_all

/-- Changing the innermost field but not its brackets or where it is changes no frame. -/
lemma frames_modifyField {g : FieldProgress → FieldProgress}
    (hb : ∀ fl, (g fl).brackets = fl.brackets) (hs : ∀ fl, (g fl).inFormatSpec = fl.inFormatSpec) :
    (sc.modifyField g).frames = sc.frames := by
  cases hin : sc.innerField? with
  | none => rw [modifyField_of_innerField?_eq_none hin]
  | some fl =>
    obtain ⟨rest, hframes, hmod, -⟩ := frames_of_innerField? hin
    rw [hmod, hframes, FieldProgress.frames, FieldProgress.frames, hb, hs]

/-! ## Code mode -/

/-- In code mode the innermost frame is a bracket or a field's expression, or nothing is open. -/
lemma inText_frames_of_code (hmode : sc.textDelimiter? = none) : Frame.inText sc.frames = false := by
  cases hin : sc.innerField? with
  | none =>
    rw [frames, entries_eq_nil_of_code hmode hin]
    rcases sc.brackets with _ | ⟨ob, obs⟩ <;> rfl
  | some fl =>
    obtain ⟨rest, hframes, -, -⟩ := frames_of_innerField? hin
    rw [hframes, FieldProgress.frames, inFormatSpec_of_code hmode hin]
    rcases fl.brackets with _ | ⟨ob, obs⟩ <;> rfl

/-- In code mode the brackets a bracket token meets are the innermost frames, and replacing them
changes only them. -/
lemma frames_setOpenBrackets (hmode : sc.textDelimiter? = none) :
    ∃ below, sc.frames = sc.openBrackets.map OpenBracket.frame ++ below ∧
      ∀ bs, (sc.setOpenBrackets bs).frames = bs.map OpenBracket.frame ++ below := by
  cases hin : sc.innerField? with
  | none =>
    have hnil := entries_eq_nil_of_code hmode hin
    refine ⟨[], ?_, fun bs => ?_⟩
    · simp [frames, openBrackets, hin, hnil]
    · simp [frames, setOpenBrackets, hin, hnil]
  | some fl =>
    obtain ⟨rest, hframes, hmod, -⟩ := frames_of_innerField? hin
    refine ⟨(if fl.inFormatSpec then .spec else .field) :: rest, ?_, fun bs => ?_⟩
    · simp [hframes, openBrackets, hin, FieldProgress.frames]
    · simp [setOpenBrackets, hin, hmod, FieldProgress.frames]

/-- In code mode, away from a field's top level, a colon begins no format spec. -/
lemma colon_frames (hmode : sc.textDelimiter? = none) (hnone : sc.fieldAtTop? = none) :
    Frame.colon sc.frames = sc.frames := by
  cases hin : sc.innerField? with
  | none =>
    rw [frames, entries_eq_nil_of_code hmode hin]
    rcases sc.brackets with _ | ⟨ob, obs⟩ <;> rfl
  | some fl =>
    obtain ⟨ob, obs, hbs⟩ : ∃ ob obs, fl.brackets = ob :: obs := by
      simp only [fieldAtTop?, hin, Option.filter_some] at hnone
      rcases hbs : fl.brackets with _ | ⟨ob, obs⟩
      · simp [hbs] at hnone
      · exact ⟨ob, obs, rfl⟩
    obtain ⟨rest, hframes, -, -⟩ := frames_of_innerField? hin
    rw [hframes, FieldProgress.frames, hbs]
    rfl

/-- At a field's top level in code mode, the field is the innermost frame: a colon turns it into
its format spec, and closing the field leaves the rest. -/
lemma frames_of_fieldAtTop? (hmode : sc.textDelimiter? = none) {fl : FieldProgress}
    (hfl : sc.fieldAtTop? = some fl) :
    ∃ rest, sc.frames = .field :: rest ∧
      (sc.modifyField fun fl => { fl with inFormatSpec := true }).frames = .spec :: rest ∧
      ({ sc with literals := sc.literals.modifyState fun st =>
        { st with fields := st.fields.tail } } : Scanner).frames = rest := by
  simp only [fieldAtTop?, Option.filter_eq_some_iff, List.isEmpty_iff] at hfl
  obtain ⟨hin, hbs⟩ := hfl
  obtain ⟨rest, hframes, hmod, hpop⟩ := frames_of_innerField? hin
  refine ⟨rest, ?_, ?_, hpop⟩
  · simp [hframes, FieldProgress.frames, hbs, inFormatSpec_of_code hmode hin]
  · simp [hmod, FieldProgress.frames, hbs]

/-- Opening an f-string puts its literal in front. -/
lemma frames_push (d : Delimiter) (start : Nat) :
    ({ sc with literals := sc.literals.push d start {} } : Scanner).frames =
      .literal d ⟨start, start + d.openLength⟩ false :: sc.frames := by
  simp [frames, OpenLiteral.frames, OpenLiteral.opener]

/-! ## Text mode -/

/-- No bracket stands directly inside a format spec. -/
lemma brackets_eq_nil_of_chain {bs : List OpenBracket} {rest : List Frame}
    (h : (bs.map OpenBracket.frame ++ Frame.spec :: rest).IsChain
      fun a b => ∀ k, a = .bracket k → b ≠ .spec) : bs = [] := by
  induction bs with
  | nil => rfl
  | cons ob obs ih =>
    exfalso
    cases obs with
    | nil => exact (List.isChain_cons_cons.mp h).1 ob.kind rfl rfl
    | cons ob' obs' => exact List.cons_ne_nil _ _ (ih h.tail)

variable {d : Delimiter}

/-- In a settled stack a field in its format spec has no bracket of its own open. -/
lemma brackets_eq_nil_of_inFormatSpec (hset : Frame.Settled sc.frames) {fl : FieldProgress}
    (hin : sc.innerField? = some fl) (hs : fl.inFormatSpec = true) : fl.brackets = [] := by
  obtain ⟨rest, hframes, -, -⟩ := frames_of_innerField? hin
  have hchain := hset.spec_bare
  rw [hframes, FieldProgress.frames, hs, if_pos rfl, List.append_assoc, List.singleton_append]
    at hchain
  exact brackets_eq_nil_of_chain hchain

/-- In a settled stack the innermost literal has reported a piece once a field of it is open. -/
lemma reported_of_fields (hset : Frame.Settled sc.frames) {lit : OpenLiteral LiteralProgress}
    (hlit : sc.literals.entries.head? = some lit) (hfields : lit.state.fields ≠ []) :
    lit.state.reported = true := by
  obtain ⟨fl, fls, hfl⟩ := List.exists_cons_of_ne_nil hfields
  obtain ⟨lits, hentries⟩ : ∃ lits, sc.literals.entries = lit :: lits := by
    rcases h : sc.literals.entries with _ | ⟨lit₀, lits⟩
    · simp [h] at hlit
    · simp only [h, List.head?_cons, Option.some.injEq] at hlit
      exact ⟨lits, by rw [hlit]⟩
  -- the literal's own frame comes after those of its fields, so it is not innermost
  have hmem : Frame.literal lit.delimiter lit.opener lit.state.reported ∈ sc.frames.tail := by
    have hne : fl.frames ≠ [] := by simp [FieldProgress.frames]
    obtain ⟨f, fs, hfs⟩ := List.exists_cons_of_ne_nil hne
    simp [frames, hentries, OpenLiteral.frames, hfl, hfs]
  cases hrep : lit.state.reported
  · rw [hrep] at hmem
    exact absurd rfl (hset.unread_innermost _ hmem lit.delimiter lit.opener)
  · rfl

/-- In text mode, with a settled stack, the innermost frame is text: the literal's, or the format
spec of its innermost field. -/
lemma inText_frames_of_text (hset : Frame.Settled sc.frames) (hd : sc.textDelimiter? = some d) :
    Frame.inText sc.frames = true := by
  cases hin : sc.innerField? with
  | none =>
    rcases sc with ⟨src, limits, pos, ⟨_ | ⟨lit, lits⟩⟩, brackets, site, stopped⟩
    · simp [textDelimiter?, DelimiterStack.state?] at hd
    · have hfields : lit.state.fields = [] := by
        simpa [innerField?, DelimiterStack.state?] using hin
      simp [frames, OpenLiteral.frames, hfields, Frame.inText]
  | some fl =>
    have hs : fl.inFormatSpec = true := by
      obtain ⟨st, hst⟩ : ∃ st, sc.literals.state? = some st := by
        simp only [innerField?, Option.bind_eq_some_iff] at hin
        obtain ⟨st, hst, -⟩ := hin
        exact ⟨st, hst⟩
      refine inFormatSpec_of_textDelimiter? hd hst fl ?_
      simp only [innerField?, hst, Option.bind_some] at hin
      exact hin
    obtain ⟨rest, hframes, -, -⟩ := frames_of_innerField? hin
    rw [hframes, FieldProgress.frames, brackets_eq_nil_of_inFormatSpec hset hin hs, hs]
    rfl

/-- A field's frames begin with no literal. -/
lemma markPiece_fieldFrames (fl : FieldProgress) (rest : List Frame) :
    Frame.markPiece (fl.frames ++ rest) = fl.frames ++ rest := by
  rcases fl with ⟨brace, _ | ⟨ob, obs⟩, _ | _, sawExpression, markerSeen⟩ <;> rfl

/-- Marking the innermost literal as having reported a piece marks its frame where it is the
innermost one; where a field of it is open, the literal had reported one already. -/
lemma frames_report (hset : Frame.Settled sc.frames) :
    ({ sc with literals := sc.literals.modifyState fun st => { st with reported := true } } :
      Scanner).frames = Frame.markPiece sc.frames := by
  rcases sc with ⟨src, limits, pos, ⟨_ | ⟨⟨d, start, ⟨fields, reported⟩⟩, lits⟩⟩, brackets, site,
    stopped⟩
  · simp only [frames, DelimiterStack.modifyState, List.flatMap_nil, List.nil_append]
    rcases brackets with _ | ⟨ob, obs⟩ <;> rfl
  · rcases fields with _ | ⟨fl, fls⟩
    · simp [frames, DelimiterStack.modifyState, OpenLiteral.frames, OpenLiteral.opener,
        Frame.markPiece]
    · obtain rfl : reported = true := reported_of_fields hset rfl (by simp)
      simp [frames, DelimiterStack.modifyState, OpenLiteral.frames, OpenLiteral.opener,
        markPiece_fieldFrames]

/-- Opening a field in text puts it in front, and marks the literal as having reported. -/
lemma frames_pushField (hset : Frame.Settled sc.frames) {st : LiteralProgress}
    (hst : sc.literals.state? = some st) (start : Nat) :
    ({ sc with literals := sc.literals.modifyState fun st =>
      { st with fields := { brace := start } :: st.fields, reported := true } } : Scanner).frames =
      .field :: Frame.markPiece sc.frames := by
  rcases sc with ⟨src, limits, pos, ⟨_ | ⟨⟨d, o, ⟨fields, reported⟩⟩, lits⟩⟩, brackets, site,
    stopped⟩
  · simp [DelimiterStack.state?] at hst
  · rcases fields with _ | ⟨fl, fls⟩
    · simp [frames, DelimiterStack.modifyState, OpenLiteral.frames, OpenLiteral.opener,
        FieldProgress.frames, Frame.markPiece]
    · obtain rfl : reported = true := reported_of_fields hset rfl (by simp)
      simp only [frames, OpenLiteral.frames, List.flatMap_cons, List.append_assoc,
        markPiece_fieldFrames]
      simp [DelimiterStack.modifyState, OpenLiteral.frames, FieldProgress.frames,
        OpenLiteral.opener]

/-- Closing a field at the end of its format spec closes its frame, which is innermost. -/
lemma frames_endSpec (hset : Frame.Settled sc.frames) {fl : FieldProgress}
    (hin : sc.innerField? = some fl) (hs : fl.inFormatSpec = true) :
    sc.frames = .spec :: ({ sc with literals := sc.literals.modifyState fun st =>
      { st with fields := st.fields.tail } } : Scanner).frames := by
  obtain ⟨rest, hframes, -, hpop⟩ := frames_of_innerField? hin
  rw [hpop, hframes, FieldProgress.frames, brackets_eq_nil_of_inFormatSpec hset hin hs, hs]
  rfl

/-- Closing the innermost f-string, with no field of it open, closes its frame, which is
innermost. -/
lemma frames_close (hd : sc.textDelimiter? = some d) (hin : sc.innerField? = none) {q : Quote}
    {z : QuoteSize} {d' : Delimiter} {rest : DelimiterStack LiteralProgress}
    (hclose : sc.literals.close q z = .ok (d', rest)) :
    ∃ o, sc.frames = .literal d o sc.reported :: ({ sc with literals := rest } : Scanner).frames := by
  rcases sc with ⟨src, limits, pos, ⟨_ | ⟨lit, lits⟩⟩, brackets, site, stopped⟩
  · simp [DelimiterStack.close] at hclose
  · have hfields : lit.state.fields = [] := by simpa [innerField?, DelimiterStack.state?] using hin
    have hlit : lit.delimiter = d := by
      simpa [textDelimiter?, DelimiterStack.state?, DelimiterStack.current?, hfields] using hd
    obtain rfl : rest = ⟨lits⟩ := by
      simp only [DelimiterStack.close] at hclose
      split at hclose
      · cases hclose
        rfl
      · cases hclose
    exact ⟨lit.opener, by
      simp [frames, OpenLiteral.frames, hfields, hlit, reported, DelimiterStack.state?]⟩

@[simp] lemma textDelimiter?_report :
    ({ sc with literals := sc.literals.modifyState fun st => { st with reported := true } } :
      Scanner).textDelimiter? = sc.textDelimiter? := by
  rcases sc with ⟨src, limits, pos, ⟨_ | ⟨lit, lits⟩⟩, brackets, site, stopped⟩ <;> rfl

@[simp] lemma innerField?_report :
    ({ sc with literals := sc.literals.modifyState fun st => { st with reported := true } } :
      Scanner).innerField? = sc.innerField? := by
  rcases sc with ⟨src, limits, pos, ⟨_ | ⟨lit, lits⟩⟩, brackets, site, stopped⟩ <;> rfl

end Scanner

/-- A tag of code that opens and closes nothing: anything but pieces of f-strings, brackets,
the end and faults. -/
def RawTag.IsPlain : RawTag → Prop
  | .punct p => p.opening? = none ∧ p.closing? = none
  | .fstringStart | .fstringMiddle | .fstringEnd | .eof | .fault _ => False
  | _ => True

namespace Scanner

/-- What one step of a running scan can do, as the frames of a token reader see it. -/
inductive Move (sc : Scanner) : RawToken × Scanner → Prop
  /-- A fault; the scan stops. -/
  | fault {f : ScanFault} {n : Nat} {sc' : Scanner} : Move sc (⟨.fault f, n⟩, sc')
  /-- The end of the text, with nothing open. -/
  | eof {n : Nat} {sc' : Scanner} (hframes : sc.frames = []) : Move sc (⟨.eof, n⟩, sc')
  /-- A piece of code that opens and closes nothing: trivia, a name, a number, a string, a
  newline, an operator, or a colon away from a field's top level. -/
  | code {tag : RawTag} {n : Nat} {sc' : Scanner} (hcode : Frame.inText sc.frames = false)
      (htag : tag.IsPlain) (hcolon : tag = .punct .colon → Frame.colon sc.frames = sc.frames)
      (hframes : sc'.frames = sc.frames) : Move sc (⟨tag, n⟩, sc')
  /-- An opening bracket in code. -/
  | openBracket {p : Punct} {k : Bracket} {n : Nat} {sc' : Scanner}
      (hcode : Frame.inText sc.frames = false) (hp : p.opening? = some k)
      (hframes : sc'.frames = .bracket k :: sc.frames) : Move sc (⟨.punct p, n⟩, sc')
  /-- A closing bracket that closes the innermost bracket, of its kind. -/
  | closeBracket {p : Punct} {k : Bracket} {n : Nat} {sc' : Scanner} (hp : p.closing? = some k)
      (hframes : sc.frames = .bracket k :: sc'.frames) : Move sc (⟨.punct p, n⟩, sc')
  /-- A `}` that closes a field from its expression. -/
  | endField {n : Nat} {sc' : Scanner} (hframes : sc.frames = .field :: sc'.frames) :
      Move sc (⟨.punct .rbrace, n⟩, sc')
  /-- A `:` that begins a field's format spec. -/
  | beginSpec {n : Nat} {sc' : Scanner} {rest : List Frame} (hframes : sc.frames = .field :: rest)
      (hframes' : sc'.frames = .spec :: rest) : Move sc (⟨.punct .colon, n⟩, sc')
  /-- The opening text of an f-string with delimiter `d`, read from the scanner's offset. -/
  | openLiteral {d : Delimiter} {n : Nat} {sc' : Scanner} (hcode : Frame.inText sc.frames = false)
      (hd : Delimiter.ofOpener? (sc.src.window sc.pos (min (sc.pos + 5) sc.src.size)) = some d)
      (hn : n = d.openLength)
      (hframes : sc'.frames = .literal d ⟨sc.pos, sc.pos + d.openLength⟩ false :: sc.frames) :
      Move sc (⟨.fstringStart, n⟩, sc')
  /-- A piece of f-string text, from a scanner not standing where the walk through the text
  stops to one that does. -/
  | middle {n : Nat} {sc' : Scanner} (htext : Frame.inText sc.frames = true) (hn : 0 < n)
      (hnot : ¬ sc.AtTextStop) (hstop : sc'.AtTextStop)
      (hframes : sc'.frames = Frame.markPiece sc.frames) : Move sc (⟨.fstringMiddle, n⟩, sc')
  /-- A `{` that opens a field in f-string text. -/
  | beginField {n : Nat} {sc' : Scanner} (htext : Frame.inText sc.frames = true)
      (hframes : sc'.frames = .field :: Frame.markPiece sc.frames) :
      Move sc (⟨.punct .lbrace, n⟩, sc')
  /-- A `}` that ends a format spec, and its field. -/
  | endSpec {n : Nat} {sc' : Scanner} (hframes : sc.frames = .spec :: sc'.frames) :
      Move sc (⟨.punct .rbrace, n⟩, sc')
  /-- The closing quotes, at `j`, of an f-string with delimiter `d`, with the text before them
  that no piece reported; there is such text only if no piece of the literal was reported. -/
  | closeLiteral {d : Delimiter} {o : Span} {rep : Bool} {j : Nat} {sc' : Scanner}
      (hframes : sc.frames = .literal d o rep :: sc'.frames) (hle : sc.pos ≤ j)
      (hclose : sc.src.closesAt d j = true) (hrep : rep = true → j = sc.pos) :
      Move sc (⟨.fstringEnd, j + d.closeLength - sc.pos⟩, sc')

variable {sc : Scanner}

/-- A piece of code after which only the offset has changed. -/
lemma Move.keep {tag : RawTag} {n p : Nat} (hmode : sc.textDelimiter? = none)
    (htag : tag.IsPlain) (hc : tag ≠ .punct .colon) : Move sc (⟨tag, n⟩, { sc with pos := p }) :=
  .code (inText_frames_of_code hmode) htag (fun h => absurd h hc) rfl

/-- A step from a scanner in code mode with the same frames, offset and text is one from this
scanner. -/
lemma Move.of_code {sc₁ : Scanner} {r : RawToken × Scanner} (h : Move sc₁ r)
    (hframes : sc₁.frames = sc.frames) (hpos : sc₁.pos = sc.pos) (hsrc : sc₁.src = sc.src)
    (hcode : Frame.inText sc.frames = false) : Move sc r := by
  cases h with
  | fault => exact .fault
  | eof hf => exact .eof (hframes ▸ hf)
  | code _ htag hcolon hf => exact .code hcode htag (hframes ▸ hcolon) (hf.trans hframes)
  | openBracket _ hp hf => exact .openBracket hcode hp (hframes ▸ hf)
  | closeBracket hp hf => exact .closeBracket hp (hframes ▸ hf)
  | endField hf => exact .endField (hframes ▸ hf)
  | beginSpec hf hf' => exact .beginSpec (hframes ▸ hf) hf'
  | openLiteral _ hd hn hf =>
    exact .openLiteral hcode (hpos ▸ hsrc ▸ hd) hn (by rw [hf, hframes, hpos])
  | middle htext => simp [hframes, hcode] at htext
  | beginField htext => simp [hframes, hcode] at htext
  | endSpec hf => exact .endSpec (hframes ▸ hf)
  | closeLiteral hf hle hclose hrep =>
    rw [hpos] at hle hrep ⊢
    rw [hsrc] at hclose
    exact .closeLiteral (hframes ▸ hf) hle hclose hrep

/-- Changing the innermost field but not where it is leaves the mode alone. -/
lemma textDelimiter?_modifyField {g : FieldProgress → FieldProgress}
    (hs : ∀ fl, (g fl).inFormatSpec = fl.inFormatSpec) :
    (sc.modifyField g).textDelimiter? = sc.textDelimiter? := by
  rcases sc with ⟨src, limits, pos, ⟨_ | ⟨⟨d, start, ⟨_ | ⟨fl, fls⟩, reported⟩⟩, lits⟩⟩, brackets,
    site, stopped⟩ <;>
  simp [textDelimiter?, modifyField, DelimiterStack.modifyState, DelimiterStack.state?,
    DelimiterStack.current?, hs]

/-- A step in code that first records something in the innermost field, but not its brackets or
where it is, moves as the step after the record does. -/
lemma Move.of_modifyField {g : FieldProgress → FieldProgress} {m : ScanM RawToken}
    (hb : ∀ fl, (g fl).brackets = fl.brackets) (hs : ∀ fl, (g fl).inFormatSpec = fl.inFormatSpec)
    (hcode : Frame.inText sc.frames = false)
    (h : Move (sc.modifyField g) (m.run (sc.modifyField g))) : Move sc (m.run (sc.modifyField g)) :=
  h.of_code (frames_modifyField hb hs) rfl rfl hcode

/-! ## Text stops -/

/-- Moved to where its walk through the text stops, the scanner is at a text stop. -/
lemma atTextStop_moveTo (hd : sc.textDelimiter? = some d) {i : Nat} {t : Source.TextStop}
    (hfits : t.Fits sc.src d sc.inSpec i) : ({ sc with pos := t.pos } : Scanner).AtTextStop :=
  ⟨d, hd, by
    change (sc.src.textStop d sc.inSpec t.pos).pos = t.pos
    rw [Source.textStop_at_stop hfits]⟩

lemma AtTextStop.report (h : sc.AtTextStop) :
    ({ sc with literals := sc.literals.modifyState fun st => { st with reported := true } } :
      Scanner).AtTextStop := by
  obtain ⟨d, hd, hstop⟩ := h
  refine ⟨d, by rw [textDelimiter?_report, hd], ?_⟩
  rw [inSpec, innerField?_report]
  exact hstop

/-- In text mode a field is open only in its format spec. -/
lemma innerField?_eq_none (hd : sc.textDelimiter? = some d) (hs : sc.inSpec = false) :
    sc.innerField? = none := by
  cases hin : sc.innerField? with
  | none => rfl
  | some fl =>
    rcases hlit : sc.literals.state? with _ | st
    · simp [innerField?, hlit] at hin
    · have hfl : st.fields.head? = some fl := by simpa [innerField?, hlit] using hin
      have hspec := inFormatSpec_of_textDelimiter? hd hlit fl (by simp [hfl])
      simp [inSpec, hin, hspec] at hs

lemma exists_of_inSpec (hs : sc.inSpec = true) :
    ∃ fl, sc.innerField? = some fl ∧ fl.inFormatSpec = true := by
  unfold inSpec at hs
  split at hs
  · next fl hin => exact ⟨fl, hin, hs⟩
  · cases hs

end Scanner

/-! ## Steps in code mode -/

namespace ScanM

open Scanner

variable {s : String} {sc : Scanner}

lemma move_zeroByte (hmode : sc.textDelimiter? = none) : Move sc ((zeroByte sc.pos).run sc) := by
  simp only [zeroByte, run_get_bind, run_ite, run_single]
  split
  · exact .fault
  · split
    · exact .fault
    · next hin =>
      split
      · exact .fault
      · next hbr => exact .eof (by simp [frames, entries_eq_nil_of_code hmode hin, hbr])

lemma move_blanks (hmode : sc.textDelimiter? = none) : Move sc ((blanks sc.pos).run sc) :=
  Move.keep hmode trivial (by simp)

lemma move_lineBreak (hmode : sc.textDelimiter? = none) : Move sc ((lineBreak sc.pos).run sc) := by
  simp only [lineBreak, run_eatLineBreak_bind, run_get_bind]
  split
  · simp only [run_ite, run_fault, run_emit]
    split
    · exact .fault
    · exact Move.keep hmode trivial (by simp)
  · simp only [run_ite, run_emit]
    split <;> exact Move.keep hmode trivial (by simp)

lemma move_comment (hmode : sc.textDelimiter? = none) : Move sc ((comment sc.pos).run sc) := by
  simp only [comment, run_get_bind, run_ite, run_advance_bind, run_fault, run_moveTo_bind,
    run_emit]
  split
  · exact .fault
  · exact Move.keep hmode trivial (by simp)

lemma move_continuation (hmode : sc.textDelimiter? = none) :
    Move sc ((continuation sc.pos).run sc) := by
  simp only [continuation, run_advance_bind, run_peekAt_bind, run_ite, run_eatLineBreak_bind,
    run_emit]
  split
  · exact Move.keep hmode trivial (by simp)
  · exact .fault

lemma move_operatorAt (hmode : sc.textDelimiter? = none) (n : Nat) {p : Punct}
    (hp : (RawTag.punct p).IsPlain) (hc : p ≠ .colon) :
    Move sc ((operatorAt sc.pos n p).run sc) := by
  simp only [operatorAt, run_advance_bind, run_peekAt_bind, run_ite, run_emit]
  split
  · exact Move.keep hmode ⟨rfl, rfl⟩ (by simp)
  · exact Move.keep hmode hp (by simpa using hc)

lemma move_pair (hmode : sc.textDelimiter? = none) {p : Punct} (hp : (RawTag.punct p).IsPlain)
    (hc : p ≠ .colon) : Move sc ((pair sc.pos p).run sc) :=
  Move.keep hmode hp (by simpa using hc)

lemma move_single (hmode : sc.textDelimiter? = none) {tag : RawTag} (hp : tag.IsPlain)
    (hc : tag ≠ .punct .colon) : Move sc ((single tag sc.pos).run sc) :=
  Move.keep hmode hp hc

/-- A string or an f-string: an f-string opened within the depth limit opens a literal. -/
lemma move_literal (hmode : sc.textDelimiter? = none) {d : Delimiter}
    (hd : Delimiter.ofOpener? (sc.src.window sc.pos (min (sc.pos + 5) sc.src.size)) = some d) :
    Move sc ((literal sc.pos d).run sc) := by
  simp only [literal, openFString, cutOffString, run_advance_bind, run_get_bind, run_ite,
    run_set_bind, run_fault, run_emit]
  split
  · split
    · exact .fault
    · exact .openLiteral (inText_frames_of_code hmode) hd (by omega) (frames_push d sc.pos)
  · split
    · simp only [run_moveTo_bind, run_emit]
      exact Move.keep hmode trivial (by simp)
    · simp only [run_moveTo_bind, run_get_bind]
      split
      · split <;> exact .fault
      · exact .fault

lemma move_quoted (hmode : sc.textDelimiter? = none) : Move sc ((quoted sc.pos).run sc) := by
  simp only [quoted, run_openerAt?_bind]
  split
  · exact move_literal hmode ‹_›
  · exact .fault

lemma move_word (hmode : sc.textDelimiter? = none) : Move sc ((word sc.pos).run sc) := by
  simp only [word, run_openerAt?_bind]
  split
  · exact move_literal hmode ‹_›
  · simp only [run_get_bind, run_moveTo_bind, run_emit]
    exact Move.keep hmode trivial (by simp)

lemma move_unicodeWord (hmode : sc.textDelimiter? = none) :
    Move sc ((unicodeWord sc.pos).run sc) := by
  simp only [unicodeWord, run_get_bind, run_ite, run_moveTo_bind, run_emit]
  split
  · exact Move.keep hmode trivial (by simp)
  · exact .fault

lemma move_numberEnd (hmode : sc.textDelimiter? = none) (start q : Nat) (isFloat : Bool) :
    Move sc ((numberEnd start isFloat).run { sc with pos := q }) := by
  simp only [numberEnd, run_peekAt_bind, run_ite, run_advance_bind, run_emit]
  split
  · exact Move.keep hmode trivial (by simp)
  · cases isFloat
    · exact Move.keep hmode trivial (by simp)
    · exact Move.keep hmode trivial (by simp)

lemma move_number (hmode : sc.textDelimiter? = none) : Move sc ((number sc.pos).run sc) := by
  simp only [number, run_get_bind, run_ite, run_moveTo_bind, run_emit]
  split
  · exact Move.keep hmode trivial (by simp)
  · exact move_numberEnd hmode _ _ _

lemma move_dot (hmode : sc.textDelimiter? = none) : Move sc ((dot sc.pos).run sc) := by
  simp only [dot, run_get_bind, run_ite, run_moveTo_bind, run_advance_bind, run_emit]
  split
  · exact move_numberEnd hmode _ _ _
  · split
    · exact Move.keep hmode ⟨rfl, rfl⟩ (by simp)
    · exact move_single hmode ⟨rfl, rfl⟩ (by simp)

/-- A `=` or `!` marker, read from the scanner's offset. -/
lemma move_endExpression (hmode : sc.textDelimiter? = none) (start q : Nat) {p : Punct}
    (hp : (RawTag.punct p).IsPlain) (hc : p ≠ .colon) :
    Move sc ((endExpression start p).run { sc with pos := q }) := by
  simp only [endExpression, run_get_bind]
  split
  · simp only [run_emit]
    exact Move.keep hmode hp (by simpa using hc)
  · simp only [run_ite, run_fault, run_modify_bind, run_emit]
    split
    · exact .fault
    · exact .code (inText_frames_of_code hmode) hp (fun h => absurd h (by simpa using hc))
        (frames_modifyField (fun _ => rfl) fun _ => rfl)

lemma move_colon (hmode : sc.textDelimiter? = none) : Move sc ((colon sc.pos).run sc) := by
  simp only [colon, run_advance_bind, run_get_bind]
  split
  · next fl hfl =>
    obtain ⟨rest, hframes, hspec, -⟩ := frames_of_fieldAtTop? hmode hfl
    simp only [run_ite, run_fault, run_modify_bind, run_emit]
    split
    · exact .fault
    · exact .beginSpec hframes hspec
  · next hnone =>
    simp only [run_peekAt_bind, run_ite, run_advance_bind, run_emit]
    split
    · exact Move.keep hmode ⟨rfl, rfl⟩ (by simp)
    · exact .code (inText_frames_of_code hmode) ⟨rfl, rfl⟩ (fun _ => colon_frames hmode hnone) rfl

lemma move_pushBracket (hmode : sc.textDelimiter? = none) {kind : Bracket} {p : Punct}
    (hp : p.opening? = some kind) : Move sc ((pushBracket sc.pos kind p).run sc) := by
  simp only [pushBracket, run_advance_bind, run_modify_bind, run_emit]
  obtain ⟨below, hframes, hset⟩ := frames_setOpenBrackets
    (show ({ sc with pos := sc.pos + 1 } : Scanner).textDelimiter? = none from hmode)
  refine .openBracket (inText_frames_of_code hmode) hp ?_
  rw [hset, List.map_cons]
  exact congrArg _ hframes.symm

/-- A closing bracket: it closes a field at the field's top level, closes the innermost bracket
if that is of its kind, and is a fault otherwise. -/
lemma move_popBracket (hmode : sc.textDelimiter? = none) {kind : Bracket} {p : Punct}
    (hp : p.closing? = some kind) : Move sc ((popBracket sc.pos kind p).run sc) := by
  simp only [popBracket, endField, run_get_bind, run_ite, run_advance_bind]
  split
  · next htop =>
    simp only [Bool.and_eq_true, beq_iff_eq, Option.isSome_iff_exists] at htop
    obtain ⟨-, fl, hfl⟩ := htop
    obtain ⟨rest, hframes, -, hpop⟩ := frames_of_fieldAtTop? hmode hfl
    have hin : sc.innerField? = some fl := by
      simp only [fieldAtTop?, Option.filter_eq_some_iff] at hfl
      exact hfl.1
    split
    · next hnone => exact absurd (hin.symm.trans hnone) (by simp)
    · simp only [run_modifyLiteral_bind, run_ite, run_fault, run_emit]
      split
      · exact .fault
      · exact .endField (hframes.trans (congrArg _ hpop.symm))
  · obtain ⟨below, hframes, hset⟩ := frames_setOpenBrackets
      (show ({ sc with pos := sc.pos + 1 } : Scanner).textDelimiter? = none from hmode)
    split
    · next ob obs hobs =>
      simp only [run_ite, run_modify_bind, run_emit, run_fault]
      split
      · next hkind =>
        refine .closeBracket hp ?_
        rw [hset, ← (beq_iff_eq.mp hkind)]
        change sc.frames = _ at hframes ⊢
        rw [hframes]
        change (sc.openBrackets).map OpenBracket.frame ++ below = _
        rw [hobs]
        rfl
      · exact .fault
    · simp only [run_fault]
      exact .fault

end ScanM

/-! ## Steps in text mode -/

namespace ScanM

open Scanner

variable {s : String} {sc : Scanner} {d : Delimiter}

/-- Text before the stop its walk reached, reported as a piece. -/
lemma move_textPiece (hsc : sc.Placed s) (hset : Frame.Settled sc.frames)
    (hd : sc.textDelimiter? = some d) {t : Source.TextStop}
    (heq : sc.src.textStop d sc.inSpec sc.pos = t) (hlt : sc.pos < t.pos) :
    Move sc ((textPiece sc.pos).run { sc with pos := t.pos }) := by
  rw [run_textPiece]
  refine .middle (inText_frames_of_text hset hd) (Nat.sub_pos_of_lt hlt) ?_
    (atTextStop_moveTo hd (hsc.textStop_fits heq)).report
    (frames_report (show Frame.Settled ({ sc with pos := t.pos } : Scanner).frames from hset))
  rintro ⟨d', hd', hstop⟩
  obtain rfl := Option.some.inj (hd.symm.trans hd')
  rw [heq] at hstop
  omega

lemma move_beginField (hset : Frame.Settled sc.frames) (hd : sc.textDelimiter? = some d)
    (start : Nat) : Move sc ((beginField start).run sc) := by
  simp only [beginField, run_advance_bind, run_get_bind]
  split
  · next hnone => simp [textDelimiter?, show sc.literals.state? = none from hnone] at hd
  · next st hst =>
    simp only [run_ite, run_fault, run_modifyLiteral_bind, run_emit]
    split
    · exact .fault
    · exact .beginField (inText_frames_of_text hset hd)
        (frames_pushField
          (show Frame.Settled ({ sc with pos := sc.pos + 1 } : Scanner).frames from hset) hst start)

lemma move_endSpec (hset : Frame.Settled sc.frames) {fl : FieldProgress}
    (hin : sc.innerField? = some fl) (hs : fl.inFormatSpec = true) (start q : Nat) :
    Move sc ((endSpec start).run { sc with pos := q }) := by
  simp only [endSpec, run_advance_bind, run_modifyLiteral_bind, run_emit]
  exact .endSpec (frames_endSpec hset hin hs)

/-- The closing quotes at `j`, out of a format spec: the text before them if a piece of the
literal came before it, else the end of the literal. -/
lemma move_closeFString (hsc : sc.Placed s) (hset : Frame.Settled sc.frames)
    (hd : sc.textDelimiter? = some d) (hs : sc.inSpec = false) {j : Nat}
    (heq : sc.src.textStop d sc.inSpec sc.pos = .closer j) :
    Move sc ((closeFString sc.pos d).run { sc with pos := j }) := by
  obtain ⟨hle, hcloses⟩ := hsc.textStop_fits heq
  simp only [closeFString, run_get_bind, run_ite, run_advance_bind]
  split
  · next hrep =>
    simp only [Bool.and_eq_true, decide_eq_true_eq] at hrep
    exact move_textPiece hsc hset hd heq hrep.2
  · next hrep =>
    split
    · next rest hclose =>
      simp only [run_set_bind, run_emit]
      obtain ⟨o, hframes⟩ := frames_close
        (show ({ sc with pos := j + d.closeLength } : Scanner).textDelimiter? = some d from hd)
        (innerField?_eq_none hd hs) hclose
      refine .closeLiteral hframes hle hcloses fun hr => ?_
      have hrep' : ¬ (sc.reported && decide (j > sc.pos)) = true := hrep
      simp only [show sc.reported = true from hr, Bool.true_and, decide_eq_true_eq,
        not_lt] at hrep'
      omega
    · simp only [run_fault]
      exact .fault

lemma move_textStep (hsc : sc.Placed s) (hset : Frame.Settled sc.frames)
    (hd : sc.textDelimiter? = some d) : Move sc ((textStep d).run sc) := by
  simp only [textStep, run_get_bind]
  split
  · next j heq =>
    obtain ⟨hle, -, -⟩ := hsc.textStop_fits heq
    simp only [run_moveTo_bind, run_ite]
    split
    · exact move_textPiece hsc hset hd heq ‹_›
    · obtain rfl : j = sc.pos := by omega
      exact move_beginField hset hd _
  · next j heq =>
    obtain ⟨-, -, hs⟩ := hsc.textStop_fits heq
    obtain ⟨fl, hin, hfs⟩ := exists_of_inSpec hs
    simp only [run_moveTo_bind, run_ite]
    split
    · exact move_textPiece hsc hset hd heq ‹_›
    · exact move_endSpec hset hin hfs _ _
  · simp only [run_moveTo_bind, run_fault]
    exact .fault
  · simp only [run_moveTo_bind, run_fault]
    exact .fault
  · simp only [run_moveTo_bind, run_ite, openFieldFault, run_get_bind, run_fault]
    split_ifs <;> exact .fault
  · next j heq =>
    simp only [run_moveTo_bind, run_ite]
    split_ifs with hs
    · simp only [openFieldFault, run_get_bind, run_fault]
      exact .fault
    · exact move_closeFString hsc hset hd (Bool.eq_false_iff.mpr hs) heq

/-! ## Every step -/

lemma move_codeStep (hmode : sc.textDelimiter? = none) : Move sc (codeStep.run sc) := by
  simp only [codeStep, markExpression, run_get_bind, run_modify_bind]
  have hb : ∀ (b : UInt8) (fl : FieldProgress), (if beginsExpr b && !fl.markerSeen then { fl with sawExpression := true }
      else fl).brackets = fl.brackets := fun _ _ => by split <;> rfl
  have hs : ∀ (b : UInt8) (fl : FieldProgress), (if beginsExpr b && !fl.markerSeen then { fl with sawExpression := true }
      else fl).inFormatSpec = fl.inFormatSpec := fun _ _ => by split <;> rfl
  apply Move.of_modifyField (hb _) (hs _) (inText_frames_of_code hmode)
  have h₁ : (sc.modifyField _).textDelimiter? = none :=
    (textDelimiter?_modifyField (hs (sc.src.byte sc.pos))).trans hmode
  split
  · exact move_zeroByte h₁
  · exact move_blanks h₁
  · exact move_blanks h₁
  · exact move_blanks h₁
  · exact move_lineBreak h₁
  · exact move_lineBreak h₁
  · exact move_comment h₁
  · exact move_continuation h₁
  · exact move_quoted h₁
  · exact move_quoted h₁
  · exact move_dot h₁
  · exact move_operatorAt h₁ _ ⟨rfl, rfl⟩ (by simp)
  · rw [run_ite]; split
    · exact move_pair h₁ ⟨rfl, rfl⟩ (by simp)
    · exact move_operatorAt h₁ _ ⟨rfl, rfl⟩ (by simp)
  · rw [run_ite]; split <;> exact move_operatorAt h₁ _ ⟨rfl, rfl⟩ (by simp)
  · rw [run_ite]; split <;> exact move_operatorAt h₁ _ ⟨rfl, rfl⟩ (by simp)
  · exact move_operatorAt h₁ _ ⟨rfl, rfl⟩ (by simp)
  · exact move_operatorAt h₁ _ ⟨rfl, rfl⟩ (by simp)
  · exact move_operatorAt h₁ _ ⟨rfl, rfl⟩ (by simp)
  · exact move_operatorAt h₁ _ ⟨rfl, rfl⟩ (by simp)
  · exact move_operatorAt h₁ _ ⟨rfl, rfl⟩ (by simp)
  · exact move_single h₁ ⟨rfl, rfl⟩ (by simp)
  · simp only [run_ite]; split
    · exact move_operatorAt h₁ _ ⟨rfl, rfl⟩ (by simp)
    · split
      · exact move_pair h₁ ⟨rfl, rfl⟩ (by simp)
      · exact move_single h₁ ⟨rfl, rfl⟩ (by simp)
  · simp only [run_ite]; split
    · exact move_operatorAt h₁ _ ⟨rfl, rfl⟩ (by simp)
    · split
      · exact move_pair h₁ ⟨rfl, rfl⟩ (by simp)
      · exact move_single h₁ ⟨rfl, rfl⟩ (by simp)
  · rw [run_ite]; split
    · exact move_pair h₁ ⟨rfl, rfl⟩ (by simp)
    · exact move_endExpression h₁ _ _ ⟨rfl, rfl⟩ (by simp)
  · rw [run_ite]; split
    · exact move_pair h₁ ⟨rfl, rfl⟩ (by simp)
    · exact move_endExpression h₁ _ _ ⟨rfl, rfl⟩ (by simp)
  · exact move_colon h₁
  · exact move_single h₁ ⟨rfl, rfl⟩ (by simp)
  · exact move_single h₁ ⟨rfl, rfl⟩ (by simp)
  · exact move_pushBracket h₁ rfl
  · exact move_pushBracket h₁ rfl
  · exact move_pushBracket h₁ rfl
  · exact move_popBracket h₁ rfl
  · exact move_popBracket h₁ rfl
  · exact move_popBracket h₁ rfl
  · simp only [run_ite]
    split
    · exact move_word h₁
    · split
      · exact move_number h₁
      · split
        · exact move_unicodeWord h₁
        · exact .fault

lemma move_modeStep (hsc : sc.Placed s) (hset : Frame.Settled sc.frames) :
    Move sc (modeStep.run sc) := by
  simp only [modeStep, run_get_bind]
  split
  · next d hd => exact move_textStep hsc hset hd
  · next hd => exact move_codeStep hd

end ScanM

namespace Scanner

open ScanM

variable {s : String} {sc : Scanner}

/-- **What a step of a running scan can do**, from a settled stack: one of the moves of
`Scanner.Move`. -/
theorem move_step (hsc : sc.Placed s) (hgo : sc.stopped = false)
    (hset : Frame.Settled sc.frames) : Move sc (ScanM.step.run sc) := by
  simp only [ScanM.step, run_get_bind, hgo, Bool.false_eq_true, if_false]
  rw [run_bind]
  have hmode := move_modeStep hsc hset
  generalize modeStep.run sc = r at hmode ⊢
  obtain ⟨⟨tag, n⟩, sc'⟩ := r
  dsimp only
  split
  · next hf =>
    cases tag <;> simp only [RawTag.isFault, Bool.false_eq_true] at hf
    exact .fault
  · exact hmode

end Scanner

end ExprFront
