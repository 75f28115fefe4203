import Mathlib
import ExprFront.Proofs.Coverage

/-!
# The scanner's nesting agrees with its text and its limits

A scanner keeps three nested stacks: the open f-strings, the open fields of each, and the open
brackets of each field and outside all f-strings. `Scanner.Nested src limits sc` says that
these stacks are what the text `src` and the limits allow:

* at most `maxFStringDepth` f-strings are open, and each starts with the opening text of its
  delimiter;
* a literal holds at most `maxFormatSpecDepth + 1` fields, and every field but the innermost is
  in its format spec;
* every open field's `{` and every open bracket stands in the text where the stack says.

Every step keeps this (`Scanner.Nested.step`), so every scanner a scan reaches is nested so
(`scan_nesting_sound`); and the end, reported with no fault before it, comes with nothing open.
-/

namespace ExprFront

/-- The byte that opens a bracket. -/
def Bracket.openByte : Bracket → UInt8
  | .paren => 40
  | .square => 91
  | .curly => 123

/-- An open bracket stands in the text where it is recorded. -/
def OpenBracket.Sound (src : Source) (ob : OpenBracket) : Prop := src.byte ob.pos = ob.kind.openByte

/-- An open field stands in the text where it is recorded: its `{`, and each of its open
brackets. -/
structure FieldProgress.Sound (src : Source) (fl : FieldProgress) : Prop where
  brace : src.byte fl.brace = 123
  brackets : ∀ ob ∈ fl.brackets, ob.Sound src

/-- An open literal agrees with the text and the limits: it starts with the opening text of its
delimiter, it holds at most one field more than the format-spec limit, every field but the
innermost is in its format spec, and its fields stand where the text has them. -/
structure OpenLiteral.Sound (src : Source) (limits : ScanLimits)
    (lit : OpenLiteral LiteralProgress) : Prop where
  opener : Delimiter.ofOpener? (src.window lit.start (min (lit.start + 5) src.size)) =
    some lit.delimiter
  fields_le : lit.state.fields.length ≤ limits.maxFormatSpecDepth + 1
  outer_inSpec : ∀ fl ∈ lit.state.fields.tail, fl.inFormatSpec = true
  fields : ∀ fl ∈ lit.state.fields, fl.Sound src

/-- The nesting of a scanner of the text `src` under `limits` agrees with both: at most
`maxFStringDepth` f-strings are open, each open literal is sound, and so is each bracket open
outside all f-strings. -/
structure Scanner.Nested (src : Source) (limits : ScanLimits) (sc : Scanner) : Prop where
  src_eq : sc.src = src
  limits_eq : sc.limits = limits
  depth_le : sc.literals.depth ≤ limits.maxFStringDepth
  literals : ∀ lit ∈ sc.literals.entries, lit.Sound src limits
  brackets : ∀ ob ∈ sc.brackets, ob.Sound src

namespace Scanner.Nested

variable {src : Source} {limits : ScanLimits} {sc sc' : Scanner}

/-- A scanner with the same text, limits and stacks is nested alike. -/
lemma of_eq (h : sc.Nested src limits) (hsrc : sc'.src = sc.src) (hlim : sc'.limits = sc.limits)
    (hlit : sc'.literals = sc.literals) (hbr : sc'.brackets = sc.brackets) :
    sc'.Nested src limits :=
  ⟨hsrc.trans h.src_eq, hlim.trans h.limits_eq, hlit ▸ h.depth_le, hlit ▸ h.literals,
    hbr ▸ h.brackets⟩

/-- Moving the scanner keeps its nesting. -/
lemma moveTo (h : sc.Nested src limits) (p : Nat) : Scanner.Nested src limits { sc with pos := p } :=
  h.of_eq rfl rfl rfl rfl

/-- The innermost literal, with its state changed so that it stays sound. -/
lemma modifyState (h : sc.Nested src limits) {g : LiteralProgress → LiteralProgress}
    (hg : ∀ lit, sc.literals.entries.head? = some lit → lit.Sound src limits →
      ({ lit with state := g lit.state } : OpenLiteral LiteralProgress).Sound src limits) :
    { sc with literals := sc.literals.modifyState g }.Nested src limits := by
  obtain ⟨hsrc, hlim, hdepth, hlits, hbr⟩ := h
  rcases hsc : sc.literals with ⟨_ | ⟨lit, rest⟩⟩
  · rw [hsc] at hdepth
    exact ⟨hsrc, hlim, by simpa [DelimiterStack.modifyState, hsc] using hdepth,
      by simp [DelimiterStack.modifyState], hbr⟩
  · rw [hsc] at hdepth hlits hg
    refine ⟨hsrc, hlim, by simpa [DelimiterStack.modifyState, DelimiterStack.depth] using hdepth,
      ?_, hbr⟩
    simp only [DelimiterStack.modifyState, List.mem_cons, forall_eq_or_imp] at hlits ⊢
    exact ⟨hg lit rfl hlits.1, hlits.2⟩

/-- The innermost field, changed so that it stays where the text has it. -/
lemma modifyField (h : sc.Nested src limits) {f : FieldProgress → FieldProgress}
    (hf : ∀ fl, fl.Sound src → (f fl).Sound src) : (sc.modifyField f).Nested src limits := by
  refine h.modifyState fun lit _ hlit => ?_
  obtain ⟨hopen, hle, hspec, hfields⟩ := hlit
  rcases hfl : lit.state.fields with _ | ⟨fl, rest⟩
  · rw [hfl] at hle hspec hfields
    exact ⟨hopen, by simp [hfl], by simp [hfl], by simp [hfl]⟩
  · rw [hfl] at hle hspec hfields
    simp only [List.mem_cons, forall_eq_or_imp] at hfields
    refine ⟨hopen, by simpa [hfl] using hle, by simpa [hfl] using hspec, ?_⟩
    simp only [List.mem_cons, forall_eq_or_imp]
    exact ⟨hf fl hfields.1, hfields.2⟩

/-- Marking the innermost literal as having reported a piece keeps the nesting sound. -/
lemma report (h : sc.Nested src limits) :
    { sc with literals := sc.literals.modifyState fun st => { st with reported := true } }.Nested
      src limits :=
  h.modifyState fun _ _ hlit => ⟨hlit.opener, hlit.fields_le, hlit.outer_inSpec, hlit.fields⟩

/-- Closing the innermost field keeps the nesting sound. -/
lemma popField (h : sc.Nested src limits) :
    { sc with literals := sc.literals.modifyState fun st => { st with fields := st.fields.tail } }.Nested
      src limits := by
  refine h.modifyState fun lit _ hlit => ⟨hlit.opener, ?_, ?_, ?_⟩
  · have := hlit.fields_le
    simp only [List.length_tail]
    omega
  · exact fun fl hfl => hlit.outer_inSpec fl (List.mem_of_mem_tail hfl)
  · exact fun fl hfl => hlit.fields fl (List.mem_of_mem_tail hfl)

/-- Opening a field at a `{` of the text keeps the nesting sound, if the literal has room for
it and its innermost field, if any, is in its format spec. -/
lemma pushField (h : sc.Nested src limits) {start : Nat} (hbrace : src.byte start = 123)
    (hroom : ∀ st, sc.literals.state? = some st →
      st.fields.length ≤ limits.maxFormatSpecDepth ∧ ∀ fl ∈ st.fields.head?, fl.inFormatSpec = true) :
    { sc with literals := sc.literals.modifyState fun st =>
      { st with fields := { brace := start } :: st.fields, reported := true } }.Nested src limits := by
  refine h.modifyState fun lit hhead hlit => ?_
  obtain ⟨hle, hspec⟩ := hroom lit.state (by simp [DelimiterStack.state?, hhead])
  refine ⟨hlit.opener, by simp only [List.length_cons]; omega, ?_, ?_⟩
  · intro fl hfl
    simp only [List.tail_cons] at hfl
    rcases hfields : lit.state.fields with _ | ⟨fl₀, rest⟩
    · simp [hfields] at hfl
    · rw [hfields] at hfl hspec
      have hout := hlit.outer_inSpec
      rw [hfields] at hout
      rcases List.mem_cons.mp hfl with rfl | hrest
      · exact hspec fl (by simp)
      · exact hout fl hrest
  · simp only [List.mem_cons, forall_eq_or_imp]
    exact ⟨⟨hbrace, by simp⟩, hlit.fields⟩

/-- The innermost field is one of the fields of the innermost literal. -/
lemma exists_of_innerField? {fl : FieldProgress} (hin : sc.innerField? = some fl) :
    ∃ lit ∈ sc.literals.entries, fl ∈ lit.state.fields := by
  rcases hsc : sc.literals with ⟨_ | ⟨lit, rest⟩⟩
  · simp [innerField?, DelimiterStack.state?, hsc] at hin
  · simp only [innerField?, DelimiterStack.state?, hsc, List.head?_cons, Option.map_some,
      Option.bind_some] at hin
    exact ⟨lit, by simp, List.mem_of_mem_head? hin⟩

/-- The brackets a bracket token meets stand where the text has them. -/
lemma openBrackets (h : sc.Nested src limits) : ∀ ob ∈ sc.openBrackets, ob.Sound src := by
  unfold Scanner.openBrackets
  split
  · next fl hin =>
    obtain ⟨lit, hlit, hfl⟩ := exists_of_innerField? hin
    exact ((h.literals lit hlit).fields fl hfl).brackets
  · exact h.brackets

/-- Replacing the brackets a bracket token meets by sound ones keeps the nesting sound. -/
lemma setOpenBrackets (h : sc.Nested src limits) {bs : List OpenBracket}
    (hbs : ∀ ob ∈ bs, ob.Sound src) : (sc.setOpenBrackets bs).Nested src limits := by
  unfold Scanner.setOpenBrackets
  split
  · exact h.modifyField fun fl hfl => ⟨hfl.brace, hbs⟩
  · exact ⟨h.src_eq, h.limits_eq, h.depth_le, h.literals, hbs⟩

/-- Opening a literal within the depth limit, at a text that opens it, keeps the nesting
sound. -/
lemma push (h : sc.Nested src limits) (hsrc : sc'.src = sc.src) (hlim : sc'.limits = sc.limits)
    (hbr : sc'.brackets = sc.brackets) {d : Delimiter} {start : Nat}
    (hlit : sc'.literals = sc.literals.push d start {})
    (hdepth : sc.literals.depth < limits.maxFStringDepth)
    (hopen : Delimiter.ofOpener? (src.window start (min (start + 5) src.size)) = some d) :
    sc'.Nested src limits := by
  refine ⟨hsrc.trans h.src_eq, hlim.trans h.limits_eq, by rw [hlit]; simpa using hdepth, ?_,
    hbr ▸ h.brackets⟩
  rw [hlit, DelimiterStack.entries_push]
  simp only [List.mem_cons, forall_eq_or_imp]
  exact ⟨⟨hopen, by simp, by simp, by simp⟩, h.literals⟩

/-- Closing the innermost literal keeps the nesting sound. -/
lemma close (h : sc.Nested src limits) (hsrc : sc'.src = sc.src) (hlim : sc'.limits = sc.limits)
    (hbr : sc'.brackets = sc.brackets) {q : Quote} {z : QuoteSize} {d : Delimiter}
    {rest : DelimiterStack LiteralProgress} (hclose : sc.literals.close q z = .ok (d, rest))
    (hlit : sc'.literals = rest) : sc'.Nested src limits := by
  obtain ⟨lit, hentries⟩ : ∃ lit, sc.literals.entries = lit :: rest.entries := by
    rcases hsc : sc.literals with ⟨_ | ⟨lit, rest'⟩⟩
    · simp [DelimiterStack.close, hsc] at hclose
    · simp only [DelimiterStack.close, hsc] at hclose
      split at hclose
      · cases hclose
        exact ⟨lit, rfl⟩
      · cases hclose
  have hdepth := h.depth_le
  have hlits := h.literals
  simp only [DelimiterStack.depth, hentries, List.length_cons, List.mem_cons,
    forall_eq_or_imp] at hdepth hlits
  exact ⟨hsrc.trans h.src_eq, hlim.trans h.limits_eq, by rw [hlit]; simp only [DelimiterStack.depth]; omega,
    hlit ▸ hlits.2, hbr ▸ h.brackets⟩

end Scanner.Nested

namespace Scanner

variable {sc : Scanner}

/-- In text mode the innermost field, if one is open, is in its format spec. -/
lemma inFormatSpec_of_textDelimiter? {d : Delimiter} (hd : sc.textDelimiter? = some d)
    {st : LiteralProgress} (hst : sc.literals.state? = some st) :
    ∀ fl ∈ st.fields.head?, fl.inFormatSpec = true := by
  intro fl hfl
  simp only [textDelimiter?, hst, Option.mem_def.mp hfl] at hd
  split at hd
  · assumption
  · cases hd

/-- In code mode with no field open, no f-string is open either: an f-string with no open field
is scanned in text mode. -/
lemma entries_eq_nil_of_code (hd : sc.textDelimiter? = none) (hf : sc.innerField? = none) :
    sc.literals.entries = [] := by
  rcases hsc : sc.literals with ⟨_ | ⟨lit, rest⟩⟩
  · rfl
  · exfalso
    rcases hfl : lit.state.fields with _ | ⟨fl, fls⟩
    · simp [textDelimiter?, DelimiterStack.state?, DelimiterStack.current?, hsc, hfl] at hd
    · simp [innerField?, DelimiterStack.state?, hsc, hfl] at hf

end Scanner

/-! ## Code mode -/

namespace ScanM

open Scanner

variable {s : String} {src : Source} {limits : ScanLimits} {sc : Scanner}

lemma nested_zeroByte (h : sc.Nested src limits) : ((zeroByte sc.pos).run sc).2.Nested src limits := by
  simp only [zeroByte, run_get_bind, run_ite]
  split
  · exact h.of_eq rfl rfl rfl rfl
  · split
    · exact h.of_eq rfl rfl rfl rfl
    · split <;> exact h.of_eq rfl rfl rfl rfl

lemma nested_blanks (h : sc.Nested src limits) : ((blanks sc.pos).run sc).2.Nested src limits :=
  h.of_eq rfl rfl rfl rfl

lemma nested_lineBreak (h : sc.Nested src limits) :
    ((lineBreak sc.pos).run sc).2.Nested src limits := by
  simp only [lineBreak, run_eatLineBreak_bind, run_get_bind]
  split <;> split <;> exact h.of_eq rfl rfl rfl rfl

lemma nested_comment (h : sc.Nested src limits) : ((comment sc.pos).run sc).2.Nested src limits := by
  simp only [comment, run_get_bind, run_ite]
  split <;> exact h.of_eq rfl rfl rfl rfl

lemma nested_continuation (h : sc.Nested src limits) :
    ((continuation sc.pos).run sc).2.Nested src limits := by
  simp only [continuation, run_advance_bind, run_peekAt_bind, run_ite]
  split <;> exact h.of_eq rfl rfl rfl rfl

lemma nested_operatorAt (h : sc.Nested src limits) (n : Nat) (plain : Punct) :
    ((operatorAt sc.pos n plain).run sc).2.Nested src limits := by
  simp only [operatorAt, run_advance_bind, run_peekAt_bind, run_ite]
  split <;> exact h.of_eq rfl rfl rfl rfl

/-- A string or f-string: only an f-string opened within the depth limit changes the nesting. -/
lemma nested_literal (h : sc.Nested src limits) {d : Delimiter}
    (hd : Delimiter.ofOpener? (sc.src.window sc.pos (min (sc.pos + 5) sc.src.size)) = some d) :
    ((literal sc.pos d).run sc).2.Nested src limits := by
  simp only [literal, openFString, cutOffString, run_advance_bind, run_get_bind, run_ite,
    run_set_bind, run_fault, run_emit]
  split
  · split
    · exact h.of_eq rfl rfl rfl rfl
    · next hdepth =>
      exact h.push rfl rfl rfl rfl (by rw [← h.limits_eq]; simpa using hdepth) (h.src_eq ▸ hd)
  · split
    · exact h.of_eq rfl rfl rfl rfl
    · simp only [run_moveTo_bind, run_get_bind]
      split
      · split <;> exact h.of_eq rfl rfl rfl rfl
      · exact h.of_eq rfl rfl rfl rfl

lemma nested_quoted (h : sc.Nested src limits) : ((quoted sc.pos).run sc).2.Nested src limits := by
  simp only [quoted, run_openerAt?_bind]
  split
  · exact nested_literal h ‹_›
  · exact h.of_eq rfl rfl rfl rfl

lemma nested_word (h : sc.Nested src limits) : ((word sc.pos).run sc).2.Nested src limits := by
  simp only [word, run_openerAt?_bind]
  split
  · exact nested_literal h ‹_›
  · exact h.of_eq rfl rfl rfl rfl

lemma nested_unicodeWord (h : sc.Nested src limits) :
    ((unicodeWord sc.pos).run sc).2.Nested src limits := by
  simp only [unicodeWord, run_get_bind, run_ite]
  split <;> exact h.of_eq rfl rfl rfl rfl

lemma nested_numberEnd (h : sc.Nested src limits) (start : Nat) (isFloat : Bool) :
    ((numberEnd start isFloat).run sc).2.Nested src limits := by
  simp only [numberEnd, run_peekAt_bind, run_ite]
  split <;> exact h.of_eq rfl rfl rfl rfl

lemma nested_number (h : sc.Nested src limits) : ((number sc.pos).run sc).2.Nested src limits := by
  simp only [number, run_get_bind, run_ite, run_moveTo_bind]
  split
  · exact h.of_eq rfl rfl rfl rfl
  · exact nested_numberEnd (h.moveTo _) _ _

lemma nested_dot (h : sc.Nested src limits) : ((dot sc.pos).run sc).2.Nested src limits := by
  simp only [dot, run_get_bind, run_ite, run_moveTo_bind]
  split
  · exact nested_numberEnd (h.moveTo _) _ _
  · split <;> exact h.of_eq rfl rfl rfl rfl

lemma nested_endExpression (h : sc.Nested src limits) (start : Nat) (p : Punct) :
    ((endExpression start p).run sc).2.Nested src limits := by
  simp only [endExpression, run_get_bind]
  split
  · exact h.of_eq rfl rfl rfl rfl
  · simp only [run_ite, run_modify_bind]
    split
    · exact h.of_eq rfl rfl rfl rfl
    · exact h.modifyField fun fl hfl => ⟨hfl.brace, hfl.brackets⟩

lemma nested_colon (h : sc.Nested src limits) : ((colon sc.pos).run sc).2.Nested src limits := by
  have h₁ : Scanner.Nested src limits { sc with pos := sc.pos + 1 } := h.of_eq rfl rfl rfl rfl
  simp only [colon, run_advance_bind, run_get_bind]
  split
  · simp only [run_ite, run_modify_bind]
    split
    · exact h.of_eq rfl rfl rfl rfl
    · exact h₁.modifyField fun fl hfl => ⟨hfl.brace, hfl.brackets⟩
  · simp only [run_peekAt_bind, run_ite]
    split <;> exact h.of_eq rfl rfl rfl rfl

lemma nested_pushBracket (h : sc.Nested src limits) {kind : Bracket}
    (hb : sc.src.byte sc.pos = kind.openByte) (p : Punct) :
    ((pushBracket sc.pos kind p).run sc).2.Nested src limits := by
  simp only [pushBracket, run_advance_bind, run_modify_bind, run_emit]
  have h₁ := h.moveTo (sc.pos + 1)
  refine h₁.setOpenBrackets ?_
  simp only [List.mem_cons, forall_eq_or_imp]
  exact ⟨by simpa [OpenBracket.Sound, h.src_eq] using hb, h₁.openBrackets⟩

/-- A closing bracket: it closes a field at its top level, pops a matching bracket, or is a
fault. -/
lemma nested_popBracket (h : sc.Nested src limits) (kind : Bracket) (p : Punct) :
    ((popBracket sc.pos kind p).run sc).2.Nested src limits := by
  simp only [popBracket, endField, run_get_bind, run_ite, run_advance_bind]
  split
  · split
    · exact h.of_eq rfl rfl rfl rfl
    · simp only [run_modifyLiteral_bind, run_ite]
      split <;> exact (h.moveTo _).popField.of_eq rfl rfl rfl rfl
  · split
    · next ob rest hbs =>
      simp only [run_ite, run_modify_bind]
      split
      · refine (h.moveTo _).setOpenBrackets fun ob' hob' => ?_
        exact h.openBrackets ob' (by rw [hbs]; exact List.mem_cons_of_mem ob hob')
      · exact h.of_eq rfl rfl rfl rfl
    · exact h.of_eq rfl rfl rfl rfl

lemma nested_markExpression (h : sc.Nested src limits) (b : UInt8) :
    ((markExpression b).run sc).2.Nested src limits :=
  h.modifyField fun fl hfl => by
    split
    · exact ⟨hfl.brace, hfl.brackets⟩
    · exact hfl

lemma nested_codeStep (h : sc.Nested src limits) : (codeStep.run sc).2.Nested src limits := by
  simp only [codeStep, run_get_bind]
  rw [run_bind]
  have h₁ := nested_markExpression h (sc.src.byte sc.pos)
  -- only strings, brackets, markers and colons can change the nesting
  split
  · exact nested_zeroByte h₁
  · exact nested_blanks h₁
  · exact nested_blanks h₁
  · exact nested_blanks h₁
  · exact nested_lineBreak h₁
  · exact nested_lineBreak h₁
  · exact nested_comment h₁
  · exact nested_continuation h₁
  · exact nested_quoted h₁
  · exact nested_quoted h₁
  · exact nested_dot h₁
  · exact nested_operatorAt h₁ _ _
  · rw [run_ite]; split
    · exact h₁.of_eq rfl rfl rfl rfl
    · exact nested_operatorAt h₁ _ _
  · rw [run_ite]; split <;> exact nested_operatorAt h₁ _ _
  · rw [run_ite]; split <;> exact nested_operatorAt h₁ _ _
  · exact nested_operatorAt h₁ _ _
  · exact nested_operatorAt h₁ _ _
  · exact nested_operatorAt h₁ _ _
  · exact nested_operatorAt h₁ _ _
  · exact nested_operatorAt h₁ _ _
  · exact h₁.of_eq rfl rfl rfl rfl
  · simp only [run_ite]; split
    · exact nested_operatorAt h₁ _ _
    · split <;> exact h₁.of_eq rfl rfl rfl rfl
  · simp only [run_ite]; split
    · exact nested_operatorAt h₁ _ _
    · split <;> exact h₁.of_eq rfl rfl rfl rfl
  · rw [run_ite]; split
    · exact h₁.of_eq rfl rfl rfl rfl
    · exact nested_endExpression (h₁.moveTo _) _ _
  · rw [run_ite]; split
    · exact h₁.of_eq rfl rfl rfl rfl
    · exact nested_endExpression (h₁.moveTo _) _ _
  · exact nested_colon h₁
  · exact h₁.of_eq rfl rfl rfl rfl
  · exact h₁.of_eq rfl rfl rfl rfl
  · next heq =>
    exact nested_pushBracket h₁ (byte_eq_of_byteChar heq rfl : _ = Bracket.paren.openByte) _
  · next heq =>
    exact nested_pushBracket h₁ (byte_eq_of_byteChar heq rfl : _ = Bracket.square.openByte) _
  · next heq =>
    exact nested_pushBracket h₁ (byte_eq_of_byteChar heq rfl : _ = Bracket.curly.openByte) _
  · exact nested_popBracket h₁ _ _
  · exact nested_popBracket h₁ _ _
  · exact nested_popBracket h₁ _ _
  · simp only [run_ite]
    split
    · exact nested_word h₁
    · split
      · exact nested_number h₁
      · split
        · exact nested_unicodeWord h₁
        · exact h₁.of_eq rfl rfl rfl rfl

/-! ## Text mode -/

lemma nested_beginField (h : sc.Nested src limits) {start : Nat} (hb : src.byte start = 123)
    (hspec : ∀ st, sc.literals.state? = some st → ∀ fl ∈ st.fields.head?, fl.inFormatSpec = true) :
    ((beginField start).run sc).2.Nested src limits := by
  simp only [beginField, run_advance_bind, run_get_bind]
  split
  · exact h.of_eq rfl rfl rfl rfl
  · next st hst =>
    simp only [run_ite, run_fault, run_modifyLiteral_bind, run_emit]
    split
    · exact h.of_eq rfl rfl rfl rfl
    · next hroom =>
      refine (h.moveTo (sc.pos + 1)).pushField hb fun st' hst' => ?_
      rw [Option.some.inj (hst'.symm.trans hst)]
      have hlim := h.limits_eq
      simp only [gt_iff_lt, not_lt] at hroom
      exact ⟨hlim ▸ hroom, hspec st hst⟩

lemma nested_endSpec (h : sc.Nested src limits) (start : Nat) :
    ((endSpec start).run sc).2.Nested src limits := by
  simp only [endSpec, run_advance_bind, run_modifyLiteral_bind, run_emit]
  exact (h.moveTo (sc.pos + 1)).popField

lemma nested_openFieldFault (h : sc.Nested src limits) (start : Nat) :
    ((openFieldFault start).run sc).2.Nested src limits := by
  simp only [openFieldFault, run_get_bind, run_fault]
  exact h.of_eq rfl rfl rfl rfl

/-- The closing quotes: more text, the end of the literal, or a fault. -/
lemma nested_closeFString (h : sc.Nested src limits) (start : Nat) (d : Delimiter) :
    ((closeFString start d).run sc).2.Nested src limits := by
  simp only [closeFString, run_get_bind, run_ite, run_textPiece, run_advance_bind]
  split_ifs
  · exact h.report
  · split
    · next hclose =>
      simp only [run_set_bind, run_emit]
      exact (h.moveTo (sc.pos + d.closeLength)).close rfl rfl rfl hclose rfl
    · simp only [run_fault]
      exact h.of_eq rfl rfl rfl rfl

lemma nested_textStep (hsc : sc.Placed s) (h : sc.Nested src limits) {d : Delimiter}
    (hd : sc.textDelimiter? = some d) : ((textStep d).run sc).2.Nested src limits := by
  simp only [textStep, run_get_bind]
  split
  · next j heq =>
    obtain ⟨hle, hb, -⟩ := hsc.textStop_fits heq
    simp only [run_moveTo_bind, run_ite, run_textPiece]
    split
    · exact (h.moveTo j).report
    · obtain rfl : j = sc.pos := by omega
      exact nested_beginField (h.moveTo _) (h.src_eq ▸ hb)
        fun st hst => inFormatSpec_of_textDelimiter? hd hst
  · next j _ =>
    simp only [run_moveTo_bind, run_ite, run_textPiece]
    split
    · exact (h.moveTo j).report
    · exact nested_endSpec (h.moveTo j) _
  · simp only [run_moveTo_bind, run_fault]
    exact h.of_eq rfl rfl rfl rfl
  · simp only [run_moveTo_bind, run_fault]
    exact h.of_eq rfl rfl rfl rfl
  · next j _ =>
    simp only [run_moveTo_bind, run_ite, run_fault]
    split_ifs
    · exact nested_openFieldFault (h.moveTo j) _
    · exact h.of_eq rfl rfl rfl rfl
  · next j _ =>
    simp only [run_moveTo_bind, run_ite]
    split_ifs
    · exact nested_openFieldFault (h.moveTo j) _
    · exact nested_closeFString (h.moveTo j) _ _

lemma nested_modeStep (hsc : sc.Placed s) (h : sc.Nested src limits) :
    (modeStep.run sc).2.Nested src limits := by
  simp only [modeStep, run_get_bind]
  split
  · next d hd => exact nested_textStep hsc h hd
  · exact nested_codeStep h

/-! ## Where the end is reported -/

lemma tag_beginField_ne_eof (start : Nat) : ((beginField start).run sc).1.tag ≠ .eof := by
  simp only [beginField, run_advance_bind, run_get_bind]
  split
  · simp
  · simp only [run_ite, run_fault, run_modifyLiteral_bind, run_emit]
    split <;> simp

lemma tag_closeFString_ne_eof (start : Nat) (d : Delimiter) :
    ((closeFString start d).run sc).1.tag ≠ .eof := by
  simp only [closeFString, run_get_bind, run_ite, run_textPiece, run_advance_bind]
  split_ifs
  · simp
  · split <;> simp

/-- Text mode never reports the end: the end of the text inside an f-string is a fault. -/
lemma tag_textStep_ne_eof (d : Delimiter) : ((textStep d).run sc).1.tag ≠ .eof := by
  simp only [textStep, run_get_bind]
  split
  · simp only [run_moveTo_bind, run_ite, run_textPiece]
    split
    · simp
    · exact tag_beginField_ne_eof _
  · simp only [run_moveTo_bind, run_ite, run_textPiece, endSpec, run_advance_bind,
      run_modifyLiteral_bind, run_emit]
    split <;> simp
  · simp
  · simp
  · simp only [run_moveTo_bind, run_ite, openFieldFault, run_get_bind, run_fault]
    split_ifs <;> simp
  · simp only [run_moveTo_bind, run_ite, openFieldFault, run_get_bind, run_fault]
    split_ifs
    · simp
    · exact tag_closeFString_ne_eof _ _

end ScanM

namespace Scanner

open ScanM

variable {s : String} {src : Source} {limits : ScanLimits} {sc : Scanner}

/-- A scan that has not stopped reports what the step of its mode reports. -/
lemma fst_step_of_stopped_eq_false (hgo : sc.stopped = false) :
    (ScanM.step.run sc).1 = (modeStep.run sc).1 := by
  simp only [ScanM.step, run_get_bind, hgo, Bool.false_eq_true, if_false]
  rw [run_bind]
  split <;> rfl

/-- The end, reported by a scan that has not stopped, comes with nothing open: only code mode
reports it, and only with no field and no bracket open. -/
lemma closed_of_eof (hsc : sc.Placed s) (hgo : sc.stopped = false)
    (he : (ScanM.step.run sc).1.tag = .eof) : sc.literals.entries = [] ∧ sc.brackets = [] := by
  rw [fst_step_of_stopped_eq_false hgo] at he
  obtain ⟨-, -, hf, hbr⟩ := (advance_modeStep hsc).atEnd he
  refine ⟨entries_eq_nil_of_code ?_ hf, hbr⟩
  cases hd : sc.textDelimiter? with
  | none => rfl
  | some d =>
    simp only [modeStep, run_get_bind, hd] at he
    exact absurd he (tag_textStep_ne_eof d)

/-- **A step keeps the nesting sound.** -/
theorem Nested.step (hsc : sc.Placed s) (h : sc.Nested src limits) :
    (ScanM.step.run sc).2.Nested src limits := by
  simp only [ScanM.step, run_get_bind, run_ite, run_pure]
  split
  · exact h
  · rw [run_bind]
    have hmode := nested_modeStep hsc h
    generalize modeStep.run sc = r at hmode ⊢
    obtain ⟨tok, sc'⟩ := r
    dsimp only
    split
    · simp only [run_modify_bind, run_pure]
      exact hmode.of_eq rfl rfl rfl rfl
    · exact hmode

/-- A fresh scan has nothing open. -/
lemma nested_start (src : Source) (limits : ScanLimits) : (start src limits).Nested src limits :=
  ⟨rfl, rfl, Nat.zero_le _, by simp [start], by simp [start]⟩

/-- Every scanner the steps reach keeps the nesting sound. -/
lemma Nested.after (hsc : sc.Placed s) (h : sc.Nested src limits) (n : Nat) :
    (sc.after n).Nested src limits := by
  -- the run is the steps one after another; each keeps the nesting and the placing
  induction n with
  | zero => exact h
  | succ n ih =>
    rw [after_succ]
    exact ih.step (hsc.after n)

end Scanner

open Scanner in
/-- **The scanner's nesting agrees with its text and its limits.** Every scanner a scan reaches is
nested soundly within the limits, and at an end with no fault before it nothing is left open. -/
theorem scan_nesting_sound (text : String) (limits : ScanLimits) (n : Nat) :
    let sc := start (Source.ofString text) limits
    (sc.after n).Nested (Source.ofString text) limits ∧
      ((sc.pieceAt n).tag = .eof → (∀ i < n, (sc.pieceAt i).tag.isFault = false) →
        (sc.after n).literals.entries = [] ∧ (sc.after n).brackets = []) := by
  intro sc
  have hsc := placed_start text limits
  refine ⟨(nested_start _ _).after hsc n, fun he hnf => ?_⟩
  exact closed_of_eof (hsc.after n) (stopped_after hsc rfl hnf) he

end ExprFront
