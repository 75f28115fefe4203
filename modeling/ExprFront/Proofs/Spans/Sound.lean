import Mathlib
import ExprFront.Proofs.Spans.Operators
import ExprFront.Proofs.Spans.Trailers
import ExprFront.Proofs.Spans.Expressions
import ExprFront.Proofs.Spans.Displays
import ExprFront.Proofs.Spans.Literals

/-!
# Every production keeps its contract

The step lemmas of the productions give, by induction on the fuel, that every production keeps
its contract at every fuel (`sound`). A whole input is then one expression read from the first
token that is not a newline: what the parser gives back for an ordered token stream nests, and
lies within the text.
-/

namespace ExprFront

namespace ParseM

variable {ts : TokenStream} {p : Nat} {β : Type} {Q : β → Nat → Prop}

@[simp] lemma okAt_modify_bind {g : Nat → Nat} {f : PUnit → ParseM β} :
    OkAt ts (modify g >>= f) p Q ↔ OkAt ts (f ()) (g p) Q := Iff.rfl

/-- Skipping newlines stays inside the stream. -/
lemma skipNewlines_lt (h : p < ts.tokens.size) : skipNewlines ts p < ts.tokens.size := by
  fun_induction skipNewlines ts p with
  | case1 pos hpos hstep ih =>
    simp only [Bool.and_eq_true, decide_eq_true_eq] at hstep
    exact ih hstep.2
  | case2 => exact h
  | case3 => exact h

end ParseM

namespace Grammar

open TokenStream ParseM

variable {ts : TokenStream}

/-- Every production with one more unit of fuel keeps its contract when those it calls keep
theirs. -/
lemma sound_succ (hts : ts.Ordered) {n : Nat} (ih : Sound ts n) : Sound ts (n + 1) where
  fieldExpression := fieldExpression_step ih
  sequence := sequence_step hts ih
  sequenceRest := sequenceRest_step hts ih
  element := element_step ih
  starred := starred_step hts ih
  namedExpression := namedExpression_step hts ih
  expression := expression_step hts ih
  yieldExpr := yieldExpr_step hts ih
  lambda := lambda_step hts ih
  lambdaParams := lambdaParams_step hts ih
  lambdaParam := lambdaParam_step hts ih
  disjunction := disjunction_step ih
  disjunctionRest := disjunctionRest_step hts ih
  conjunction := conjunction_step ih
  conjunctionRest := conjunctionRest_step hts ih
  inversion := inversion_step hts ih
  comparison := comparison_step hts ih
  comparisonLinks := comparisonLinks_step hts ih
  operatorChain := operatorChain_step ih
  chainRest := chainRest_step hts ih
  operand := operand_step ih
  factor := factor_step hts ih
  power := power_step hts ih
  awaitPrimary := awaitPrimary_step hts ih
  primary := primary_step ih
  trailers := trailers_step hts ih
  call := call_step hts ih
  arguments := arguments_step hts ih
  loneGenerator := loneGenerator_step hts ih
  subscript := subscript_step hts ih
  slices := slices_step hts ih
  slicesRest := slicesRest_step hts ih
  slice := slice_step ih
  sliceTail := sliceTail_step hts ih
  bound := bound_step hts ih
  atom := atom_step hts ih
  strings := strings_step hts ih
  parenthesized := parenthesized_step ih
  parenContents := parenContents_step hts ih
  listForm := listForm_step ih
  listContents := listContents_step hts ih
  braceForm := braceForm_step ih
  braceContents := braceContents_step hts ih
  dictEntries := dictEntries_step hts ih
  entry := entry_step hts ih
  moreElements := moreElements_step hts ih
  clauses := clauses_step hts ih
  clause := clause_step hts ih
  conditions := conditions_step hts ih
  forTarget := forTarget_step hts ih
  forTargetRest := forTargetRest_step hts ih
  forTargetItem := forTargetItem_step ih
  fstring := fstring_step hts ih
  fstringParts := fstringParts_step hts ih
  field := field_step ih
  fieldContents := fieldContents_step hts ih
  formatSpec := formatSpec_step hts ih

/-- On an ordered token stream every production keeps its contract, whatever its fuel. -/
theorem sound (hts : ts.Ordered) : ∀ n, Sound ts n
  | 0 => sound_zero
  | n + 1 => sound_succ hts (sound hts n)

/-- A whole input is one expression, read from the first token that is not a newline. -/
lemma wholeInput_reads (hts : ts.Ordered) (fuel : Nat) :
    OkAt ts (wholeInput fuel) 0 fun e _ => ∃ i j, ts.Reads i e j := by
  have hp : skipNewlines ts 0 < ts.tokens.size := skipNewlines_lt hts.nonempty
  unfold wholeInput
  simp only [okAt_read_bind, okAt_modify_bind, okAt_check_bind]
  have hrest : ∀ root j, ts.Reads (skipNewlines ts 0) root j →
      OkAt ts (do
        modify fun pos => skipNewlines ts pos
        if (← currentKind) != .eof then failUnexpected "invalid syntax" else pure root) j
        fun e _ => ∃ i j, ts.Reads i e j := by
    intro root j hroot
    simp only [okAt_modify_bind, okAt_currentKind_bind]
    split
    · exact okAt_failUnexpected
    · simpa only [okAt_pure] using ⟨_, _, hroot⟩
  split
  · rename_i hyield
    simp only [beq_iff_eq] at hyield
    exact OkAt.bind ((sound hts fuel).yieldExpr _ hp (by simp [hyield])) hrest
  · exact OkAt.bind ((sound hts fuel).sequence .star _ hp) hrest

end Grammar

/-- The expression an ordered token stream holds nests, and lies within the text. -/
theorem Expr.ofTokens_nested {ts : TokenStream} (hts : ts.Ordered) {e : Expr}
    (h : Expr.ofTokens ts.src ts.tokens = .ok e) : e.Nested ∧ e.span.stop ≤ ts.src.size := by
  obtain ⟨j, hrun⟩ : ∃ j, Grammar.wholeInput (64 * (ts.tokens.size + 1)) ts 0 = .ok (e, j) := by
    unfold Expr.ofTokens at h
    cases hw : Grammar.wholeInput (64 * (ts.tokens.size + 1)) ts 0 with
    | error err => simp [ReaderT.run, StateT.run, hw, Except.map] at h
    | ok r =>
      obtain ⟨e', j⟩ := r
      simp only [ReaderT.run, StateT.run, hw, Except.map, Except.ok.injEq] at h
      exact ⟨j, h ▸ rfl⟩
  obtain ⟨i, k, hread⟩ := Grammar.wholeInput_reads hts _ e j hrun
  exact ⟨hread.nested, hread.stop_le.trans (hts.stopBefore_le_size hread.lt_size.le)⟩

end ExprFront
