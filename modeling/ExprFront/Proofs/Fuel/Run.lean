import Mathlib
import ExprFront.Proofs.Fuel.Operators
import ExprFront.Proofs.Fuel.Expressions
import ExprFront.Proofs.Fuel.Displays
import ExprFront.Proofs.Fuel.Literals
import ExprFront.Proofs.Spans.Sound

/-!
# The parse is never cut short by its fuel

The step lemmas give, by induction on the fuel, that every fuel is enough for every production
at its level (`settles`). The parser gives a whole input `64` units of fuel for each token and
`64` more, which covers the expression read from the first token that is not a newline at any
level. So on a stream that ends with the end of input, the parse never fails out of fuel, and
any more fuel gives the same answer: the fuel bounds a descent that stops on its own.
-/

namespace ExprFront

namespace Grammar

open TokenStream ParseM

variable {ts : TokenStream}

/-- One more unit of fuel settles every production, when the fuel before settles those it
calls. -/
lemma settles_succ (hts : ts.EndsWithEof) {n : Nat} (ih : Settles ts n) : Settles ts (n + 1) where
  fieldExpression := fieldExpression_settles ih
  sequence := sequence_settles ih
  sequenceRest := sequenceRest_settles hts ih
  element := element_settles ih
  starred := starred_settles hts ih
  namedExpression := namedExpression_settles hts ih
  expression := expression_settles hts ih
  yieldExpr := yieldExpr_settles hts ih
  lambda := lambda_settles hts ih
  lambdaParams := lambdaParams_settles hts ih
  lambdaParam := lambdaParam_settles hts ih
  disjunction := disjunction_settles ih
  disjunctionRest := disjunctionRest_settles hts ih
  conjunction := conjunction_settles ih
  conjunctionRest := conjunctionRest_settles hts ih
  inversion := inversion_settles hts ih
  comparison := comparison_settles ih
  comparisonLinks := comparisonLinks_settles hts ih
  operatorChain := operatorChain_settles ih
  chainRest := chainRest_settles hts ih
  operand := operand_settles ih
  factor := factor_settles hts ih
  power := power_settles hts ih
  awaitPrimary := awaitPrimary_settles hts ih
  primary := primary_settles ih
  trailers := trailers_settles hts ih
  call := call_settles hts ih
  arguments := arguments_settles hts ih
  loneGenerator := loneGenerator_settles ih
  subscript := subscript_settles hts ih
  slices := slices_settles ih
  slicesRest := slicesRest_settles hts ih
  slice := slice_settles ih
  sliceTail := sliceTail_settles hts ih
  bound := bound_settles ih
  atom := atom_settles ih
  strings := strings_settles hts ih
  parenthesized := parenthesized_settles hts ih
  parenContents := parenContents_settles ih
  listForm := listForm_settles hts ih
  listContents := listContents_settles ih
  braceForm := braceForm_settles hts ih
  braceContents := braceContents_settles hts ih
  dictEntries := dictEntries_settles hts ih
  entry := entry_settles hts ih
  moreElements := moreElements_settles hts ih
  clauses := clauses_settles ih
  clause := clause_settles hts ih
  conditions := conditions_settles hts ih
  forTarget := forTarget_settles ih
  forTargetRest := forTargetRest_settles hts ih
  forTargetItem := forTargetItem_settles ih
  fstring := fstring_settles hts ih
  fstringParts := fstringParts_settles hts ih
  field := field_settles ih
  fieldContents := fieldContents_settles hts ih
  formatSpec := formatSpec_settles hts ih

/-- On a stream that ends with the end of input, every fuel is enough for every production at
its level. -/
theorem settles (hts : ts.EndsWithEof) : ∀ n, Settles ts n
  | 0 => settles_zero
  | n + 1 => settles_succ hts (settles hts n)

/-- With the fuel the parser gives it or more, a whole input is settled: one more unit changes
nothing, and it never fails for want of fuel. -/
lemma wholeInput_settled (hts : ts.EndsWithEof) {fuel : Nat}
    (hfuel : 64 * (ts.tokens.size + 1) ≤ fuel) :
    Settled ts (wholeInput fuel) (wholeInput (fuel + 1)) 0 fun _ _ => True := by
  have hp : skipNewlines ts 0 < ts.tokens.size := skipNewlines_lt hts.size_pos
  -- the first token that is not a newline has every level below 64 open to it
  have hb : ∀ L < 64, ts.Budget fuel (skipNewlines ts 0) L := by
    intro L hL
    unfold Budget
    omega
  unfold wholeInput
  refine Settled.of_ok_bind (run_read ts 0) (Settled.of_ok_bind rfl ?_)
  refine Settled.of_ok_bind (run_check ts _ _) ?_
  split
  · rename_i hk
    refine ((settles hts fuel).yieldExpr _ hp (ne_eof_of_check hk (by decide))
      (hb 0 (by decide))).bind fun root q _ _ => ?_
    refine Settled.of_ok_bind rfl (Settled.of_ok_bind (run_currentKind ts _) ?_)
    exact Settled.ite (fun _ => settled_failUnexpected (by decide)) fun _ => settled_pure trivial
  · refine ((settles hts fuel).sequence .star _ hp (hb 26 (by decide))).bind
      fun root q _ _ => ?_
    refine Settled.of_ok_bind rfl (Settled.of_ok_bind (run_currentKind ts _) ?_)
    exact Settled.ite (fun _ => settled_failUnexpected (by decide)) fun _ => settled_pure trivial

/-- Past the fuel the parser gives it, more fuel reads a whole input the same. -/
lemma wholeInput_fuel_add (hts : ts.EndsWithEof) (k : Nat) :
    wholeInput (64 * (ts.tokens.size + 1) + k) ts 0 =
      wholeInput (64 * (ts.tokens.size + 1)) ts 0 := by
  induction k with
  | zero => rfl
  | succ k ih =>
    rw [← Nat.add_assoc, ← (wholeInput_settled hts (Nat.le_add_right _ k)).same, ih]

end Grammar

/-- On tokens that end with the end of input, the parse is never cut short by its fuel: it
never fails for want of fuel, and any fuel from the one it is given on reads the same. -/
theorem Expr.ofTokens_fuel_enough {src : Source} {tokens : Array Token}
    (hts : TokenStream.EndsWithEof ⟨src, tokens⟩) :
    (∀ e, Expr.ofTokens src tokens = .error e → ¬ e.OutOfFuel) ∧
    ∀ fuel, 64 * (tokens.size + 1) ≤ fuel →
      ((Grammar.wholeInput fuel).run ⟨src, tokens⟩ |>.run 0).map Prod.fst =
        Expr.ofTokens src tokens := by
  refine ⟨fun e he => ?_, fun fuel hfuel => ?_⟩
  · have hrun : Grammar.wholeInput (64 * (tokens.size + 1)) ⟨src, tokens⟩ 0 = .error e := by
      unfold Expr.ofTokens at he
      cases hw : Grammar.wholeInput (64 * (tokens.size + 1)) ⟨src, tokens⟩ 0 with
      | ok r => simp [ReaderT.run, StateT.run, hw, Except.map] at he
      | error err =>
        simp only [ReaderT.run, StateT.run, hw, Except.map, Except.error.injEq] at he
        rw [he]
    exact (Grammar.wholeInput_settled hts le_rfl).fueled e hrun
  · obtain ⟨k, rfl⟩ := Nat.exists_eq_add_of_le hfuel
    unfold Expr.ofTokens
    simp only [ReaderT.run, StateT.run]
    rw [Grammar.wholeInput_fuel_add hts k]

/-- The tokens of `(a)`. -/
def parenthesizedName : TokenStream :=
  ⟨Source.ofString "(a)",
    #[⟨.punct .lparen, ⟨0, 1⟩, ⟨1, 1⟩⟩, ⟨.name, ⟨1, 2⟩, ⟨1, 2⟩⟩,
      ⟨.punct .rparen, ⟨2, 3⟩, ⟨1, 3⟩⟩, ⟨.eof, ⟨3, 3⟩, ⟨1, 4⟩⟩]⟩

/-- `(a)` ends with the end of input, so its parse is not cut short. -/
theorem Expr.ofTokens_fuel_enough_paren :
    parenthesizedName.EndsWithEof ∧
      (∀ e, Expr.ofTokens parenthesizedName.src parenthesizedName.tokens = .error e →
        ¬ e.OutOfFuel) ∧
      ∀ fuel, 64 * (parenthesizedName.tokens.size + 1) ≤ fuel →
        ((Grammar.wholeInput fuel).run parenthesizedName |>.run 0).map Prod.fst =
          Expr.ofTokens parenthesizedName.src parenthesizedName.tokens :=
  ⟨⟨_, rfl, rfl⟩, Expr.ofTokens_fuel_enough ⟨_, rfl, rfl⟩⟩

end ExprFront
