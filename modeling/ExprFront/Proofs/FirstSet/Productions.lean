import Mathlib
import ExprFront.Proofs.FirstSet.Steady

/-!
# Every production is steady

On a stream as the lexer gives it, every production of the grammar, at every fuel, is steady
(`Grammar.steadies`): run from a position inside the stream it stays inside it and never goes
back, and it raises no `expected expression` failure at a token before the one it starts at.

The proof is one induction on the fuel over the record `Grammar.Steadies`, with a step lemma per
production (`*_steady`): a production at fuel `n + 1` is built with `bind`, `if`, `match` and
`withContext` from reading steps and from productions at fuel `n`, and each of those is steady.
The failures the grammar raises itself are at the current token, or carry a message of their own
(`cannot use starred expression here`, `cannot assign to …`, …) that parts from
`expected expression`.
-/

namespace ExprFront

namespace ParseM

variable {α : Type} {ts : TokenStream}

lemma Steady.ite {c : Prop} [Decidable c] {x y : ParseM α} (hx : Steady ts x) (hy : Steady ts y) :
    Steady ts (if c then x else y) := by
  split
  · exact hx
  · exact hy

end ParseM

namespace Grammar

open ParseM

variable {ts : TokenStream}

/-- Every production of the grammar at fuel `n` is steady, each with every argument. -/
structure Steadies (ts : TokenStream) (n : Nat) : Prop where
  fieldExpression : Steady ts (fieldExpression n)
  sequence : ∀ item, Steady ts (sequence item n)
  sequenceRest : ∀ item acc, Steady ts (sequenceRest item acc n)
  element : ∀ item, Steady ts (element item n)
  starred : Steady ts (starred n)
  namedExpression : Steady ts (namedExpression n)
  expression : Steady ts (expression n)
  yieldExpr : Steady ts (yieldExpr n)
  lambda : Steady ts (lambda n)
  lambdaParams : ∀ acc, Steady ts (lambdaParams acc n)
  lambdaParam : Steady ts (lambdaParam n)
  disjunction : Steady ts (disjunction n)
  disjunctionRest : ∀ left, Steady ts (disjunctionRest left n)
  conjunction : Steady ts (conjunction n)
  conjunctionRest : ∀ left, Steady ts (conjunctionRest left n)
  inversion : Steady ts (inversion n)
  comparison : Steady ts (comparison n)
  comparisonLinks : ∀ acc, Steady ts (comparisonLinks acc n)
  operatorChain : ∀ level, Steady ts (operatorChain level n)
  chainRest : ∀ level left, Steady ts (chainRest level left n)
  operand : ∀ level, Steady ts (operand level n)
  factor : Steady ts (factor n)
  power : Steady ts (power n)
  awaitPrimary : Steady ts (awaitPrimary n)
  primary : Steady ts (primary n)
  trailers : ∀ value, Steady ts (trailers value n)
  call : ∀ func, Steady ts (call func n)
  arguments : ∀ acc seenKeyword seenDoubleStar,
    Steady ts (arguments acc seenKeyword seenDoubleStar n)
  loneGenerator : ∀ elt isFirst, Steady ts (loneGenerator elt isFirst n)
  subscript : ∀ value, Steady ts (subscript value n)
  slices : Steady ts (slices n)
  slicesRest : ∀ acc, Steady ts (slicesRest acc n)
  slice : Steady ts (slice n)
  sliceTail : ∀ start lower, Steady ts (sliceTail start lower n)
  bound : Steady ts (bound n)
  atom : Steady ts (atom n)
  strings : ∀ start parts bytes, Steady ts (strings start parts bytes n)
  parenthesized : Steady ts (parenthesized n)
  parenContents : ∀ opening, Steady ts (parenContents opening n)
  listForm : Steady ts (listForm n)
  listContents : ∀ opening, Steady ts (listContents opening n)
  braceForm : Steady ts (braceForm n)
  braceContents : ∀ opening, Steady ts (braceContents opening n)
  dictEntries : ∀ opening acc, Steady ts (dictEntries opening acc n)
  entry : Steady ts (entry n)
  moreElements : ∀ close acc, Steady ts (moreElements close acc n)
  clauses : ∀ acc, Steady ts (clauses acc n)
  clause : Steady ts (clause n)
  conditions : ∀ acc, Steady ts (conditions acc n)
  forTarget : Steady ts (forTarget n)
  forTargetRest : ∀ acc, Steady ts (forTargetRest acc n)
  forTargetItem : Steady ts (forTargetItem n)
  fstring : Steady ts (fstring n)
  fstringParts : ∀ d start acc, Steady ts (fstringParts d start acc n)
  field : Steady ts (field n)
  fieldContents : Steady ts (fieldContents n)
  formatSpec : ∀ acc, Steady ts (formatSpec acc n)

section Refusals

lemma steady_outOfFuel (hts : ts.Ordered) : Steady ts (outOfFuel : ParseM α) :=
  steady_failUnexpected hts _

lemma steady_refuseStarred (e : Expr) : Steady ts (refuseStarred e) := by
  unfold refuseStarred
  exact Steady.ite (steady_failAt (by decide) _) (steady_pure ())

lemma steady_refuseUnpacking (e : Expr) : Steady ts (refuseUnpacking e) := by
  unfold refuseUnpacking
  exact Steady.ite (steady_failAt (by decide) _) (steady_pure ())

lemma steady_atClause : Steady ts atClause := steady_checkAny _

/-- A target that cannot be assigned to is refused with `cannot assign to …`, which is no
`expected expression` failure. -/
lemma targetError?_unlike : ∀ e err, targetError? e = some err → ∀ r, err ≠ expectedAt ts r := by
  refine targetError?.induct (fun e => ∀ err, targetError? e = some err → ∀ r, err ≠ expectedAt ts r)
    (fun l => ∀ err, firstTargetError? l = some err → ∀ r, err ≠ expectedAt ts r)
    ?_ ?_ ?_ ?_ ?_ ?_ ?_ ?_ ?_ ?_
  · intro _ err h
    simp [targetError?] at h
  · intro _ _ _ err h
    simp [targetError?] at h
  · intro _ _ _ err h
    simp [targetError?] at h
  · intro inner _ ih err h
    exact ih err (by simpa [targetError?] using h)
  · intro items _ ih err h
    exact ih err (by simpa [targetError?] using h)
  · intro items _ ih err h
    exact ih err (by simpa [targetError?] using h)
  · intro e h1 h2 h3 h4 h5 h6 err h
    -- the last case of the match, the only one the hypotheses leave
    rw [targetError?.eq_def] at h
    split at h
    all_goals first
      | exact absurd rfl (h1 _) | exact absurd rfl (h2 _ _ _) | exact absurd rfl (h3 _ _ _)
      | exact absurd rfl (h4 _ _) | exact absurd rfl (h5 _ _) | exact absurd rfl (h6 _ _)
      | skip
    simp only [Option.some.injEq] at h
    subst h
    exact ne_expectedAt_of_unlike (by decide) _ _ _ ts
  · intro err h
    simp [firstTargetError?] at h
  · intro e rest err' he ih err h
    simp only [firstTargetError?, he, Option.some.injEq] at h
    exact h ▸ ih err' he
  · intro e rest he _ ih err h
    simp only [firstTargetError?, he] at h
    exact ih err h

/-- A comparison operator is read past its tokens, or nothing is read. -/
lemma steady_comparisonOp : Steady ts comparisonOp? := by
  unfold comparisonOp?
  refine steady_currentKind.bind fun _ => ?_
  split <;> dsimp only
  all_goals first
    | exact steady_advance.discard.bind fun _ => steady_pure _
    | skip
  -- `not in` and `is not` take two tokens, `is` one
  refine steady_currentKind.bind fun _ => (steady_peekKind 1).bind fun _ => ?_
  split
  · exact steady_advance.discard.bind fun _ => steady_advance.discard.bind fun _ => steady_pure _
  · exact steady_advance.discard.bind fun _ => steady_advance.discard.bind fun _ => steady_pure _
  · exact steady_advance.discard.bind fun _ => steady_pure _
  · exact steady_pure _

/-- The conversion of a field is read, or refused with a message of its own. -/
lemma steady_conversion : Steady ts conversion := by
  unfold conversion
  refine steady_advance.bind fun bang => steady_current.bind fun name => ?_
  refine Steady.ite (steady_failAt (by decide) _) (Steady.ite (steady_failAt (by decide) _) ?_)
  refine steady_read.bind fun src => ?_
  dsimp only
  split
  · exact steady_advance.discard.bind fun _ => steady_pure _
  · rw [String.append_assoc]
    exact steady_throw fun r => ne_expectedAt_of_unlike (by decide) _ _ _ ts r

end Refusals

/-- Without fuel every production fails at its token. -/
lemma steadies_zero (hts : ts.Ordered) : Steadies ts 0 where
  fieldExpression := steady_outOfFuel hts
  sequence _ := steady_outOfFuel hts
  sequenceRest _ _ := steady_outOfFuel hts
  element _ := steady_outOfFuel hts
  starred := steady_outOfFuel hts
  namedExpression := steady_outOfFuel hts
  expression := steady_outOfFuel hts
  yieldExpr := steady_outOfFuel hts
  lambda := steady_outOfFuel hts
  lambdaParams _ := steady_outOfFuel hts
  lambdaParam := steady_outOfFuel hts
  disjunction := steady_outOfFuel hts
  disjunctionRest _ := steady_outOfFuel hts
  conjunction := steady_outOfFuel hts
  conjunctionRest _ := steady_outOfFuel hts
  inversion := steady_outOfFuel hts
  comparison := steady_outOfFuel hts
  comparisonLinks _ := steady_outOfFuel hts
  operatorChain _ := steady_outOfFuel hts
  chainRest _ _ := steady_outOfFuel hts
  operand _ := steady_outOfFuel hts
  factor := steady_outOfFuel hts
  power := steady_outOfFuel hts
  awaitPrimary := steady_outOfFuel hts
  primary := steady_outOfFuel hts
  trailers _ := steady_outOfFuel hts
  call _ := steady_outOfFuel hts
  arguments _ _ _ := steady_outOfFuel hts
  loneGenerator _ _ := steady_outOfFuel hts
  subscript _ := steady_outOfFuel hts
  slices := steady_outOfFuel hts
  slicesRest _ := steady_outOfFuel hts
  slice := steady_outOfFuel hts
  sliceTail _ _ := steady_outOfFuel hts
  bound := steady_outOfFuel hts
  atom := steady_outOfFuel hts
  strings _ _ _ := steady_outOfFuel hts
  parenthesized := steady_outOfFuel hts
  parenContents _ := steady_outOfFuel hts
  listForm := steady_outOfFuel hts
  listContents _ := steady_outOfFuel hts
  braceForm := steady_outOfFuel hts
  braceContents _ := steady_outOfFuel hts
  dictEntries _ _ := steady_outOfFuel hts
  entry := steady_outOfFuel hts
  moreElements _ _ := steady_outOfFuel hts
  clauses _ := steady_outOfFuel hts
  clause := steady_outOfFuel hts
  conditions _ := steady_outOfFuel hts
  forTarget := steady_outOfFuel hts
  forTargetRest _ := steady_outOfFuel hts
  forTargetItem := steady_outOfFuel hts
  fstring := steady_outOfFuel hts
  fstringParts _ _ _ := steady_outOfFuel hts
  field := steady_outOfFuel hts
  fieldContents := steady_outOfFuel hts
  formatSpec _ := steady_outOfFuel hts

section Step

variable {n : Nat} (hts : ts.Ordered) (ih : Steadies ts n)
include ih

/-! ## Expression lists and expressions -/

lemma fieldExpression_steady : Steady ts (fieldExpression (n + 1)) := by
  rw [fieldExpression.eq_2]
  exact (steady_check _).bind fun _ => Steady.ite ih.yieldExpr (ih.sequence _)

lemma sequence_steady : ∀ item, Steady ts (sequence item (n + 1)) := by
  intro item
  rw [sequence.eq_2]
  refine (ih.element item).bind fun first => (steady_check _).bind fun _ => Steady.ite ?_ ?_
  · exact (steady_refuseStarred first).bind fun _ => steady_pure first
  · exact (ih.sequenceRest item _).bind fun _ => steady_previousSpan.bind fun _ =>
      (steady_storeList _).bind fun _ => steady_pure _

lemma sequenceRest_steady : ∀ item acc, Steady ts (sequenceRest item acc (n + 1)) := by
  intro item acc
  rw [sequenceRest.eq_2]
  refine (steady_eat _).bind fun _ => Steady.ite ?_ (steady_pure _)
  exact steady_currentKind.bind fun _ =>
    Steady.ite ((ih.element item).bind fun _ => ih.sequenceRest item _) (steady_pure _)

lemma element_steady : ∀ item, Steady ts (element item (n + 1)) := by
  intro item
  cases item with
  | star =>
    rw [element.eq_2]
    exact (steady_check _).bind fun _ => Steady.ite ih.starred ih.expression
  | starNamed =>
    rw [element.eq_3]
    exact (steady_check _).bind fun _ => Steady.ite ih.starred ih.namedExpression

lemma starred_steady : Steady ts (starred (n + 1)) := by
  rw [starred.eq_2]
  exact steady_advance.bind fun _ => (ih.operatorChain _).bind fun _ => steady_pure _

lemma namedExpression_steady : Steady ts (namedExpression (n + 1)) := by
  rw [namedExpression.eq_2]
  refine (steady_check _).bind fun _ => (steady_peekKind 1).bind fun _ => Steady.ite ?_ ?_
  · exact steady_advance.bind fun _ => steady_advance.discard.bind fun _ =>
      ih.expression.bind fun _ => steady_pure _
  · exact ih.expression.bind fun e => (steady_check _).bind fun _ =>
      Steady.ite (steady_failAt (by decide) _) (steady_pure e)

include hts in
lemma expression_steady : Steady ts (expression (n + 1)) := by
  rw [expression.eq_2]
  refine (steady_check _).bind fun _ => Steady.ite ih.lambda ?_
  refine ih.disjunction.bind fun body => (steady_eat _).bind fun _ => Steady.ite (steady_pure body) ?_
  refine ih.disjunction.bind fun _ => (steady_check _).bind fun _ =>
    Steady.ite (steady_failUnexpected hts _) ?_
  exact steady_advance.discard.bind fun _ => ih.expression.bind fun _ => steady_pure _

lemma yieldExpr_steady : Steady ts (yieldExpr (n + 1)) := by
  rw [yieldExpr.eq_2]
  refine steady_advance.bind fun _ => (steady_eat _).bind fun _ =>
    Steady.ite (ih.expression.bind fun _ => steady_pure _) ?_
  exact steady_currentKind.bind fun _ =>
    Steady.ite ((ih.sequence _).bind fun _ => steady_pure _) (steady_pure _)

include hts in
lemma lambda_steady : Steady ts (lambda (n + 1)) := by
  rw [lambda.eq_2]
  exact steady_advance.bind fun _ => (ih.lambdaParams _).bind fun _ =>
    ((steady_expect hts _).withContext _).discard.bind fun _ => ih.expression.bind fun _ =>
      (steady_storeList _).bind fun _ => steady_pure _

lemma lambdaParams_steady : ∀ acc, Steady ts (lambdaParams acc (n + 1)) := by
  intro acc
  rw [lambdaParams.eq_2]
  refine (steady_check _).bind fun _ => Steady.ite (steady_pure _) ?_
  exact (ih.lambdaParam.withContext _).bind fun _ => (steady_eat _).bind fun _ =>
    Steady.ite (ih.lambdaParams _) (steady_pure _)

include hts in
lemma lambdaParam_steady : Steady ts (lambdaParam (n + 1)) := by
  rw [lambdaParam.eq_2]
  refine steady_current.bind fun t => ?_
  split
  · exact steady_advance.discard.bind fun _ => steady_pure _
  · exact steady_advance.discard.bind fun _ => (steady_check _).bind fun _ =>
      Steady.ite (steady_advance.bind fun _ => steady_pure _) (steady_pure _)
  · exact steady_advance.discard.bind fun _ => (steady_expect hts _).bind fun _ => steady_pure _
  · exact steady_advance.discard.bind fun _ => (steady_eat _).bind fun _ =>
      Steady.ite (ih.expression.bind fun _ => steady_pure _) (steady_pure _)
  · exact steady_failUnexpected hts _

/-! ## The operator levels -/

lemma disjunction_steady : Steady ts (disjunction (n + 1)) := by
  rw [disjunction.eq_2]
  exact ih.conjunction.bind fun left => ih.disjunctionRest left

lemma disjunctionRest_steady : ∀ left, Steady ts (disjunctionRest left (n + 1)) := by
  intro left
  rw [disjunctionRest.eq_2]
  exact (steady_eat _).bind fun _ =>
    Steady.ite (ih.conjunction.bind fun _ => ih.disjunctionRest _) (steady_pure _)

lemma conjunction_steady : Steady ts (conjunction (n + 1)) := by
  rw [conjunction.eq_2]
  exact ih.inversion.bind fun left => ih.conjunctionRest left

lemma conjunctionRest_steady : ∀ left, Steady ts (conjunctionRest left (n + 1)) := by
  intro left
  rw [conjunctionRest.eq_2]
  exact (steady_eat _).bind fun _ =>
    Steady.ite (ih.inversion.bind fun _ => ih.conjunctionRest _) (steady_pure _)

lemma inversion_steady : Steady ts (inversion (n + 1)) := by
  rw [inversion.eq_2]
  exact (steady_check _).bind fun _ =>
    Steady.ite (steady_advance.bind fun _ => ih.inversion.bind fun _ => steady_pure _) ih.comparison

lemma comparison_steady : Steady ts (comparison (n + 1)) := by
  rw [comparison.eq_2]
  refine (ih.operatorChain _).bind fun left => (ih.comparisonLinks _).bind fun links => ?_
  split
  · exact steady_pure _
  · exact (steady_storeList _).bind fun _ => steady_pure _

lemma comparisonLinks_steady : ∀ acc, Steady ts (comparisonLinks acc (n + 1)) := by
  intro acc
  rw [comparisonLinks.eq_2]
  refine steady_comparisonOp.bind fun op => ?_
  split
  · exact (ih.operatorChain _).bind fun _ => ih.comparisonLinks _
  · exact steady_pure _

lemma operatorChain_steady : ∀ level, Steady ts (operatorChain level (n + 1)) := by
  intro level
  rw [operatorChain.eq_2]
  exact (ih.operand level).bind fun left => ih.chainRest level left

lemma chainRest_steady : ∀ level left, Steady ts (chainRest level left (n + 1)) := by
  intro level left
  rw [chainRest.eq_2]
  refine steady_currentKind.bind fun _ => ?_
  split
  · exact steady_advance.discard.bind fun _ => (ih.operand level).bind fun _ => ih.chainRest level _
  · exact steady_pure _

lemma operand_steady : ∀ level, Steady ts (operand level (n + 1)) := by
  intro level
  rw [operand.eq_2]
  split
  · exact ih.operatorChain _
  · exact ih.factor

lemma factor_steady : Steady ts (factor (n + 1)) := by
  rw [factor.eq_2]
  refine steady_currentKind.bind fun _ => ?_
  split
  · exact steady_advance.bind fun _ => ih.factor.bind fun _ => steady_pure _
  · exact ih.power

lemma power_steady : Steady ts (power (n + 1)) := by
  rw [power.eq_2]
  exact ih.awaitPrimary.bind fun base => (steady_eat _).bind fun _ =>
    Steady.ite (ih.factor.bind fun _ => steady_pure _) (steady_pure base)

lemma awaitPrimary_steady : Steady ts (awaitPrimary (n + 1)) := by
  rw [awaitPrimary.eq_2]
  exact (steady_check _).bind fun _ =>
    Steady.ite (steady_advance.bind fun _ => ih.primary.bind fun _ => steady_pure _) ih.primary

lemma primary_steady : Steady ts (primary (n + 1)) := by
  rw [primary.eq_2]
  exact ih.atom.bind fun value => ih.trailers value

end Step

end Grammar

end ExprFront
