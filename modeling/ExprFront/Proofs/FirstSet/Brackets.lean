import Mathlib
import ExprFront.Proofs.FirstSet.Productions

/-!
# Every production is steady: trailers, brackets and literals

The step lemmas for the productions below a primary: its trailers (attributes, calls and their
arguments, subscripts and slices), the atoms, runs of string literals and f-strings with their
fields, and the bracketed forms with their comprehensions. With those of `Productions`, one
more unit of fuel keeps every production steady (`Grammar.steadies_succ`), so by induction on the
fuel every production is steady at every fuel (`Grammar.steadies`).
-/

namespace ExprFront

namespace Grammar

open ParseM

variable {ts : TokenStream} {n : Nat} (hts : ts.Ordered) (ih : Steadies ts n)
include ih

/-! ## Trailers, calls and subscripts -/

include hts in
lemma trailers_steady : ∀ value, Steady ts (trailers value (n + 1)) := by
  intro value
  rw [trailers.eq_2]
  refine steady_currentKind.bind fun _ => ?_
  split
  · exact steady_advance.discard.bind fun _ => (steady_expect hts _).bind fun _ => ih.trailers _
  · exact (ih.call value).bind fun e => ih.trailers e
  · exact (ih.subscript value).bind fun e => ih.trailers e
  · exact steady_pure value

include hts in
lemma call_steady : ∀ func, Steady ts (call func (n + 1)) := by
  intro func
  rw [call.eq_2]
  exact steady_advance.discard.bind fun _ => ((ih.arguments _ _ _).withContext _).bind fun _ =>
    ((steady_expect hts _).withContext _).bind fun _ => (steady_storeList _).bind fun _ => steady_pure _

lemma arguments_steady : ∀ acc seenKeyword seenDoubleStar,
    Steady ts (arguments acc seenKeyword seenDoubleStar (n + 1)) := by
  intro acc sk sd
  rw [arguments.eq_2]
  refine (steady_check _).bind fun _ => Steady.ite (steady_pure _) ?_
  refine steady_currentSpan.bind fun start => steady_currentKind.bind fun _ =>
    (steady_peekKind 1).bind fun _ => ?_
  extract_lets jp jp₂
  have hjp : ∀ trip, Steady ts (jp trip) := by
    rintro ⟨arg, sk', sd'⟩
    simp only [jp]
    exact (steady_eat _).bind fun _ => Steady.ite (ih.arguments _ _ _) (steady_pure _)
  have hjp₂ : ∀ value, Steady ts (jp₂ value) := by
    intro value
    simp only [jp₂]
    exact Steady.ite ((steady_failAt (by decide) _).bind hjp)
      (Steady.ite ((steady_failAt (by decide) _).bind hjp) ((steady_pure _).bind hjp))
  clear_value jp jp₂
  split
  · exact steady_advance.discard.bind fun _ => ih.expression.bind fun _ =>
      Steady.ite ((steady_failAt (by decide) _).bind hjp) ((steady_pure _).bind hjp)
  · exact steady_advance.discard.bind fun _ => ih.expression.bind fun _ =>
      (steady_pure _).bind hjp
  · exact steady_advance.bind fun _ => steady_advance.discard.bind fun _ =>
      ih.expression.bind fun _ => (steady_pure _).bind hjp
  · exact ih.namedExpression.bind fun value => steady_atClause.bind fun _ =>
      Steady.ite ((ih.loneGenerator value _).bind hjp₂) ((steady_pure value).bind hjp₂)

lemma loneGenerator_steady : ∀ elt isFirst, Steady ts (loneGenerator elt isFirst (n + 1)) := by
  intro elt isFirst
  rw [loneGenerator.eq_2]
  exact (ih.clauses _).bind fun _ => steady_previousSpan.bind fun _ => (steady_check _).bind
    fun _ => Steady.ite (steady_failAt (by decide) _) (steady_pure _)

include hts in
lemma subscript_steady : ∀ value, Steady ts (subscript value (n + 1)) := by
  intro value
  rw [subscript.eq_2]
  exact steady_advance.discard.bind fun _ => (ih.slices.withContext _).bind fun _ =>
    ((steady_expect hts _).withContext _).bind fun _ => steady_pure _

lemma slices_steady : Steady ts (slices (n + 1)) := by
  rw [slices.eq_2]
  exact ih.slice.bind fun first => (steady_check _).bind fun _ => Steady.ite (steady_pure first)
    ((ih.slicesRest _).bind fun _ => steady_previousSpan.bind fun _ => (steady_storeList _).bind fun _ => steady_pure _)

lemma slicesRest_steady : ∀ acc, Steady ts (slicesRest acc (n + 1)) := by
  intro acc
  rw [slicesRest.eq_2]
  exact (steady_eat _).bind fun _ => Steady.ite ((steady_check _).bind fun _ =>
    steady_currentKind.bind fun _ => Steady.ite (ih.slice.bind fun _ => ih.slicesRest _)
      (steady_pure _)) (steady_pure _)

lemma slice_steady : Steady ts (slice (n + 1)) := by
  rw [slice.eq_2]
  refine steady_currentSpan.bind fun start => (steady_check _).bind fun _ =>
    Steady.ite ih.starred ((steady_check _).bind fun _ => ?_)
  extract_lets jp
  have hjp : ∀ lower, Steady ts (jp lower) := by
    intro lower
    simp only [jp]
    split
    · exact (steady_check _).bind fun _ => Steady.ite (steady_pure _) (ih.sliceTail _ _)
    · exact ih.sliceTail _ _
  clear_value jp
  exact Steady.ite ((steady_pure _).bind hjp)
    (ih.namedExpression.bind fun _ => (steady_pure _).bind hjp)

lemma sliceTail_steady : ∀ start lower, Steady ts (sliceTail start lower (n + 1)) := by
  intro start lower
  rw [sliceTail.eq_2]
  refine steady_advance.discard.bind fun _ => ih.bound.bind fun _ => (steady_eat _).bind fun _ => ?_
  dsimp only
  exact Steady.ite (ih.bound.bind fun _ => steady_previousSpan.bind fun _ => steady_pure _)
    ((steady_pure _).bind fun _ => steady_previousSpan.bind fun _ => steady_pure _)

lemma bound_steady : Steady ts (bound (n + 1)) := by
  rw [bound.eq_2]
  exact steady_currentKind.bind fun _ =>
    Steady.ite (ih.expression.bind fun _ => steady_pure _) (steady_pure _)

/-! ## Atoms and literals -/

include hts in
lemma atom_steady : Steady ts (atom (n + 1)) := by
  rw [atom.eq_2]
  refine steady_current.bind fun t => ?_
  dsimp only
  split
  · exact steady_advance.discard.bind fun _ => steady_pure _
  · split
    · exact ih.strings _ _ _
    · exact ih.strings _ _ _
    · exact ih.parenthesized
    · exact ih.listForm
    · exact ih.braceForm
    · exact steady_failUnexpected hts _

lemma strings_steady : ∀ start parts bytes, Steady ts (strings start parts bytes (n + 1)) := by
  intro start parts bytes
  rw [strings.eq_2]
  refine steady_current.bind fun t => ?_
  extract_lets jp
  have hjp : ∀ next, Steady ts (jp next) := by
    intro next
    simp only [jp]
    split
    · exact Steady.ite (steady_previousSpan.bind fun _ => steady_failAt (by decide) _)
        (ih.strings _ _ _)
    · split
      · exact steady_pure _
      · exact steady_previousSpan.bind fun _ => (steady_storeList _).bind fun _ => steady_pure _
  clear_value jp
  split
  · exact steady_advance.discard.bind fun _ => (steady_pure _).bind hjp
  · exact ih.fstring.bind fun _ => (steady_pure _).bind hjp
  · exact (steady_pure _).bind hjp

lemma fstring_steady : Steady ts (fstring (n + 1)) := by
  rw [fstring.eq_2]
  refine steady_advance.bind fun start => ?_
  split
  · exact ih.fstringParts _ _ _
  · exact steady_failAt (by decide) _

include hts in
lemma fstringParts_steady : ∀ d start acc, Steady ts (fstringParts d start acc (n + 1)) := by
  intro d start acc
  rw [fstringParts.eq_2]
  refine steady_current.bind fun t => ?_
  split
  · exact steady_advance.discard.bind fun _ => ih.fstringParts _ _ _
  · exact ih.field.bind fun _ => ih.fstringParts _ _ _
  · exact steady_advance.discard.bind fun _ => (steady_storeList _).bind fun _ => steady_pure _
  · exact steady_failUnexpected hts _

lemma field_steady : Steady ts (field (n + 1)) := by
  rw [field.eq_2]
  exact ih.fieldContents.withContext _

lemma fieldContents_steady : Steady ts (fieldContents (n + 1)) := by
  rw [fieldContents.eq_2]
  refine steady_advance.bind fun opening => (steady_check _).bind fun _ =>
    Steady.ite (steady_currentSpan.bind fun _ => steady_failAt (by decide) _) ?_
  refine ih.fieldExpression.bind fun e => ?_
  extract_lets jp₁
  have hjp₁ : ∀ debug, Steady ts (jp₁ debug) := by
    intro debug
    simp -zeta only [jp₁]
    refine (steady_check _).bind fun _ => ?_
    extract_lets jp₂
    have hjp₂ : ∀ conv, Steady ts (jp₂ conv) := by
      intro conv
      simp -zeta only [jp₂]
      refine (steady_eat _).bind fun _ => ?_
      extract_lets jp₃
      have hjp₃ : ∀ spec, Steady ts (jp₃ spec) := by
        intro spec
        simp only [jp₃]
        have hunlike : Unlike "f-string: expecting '\x7d'" := by decide
        refine steady_current.bind fun close => Steady.ite (steady_throw fun r => ?_)
          (steady_advance.discard.bind fun _ => steady_pure _)
        split
        · unfold SyntaxError.withinContext
          exact ne_expectedAt_of_unlike' hunlike _ _ ts r
        · exact ne_expectedAt_of_unlike' hunlike _ _ ts r
      clear_value jp₃
      exact Steady.ite ((ih.formatSpec _).map.bind hjp₃) ((steady_pure _).bind hjp₃)
    clear_value jp₂
    exact Steady.ite (steady_conversion.map.bind hjp₂) ((steady_pure _).bind hjp₂)
  clear_value jp₁
  exact (steady_eat _).bind fun _ => Steady.ite
    (steady_currentSpan.bind fun _ => (steady_pure _).bind hjp₁) ((steady_pure _).bind hjp₁)

lemma formatSpec_steady : ∀ acc, Steady ts (formatSpec acc (n + 1)) := by
  intro acc
  rw [formatSpec.eq_2]
  refine steady_current.bind fun t => ?_
  split
  · exact steady_advance.discard.bind fun _ => ih.formatSpec _
  · exact ih.field.bind fun _ => ih.formatSpec _
  · exact (steady_storeList _).bind fun _ => steady_pure _

/-! ## Bracketed forms and comprehensions -/

lemma parenthesized_steady : Steady ts (parenthesized (n + 1)) := by
  rw [parenthesized.eq_2]
  exact steady_advance.bind fun _ => (ih.parenContents _).withContext _

include hts in
lemma parenContents_steady : ∀ opening, Steady ts (parenContents opening (n + 1)) := by
  intro opening
  rw [parenContents.eq_2]
  refine (steady_check _).bind fun _ =>
    Steady.ite (steady_advance.bind fun _ => steady_pure _) ((steady_check _).bind fun _ => ?_)
  refine Steady.ite (ih.yieldExpr.bind fun _ => (steady_expect hts _).discard.bind fun _ =>
    steady_pure _) ?_
  refine (ih.element _).bind fun first => steady_atClause.bind fun _ => Steady.ite ?_ ?_
  · exact (steady_refuseUnpacking first).bind fun _ => (ih.clauses _).bind fun _ =>
      (steady_expect hts _).bind fun _ => steady_pure _
  · refine (steady_check _).bind fun _ => Steady.ite ?_ ?_
    · exact (steady_expect hts _).discard.bind fun _ => (steady_refuseStarred first).bind fun _ =>
        steady_pure first
    · exact (ih.moreElements _ _).bind fun _ => (steady_expect hts _).bind fun _ => steady_pure _

lemma listForm_steady : Steady ts (listForm (n + 1)) := by
  rw [listForm.eq_2]
  exact steady_advance.bind fun _ => (ih.listContents _).withContext _

include hts in
lemma listContents_steady : ∀ opening, Steady ts (listContents opening (n + 1)) := by
  intro opening
  rw [listContents.eq_2]
  refine (steady_check _).bind fun _ =>
    Steady.ite (steady_advance.bind fun _ => steady_pure _) ?_
  refine (ih.element _).bind fun first => steady_atClause.bind fun _ => Steady.ite ?_ ?_
  · exact (steady_refuseUnpacking first).bind fun _ => (ih.clauses _).bind fun _ =>
      (steady_expect hts _).bind fun _ => steady_pure _
  · exact (ih.moreElements _ _).bind fun _ => (steady_expect hts _).bind fun _ => steady_pure _

lemma braceForm_steady : Steady ts (braceForm (n + 1)) := by
  rw [braceForm.eq_2]
  exact steady_advance.bind fun _ => (ih.braceContents _).withContext _

include hts in
lemma braceContents_steady : ∀ opening, Steady ts (braceContents opening (n + 1)) := by
  intro opening
  rw [braceContents.eq_2]
  refine (steady_check _).bind fun _ =>
    Steady.ite (steady_advance.bind fun _ => steady_pure _) ((steady_check _).bind fun _ => ?_)
  refine Steady.ite (ih.entry.bind fun _ => ih.dictEntries _ _) ?_
  refine (ih.element _).bind fun first => (steady_eat _).bind fun _ => Steady.ite ?_ ?_
  · refine (steady_refuseStarred first).bind fun _ => ih.expression.bind fun _ =>
      steady_atClause.bind fun _ => Steady.ite ?_ (ih.dictEntries _ _)
    exact (ih.clauses _).bind fun _ => (steady_expect hts _).bind fun _ => steady_pure _
  · refine steady_atClause.bind fun _ => Steady.ite ?_ ?_
    · exact (steady_refuseUnpacking first).bind fun _ => (ih.clauses _).bind fun _ =>
        (steady_expect hts _).bind fun _ => steady_pure _
    · exact (ih.moreElements _ _).bind fun _ => (steady_expect hts _).bind fun _ => steady_pure _

include hts in
lemma dictEntries_steady : ∀ opening acc, Steady ts (dictEntries opening acc (n + 1)) := by
  intro opening acc
  rw [dictEntries.eq_2]
  exact (steady_eat _).bind fun _ => (steady_check _).bind fun _ =>
    Steady.ite (ih.entry.bind fun _ => ih.dictEntries _ _)
      ((steady_expect hts _).bind fun _ => (steady_storeList _).bind fun _ => steady_pure _)

include hts in
lemma entry_steady : Steady ts (entry (n + 1)) := by
  rw [entry.eq_2]
  exact (steady_eat _).bind fun _ => Steady.ite ((ih.operatorChain _).bind fun _ => steady_pure _)
    (ih.expression.bind fun _ => (steady_expect hts _).discard.bind fun _ =>
      ih.expression.bind fun _ => steady_pure _)

lemma moreElements_steady : ∀ close acc, Steady ts (moreElements close acc (n + 1)) := by
  intro close acc
  rw [moreElements.eq_2]
  exact (steady_eat _).bind fun _ => (steady_check _).bind fun _ =>
    Steady.ite ((ih.element _).bind fun _ => ih.moreElements _ _) ((steady_storeList _).bind fun _ => steady_pure _)

lemma clauses_steady : ∀ acc, Steady ts (clauses acc (n + 1)) := by
  intro acc
  rw [clauses.eq_2]
  exact steady_atClause.bind fun _ =>
    Steady.ite ((ih.clause.withContext _).bind fun _ => ih.clauses _) ((steady_storeList _).bind fun _ => steady_pure _)

include hts in
lemma clause_steady : Steady ts (clause (n + 1)) := by
  rw [clause.eq_2]
  refine (steady_eat _).bind fun _ => (steady_expect hts _).discard.bind fun _ =>
    ih.forTarget.bind fun target => ?_
  split
  · exact steady_throw (targetError?_unlike _ _ ‹_›)
  · exact (steady_expect hts _).discard.bind fun _ => ih.disjunction.bind fun _ =>
      (ih.conditions _).bind fun _ => (steady_storeList _).bind fun _ => steady_pure _

lemma conditions_steady : ∀ acc, Steady ts (conditions acc (n + 1)) := by
  intro acc
  rw [conditions.eq_2]
  exact (steady_eat _).bind fun _ =>
    Steady.ite (ih.disjunction.bind fun _ => ih.conditions _) (steady_pure _)

lemma forTarget_steady : Steady ts (forTarget (n + 1)) := by
  rw [forTarget.eq_2]
  exact ih.forTargetItem.bind fun first => (steady_check _).bind fun _ => Steady.ite
    (steady_pure first) ((ih.forTargetRest _).bind fun _ => steady_previousSpan.bind fun _ =>
      (steady_storeList _).bind fun _ => steady_pure _)

lemma forTargetRest_steady : ∀ acc, Steady ts (forTargetRest acc (n + 1)) := by
  intro acc
  rw [forTargetRest.eq_2]
  exact (steady_eat _).bind fun _ => (steady_check _).bind fun _ =>
    Steady.ite (ih.forTargetItem.bind fun _ => ih.forTargetRest _) (steady_pure _)

lemma forTargetItem_steady : Steady ts (forTargetItem (n + 1)) := by
  rw [forTargetItem.eq_2]
  exact (steady_check _).bind fun _ => Steady.ite ih.starred (ih.operatorChain _)

/-! ## Every fuel -/

include hts in
/-- One more unit of fuel keeps every production steady. -/
lemma steadies_succ : Steadies ts (n + 1) where
  fieldExpression := fieldExpression_steady ih
  sequence := sequence_steady ih
  sequenceRest := sequenceRest_steady ih
  element := element_steady ih
  starred := starred_steady ih
  namedExpression := namedExpression_steady ih
  expression := expression_steady hts ih
  yieldExpr := yieldExpr_steady ih
  lambda := lambda_steady hts ih
  lambdaParams := lambdaParams_steady ih
  lambdaParam := lambdaParam_steady hts ih
  disjunction := disjunction_steady ih
  disjunctionRest := disjunctionRest_steady ih
  conjunction := conjunction_steady ih
  conjunctionRest := conjunctionRest_steady ih
  inversion := inversion_steady ih
  comparison := comparison_steady ih
  comparisonLinks := comparisonLinks_steady ih
  operatorChain := operatorChain_steady ih
  chainRest := chainRest_steady ih
  operand := operand_steady ih
  factor := factor_steady ih
  power := power_steady ih
  awaitPrimary := awaitPrimary_steady ih
  primary := primary_steady ih
  trailers := trailers_steady hts ih
  call := call_steady hts ih
  arguments := arguments_steady ih
  loneGenerator := loneGenerator_steady ih
  subscript := subscript_steady hts ih
  slices := slices_steady ih
  slicesRest := slicesRest_steady ih
  slice := slice_steady ih
  sliceTail := sliceTail_steady ih
  bound := bound_steady ih
  atom := atom_steady hts ih
  strings := strings_steady ih
  parenthesized := parenthesized_steady ih
  parenContents := parenContents_steady hts ih
  listForm := listForm_steady ih
  listContents := listContents_steady hts ih
  braceForm := braceForm_steady ih
  braceContents := braceContents_steady hts ih
  dictEntries := dictEntries_steady hts ih
  entry := entry_steady hts ih
  moreElements := moreElements_steady ih
  clauses := clauses_steady ih
  clause := clause_steady hts ih
  conditions := conditions_steady ih
  forTarget := forTarget_steady ih
  forTargetRest := forTargetRest_steady ih
  forTargetItem := forTargetItem_steady ih
  fstring := fstring_steady ih
  fstringParts := fstringParts_steady hts ih
  field := field_steady ih
  fieldContents := fieldContents_steady ih
  formatSpec := formatSpec_steady ih

omit ih

include hts in
/-- On a stream as the lexer gives it, every production is steady at every fuel. -/
theorem steadies : ∀ n, Steadies ts n
  | 0 => steadies_zero hts
  | n + 1 => steadies_succ hts (steadies n)

end Grammar

end ExprFront
