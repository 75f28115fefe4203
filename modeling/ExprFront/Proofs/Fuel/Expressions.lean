import Mathlib
import ExprFront.Proofs.Fuel.Levels

/-!
# Fuel enough for expression lists, expressions and lambdas

The productions from a field's expression and an expression list down to an expression, the
`yield` forms and lambdas with their parameters, with one more unit of fuel, are settled when
the productions they call are. An expression list calls its items where it stands, and goes on
past each comma; a conditional expression reads its other branch past the `else`.
-/

namespace ExprFront

namespace Grammar

open TokenStream ParseM

variable {ts : TokenStream} {n : Nat} (hts : ts.EndsWithEof) (ih : Settles ts n)
include hts ih

omit hts in
lemma fieldExpression_settles : Enough ts (n + 1) 27 fieldExpression := by
  intro p hp hb
  rw [fieldExpression.eq_2, fieldExpression.eq_2]
  refine Settled.of_ok_bind (run_check ts p _) (Settled.ite (fun hk => ?_) fun _ => ?_)
  · exact (ih.yieldExpr p hp (ne_eof_of_check hk (by decide)) (hb.down le_rfl (by decide))).mono
      fun _ _ h => h.within
  · exact ih.sequence .starNamed p hp (hb.down le_rfl (by decide))

omit hts in
lemma sequence_settles : ∀ item, Enough ts (n + 1) 26 (sequence item) := by
  intro item p hp hb
  rw [sequence.eq_2, sequence.eq_2]
  refine (ih.element item p hp (hb.down le_rfl (by decide))).bind fun first q hq _ => ?_
  refine Settled.of_ok_bind (run_check ts q _) (Settled.ite (fun _ => ?_) fun _ => ?_)
  · exact settled_refuseStarred_bind fun _ => settled_pure hq
  · refine (ih.sequenceRest item #[first] q hq.2 (hb.down hq.1 (by decide))).bind
      fun items r hr _ => ?_
    exact Settled.of_ok_bind (run_previousSpan ts r) (settled_storeList_bind fun _ => settled_pure (hq.trans hr))

lemma sequenceRest_settles : ∀ item acc, Enough ts (n + 1) 0 (sequenceRest item acc) := by
  intro item acc p hp hb
  rw [sequenceRest.eq_2, sequenceRest.eq_2]
  refine settled_eat_bind (fun hk => ?_) fun _ => settled_pure (within_refl hp)
  have h₁ := past_next hts hp (by simp [hk])
  refine Settled.of_ok_bind (run_currentKind ts _)
    (Settled.ite (fun _ => ?_) fun _ => settled_pure h₁.within)
  refine (ih.element item _ h₁.2 (hb.past hp h₁.1 (by decide))).bind fun e q hq _ => ?_
  have h₂ := h₁.trans_within hq
  exact (ih.sequenceRest item _ q hq.2 (hb.past hp h₂.1 (by decide))).mono
    fun _ _ h => (h₂.trans_within h).within

omit hts in
lemma element_settles : ∀ item, Enough ts (n + 1) 25 (element item) := by
  intro item p hp hb
  have hstar : ((ts.tokenAt p).kind == .punct .star) = true →
      Settled ts (starred n) (starred (n + 1)) p fun _ q => ts.Within p q := fun hk =>
    (ih.starred p hp (ne_eof_of_check hk (by decide)) (hb.down le_rfl (by decide))).mono
      fun _ _ h => h.within
  cases item with
  | star =>
    rw [element.eq_2, element.eq_2]
    exact Settled.of_ok_bind (run_check ts p _) (Settled.ite hstar
      fun _ => ih.expression p hp (hb.down le_rfl (by decide)))
  | starNamed =>
    rw [element.eq_3, element.eq_3]
    exact Settled.of_ok_bind (run_check ts p _) (Settled.ite hstar
      fun _ => ih.namedExpression p hp (hb.down le_rfl (by decide)))

lemma starred_settles : EnoughPast ts (n + 1) 0 starred := by
  intro p hp hk hb
  rw [starred.eq_2, starred.eq_2]
  have h₁ := past_next hts hp hk
  refine Settled.of_ok_bind (run_advance ts p) ?_
  refine (ih.operatorChain .bitOr _ h₁.2 (hb.past hp h₁.1 (by decide))).bind
    fun value q hq _ => ?_
  exact settled_pure (h₁.trans_within hq)

lemma namedExpression_settles : Enough ts (n + 1) 24 namedExpression := by
  intro p hp hb
  rw [namedExpression.eq_2, namedExpression.eq_2]
  refine Settled.of_ok_bind (run_check ts p _) ?_
  refine Settled.of_ok_bind (run_peekKind ts p 1) (Settled.ite (fun hk => ?_) fun _ => ?_)
  · simp only [Bool.and_eq_true, beq_iff_eq] at hk
    have h₁ := past_next hts hp (by simp [hk.1])
    have h₂ := h₁.trans_within (within_next h₁.2)
    refine Settled.of_ok_bind (run_advance ts p) ?_
    refine Settled.of_ok_bind run_discard_advance ?_
    refine (ih.expression _ h₂.2 (hb.past hp h₂.1 (by decide))).bind fun value q hq _ => ?_
    exact settled_pure (h₂.trans_within hq).within
  · refine (ih.expression p hp (hb.down le_rfl (by decide))).bind fun e q hq _ => ?_
    exact Settled.of_ok_bind (run_check ts q _)
      (Settled.ite (fun _ => settled_failAt (by decide)) fun _ => settled_pure hq)

lemma expression_settles : Enough ts (n + 1) 23 expression := by
  intro p hp hb
  rw [expression.eq_2, expression.eq_2]
  refine Settled.of_ok_bind (run_check ts p _) (Settled.ite (fun hk => ?_) fun _ => ?_)
  · exact (ih.lambda p hp (ne_eof_of_check hk (by decide)) (hb.down le_rfl (by decide))).mono
      fun _ _ h => h.within
  refine (ih.disjunction p hp (hb.down le_rfl (by decide))).bind fun body q hq _ => ?_
  refine settled_eat_bind (fun hk => ?_) fun _ => settled_pure hq
  have h₁ := past_next hts hq.2 (by simp [hk])
  refine (ih.disjunction _ h₁.2 (hb.past hp (lt_of_le_of_lt hq.1 h₁.1) (by decide))).bind
    fun test r hr _ => ?_
  have h₂ := h₁.trans_within hr
  refine Settled.of_ok_bind (run_check ts r _)
    (Settled.ite (fun _ => settled_failUnexpected (by decide)) fun hc => ?_)
  have h₃ := past_next hts hr.2 (ne_eof_of_check (by simpa using hc) (by decide))
  refine Settled.of_ok_bind run_discard_advance ?_
  refine (ih.expression _ h₃.2 (hb.past hp (lt_of_le_of_lt hq.1 (h₂.1.trans h₃.1))
    (by decide))).bind fun orelse s hs _ => ?_
  exact settled_pure (hq.trans (h₂.trans_within (h₃.trans_within hs).within).within)

lemma yieldExpr_settles : EnoughPast ts (n + 1) 0 yieldExpr := by
  intro p hp hk hb
  rw [yieldExpr.eq_2, yieldExpr.eq_2]
  have h₁ := past_next hts hp hk
  refine Settled.of_ok_bind (run_advance ts p) ?_
  refine settled_eat_bind (fun hf => ?_) fun _ => ?_
  · have h₂ := past_next hts h₁.2 (by simp [hf])
    refine (ih.expression _ h₂.2 (hb.past hp (h₁.1.trans h₂.1) (by decide))).bind
      fun value q hq _ => ?_
    exact settled_pure (h₁.trans_within (h₂.trans_within hq).within)
  · refine Settled.of_ok_bind (run_currentKind ts _)
      (Settled.ite (fun _ => ?_) fun _ => settled_pure h₁)
    refine (ih.sequence .star _ h₁.2 (hb.past hp h₁.1 (by decide))).bind fun value q hq _ => ?_
    exact settled_pure (h₁.trans_within hq)

lemma lambda_settles : EnoughPast ts (n + 1) 0 lambda := by
  intro p hp hk hb
  rw [lambda.eq_2, lambda.eq_2]
  have h₁ := past_next hts hp hk
  refine Settled.of_ok_bind (run_advance ts p) ?_
  refine (ih.lambdaParams #[] _ h₁.2 (hb.past hp h₁.1 (by decide))).bind fun params q hq _ => ?_
  have h₂ := h₁.trans_within hq
  refine settled_expect.withContext.discard.bind fun _ r ⟨_, _, _, hr⟩ _ => ?_
  subst hr
  have h₃ := h₂.trans_within (within_next hq.2)
  refine (ih.expression _ h₃.2 (hb.past hp h₃.1 (by decide))).bind fun body s hs _ => ?_
  exact settled_storeList_bind fun _ => settled_pure (h₃.trans_within hs)

lemma lambdaParams_settles : ∀ acc, Enough ts (n + 1) 1 (lambdaParams acc) := by
  intro acc p hp hb
  rw [lambdaParams.eq_2, lambdaParams.eq_2]
  refine Settled.of_ok_bind (run_check ts p _)
    (Settled.ite (fun _ => settled_pure (within_refl hp)) fun _ => ?_)
  refine (ih.lambdaParam p hp (hb.down le_rfl (by decide))).withContext.bind
    fun param q hq _ => ?_
  refine settled_eat_bind (fun hk => ?_) fun _ => settled_pure hq
  have h₁ := past_next hts hq.2 (by simp [hk])
  exact (ih.lambdaParams _ _ h₁.2 (hb.past hp (lt_of_le_of_lt hq.1 h₁.1) (by decide))).mono
    fun _ _ h => hq.trans (h₁.trans_within h).within

lemma lambdaParam_settles : Enough ts (n + 1) 0 lambdaParam := by
  intro p hp hb
  rw [lambdaParam.eq_2, lambdaParam.eq_2]
  have h₁ := within_next hp
  have h₂ := h₁.trans (within_next h₁.2)
  refine Settled.of_ok_bind (run_current ts p) ?_
  split
  · exact Settled.of_ok_bind run_discard_advance (settled_pure h₁)
  · refine Settled.of_ok_bind run_discard_advance ?_
    refine Settled.of_ok_bind (run_check ts _ _) (Settled.ite (fun _ => ?_) fun _ => settled_pure h₁)
    exact Settled.of_ok_bind (run_advance ts _) (settled_pure h₂)
  · refine Settled.of_ok_bind run_discard_advance ?_
    exact settled_expect_bind fun _ => settled_pure h₂
  · rename_i hk
    have h₃ := past_next hts hp (by simp [hk])
    refine Settled.of_ok_bind run_discard_advance ?_
    refine settled_eat_bind (fun he => ?_) fun _ => settled_pure h₁
    have h₄ := past_next hts h₃.2 (by simp [he])
    refine (ih.expression _ h₄.2 (hb.past hp (h₃.1.trans h₄.1) (by decide))).bind
      fun d q hq _ => ?_
    exact settled_pure (h₃.trans_within (h₄.trans_within hq).within).within
  · exact settled_failUnexpected (by decide)

end Grammar

end ExprFront
