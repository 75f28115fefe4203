import Mathlib
import ExprFront.Proofs.Fuel.Levels

/-!
# Fuel enough for the operator productions

The productions from `disjunction` down to `primary`, the trailers of a primary and the call
arguments and slices in them, with one more unit of fuel, are settled when the productions they
call are. Each calls the next tighter level where it stands, which has a lower level; a loop
over operands, arguments or slices goes round only past the operator or comma it took.
-/

namespace ExprFront

namespace Grammar

open TokenStream ParseM

variable {ts : TokenStream} {n : Nat} (hts : ts.EndsWithEof) (ih : Settles ts n)
include hts ih

omit hts in
lemma disjunction_settles : Enough ts (n + 1) 22 disjunction := by
  intro p hp hb
  rw [disjunction.eq_2, disjunction.eq_2]
  refine (ih.conjunction p hp (hb.down le_rfl (by decide))).bind fun left q hq _ => ?_
  exact (ih.disjunctionRest left q hq.2 (hb.down hq.1 (by decide))).mono fun _ _ => hq.trans

lemma disjunctionRest_settles : ∀ left, Enough ts (n + 1) 0 (disjunctionRest left) := by
  intro left p hp hb
  rw [disjunctionRest.eq_2, disjunctionRest.eq_2]
  refine settled_eat_bind (fun hk => ?_) fun _ => settled_pure (within_refl hp)
  have h₁ := past_next hts hp (by simp [hk])
  refine (ih.conjunction _ h₁.2 (hb.past hp h₁.1 (by decide))).bind fun right q hq _ => ?_
  have h₂ := h₁.trans_within hq
  exact (ih.disjunctionRest _ q hq.2 (hb.past hp h₂.1 (by decide))).mono
    fun _ _ h => (h₂.trans_within h).within

omit hts in
lemma conjunction_settles : Enough ts (n + 1) 21 conjunction := by
  intro p hp hb
  rw [conjunction.eq_2, conjunction.eq_2]
  refine (ih.inversion p hp (hb.down le_rfl (by decide))).bind fun left q hq _ => ?_
  exact (ih.conjunctionRest left q hq.2 (hb.down hq.1 (by decide))).mono fun _ _ => hq.trans

lemma conjunctionRest_settles : ∀ left, Enough ts (n + 1) 0 (conjunctionRest left) := by
  intro left p hp hb
  rw [conjunctionRest.eq_2, conjunctionRest.eq_2]
  refine settled_eat_bind (fun hk => ?_) fun _ => settled_pure (within_refl hp)
  have h₁ := past_next hts hp (by simp [hk])
  refine (ih.inversion _ h₁.2 (hb.past hp h₁.1 (by decide))).bind fun right q hq _ => ?_
  have h₂ := h₁.trans_within hq
  exact (ih.conjunctionRest _ q hq.2 (hb.past hp h₂.1 (by decide))).mono
    fun _ _ h => (h₂.trans_within h).within

lemma inversion_settles : Enough ts (n + 1) 20 inversion := by
  intro p hp hb
  rw [inversion.eq_2, inversion.eq_2]
  refine Settled.of_ok_bind (run_check ts p _) (Settled.ite (fun hk => ?_) fun _ => ?_)
  · have h₁ := past_next hts hp (ne_eof_of_check hk (by decide))
    refine Settled.of_ok_bind (run_advance ts p) ?_
    refine (ih.inversion _ h₁.2 (hb.past hp h₁.1 (by decide))).bind fun operand q hq _ => ?_
    exact settled_pure (h₁.trans_within hq).within
  · exact ih.comparison p hp (hb.down le_rfl (by decide))

omit hts in
lemma comparison_settles : Enough ts (n + 1) 19 comparison := by
  intro p hp hb
  rw [comparison.eq_2, comparison.eq_2]
  refine (ih.operatorChain .bitOr p hp (hb.down le_rfl (by decide))).bind fun left q hq _ => ?_
  refine (ih.comparisonLinks #[] q hq.2 (hb.down hq.1 (by decide))).bind fun links r hr _ => ?_
  split
  · exact settled_pure (hq.trans hr)
  · exact settled_storeList_bind fun _ => settled_pure (hq.trans hr)

lemma comparisonLinks_settles : ∀ acc, Enough ts (n + 1) 0 (comparisonLinks acc) := by
  intro acc p hp hb
  rw [comparisonLinks.eq_2, comparisonLinks.eq_2]
  refine (settled_comparisonOp hts hp).bind fun op q ⟨hq, hop⟩ _ => ?_
  split
  · have h₁ := hop rfl
    refine (ih.operatorChain .bitOr q h₁.2 (hb.past hp h₁.1 (by decide))).bind
      fun right r hr _ => ?_
    have h₂ := h₁.trans_within hr
    exact (ih.comparisonLinks _ r hr.2 (hb.past hp h₂.1 (by decide))).mono
      fun _ _ h => (h₂.trans_within h).within
  · exact settled_pure hq

omit hts in
lemma operatorChain_settles :
    ∀ level, Enough ts (n + 1) (8 + 2 * level.depth) (operatorChain level) := by
  intro level p hp hb
  rw [operatorChain.eq_2, operatorChain.eq_2]
  refine (ih.operand level p hp (hb.down le_rfl (by omega))).bind fun left q hq _ => ?_
  exact (ih.chainRest level left q hq.2 (hb.down hq.1 (by omega))).mono fun _ _ => hq.trans

lemma chainRest_settles : ∀ level left, Enough ts (n + 1) 0 (chainRest level left) := by
  intro level left p hp hb
  rw [chainRest.eq_2, chainRest.eq_2]
  refine Settled.of_ok_bind (run_currentKind ts p) ?_
  split
  · rename_i op hop
    have h₁ := past_next hts hp fun h => by simp [h, BinLevel.operator?_eof] at hop
    refine Settled.of_ok_bind run_discard_advance ?_
    have hd := level.depth_le
    refine (ih.operand level _ h₁.2 (hb.past hp h₁.1 (by omega))).bind fun right q hq _ => ?_
    have h₂ := h₁.trans_within hq
    exact (ih.chainRest level _ q hq.2 (hb.past hp h₂.1 (by decide))).mono
      fun _ _ h => (h₂.trans_within h).within
  · exact settled_pure (within_refl hp)

omit hts in
lemma operand_settles : ∀ level, Enough ts (n + 1) (7 + 2 * level.depth) (operand level) := by
  intro level p hp hb
  rw [operand.eq_2, operand.eq_2]
  split
  · rename_i next hnext
    have := BinLevel.depth_next hnext
    exact ih.operatorChain next p hp (hb.down le_rfl (by omega))
  · exact ih.factor p hp (hb.down le_rfl (by omega))

lemma factor_settles : Enough ts (n + 1) 6 factor := by
  intro p hp hb
  rw [factor.eq_2, factor.eq_2]
  refine Settled.of_ok_bind (run_currentKind ts p) ?_
  split
  · rename_i op hop
    have h₁ := past_next hts hp fun h => by simp [h, unaryOperator?] at hop
    refine Settled.of_ok_bind (run_advance ts p) ?_
    refine (ih.factor _ h₁.2 (hb.past hp h₁.1 (by decide))).bind fun e q hq _ => ?_
    exact settled_pure (h₁.trans_within hq).within
  · exact ih.power p hp (hb.down le_rfl (by decide))

lemma power_settles : Enough ts (n + 1) 5 power := by
  intro p hp hb
  rw [power.eq_2, power.eq_2]
  refine (ih.awaitPrimary p hp (hb.down le_rfl (by decide))).bind fun base q hq _ => ?_
  refine settled_eat_bind (fun hk => ?_) fun _ => settled_pure hq
  have h₁ := past_next hts hq.2 (by simp [hk])
  refine (ih.factor _ h₁.2 (hb.past hp (lt_of_le_of_lt hq.1 h₁.1) (by decide))).bind
    fun e r hr _ => ?_
  exact settled_pure (hq.trans (h₁.trans_within hr).within)

lemma awaitPrimary_settles : Enough ts (n + 1) 4 awaitPrimary := by
  intro p hp hb
  rw [awaitPrimary.eq_2, awaitPrimary.eq_2]
  refine Settled.of_ok_bind (run_check ts p _) (Settled.ite (fun hk => ?_) fun _ => ?_)
  · have h₁ := past_next hts hp (ne_eof_of_check hk (by decide))
    refine Settled.of_ok_bind (run_advance ts p) ?_
    refine (ih.primary _ h₁.2 (hb.past hp h₁.1 (by decide))).bind fun value q hq _ => ?_
    exact settled_pure (h₁.trans_within hq).within
  · exact ih.primary p hp (hb.down le_rfl (by decide))

omit hts in
lemma primary_settles : Enough ts (n + 1) 3 primary := by
  intro p hp hb
  rw [primary.eq_2, primary.eq_2]
  refine (ih.atom p hp (hb.down le_rfl (by decide))).bind fun value q hq _ => ?_
  exact (ih.trailers value q hq.2 (hb.down hq.1 (by decide))).mono fun _ _ => hq.trans

lemma trailers_settles : ∀ value, Enough ts (n + 1) 1 (trailers value) := by
  intro value p hp hb
  rw [trailers.eq_2, trailers.eq_2]
  refine Settled.of_ok_bind (run_currentKind ts p) ?_
  split
  · rename_i hk
    have h₁ := past_next hts hp (by simp [hk])
    refine Settled.of_ok_bind run_discard_advance (settled_expect_bind fun _ => ?_)
    have h₂ := h₁.trans_within (within_next h₁.2)
    exact (ih.trailers _ _ h₂.2 (hb.past hp h₂.1 (by decide))).mono
      fun _ _ h => (h₂.trans_within h).within
  · rename_i hk
    refine (ih.call value p hp (by simp [hk]) (hb.down le_rfl (by decide))).bind
      fun e q hq _ => ?_
    exact (ih.trailers e q hq.2 (hb.past hp hq.1 (by decide))).mono
      fun _ _ h => (hq.trans_within h).within
  · rename_i hk
    refine (ih.subscript value p hp (by simp [hk]) (hb.down le_rfl (by decide))).bind
      fun e q hq _ => ?_
    exact (ih.trailers e q hq.2 (hb.past hp hq.1 (by decide))).mono
      fun _ _ h => (hq.trans_within h).within
  · exact settled_pure (within_refl hp)

lemma call_settles : ∀ func, EnoughPast ts (n + 1) 0 (call func) := by
  intro func p hp hk hb
  rw [call.eq_2, call.eq_2]
  have h₁ := past_next hts hp hk
  refine Settled.of_ok_bind run_discard_advance ?_
  refine (ih.arguments #[] false false _ h₁.2 (hb.past hp h₁.1 (by decide))).withContext.bind
    fun args q hq _ => ?_
  refine settled_expect.withContext.bind fun close r ⟨_, _, hr⟩ _ => ?_
  exact settled_storeList_bind fun _ => settled_pure (h₁.trans_within (hq.trans (hr ▸ within_next hq.2)))

lemma arguments_settles :
    ∀ acc seenKeyword seenDoubleStar, Enough ts (n + 1) 25 (arguments acc seenKeyword seenDoubleStar) := by
  intro acc sk sd p hp hb
  rw [arguments.eq_2, arguments.eq_2]
  refine Settled.of_ok_bind (run_check ts p _)
    (Settled.ite (fun _ => settled_pure (within_refl hp)) fun _ => ?_)
  refine Settled.of_ok_bind (run_currentSpan ts p) ?_
  refine Settled.of_ok_bind (run_currentKind ts p) ?_
  refine Settled.of_ok_bind (run_peekKind ts p 1) ?_
  extract_lets jp jp₂ jp' jp₂'
  have hjp : ∀ trip q, ts.Within p q →
      Settled ts (jp trip) (jp' trip) q fun _ r => ts.Within p r := by
    rintro ⟨arg, sk', sd'⟩ q hq
    simp only [jp, jp']
    refine settled_eat_bind (fun hk => ?_) fun _ => settled_pure hq
    have h₁ := past_next hts hq.2 (by simp [hk])
    exact (ih.arguments _ _ _ _ h₁.2 (hb.past hp (lt_of_le_of_lt hq.1 h₁.1) (by decide))).mono
      fun _ _ h => hq.trans (h₁.trans_within h).within
  have hjp₂ : ∀ value r, ts.Within p r →
      Settled ts (jp₂ value) (jp₂' value) r fun _ r' => ts.Within p r' := by
    intro value r hr
    simp only [jp₂, jp₂']
    exact Settled.ite (fun _ => settled_failAt_bind (by decide))
      fun _ => Settled.ite (fun _ => settled_failAt_bind (by decide))
        fun _ => Settled.of_ok_bind rfl (hjp (.positional value, sk, sd) _ hr)
  clear_value jp jp₂ jp' jp₂'
  split
  · rename_i hk
    have h₁ := past_next hts hp (by simp [hk])
    refine Settled.of_ok_bind run_discard_advance ?_
    refine (ih.expression _ h₁.2 (hb.past hp h₁.1 (by decide))).bind fun value q hq _ => ?_
    exact Settled.ite (fun _ => settled_failAt_bind (by decide))
      fun _ => Settled.of_ok_bind rfl (hjp _ _ (h₁.trans_within hq).within)
  · rename_i hk
    have h₁ := past_next hts hp (by simp [hk])
    refine Settled.of_ok_bind run_discard_advance ?_
    refine (ih.expression _ h₁.2 (hb.past hp h₁.1 (by decide))).bind fun value q hq _ => ?_
    exact Settled.of_ok_bind rfl (hjp _ _ (h₁.trans_within hq).within)
  · rename_i hk _
    have h₁ := past_next hts hp (by simp [hk])
    have h₂ := h₁.trans_within (within_next h₁.2)
    refine Settled.of_ok_bind (run_advance ts p) ?_
    refine Settled.of_ok_bind run_discard_advance ?_
    refine (ih.expression _ h₂.2 (hb.past hp h₂.1 (by decide))).bind fun value q hq _ => ?_
    exact Settled.of_ok_bind rfl (hjp _ _ (h₂.trans_within hq).within)
  · refine (ih.namedExpression p hp (hb.down le_rfl (by decide))).bind fun value q hq _ => ?_
    refine Settled.of_ok_bind (run_atClause ts q) ?_
    exact Settled.ite
      (fun _ => (ih.loneGenerator value acc.isEmpty q hq.2 (hb.down hq.1 (by decide))).bind
        fun v r hr _ => hjp₂ v r (hq.trans hr))
      fun _ => Settled.of_ok_bind rfl (hjp₂ _ _ hq)

omit hts in
lemma loneGenerator_settles : ∀ elt isFirst, Enough ts (n + 1) 2 (loneGenerator elt isFirst) := by
  intro elt isFirst p hp hb
  rw [loneGenerator.eq_2, loneGenerator.eq_2]
  refine (ih.clauses #[] p hp (hb.down le_rfl (by decide))).bind fun cs q hq _ => ?_
  refine Settled.of_ok_bind (run_previousSpan ts q) ?_
  refine Settled.of_ok_bind (run_check ts q _) ?_
  exact Settled.ite (fun _ => settled_failAt (by decide)) fun _ => settled_pure hq

lemma subscript_settles : ∀ value, EnoughPast ts (n + 1) 0 (subscript value) := by
  intro value p hp hk hb
  rw [subscript.eq_2, subscript.eq_2]
  have h₁ := past_next hts hp hk
  refine Settled.of_ok_bind run_discard_advance ?_
  refine (ih.slices _ h₁.2 (hb.past hp h₁.1 (by decide))).withContext.bind
    fun index q hq _ => ?_
  refine settled_expect.withContext.bind fun close r ⟨_, _, hr⟩ _ => ?_
  exact settled_pure (h₁.trans_within (hq.trans (hr ▸ within_next hq.2)))

omit hts in
lemma slices_settles : Enough ts (n + 1) 26 slices := by
  intro p hp hb
  rw [slices.eq_2, slices.eq_2]
  refine (ih.slice p hp (hb.down le_rfl (by decide))).bind fun first q hq _ => ?_
  refine Settled.of_ok_bind (run_check ts q _) (Settled.ite (fun _ => settled_pure hq) fun _ => ?_)
  refine (ih.slicesRest #[first] q hq.2 (hb.down hq.1 (by decide))).bind fun items r hr _ => ?_
  exact Settled.of_ok_bind (run_previousSpan ts r) (settled_storeList_bind fun _ => settled_pure (hq.trans hr))

lemma slicesRest_settles : ∀ acc, Enough ts (n + 1) 0 (slicesRest acc) := by
  intro acc p hp hb
  rw [slicesRest.eq_2, slicesRest.eq_2]
  refine settled_eat_bind (fun hk => ?_) fun _ => settled_pure (within_refl hp)
  have h₁ := past_next hts hp (by simp [hk])
  refine Settled.of_ok_bind (run_check ts _ _) ?_
  refine Settled.of_ok_bind (run_currentKind ts _) ?_
  refine Settled.ite (fun _ => ?_) fun _ => settled_pure h₁.within
  refine (ih.slice _ h₁.2 (hb.past hp h₁.1 (by decide))).bind fun s q hq _ => ?_
  have h₂ := h₁.trans_within hq
  exact (ih.slicesRest _ q hq.2 (hb.past hp h₂.1 (by decide))).mono
    fun _ _ h => (h₂.trans_within h).within

omit hts in
lemma slice_settles : Enough ts (n + 1) 25 slice := by
  intro p hp hb
  rw [slice.eq_2, slice.eq_2]
  refine Settled.of_ok_bind (run_currentSpan ts p) ?_
  refine Settled.of_ok_bind (run_check ts p _) (Settled.ite (fun hk => ?_) fun _ => ?_)
  · exact (ih.starred p hp (ne_eof_of_check hk (by decide)) (hb.down le_rfl (by decide))).mono
      fun _ _ h => h.within
  refine Settled.of_ok_bind (run_check ts p _) ?_
  extract_lets jp jp'
  have hjp : ∀ lower q, ts.Within p q → (lower = none → (ts.tokenAt q).kind = .punct .colon) →
      Settled ts (jp lower) (jp' lower) q fun _ r => ts.Within p r := by
    intro lower q hq hnone
    simp only [jp, jp']
    split
    · refine Settled.of_ok_bind (run_check ts q _)
        (Settled.ite (fun _ => settled_pure hq) fun hc => ?_)
      have hc' : ((ts.tokenAt q).kind == .punct .colon) = true := by simpa using hc
      exact (ih.sliceTail _ _ q hq.2 (ne_eof_of_check hc' (by decide))
        (hb.down hq.1 (by decide))).mono fun _ _ h => hq.trans h.within
    · exact (ih.sliceTail _ _ q hq.2 (by simp [hnone rfl]) (hb.down hq.1 (by decide))).mono
        fun _ _ h => hq.trans h.within
  clear_value jp jp'
  refine Settled.ite (fun hc => Settled.of_ok_bind rfl
    (hjp _ _ (within_refl hp) fun _ => by simpa using hc)) fun _ => ?_
  refine (ih.namedExpression p hp (hb.down le_rfl (by decide))).bind fun e q hq _ => ?_
  exact Settled.of_ok_bind rfl (hjp _ _ hq (by simp))

lemma sliceTail_settles : ∀ start lower, EnoughPast ts (n + 1) 0 (sliceTail start lower) := by
  intro start lower p hp hk hb
  rw [sliceTail.eq_2, sliceTail.eq_2]
  have h₁ := past_next hts hp hk
  refine Settled.of_ok_bind run_discard_advance ?_
  refine (ih.bound _ h₁.2 (hb.past hp h₁.1 (by decide))).bind fun upper q hq _ => ?_
  have h₂ := h₁.trans_within hq
  refine settled_eat.bind fun c r ⟨hr₁, hr₂⟩ _ => ?_
  extract_lets jp
  have hjp : ∀ step r', ts.Within q r' →
      Settled ts (jp step) (jp step) r' fun _ r'' => ts.Past p r'' := by
    intro step r' hr'
    simp only [jp]
    exact Settled.of_ok_bind (run_previousSpan ts r') (settled_pure (h₂.trans_within hr'))
  clear_value jp
  refine Settled.ite (fun hc => ?_) fun hc => Settled.of_ok_bind rfl (hjp _ _ ?_)
  · obtain ⟨hcolon, rfl⟩ := hr₁ hc
    have h₃ := past_next hts hq.2 (by simp [hcolon])
    exact (ih.bound _ h₃.2 (hb.past hp (h₂.1.trans h₃.1) (by decide))).bind
      fun e r' hr' _ => hjp _ _ (h₃.trans_within hr').within
  · rw [hr₂ (by simpa using hc)]
    exact within_refl hq.2

omit hts in
lemma bound_settles : Enough ts (n + 1) 24 bound := by
  intro p hp hb
  rw [bound.eq_2, bound.eq_2]
  refine Settled.of_ok_bind (run_currentKind ts p)
    (Settled.ite (fun _ => ?_) fun _ => settled_pure (within_refl hp))
  exact (ih.expression p hp (hb.down le_rfl (by decide))).bind fun e q hq _ => settled_pure hq

end Grammar

end ExprFront
