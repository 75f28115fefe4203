import Mathlib
import ExprFront.Proofs.Fuel.Levels

/-!
# Fuel enough for atoms, displays and comprehensions

An atom, a bracketed form and its contents, dict entries, comprehension clauses and their
targets, with one more unit of fuel, are settled when the productions they call are. A
bracketed form takes its opening bracket before it reads what is inside; the loops over items,
entries, clauses and conditions go round only past the comma, `for` or `if` they took.
-/

namespace ExprFront

namespace Grammar

open TokenStream ParseM

variable {ts : TokenStream} {n : Nat} (hts : ts.EndsWithEof) (ih : Settles ts n)
include hts ih

omit hts in
lemma atom_settles : Enough ts (n + 1) 2 atom := by
  intro p hp hb
  rw [atom.eq_2, atom.eq_2]
  refine Settled.of_ok_bind (run_current ts p) ?_
  dsimp only
  split
  · exact Settled.of_ok_bind run_discard_advance (settled_pure (within_next hp))
  · split
    · exact ih.strings _ _ _ p hp (hb.down le_rfl (by decide))
    · exact ih.strings _ _ _ p hp (hb.down le_rfl (by decide))
    · rename_i hk
      exact (ih.parenthesized p hp (by simp [hk]) (hb.down le_rfl (by decide))).mono
        fun _ _ h => h.within
    · rename_i hk
      exact (ih.listForm p hp (by simp [hk]) (hb.down le_rfl (by decide))).mono
        fun _ _ h => h.within
    · rename_i hk
      exact (ih.braceForm p hp (by simp [hk]) (hb.down le_rfl (by decide))).mono
        fun _ _ h => h.within
    · exact settled_failUnexpected (by decide)

lemma parenthesized_settles : EnoughPast ts (n + 1) 0 parenthesized := by
  intro p hp hk hb
  rw [parenthesized.eq_2, parenthesized.eq_2]
  have h₁ := past_next hts hp hk
  refine Settled.of_ok_bind (run_advance ts p) ?_
  exact (ih.parenContents _ _ h₁.2 (hb.past hp h₁.1 (by decide))).withContext.mono
    fun _ _ h => h₁.trans_within h

omit hts in
lemma parenContents_settles : ∀ opening, Enough ts (n + 1) 26 (parenContents opening) := by
  intro opening p hp hb
  rw [parenContents.eq_2, parenContents.eq_2]
  refine Settled.of_ok_bind (run_check ts p _) (Settled.ite
    (fun _ => Settled.of_ok_bind (run_advance ts p) (settled_pure (within_next hp))) fun _ => ?_)
  refine Settled.of_ok_bind (run_check ts p _) (Settled.ite (fun hk => ?_) fun _ => ?_)
  · refine (ih.yieldExpr p hp (ne_eof_of_check hk (by decide)) (hb.down le_rfl (by decide))).bind
      fun value q hq _ => ?_
    exact settled_discard_expect_bind fun _ => settled_pure (hq.within.trans (within_next hq.2))
  refine (ih.element .starNamed p hp (hb.down le_rfl (by decide))).bind fun first q hq _ => ?_
  refine Settled.of_ok_bind (run_atClause ts q) (Settled.ite (fun _ => ?_) fun _ => ?_)
  · refine settled_refuseUnpacking_bind fun _ => ?_
    refine (ih.clauses #[] q hq.2 (hb.down hq.1 (by decide))).bind fun cs r hr _ => ?_
    exact settled_expect_bind fun _ => settled_pure ((hq.trans hr).trans (within_next hr.2))
  refine Settled.of_ok_bind (run_check ts q _) (Settled.ite (fun _ => ?_) fun _ => ?_)
  · exact settled_discard_expect_bind fun _ =>
      settled_refuseStarred_bind fun _ => settled_pure (hq.trans (within_next hq.2))
  · refine (ih.moreElements _ #[first] q hq.2 (hb.down hq.1 (by decide))).bind
      fun items r hr _ => ?_
    exact settled_expect_bind fun _ => settled_pure ((hq.trans hr).trans (within_next hr.2))

lemma listForm_settles : EnoughPast ts (n + 1) 0 listForm := by
  intro p hp hk hb
  rw [listForm.eq_2, listForm.eq_2]
  have h₁ := past_next hts hp hk
  refine Settled.of_ok_bind (run_advance ts p) ?_
  exact (ih.listContents _ _ h₁.2 (hb.past hp h₁.1 (by decide))).withContext.mono
    fun _ _ h => h₁.trans_within h

omit hts in
lemma listContents_settles : ∀ opening, Enough ts (n + 1) 26 (listContents opening) := by
  intro opening p hp hb
  rw [listContents.eq_2, listContents.eq_2]
  refine Settled.of_ok_bind (run_check ts p _) (Settled.ite
    (fun _ => Settled.of_ok_bind (run_advance ts p) (settled_pure (within_next hp))) fun _ => ?_)
  refine (ih.element .starNamed p hp (hb.down le_rfl (by decide))).bind fun first q hq _ => ?_
  refine Settled.of_ok_bind (run_atClause ts q) (Settled.ite (fun _ => ?_) fun _ => ?_)
  · refine settled_refuseUnpacking_bind fun _ => ?_
    refine (ih.clauses #[] q hq.2 (hb.down hq.1 (by decide))).bind fun cs r hr _ => ?_
    exact settled_expect_bind fun _ => settled_pure ((hq.trans hr).trans (within_next hr.2))
  · refine (ih.moreElements _ #[first] q hq.2 (hb.down hq.1 (by decide))).bind
      fun items r hr _ => ?_
    exact settled_expect_bind fun _ => settled_pure ((hq.trans hr).trans (within_next hr.2))

lemma braceForm_settles : EnoughPast ts (n + 1) 0 braceForm := by
  intro p hp hk hb
  rw [braceForm.eq_2, braceForm.eq_2]
  have h₁ := past_next hts hp hk
  refine Settled.of_ok_bind (run_advance ts p) ?_
  exact (ih.braceContents _ _ h₁.2 (hb.past hp h₁.1 (by decide))).withContext.mono
    fun _ _ h => h₁.trans_within h

lemma braceContents_settles : ∀ opening, Enough ts (n + 1) 26 (braceContents opening) := by
  intro opening p hp hb
  rw [braceContents.eq_2, braceContents.eq_2]
  refine Settled.of_ok_bind (run_check ts p _) (Settled.ite
    (fun _ => Settled.of_ok_bind (run_advance ts p) (settled_pure (within_next hp))) fun _ => ?_)
  refine Settled.of_ok_bind (run_check ts p _) (Settled.ite (fun _ => ?_) fun _ => ?_)
  · refine (ih.entry p hp (hb.down le_rfl (by decide))).bind fun first q hq _ => ?_
    exact (ih.dictEntries opening #[first] q hq.2 (hb.down hq.1 (by decide))).mono
      fun _ _ => hq.trans
  refine (ih.element .starNamed p hp (hb.down le_rfl (by decide))).bind fun first q hq _ => ?_
  refine settled_eat_bind (fun hk => ?_) fun _ => ?_
  · have h₁ := past_next hts hq.2 (by simp [hk])
    refine settled_refuseStarred_bind fun _ => ?_
    refine (ih.expression _ h₁.2 (hb.past hp (lt_of_le_of_lt hq.1 h₁.1) (by decide))).bind
      fun value r hr _ => ?_
    have h₂ := hq.trans (h₁.trans_within hr).within
    refine Settled.of_ok_bind (run_atClause ts r) (Settled.ite (fun _ => ?_)
      fun _ => (ih.dictEntries opening _ r hr.2 (hb.past hp (lt_of_le_of_lt hq.1
        (h₁.trans_within hr).1) (by decide))).mono fun _ _ => h₂.trans)
    refine (ih.clauses #[] r hr.2 (hb.past hp (lt_of_le_of_lt hq.1 (h₁.trans_within hr).1)
      (by decide))).bind fun cs s hs _ => ?_
    exact settled_expect_bind fun _ => settled_pure ((h₂.trans hs).trans (within_next hs.2))
  refine Settled.of_ok_bind (run_atClause ts q) (Settled.ite (fun _ => ?_) fun _ => ?_)
  · refine settled_refuseUnpacking_bind fun _ => ?_
    refine (ih.clauses #[] q hq.2 (hb.down hq.1 (by decide))).bind fun cs r hr _ => ?_
    exact settled_expect_bind fun _ => settled_pure ((hq.trans hr).trans (within_next hr.2))
  · refine (ih.moreElements _ #[first] q hq.2 (hb.down hq.1 (by decide))).bind
      fun items r hr _ => ?_
    exact settled_expect_bind fun _ => settled_pure ((hq.trans hr).trans (within_next hr.2))

lemma dictEntries_settles : ∀ opening acc, Enough ts (n + 1) 0 (dictEntries opening acc) := by
  intro opening acc p hp hb
  rw [dictEntries.eq_2, dictEntries.eq_2]
  refine settled_eat.bind fun c q ⟨hq₁, hq₂⟩ _ => ?_
  refine Settled.of_ok_bind (run_check ts q _) (Settled.ite (fun hc => ?_) fun _ => ?_)
  · simp only [Bool.and_eq_true] at hc
    obtain ⟨hcomma, rfl⟩ := hq₁ hc.1
    have h₁ := past_next hts hp (by simp [hcomma])
    refine (ih.entry _ h₁.2 (hb.past hp h₁.1 (by decide))).bind fun e r hr _ => ?_
    have h₂ := h₁.trans_within hr
    exact (ih.dictEntries opening _ r hr.2 (hb.past hp h₂.1 (by decide))).mono
      fun _ _ h => (h₂.trans_within h).within
  · have hq := within_of_eat hp ⟨hq₁, hq₂⟩
    exact settled_expect_bind fun _ => settled_storeList_bind fun _ => settled_pure (hq.trans (within_next hq.2))

lemma entry_settles : Enough ts (n + 1) 24 entry := by
  intro p hp hb
  rw [entry.eq_2, entry.eq_2]
  refine settled_eat_bind (fun hk => ?_) fun _ => ?_
  · have h₁ := past_next hts hp (by simp [hk])
    refine (ih.operatorChain .bitOr _ h₁.2 (hb.past hp h₁.1 (by decide))).bind
      fun value q hq _ => ?_
    exact settled_pure (h₁.trans_within hq).within
  · refine (ih.expression p hp (hb.down le_rfl (by decide))).bind fun key q hq _ => ?_
    refine settled_discard_expect_bind fun hc => ?_
    have h₁ := past_next hts hq.2 (by simp [hc])
    refine (ih.expression _ h₁.2 (hb.past hp (lt_of_le_of_lt hq.1 h₁.1) (by decide))).bind
      fun value r hr _ => ?_
    exact settled_pure (hq.trans (h₁.trans_within hr).within)

lemma moreElements_settles : ∀ close acc, Enough ts (n + 1) 0 (moreElements close acc) := by
  intro close acc p hp hb
  rw [moreElements.eq_2, moreElements.eq_2]
  refine settled_eat.bind fun c q ⟨hq₁, hq₂⟩ _ => ?_
  refine Settled.of_ok_bind (run_check ts q _) (Settled.ite (fun hc => ?_) fun _ => ?_)
  · simp only [Bool.and_eq_true] at hc
    obtain ⟨hcomma, rfl⟩ := hq₁ hc.1
    have h₁ := past_next hts hp (by simp [hcomma])
    refine (ih.element .starNamed _ h₁.2 (hb.past hp h₁.1 (by decide))).bind fun e r hr _ => ?_
    have h₂ := h₁.trans_within hr
    exact (ih.moreElements close _ r hr.2 (hb.past hp h₂.1 (by decide))).mono
      fun _ _ h => (h₂.trans_within h).within
  · exact settled_storeList_bind fun _ => settled_pure (within_of_eat hp ⟨hq₁, hq₂⟩)

omit hts in
lemma clauses_settles : ∀ acc, Enough ts (n + 1) 1 (clauses acc) := by
  intro acc p hp hb
  rw [clauses.eq_2, clauses.eq_2]
  refine Settled.of_ok_bind (run_atClause ts p)
    (Settled.ite (fun hk => ?_) fun _ => settled_storeList_bind fun _ => settled_pure (within_refl hp))
  refine (ih.clause p hp (ne_eof_of_atClause hk) (hb.down le_rfl (by decide))).withContext.bind
    fun c q hq _ => ?_
  exact (ih.clauses _ q hq.2 (hb.past hp hq.1 (by decide))).mono
    fun _ _ h => (hq.trans_within h).within

lemma clause_settles : EnoughPast ts (n + 1) 0 clause := by
  intro p hp _ hb
  rw [clause.eq_2, clause.eq_2]
  refine settled_eat.bind fun isAsync q ⟨hq₁, hq₂⟩ _ => ?_
  have hq := within_of_eat hp ⟨hq₁, hq₂⟩
  refine settled_discard_expect_bind fun hfor => ?_
  have h₁ := past_next hts hq.2 (by simp [hfor])
  have h₂ : ts.Past p (ts.next q) := ⟨lt_of_le_of_lt hq.1 h₁.1, h₁.2⟩
  refine (ih.forTarget _ h₂.2 (hb.past hp h₂.1 (by decide))).bind fun target r hr _ => ?_
  have h₃ := h₂.trans_within hr
  split
  · exact settled_throw (targetError?_fueled _ _ ‹_›)
  refine settled_discard_expect_bind fun hin => ?_
  have h₄ := h₃.trans_within (within_next hr.2)
  refine (ih.disjunction _ h₄.2 (hb.past hp h₄.1 (by decide))).bind fun iter s hs _ => ?_
  have h₅ := h₄.trans_within hs
  refine (ih.conditions #[] s hs.2 (hb.past hp h₅.1 (by decide))).bind fun ifs t ht _ => ?_
  exact settled_storeList_bind fun _ => settled_pure (h₅.trans_within ht)

lemma conditions_settles : ∀ acc, Enough ts (n + 1) 0 (conditions acc) := by
  intro acc p hp hb
  rw [conditions.eq_2, conditions.eq_2]
  refine settled_eat_bind (fun hk => ?_) fun _ => settled_pure (within_refl hp)
  have h₁ := past_next hts hp (by simp [hk])
  refine (ih.disjunction _ h₁.2 (hb.past hp h₁.1 (by decide))).bind fun c q hq _ => ?_
  have h₂ := h₁.trans_within hq
  exact (ih.conditions _ q hq.2 (hb.past hp h₂.1 (by decide))).mono
    fun _ _ h => (h₂.trans_within h).within

omit hts in
lemma forTarget_settles : Enough ts (n + 1) 20 forTarget := by
  intro p hp hb
  rw [forTarget.eq_2, forTarget.eq_2]
  refine (ih.forTargetItem p hp (hb.down le_rfl (by decide))).bind fun first q hq _ => ?_
  refine Settled.of_ok_bind (run_check ts q _) (Settled.ite (fun _ => settled_pure hq) fun _ => ?_)
  refine (ih.forTargetRest #[first] q hq.2 (hb.down hq.1 (by decide))).bind
    fun items r hr _ => ?_
  exact Settled.of_ok_bind (run_previousSpan ts r) (settled_storeList_bind fun _ => settled_pure (hq.trans hr))

lemma forTargetRest_settles : ∀ acc, Enough ts (n + 1) 0 (forTargetRest acc) := by
  intro acc p hp hb
  rw [forTargetRest.eq_2, forTargetRest.eq_2]
  refine settled_eat.bind fun c q ⟨hq₁, hq₂⟩ _ => ?_
  refine Settled.of_ok_bind (run_check ts q _) (Settled.ite (fun hc => ?_) fun _ => ?_)
  · simp only [Bool.and_eq_true] at hc
    obtain ⟨hcomma, rfl⟩ := hq₁ hc.1
    have h₁ := past_next hts hp (by simp [hcomma])
    refine (ih.forTargetItem _ h₁.2 (hb.past hp h₁.1 (by decide))).bind fun e r hr _ => ?_
    have h₂ := h₁.trans_within hr
    exact (ih.forTargetRest _ r hr.2 (hb.past hp h₂.1 (by decide))).mono
      fun _ _ h => (h₂.trans_within h).within
  · exact settled_pure (within_of_eat hp ⟨hq₁, hq₂⟩)

omit hts in
lemma forTargetItem_settles : Enough ts (n + 1) 19 forTargetItem := by
  intro p hp hb
  rw [forTargetItem.eq_2, forTargetItem.eq_2]
  refine Settled.of_ok_bind (run_check ts p _) (Settled.ite (fun hk => ?_) fun _ => ?_)
  · exact (ih.starred p hp (ne_eof_of_check hk (by decide)) (hb.down le_rfl (by decide))).mono
      fun _ _ h => h.within
  · exact ih.operatorChain .bitOr p hp (hb.down le_rfl (by decide))

end Grammar

end ExprFront
