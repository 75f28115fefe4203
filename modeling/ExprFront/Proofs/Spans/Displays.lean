import Mathlib
import ExprFront.Proofs.Spans.Contract

/-!
# Spans of bracketed forms, displays and comprehensions

A bracketed form spans its opening and its closing bracket, with everything it read between
them (`Reads.bracketed`); a parenthesized expression with no comma keeps the span of the
expression inside. The expressions of a comprehension clause (its target, iterable and
conditions) follow one another, and so do the keys and values of a dict display.
-/

namespace ExprFront

namespace Grammar

open TokenStream ParseM

variable {ts : TokenStream} {n : Nat} (hts : ts.Ordered) (ih : Sound ts n)
include hts ih

omit hts in
lemma parenthesized_step : Fresh ts (parenthesized (n + 1)) := by
  intro i hi
  rw [parenthesized.eq_2]
  simp only [okAt_advance_bind, okAt_withContext]
  exact ih.parenContents i hi

lemma parenContents_step : Opens ts (parenContents · (n + 1)) := by
  intro i0 hi0
  dsimp only
  have hi := next_lt hi0
  rw [parenContents.eq_2]
  simp only [okAt_check_bind]
  split
  · rename_i hclose
    simp only [beq_iff_eq] at hclose
    simp only [okAt_advance_bind, okAt_pure]
    have hlt := hts.lt_next hi0 (by simp [hclose])
    exact Reads.bracketed hts (ReadsAll.nil hi (hts.startAt_le_stopBefore hlt hi.le)) le_rfl hlt
      (by simp [hclose]) rfl rfl trivial
  simp only [okAt_check_bind]
  split
  · rename_i hyield
    simp only [beq_iff_eq] at hyield
    rw [okAt_bind]
    intro value k hvalue
    have hv := ih.yieldExpr _ hi (by simp [hyield]) value k hvalue
    simp only [okAt_discard_expect_bind, okAt_pure]
    intro _
    exact hv.widen hts (le_next i0) (le_next k) (next_lt hv.lt_size)
  rw [okAt_bind]
  intro first k hfirst
  have hf := ih.element .starNamed _ hi first k hfirst
  have hstart := hf.startAt_le hts (le_next i0)
  have hlt : i0 < k := by
    have := hts.lt_next hi0 (Reads.ne_eof hts hf)
    have := hf.lt
    omega
  simp only [okAt_atClause_bind]
  split
  · simp only [okAt_refuseUnpacking_bind]
    intro _
    rw [okAt_bind]
    intro cs k' hcs
    obtain ⟨hkk', hread⟩ := ih.clauses (ts.stopBefore k) #[] k (ReadsAll.nil hf.lt_size le_rfl)
      cs k' hcs
    simp only [okAt_expect_bind, okAt_pure]
    intro hclose
    exact Reads.bracketed hts (ReadsAll.cons hf hread) hstart (by omega) (by simp [hclose]) rfl rfl
      trivial
  simp only [okAt_check_bind]
  split
  · simp only [okAt_discard_expect_bind, okAt_refuseStarred_bind, okAt_pure]
    intro _ _
    exact hf.widen hts (le_next i0) (le_next k) (next_lt hf.lt_size)
  · rw [okAt_bind]
    intro items k' hitems
    obtain ⟨hkk', hread⟩ := ih.moreElements _ first.span.start #[first] k
      (ReadsAll.singleton hf).from_head items k' hitems
    simp only [okAt_expect_bind, okAt_pure]
    intro hclose
    exact Reads.bracketed hts hread hstart (by omega) (by simp [hclose]) rfl rfl trivial

omit hts in
lemma listForm_step : Fresh ts (listForm (n + 1)) := by
  intro i hi
  rw [listForm.eq_2]
  simp only [okAt_advance_bind, okAt_withContext]
  exact ih.listContents i hi

lemma listContents_step : Opens ts (listContents · (n + 1)) := by
  intro i0 hi0
  dsimp only
  have hi := next_lt hi0
  rw [listContents.eq_2]
  simp only [okAt_check_bind]
  split
  · rename_i hclose
    simp only [beq_iff_eq] at hclose
    simp only [okAt_advance_bind, okAt_pure]
    have hlt := hts.lt_next hi0 (by simp [hclose])
    exact Reads.bracketed hts (ReadsAll.nil hi (hts.startAt_le_stopBefore hlt hi.le)) le_rfl hlt
      (by simp [hclose]) rfl rfl trivial
  rw [okAt_bind]
  intro first k hfirst
  have hf := ih.element .starNamed _ hi first k hfirst
  have hstart := hf.startAt_le hts (le_next i0)
  have hlt : i0 < k := by
    have := hts.lt_next hi0 (Reads.ne_eof hts hf)
    have := hf.lt
    omega
  simp only [okAt_atClause_bind]
  split
  · simp only [okAt_refuseUnpacking_bind]
    intro _
    rw [okAt_bind]
    intro cs k' hcs
    obtain ⟨hkk', hread⟩ := ih.clauses (ts.stopBefore k) #[] k (ReadsAll.nil hf.lt_size le_rfl)
      cs k' hcs
    simp only [okAt_expect_bind, okAt_pure]
    intro hclose
    exact Reads.bracketed hts (ReadsAll.cons hf hread) hstart (by omega) (by simp [hclose]) rfl rfl
      trivial
  · rw [okAt_bind]
    intro items k' hitems
    obtain ⟨hkk', hread⟩ := ih.moreElements _ first.span.start #[first] k
      (ReadsAll.singleton hf).from_head items k' hitems
    simp only [okAt_expect_bind, okAt_pure]
    intro hclose
    exact Reads.bracketed hts hread hstart (by omega) (by simp [hclose]) rfl rfl trivial

omit hts in
lemma braceForm_step : Fresh ts (braceForm (n + 1)) := by
  intro i hi
  rw [braceForm.eq_2]
  simp only [okAt_advance_bind, okAt_withContext]
  exact ih.braceContents i hi

lemma braceContents_step : Opens ts (braceContents · (n + 1)) := by
  intro i0 hi0
  dsimp only
  have hi := next_lt hi0
  rw [braceContents.eq_2]
  simp only [okAt_check_bind]
  split
  · rename_i hclose
    simp only [beq_iff_eq] at hclose
    simp only [okAt_advance_bind, okAt_pure]
    have hlt := hts.lt_next hi0 (by simp [hclose])
    exact Reads.bracketed hts (ReadsAll.nil hi (hts.startAt_le_stopBefore hlt hi.le)) le_rfl hlt
      (by simp [hclose]) rfl rfl (by simp [Expr.LocalSpans])
  simp only [okAt_check_bind]
  split
  · rename_i hstar
    simp only [beq_iff_eq] at hstar
    have hlt := hts.lt_next hi0 (by simp [hstar])
    rw [okAt_bind]
    intro first k hfirst
    obtain ⟨hk, hread⟩ := ih.entry _ hi first k hfirst
    exact ih.dictEntries i0 _ #[first] k (by omega) (hts.startAt_mono hlt.le hi)
      (by simpa using hread)
  rw [okAt_bind]
  intro first k hfirst
  have hf := ih.element .starNamed _ hi first k hfirst
  have hstart := hf.startAt_le hts (le_next i0)
  have hlt : i0 < k := by
    have := hts.lt_next hi0 (Reads.ne_eof hts hf)
    have := hf.lt
    omega
  simp only [okAt_eat_bind, ↓reduceIte, Bool.false_eq_true]
  split_ifs
  · simp only [okAt_refuseStarred_bind]
    intro _
    rw [okAt_bind]
    intro value k' hvalue
    have hv := ih.expression _ (next_lt hf.lt_size) value k' hvalue
    have hpair := (ReadsAll.singleton hf).from_head.snoc hts hv (le_next k)
    simp only [okAt_atClause_bind]
    split
    · rw [okAt_bind]
      intro cs k'' hcs
      obtain ⟨hkk', hread⟩ := ih.clauses (ts.stopBefore k') #[] k'
        (ReadsAll.nil hv.lt_size le_rfl) cs k'' hcs
      simp only [okAt_expect_bind, okAt_pure]
      intro hclose
      exact Reads.bracketed hts (hpair.append hread le_rfl) hstart
        (by have := (le_next k : k ≤ ts.next k); have := hv.lt; omega) (by simp [hclose]) rfl rfl trivial
    · exact ih.dictEntries i0 _ #[.pair first value] k'
        (by have := (le_next k : k ≤ ts.next k); have := hv.lt; omega) hstart hpair
  simp only [okAt_atClause_bind]
  split
  · simp only [okAt_refuseUnpacking_bind]
    intro _
    rw [okAt_bind]
    intro cs k' hcs
    obtain ⟨hkk', hread⟩ := ih.clauses (ts.stopBefore k) #[] k (ReadsAll.nil hf.lt_size le_rfl)
      cs k' hcs
    simp only [okAt_expect_bind, okAt_pure]
    intro hclose
    exact Reads.bracketed hts (ReadsAll.cons hf hread) hstart (by omega) (by simp [hclose]) rfl rfl
      trivial
  · rw [okAt_bind]
    intro items k' hitems
    obtain ⟨hkk', hread⟩ := ih.moreElements _ first.span.start #[first] k
      (ReadsAll.singleton hf).from_head items k' hitems
    simp only [okAt_expect_bind, okAt_pure]
    intro hclose
    exact Reads.bracketed hts hread hstart (by omega) (by simp [hclose]) rfl rfl trivial

lemma dictEntries_step : ∀ i0 lo acc i, i0 < i → ts.startAt i0 ≤ lo →
    ts.ReadsAll lo (acc.toList.flatMap DictEntry.exprs) i →
    OkAt ts (dictEntries (ts.tokenAt i0).span acc (n + 1)) i (ts.Reads i0) := by
  intro i0 lo acc i hi0 hlo hacc
  have hi := hacc.lt_size
  have hclose : ∀ k, i ≤ k → k < ts.tokens.size →
      OkAt ts (do
        let close ← expect (.punct .rbrace)
        storeList acc.size
        pure (Expr.dict acc.toList ((ts.tokenAt i0).span.merge close.span))) k (ts.Reads i0) := by
    intro k hik hk
    simp only [okAt_expect_bind, okAt_storeList_bind, okAt_pure]
    intro hbrace _
    exact Reads.bracketed hts (hacc.later hts hik hk) hlo (by omega) (by simp [hbrace]) rfl rfl
      (by simp [Expr.LocalSpans])
  rw [dictEntries.eq_2]
  simp only [okAt_eat_bind, okAt_check_bind, Bool.true_and, Bool.false_and, ↓reduceIte,
    Bool.false_eq_true]
  split_ifs
  · rw [okAt_bind]
    intro e k he
    obtain ⟨hk, her⟩ := ih.entry _ (next_lt hi) e k he
    exact ih.dictEntries i0 lo _ k (by have := (le_next i : i ≤ ts.next i); omega) hlo
      (by simpa using hacc.append her (hts.stopBefore_le_startAt hi |>.trans
        (hts.startAt_mono (le_next i) (next_lt hi))))
  · exact hclose _ (le_next i) (next_lt hi)
  · exact hclose _ le_rfl hi

lemma entry_step : ∀ i, i < ts.tokens.size →
    OkAt ts (entry (n + 1)) i fun en j => i < j ∧ ts.ReadsAll (ts.startAt i) en.exprs j := by
  intro i hi
  rw [entry.eq_2]
  simp only [okAt_eat_bind, ↓reduceIte, Bool.false_eq_true]
  split_ifs
  · rw [okAt_bind]
    intro value j hvalue
    have hv := ih.operatorChain .bitOr _ (next_lt hi) value j hvalue
    simp only [okAt_pure]
    exact ⟨by have := (le_next i : i ≤ ts.next i); have := hv.lt; omega,
      (ReadsAll.singleton hv).weaken (hts.startAt_mono (le_next i) (next_lt hi))⟩
  · rw [okAt_bind]
    intro key k hkey
    have hk := ih.expression i hi key k hkey
    simp only [okAt_discard_expect_bind]
    intro _
    rw [okAt_bind]
    intro value j hvalue
    have hv := ih.expression _ (next_lt hk.lt_size) value j hvalue
    simp only [okAt_pure]
    exact ⟨by have := hk.lt; have := (le_next k : k ≤ ts.next k); have := hv.lt; omega,
      (ReadsAll.singleton hk).snoc hts hv (le_next k)⟩

lemma moreElements_step (close : TokenKind) : Extends ts (moreElements close · (n + 1)) := by
  intro lo acc i hacc
  dsimp only
  have hi := hacc.lt_size
  rw [moreElements.eq_2]
  simp only [okAt_eat_bind, okAt_check_bind, Bool.true_and, Bool.false_and, ↓reduceIte,
    Bool.false_eq_true]
  split_ifs
  · rw [okAt_bind]
    intro e k he
    exact (ih.moreElements close).push hts hacc (ih.element .starNamed _ (next_lt hi) e k he)
      (le_next i)
  · exact (okAt_keep hts hacc (le_next i) (next_lt hi)).after_storeList
  · exact (okAt_keep hts hacc le_rfl hi).after_storeList

lemma clauses_step : ∀ lo acc i, ts.ReadsAll lo (acc.toList.flatMap Clause.exprs) i →
    OkAt ts (clauses acc (n + 1)) i fun res j =>
      i ≤ j ∧ ts.ReadsAll lo (res.toList.flatMap Clause.exprs) j := by
  intro lo acc i hacc
  have hi := hacc.lt_size
  rw [clauses.eq_2]
  simp only [okAt_atClause_bind]
  split
  · simp only [okAt_withContext_bind]
    rw [okAt_bind]
    intro c k hc
    obtain ⟨hik, hcr⟩ := ih.clause i hi c k hc
    exact (ih.clauses lo _ k (by simpa using hacc.append hcr (hts.stopBefore_le_startAt hi))).from_le
      hik.le
  · exact OkAt.after_storeList (by simpa using hacc)

lemma clause_step : ∀ i, i < ts.tokens.size →
    OkAt ts (clause (n + 1)) i fun c j => i < j ∧ ts.ReadsAll (ts.startAt i) c.exprs j := by
  intro i hi
  rw [clause.eq_2]
  refine OkAt.bind (okAt_eat_within hi) ?_
  rintro isAsync i' ⟨hii', hi', -⟩
  simp only [okAt_discard_expect_bind]
  intro _
  rw [okAt_bind]
  intro target k htarget
  have ht := ih.forTarget _ (next_lt hi') target k htarget
  split
  · simp
  simp only [okAt_discard_expect_bind]
  intro _
  rw [okAt_bind]
  intro iter k' hiter
  have hit := ih.disjunction _ (next_lt ht.lt_size) iter k' hiter
  rw [okAt_bind]
  intro ifs j hifs
  obtain ⟨hk'j, hread⟩ := ih.conditions (ts.stopBefore k') #[] k'
    (ReadsAll.nil hit.lt_size le_rfl) ifs j hifs
  refine OkAt.after_storeList ?_
  simp only [okAt_pure]
  have hstart := ht.startAt_le hts (hii'.trans (le_next i'))
  have hij : i < j := by
    have := (le_next i' : i' ≤ ts.next i')
    have := (le_next k : k ≤ ts.next k)
    have := ht.lt
    have := hit.lt
    omega
  refine ⟨hij, ?_⟩
  have hiter := (ReadsAll.cons hit hread).weaken (hit.startAt_le hts (le_next k) |>.trans' <|
    hts.stopBefore_le_startAt ht.lt_size)
  exact (ReadsAll.cons ht hiter).weaken hstart

lemma conditions_step : Extends ts (conditions · (n + 1)) := by
  intro lo acc i hacc
  dsimp only
  have hi := hacc.lt_size
  rw [conditions.eq_2]
  simp only [okAt_eat_bind, ↓reduceIte, Bool.false_eq_true]
  split_ifs
  · rw [okAt_bind]
    intro c k hc
    exact ih.conditions.push hts hacc (ih.disjunction _ (next_lt hi) c k hc) (le_next i)
  · exact okAt_keep hts hacc le_rfl hi

lemma forTarget_step : Fresh ts (forTarget (n + 1)) := by
  intro i hi
  rw [forTarget.eq_2, okAt_bind]
  intro first k hfirst
  have hf := ih.forTargetItem i hi first k hfirst
  simp only [okAt_check_bind]
  split
  · simpa using hf
  · rw [okAt_bind]
    intro items j hitems
    obtain ⟨hkj, hread⟩ := ih.forTargetRest first.span.start #[first] k
      (ReadsAll.singleton hf).from_head items j hitems
    simp only [okAt_previousSpan_bind, okAt_storeList_bind, okAt_pure]
    exact fun _ => Reads.tuple hts hf hread hkj

lemma forTargetRest_step : Extends ts (forTargetRest · (n + 1)) := by
  intro lo acc i hacc
  dsimp only
  have hi := hacc.lt_size
  rw [forTargetRest.eq_2]
  simp only [okAt_eat_bind, okAt_check_bind, Bool.true_and, Bool.false_and, ↓reduceIte,
    Bool.false_eq_true]
  split_ifs
  · rw [okAt_bind]
    intro e k he
    exact ih.forTargetRest.push hts hacc (ih.forTargetItem _ (next_lt hi) e k he) (le_next i)
  · exact okAt_keep hts hacc (le_next i) (next_lt hi)
  · exact okAt_keep hts hacc le_rfl hi

omit hts in
lemma forTargetItem_step : Fresh ts (forTargetItem (n + 1)) := by
  intro i hi
  rw [forTargetItem.eq_2]
  simp only [okAt_check_bind]
  split
  · exact ih.starred i hi
  · exact ih.operatorChain .bitOr i hi

end Grammar

end ExprFront
