import Mathlib
import ExprFront.Proofs.Tiling.Contract

/-!
# Tiling through expression lists, conditionals, yields and lambdas

These productions take keywords and separators that neither open nor close, and build tuples,
conditionals, yields, named expressions and lambdas over the tiled expressions their callees
read. A production that takes its first token without looking (`starred`, `yieldExpr`,
`lambda`) is called only where that token is the one it expects.
-/

namespace ExprFront

namespace Grammar

open TokenStream ParseM

variable {ts : TokenStream} {n : Nat} (hts : ts.Laid) (ih : Tiles ts n)
include hts ih

omit hts in
lemma fieldExpression_tiles : Tiling.Fresh ts (fieldExpression (n + 1)) := by
  intro i hi
  rw [fieldExpression.eq_2]
  simp only [okAt_check_bind]
  split
  · rename_i hyield
    exact ih.yieldExpr i hi (beq_iff_eq.mp hyield)
  · exact ih.sequence .starNamed i hi

omit hts in
lemma sequence_tiles (item : ListItem) : Tiling.Fresh ts (sequence item (n + 1)) := by
  intro i hi
  rw [sequence.eq_2, okAt_bind]
  intro first k hfirst
  obtain ⟨hf, hfirst⟩ := ih.element item i hi first k hfirst
  simp only [okAt_check_bind]
  split
  · simp only [okAt_refuseStarred_bind, okAt_pure]
    exact fun _ => ⟨hf, hfirst⟩
  · rw [okAt_bind]
    intro items j hitems
    obtain ⟨hj, hall⟩ := ih.sequenceRest item i #[first] k
      (itemsRead_singleton.mpr ⟨hf, hfirst⟩) items j hitems
    simp only [okAt_previousSpan_bind, okAt_storeList_bind, okAt_pure]
    exact fun _ => ⟨hj, .intro trivial (by simpa [Expr.children] using hall)⟩

omit hts in
lemma sequenceRest_tiles (item : ListItem) :
    Tiling.Extends ts (fun e : Expr => [e]) (sequenceRest item · (n + 1)) := by
  intro lo acc i hacc
  dsimp only
  rw [sequenceRest.eq_2]
  simp only [okAt_eat_bind, ↓reduceIte, Bool.false_eq_true]
  have hi := hacc.took.2
  split_ifs with hc
  · have hcomma := (Took.refl hi).next hc rfl rfl
    simp only [okAt_currentKind_bind]
    split
    · rw [okAt_bind]
      intro e k he
      obtain ⟨he, htiled⟩ := ih.element item _ (next_lt hi) e k he
      exact ih.sequenceRest item lo _ k
        (by simpa using hacc.snoc hcomma (itemsRead_singleton.mpr ⟨he, htiled⟩))
    · simpa using hacc.later hcomma
  · simpa using hacc

omit hts in
lemma element_tiles (item : ListItem) : Tiling.Fresh ts (element item (n + 1)) := by
  intro i hi
  cases item with
  | star =>
    rw [element.eq_2]
    simp only [okAt_check_bind]
    split
    · rename_i hk
      exact ih.starred i hi (beq_iff_eq.mp hk)
    · exact ih.expression i hi
  | starNamed =>
    rw [element.eq_3]
    simp only [okAt_check_bind]
    split
    · rename_i hk
      exact ih.starred i hi (beq_iff_eq.mp hk)
    · exact ih.namedExpression i hi

omit hts in
lemma starred_tiles : Tiling.FreshAt ts (.punct .star) (starred (n + 1)) := by
  intro i hi hk
  rw [starred.eq_2]
  simp only [okAt_advance_bind]
  rw [okAt_bind]
  intro v j hv
  obtain ⟨hv, hvalue⟩ := ih.operatorChain .bitOr _ (next_lt hi) v j hv
  simp only [okAt_pure]
  exact ⟨((Took.refl hi).next hk rfl rfl).join hv, .intro trivial (by simp [Expr.children, hvalue])⟩

lemma namedExpression_tiles : Tiling.Fresh ts (namedExpression (n + 1)) := by
  intro i hi
  rw [namedExpression.eq_2]
  simp only [okAt_check_bind, okAt_peekKind_bind]
  split
  · rename_i hname
    simp only [Bool.and_eq_true, beq_iff_eq] at hname
    simp only [okAt_advance_bind, okAt_discard_advance_bind]
    rw [okAt_bind]
    intro value j hvalue
    obtain ⟨hv, hvalue⟩ := ih.expression _ (next_lt (next_lt hi)) value j hvalue
    simp only [okAt_pure]
    refine ⟨((Took.refl hi).next₂ hts.ordered hname.1 hname.2 (by simp) rfl rfl rfl rfl).join hv,
      .intro trivial ?_⟩
    simp only [Expr.children, List.mem_cons, List.not_mem_nil, or_false]
    rintro c (rfl | rfl)
    · exact .intro trivial (by simp [Expr.children])
    · exact hvalue
  · rw [okAt_bind]
    intro e j he
    obtain ⟨hr, he⟩ := ih.expression i hi e j he
    simp only [okAt_check_bind]
    split
    · simp
    · simpa using ⟨hr, he⟩

omit hts in
lemma expression_tiles : Tiling.Fresh ts (expression (n + 1)) := by
  intro i hi
  rw [expression.eq_2]
  simp only [okAt_check_bind]
  split
  · rename_i hk
    exact ih.lambda i hi (beq_iff_eq.mp hk)
  rw [okAt_bind]
  intro body k hbody
  obtain ⟨hb, hbody⟩ := ih.disjunction i hi body k hbody
  simp only [okAt_eat_bind, Bool.not_true, Bool.not_false, ↓reduceIte, Bool.false_eq_true]
  split_ifs with hif
  · rw [okAt_bind]
    intro test k' htest
    obtain ⟨ht, htest⟩ := ih.disjunction _ (next_lt hb.2) test k' htest
    simp only [okAt_check_bind]
    split
    · simp
    rename_i helse
    simp only [Bool.not_eq_true', Bool.not_eq_false, beq_iff_eq] at helse
    simp only [okAt_discard_advance_bind]
    rw [okAt_bind]
    intro orelse j horelse
    obtain ⟨ho, horelse⟩ := ih.expression _ (next_lt ht.2) orelse j horelse
    simp only [okAt_pure]
    refine ⟨((hb.next hif rfl rfl).join ht |>.next helse rfl rfl).join ho,
      .intro trivial ?_⟩
    simp [Expr.children, hbody, htest, horelse]
  · simpa using ⟨hb, hbody⟩

omit hts in
lemma yieldExpr_tiles : Tiling.FreshAt ts (.keyword .yield) (yieldExpr (n + 1)) := by
  intro i hi hk
  have hkw := (Took.refl hi).next hk rfl rfl
  rw [yieldExpr.eq_2]
  simp only [okAt_advance_bind, okAt_eat_bind, ↓reduceIte, Bool.false_eq_true]
  split_ifs with hfrom
  · rw [okAt_bind]
    intro v j hv
    obtain ⟨hv, hvalue⟩ := ih.expression _ (next_lt (next_lt hi)) v j hv
    simp only [okAt_pure]
    exact ⟨(hkw.next hfrom rfl rfl).join hv, .intro trivial (by simp [Expr.children, hvalue])⟩
  simp only [okAt_currentKind_bind]
  split
  · rw [okAt_bind]
    intro v j hv
    obtain ⟨hv, hvalue⟩ := ih.sequence .star _ (next_lt hi) v j hv
    simp only [okAt_pure]
    exact ⟨hkw.join hv, .intro trivial (by simp [Expr.children, hvalue])⟩
  · simp only [okAt_pure]
    exact ⟨hkw, .intro trivial (by simp [Expr.children])⟩

omit hts in
lemma lambda_tiles : Tiling.FreshAt ts (.keyword .lambda) (lambda (n + 1)) := by
  intro i hi hk
  have hkw := (Took.refl hi).next hk rfl rfl
  rw [lambda.eq_2]
  simp only [okAt_advance_bind]
  rw [okAt_bind]
  intro params k hparams
  obtain ⟨hpk, hdefaults⟩ := ih.lambdaParams (ts.next i) #[] (ts.next i)
    (ItemsRead.nil (Took.refl hkw.2)) params k hparams
  simp only [okAt_discard_withContext_bind, okAt_discard_expect_bind]
  intro hcolon
  rw [okAt_bind]
  intro body j hbody
  obtain ⟨hb, hbody⟩ := ih.expression _ (next_lt hpk.2) body j hbody
  refine OkAt.after_storeList ?_
  simp only [okAt_pure]
  refine ⟨(hkw.join hpk |>.next hcolon rfl rfl).join hb, .intro trivial ?_⟩
  simp only [Expr.children, List.mem_append, List.mem_filterMap, List.mem_singleton]
  rintro c (⟨p, hp, hd⟩ | rfl)
  · exact hdefaults p hp c (by simp [hd])
  · exact hbody

omit hts in
lemma lambdaParams_tiles :
    Tiling.Extends ts (fun p : Param => p.default.toList) (lambdaParams · (n + 1)) := by
  intro lo acc i hacc
  dsimp only
  have hi := hacc.took.2
  rw [lambdaParams.eq_2]
  simp only [okAt_check_bind]
  split
  · simpa using hacc
  simp only [okAt_withContext_bind]
  rw [okAt_bind]
  intro p k hp
  have hall := hacc.snoc (Took.refl hi) (ih.lambdaParam i hi p k hp)
  simp only [okAt_eat_bind, ↓reduceIte, Bool.false_eq_true]
  split_ifs with hc
  · exact ih.lambdaParams lo _ _
      (by simpa using hall.later ((Took.refl hall.took.2).next hc rfl rfl))
  · simpa using hall

omit hts in
lemma lambdaParam_tiles :
    Tiling.Item ts (fun p : Param => p.default.toList) (lambdaParam (n + 1)) := by
  intro i hi
  rw [lambdaParam.eq_2]
  simp only [okAt_current_bind]
  have h₀ := Took.refl hi
  -- a parameter with no default, over the tokens from `i` to `j`
  have hbare : ∀ kind name j, ts.Took i j → ts.ItemsRead (fun p : Param => p.default.toList) i
      [.mk kind name none] j := fun _ _ _ h => by simpa [ItemsRead, Param.default] using h
  split
  · rename_i hk
    simpa only [okAt_discard_advance_bind, okAt_pure] using hbare _ _ _ (h₀.next hk rfl rfl)
  · rename_i hk
    have h₁ := h₀.next hk rfl rfl
    simp only [okAt_discard_advance_bind, okAt_check_bind]
    split
    · rename_i hn
      simpa only [okAt_advance_bind, okAt_pure] using
        hbare _ _ _ (h₁.next (beq_iff_eq.mp hn) rfl rfl)
    · simpa only [okAt_pure] using hbare _ _ _ h₁
  · rename_i hk
    simp only [okAt_discard_advance_bind, okAt_expect_bind, okAt_pure]
    intro hn
    exact hbare _ _ _ ((h₀.next hk rfl rfl).next hn rfl rfl)
  · rename_i hk
    have h₁ := h₀.next hk rfl rfl
    simp only [okAt_discard_advance_bind, okAt_eat_bind, ↓reduceIte, Bool.false_eq_true]
    split_ifs with heq
    · rw [okAt_bind]
      intro d j hd
      obtain ⟨hdr, hd⟩ := ih.expression _ (next_lt (next_lt hi)) d j hd
      simp only [okAt_pure]
      simpa [ItemsRead, Param.default, hd] using (h₁.next heq rfl rfl).join hdr
    · simpa only [okAt_pure] using hbare _ _ _ h₁
  · simp

end Grammar

end ExprFront
