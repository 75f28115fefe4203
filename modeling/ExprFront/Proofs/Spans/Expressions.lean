import Mathlib
import ExprFront.Proofs.Spans.Contract

/-!
# Spans of expression lists, conditionals, yields and lambdas

A tuple spans its items up to the last token taken, a trailing comma included (`Reads.tuple`).
A conditional spans its body and its `else` branch, with the test between them, so its children,
in the order of the text, are the body, the test and the branch. A lambda spans its keyword and
its body, with the defaults of its parameters between them, and the names of the parameters lie
between the keyword and the colon.
-/

namespace ExprFront

namespace TokenStream

variable {ts : TokenStream} {lo i j : Nat} {ps : List Param}

namespace ParamsRead

lemma nil (hi : i < ts.tokens.size) (hlo : lo ≤ ts.stopBefore i) : ts.ParamsRead lo [] i :=
  ⟨by simp, ReadsAll.nil hi hlo⟩

/-- Parameters read before a position stay read up to a later one. -/
lemma later (hts : ts.Ordered) (h : ts.ParamsRead lo ps i) (hij : i ≤ j)
    (hj : j < ts.tokens.size) : ts.ParamsRead lo ps j := by
  have := hts.stopBefore_mono hij hj.le
  refine ⟨fun p hp => ?_, h.defaults.later hts hij hj⟩
  obtain ⟨hwf, hlo, hhi⟩ := h.names p hp
  exact ⟨hwf, hlo, hhi.trans this⟩

/-- Parameters read one after another, then more from a position no earlier. -/
lemma append (hts : ts.Ordered) {ps' : List Param} {i' : Nat} (h : ts.ParamsRead lo ps i)
    (h' : ts.ParamsRead (ts.startAt i') ps' j) (hii' : i ≤ i') (hi'j : i' < j) :
    ts.ParamsRead lo (ps ++ ps') j := by
  have hj := h'.defaults.lt_size
  have h₁ := hts.stopBefore_le_startAt h.defaults.lt_size
  have h₂ := hts.startAt_mono hii' (by omega)
  have h₃ := hts.stopBefore_mono (show i ≤ j by omega) hj.le
  have hlo := h.defaults.le
  refine ⟨fun p hp => ?_, by simpa using h.defaults.append h'.defaults (by omega)⟩
  rcases List.mem_append.mp hp with hp | hp
  · obtain ⟨hwf, hlo', hhi⟩ := h.names p hp
    exact ⟨hwf, hlo', hhi.trans h₃⟩
  · obtain ⟨hwf, hlo', hhi⟩ := h'.names p hp
    exact ⟨hwf, by dsimp only at hlo' ⊢; omega, hhi⟩

/-- One parameter with no default, named by a span between where the token at `i` starts and
where the token before `j` stops. -/
lemma single (hts : ts.Ordered) {kind : ParamKind} {name : Span} (hij : i < j)
    (hj : j < ts.tokens.size) (hname : name.WF ∧ name.Inside ⟨ts.startAt i, ts.stopBefore j⟩) :
    ts.ParamsRead (ts.startAt i) [.mk kind name none] j :=
  ⟨by simpa [Param.name] using hname,
    ReadsAll.nil hj (hts.startAt_le_stopBefore hij hj.le)⟩

end ParamsRead

end TokenStream

namespace Grammar

open TokenStream ParseM

variable {ts : TokenStream} {n : Nat} (hts : ts.Ordered) (ih : Sound ts n)
include hts ih

omit hts in
lemma fieldExpression_step : Fresh ts (fieldExpression (n + 1)) := by
  intro i hi
  rw [fieldExpression.eq_2]
  simp only [okAt_check_bind]
  split
  · rename_i hyield
    exact ih.yieldExpr i hi (by simp at hyield; simp [hyield])
  · exact ih.sequence .starNamed i hi

lemma sequence_step (item : ListItem) : Fresh ts (sequence item (n + 1)) := by
  intro i hi
  rw [sequence.eq_2, okAt_bind]
  intro first k hfirst
  have hf := ih.element item i hi first k hfirst
  simp only [okAt_check_bind]
  split
  · simp only [okAt_refuseStarred_bind, okAt_pure]
    exact fun _ => hf
  · rw [okAt_bind]
    intro items j hitems
    obtain ⟨hkj, hread⟩ := ih.sequenceRest item first.span.start #[first] k
      (ReadsAll.singleton hf).from_head items j hitems
    simp only [okAt_previousSpan_bind, okAt_storeList_bind, okAt_pure]
    exact fun _ => Reads.tuple hts hf hread hkj

lemma sequenceRest_step (item : ListItem) : Extends ts (sequenceRest item · (n + 1)) := by
  intro lo acc i hacc
  dsimp only
  rw [sequenceRest.eq_2]
  simp only [okAt_eat_bind, ↓reduceIte, Bool.false_eq_true]
  have hi := hacc.lt_size
  split_ifs
  · simp only [okAt_currentKind_bind]
    split
    · rw [okAt_bind]
      intro e k he
      exact (ih.sequenceRest item).push hts hacc (ih.element item _ (next_lt hi) e k he) (le_next i)
    · exact okAt_keep hts hacc (le_next i) (next_lt hi)
  · exact okAt_keep hts hacc le_rfl hi

omit hts in
lemma element_step (item : ListItem) : Fresh ts (element item (n + 1)) := by
  intro i hi
  cases item with
  | star =>
    rw [element.eq_2]
    simp only [okAt_check_bind]
    split
    · exact ih.starred i hi
    · exact ih.expression i hi
  | starNamed =>
    rw [element.eq_3]
    simp only [okAt_check_bind]
    split
    · exact ih.starred i hi
    · exact ih.namedExpression i hi

lemma starred_step : Fresh ts (starred (n + 1)) := by
  intro i hi
  rw [starred.eq_2]
  simp only [okAt_advance_bind]
  rw [okAt_bind]
  intro v j hv
  simp only [okAt_pure]
  exact Reads.prefixed hts (le_next i) (ih.operatorChain .bitOr _ (next_lt hi) v j hv) rfl rfl trivial

lemma namedExpression_step : Fresh ts (namedExpression (n + 1)) := by
  intro i hi
  rw [namedExpression.eq_2]
  simp only [okAt_check_bind, okAt_peekKind_bind]
  split
  · rename_i hname
    simp only [Bool.and_eq_true, beq_iff_eq] at hname
    simp only [okAt_advance_bind, okAt_discard_advance_bind]
    rw [okAt_bind]
    intro value j hvalue
    have hv := ih.expression _ (next_lt (next_lt hi)) value j hvalue
    simp only [okAt_pure]
    have hne : (ts.tokenAt i).kind ≠ .eof := by simp [hname.1]
    have htarget : ts.Reads i (.name (ts.tokenAt i).span) (i + 1) := Reads.leaf hts hi hne rfl rfl trivial
    exact Reads.pair hts htarget hv (by rw [← hts.next_eq hi hne]; exact le_next _) rfl rfl trivial
  · rw [okAt_bind]
    intro e j he
    have hr := ih.expression i hi e j he
    simp only [okAt_check_bind]
    split
    · simp
    · simpa using hr

lemma expression_step : Fresh ts (expression (n + 1)) := by
  intro i hi
  rw [expression.eq_2]
  simp only [okAt_check_bind]
  split
  · exact ih.lambda i hi
  rw [okAt_bind]
  intro body k hbody
  have hb := ih.disjunction i hi body k hbody
  simp only [okAt_eat_bind, Bool.not_true, Bool.not_false, ↓reduceIte, Bool.false_eq_true]
  split_ifs
  · rw [okAt_bind]
    intro test k' htest
    have ht := ih.disjunction _ (next_lt hb.lt_size) test k' htest
    simp only [okAt_check_bind]
    split
    · simp
    simp only [okAt_discard_advance_bind]
    rw [okAt_bind]
    intro orelse j horelse
    have ho := ih.expression _ (next_lt ht.lt_size) orelse j horelse
    simp only [okAt_pure]
    -- the children in the order of the text: the body, the test, the branch
    have hkids : ts.ReadsAll body.span.start ([body, test] ++ [orelse]) j :=
      ReadsAll.cons hb ((ht.toAll hts (le_next k)).snoc hts ho (le_next k'))
    have hkj : k ≤ j := by
      have := (le_next k : k ≤ ts.next k)
      have := ht.lt
      have := (le_next k' : k' ≤ ts.next k')
      have := ho.lt
      omega
    refine Reads.ending (by have := hb.lt; omega) hkids hb.start_le ?_
      rfl rfl trivial
    have := hts.stopBefore_mono hkj ho.lt_size.le
    have := hb.stop_le
    omega
  · simpa using hb

lemma yieldExpr_step : ∀ i, i < ts.tokens.size → (ts.tokenAt i).kind ≠ .eof →
    OkAt ts (yieldExpr (n + 1)) i (ts.Reads i) := by
  intro i hi hne
  rw [yieldExpr.eq_2]
  simp only [okAt_advance_bind, okAt_eat_bind, ↓reduceIte, Bool.false_eq_true]
  split_ifs
  · rw [okAt_bind]
    intro v j hv
    simp only [okAt_pure]
    exact Reads.prefixed hts ((le_next i).trans (le_next _))
      (ih.expression _ (next_lt (next_lt hi)) v j hv) rfl rfl trivial
  simp only [okAt_currentKind_bind]
  split
  · rw [okAt_bind]
    intro v j hv
    simp only [okAt_pure]
    exact Reads.prefixed hts (le_next i) (ih.sequence .star _ (next_lt hi) v j hv) rfl rfl trivial
  · simp only [okAt_pure]
    rw [hts.next_eq hi hne]
    exact Reads.leaf hts hi hne rfl rfl trivial

lemma lambda_step : Fresh ts (lambda (n + 1)) := by
  intro i hi
  rw [lambda.eq_2]
  simp only [okAt_advance_bind]
  rw [okAt_bind]
  intro params k hparams
  have hnext := next_lt hi
  obtain ⟨hik, hread⟩ := ih.lambdaParams (ts.stopBefore (ts.next i)) #[] (ts.next i)
    (ParamsRead.nil hnext le_rfl) params k hparams
  simp only [okAt_discard_withContext_bind, okAt_discard_expect_bind]
  intro hcolon
  rw [okAt_bind]
  intro body j hbody
  have hk := hread.defaults.lt_size
  have hb := ih.expression _ (next_lt hk) body j hbody
  refine OkAt.after_storeList ?_
  simp only [okAt_pure]
  have hne : (ts.tokenAt i).kind ≠ .eof := by
    intro heof
    rw [tokenAt_eq hi] at heof
    have := (hts.eof_iff i hi).mp heof
    have : k = i := by have := (le_next i : i ≤ ts.next i); omega
    subst this
    rw [tokenAt_eq hi, heof] at hcolon
    exact absurd hcolon (by simp)
  have hsucc := hts.next_eq hi hne
  have hkj : k < j := by have := (le_next k : k ≤ ts.next k); have := hb.lt; omega
  have hkids : ts.ReadsAll (ts.tokenAt i).span.start _ j :=
    (hread.defaults.snoc hts hb (le_next k)).weaken
      (by rw [hsucc, stopBefore_succ hi]; exact hts.wf_at hi)
  refine Reads.ending (by omega) hkids le_rfl (hts.token_inside le_rfl (by omega) hb.lt_size.le).2
    rfl rfl ?_
  intro p hp
  refine (hread.names p hp).imp_right fun h => h.merge_of_le ?_ ?_
  · rw [hsucc, stopBefore_succ hi]
    exact hts.wf_at hi
  · have := hts.stopBefore_le_startAt hk
    have := hts.startAt_mono (le_next k) (next_lt hk)
    have := hb.start_le
    have := hb.span_wf
    unfold startAt at *
    omega

lemma lambdaParams_step : ∀ lo acc i, ts.ParamsRead lo acc.toList i →
    OkAt ts (lambdaParams acc (n + 1)) i fun res j => i ≤ j ∧ ts.ParamsRead lo res.toList j := by
  intro lo acc i hacc
  have hi := hacc.defaults.lt_size
  rw [lambdaParams.eq_2]
  simp only [okAt_check_bind]
  split
  · simpa using hacc
  simp only [okAt_withContext_bind]
  rw [okAt_bind]
  intro p k hp
  obtain ⟨hik, hpr⟩ := ih.lambdaParam i hi p k hp
  have hall := hacc.append hts hpr le_rfl hik
  simp only [okAt_eat_bind, ↓reduceIte, Bool.false_eq_true]
  split_ifs
  · have hk := next_lt hpr.defaults.lt_size
    exact (ih.lambdaParams lo _ _ (by simpa using hall.later hts (le_next k) hk)).from_le
      (hik.le.trans (le_next k))
  · simpa [hik.le] using hall

lemma lambdaParam_step : ∀ i, i < ts.tokens.size →
    OkAt ts (lambdaParam (n + 1)) i fun p j => i < j ∧ ts.ParamsRead (ts.startAt i) [p] j := by
  intro i hi
  rw [lambdaParam.eq_2]
  simp only [okAt_current_bind]
  have hpoint : ∀ kind, (ts.tokenAt i).kind ≠ .eof →
      i < ts.next i ∧ ts.ParamsRead (ts.startAt i) [.mk kind (Span.point (ts.tokenAt i).span.start) none]
        (ts.next i) := by
    intro kind hne
    have hsucc := hts.next_eq hi hne
    refine ⟨by omega, ParamsRead.single hts (by omega) (next_lt hi) ⟨le_rfl, le_rfl, ?_⟩⟩
    rw [hsucc, stopBefore_succ hi]
    exact hts.wf_at hi
  have hname : ∀ kind k, i < k → (ts.tokenAt k).kind = .name → k < ts.tokens.size →
      i < ts.next k ∧ ts.ParamsRead (ts.startAt i) [.mk kind (ts.tokenAt k).span none] (ts.next k) := by
    intro kind k hik hk hks
    have hsucc := hts.next_eq hks (by simp [hk])
    have hlt := hts.succ_lt hks (by simp [hk])
    refine ⟨by omega, ParamsRead.single hts (by omega) (next_lt hks) ⟨hts.wf_at hks, ?_⟩⟩
    rw [hsucc]
    obtain ⟨h₁, h₂⟩ := hts.token_inside hik.le (Nat.lt_succ_self k) hlt.le
    exact ⟨h₁, h₂⟩
  split
  · rename_i hk
    simpa only [okAt_discard_advance_bind, okAt_pure] using hpoint _ (by simp [hk])
  · rename_i hk
    have hsucc := hts.next_eq hi (by simp [hk])
    simp only [okAt_discard_advance_bind, okAt_check_bind]
    split
    · rename_i hn
      simp only [beq_iff_eq] at hn
      simpa only [okAt_advance_bind, okAt_pure] using
        hname _ _ (by omega) hn (next_lt hi)
    · simpa only [okAt_pure] using hpoint _ (by simp [hk])
  · rename_i hk
    have hsucc := hts.next_eq hi (by simp [hk])
    simp only [okAt_discard_advance_bind, okAt_expect_bind, okAt_pure]
    intro hn
    exact hname _ _ (by omega) hn (next_lt hi)
  · rename_i hk
    have hsucc := hts.next_eq hi (by simp [hk])
    simp only [okAt_discard_advance_bind, okAt_eat_bind, ↓reduceIte, Bool.false_eq_true]
    split_ifs
    · rw [okAt_bind]
      intro d j hd
      have hdr := ih.expression _ (next_lt (next_lt hi)) d j hd
      have hij : i < j := by
        have := (le_next (ts.next i) : ts.next i ≤ ts.next (ts.next i))
        have := hdr.lt
        omega
      simp only [okAt_pure]
      refine ⟨hij, ⟨?_, ?_⟩⟩
      · simpa [Param.name] using hts.token_fits hij hdr.lt_size.le
      · have hle : i ≤ ts.next (ts.next i) := (le_next i).trans (le_next (ts.next i))
        have := hts.startAt_mono hle (next_lt (next_lt hi))
        simpa [Param.default] using (ReadsAll.singleton hdr).weaken this
    · simp only [okAt_pure]
      have hlt := hts.succ_lt hi (by simp [hk])
      refine ⟨by omega, ParamsRead.single hts (by omega) (next_lt hi) ?_⟩
      rw [hsucc]
      exact hts.token_fits (Nat.lt_succ_self i) hlt.le
  · simp

end Grammar

end ExprFront
