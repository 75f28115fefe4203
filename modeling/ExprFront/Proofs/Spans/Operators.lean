import Mathlib
import ExprFront.Proofs.Spans.Contract

/-!
# Spans of the operator productions

The productions from `disjunction` down to `primary` and its trailers keep their contracts from
one fuel to the next. Each builds a node from the expressions its callees read and the tokens it
took: a binary or boolean node spans both operands (`Reads.pair`), a prefix operator spans its
token and operand (`Reads.prefixed`), a comparison spans its first operand and its last link
(`Reads.ending`), and an attribute access, a call or a subscript spans its value and the last
token taken (`Reads.spanning`).
-/

namespace ExprFront

namespace Grammar

open TokenStream ParseM

variable {ts : TokenStream} {n : Nat}

/-- Reading a comparison operator moves forward and stays inside the stream. -/
lemma okAt_comparisonOp {i : Nat} (hi : i < ts.tokens.size) :
    OkAt ts comparisonOp? i fun _ k => i ≤ k ∧ k < ts.tokens.size := by
  have h₁ : i ≤ ts.next i ∧ ts.next i < ts.tokens.size := ⟨le_next i, next_lt hi⟩
  have h₂ : i ≤ ts.next (ts.next i) ∧ ts.next (ts.next i) < ts.tokens.size :=
    ⟨(le_next i).trans (le_next _), next_lt (next_lt hi)⟩
  unfold comparisonOp?
  simp only [okAt_currentKind_bind]
  split
  · simpa only [okAt_discard_advance_bind, okAt_pure] using h₁
  · simp only [okAt_currentKind_bind, okAt_peekKind_bind]
    split
    · simpa only [okAt_discard_advance_bind, okAt_pure] using h₂
    · simpa only [okAt_discard_advance_bind, okAt_pure] using h₂
    · simpa only [okAt_discard_advance_bind, okAt_pure] using h₁
    · simpa only [okAt_pure] using ⟨le_rfl, hi⟩

section

variable (hts : ts.Ordered) (ih : Sound ts n)
include hts ih

omit hts in
lemma disjunction_step : Fresh ts (disjunction (n + 1)) := by
  intro i hi
  rw [disjunction.eq_2, okAt_bind]
  intro left k hleft
  exact ih.disjunctionRest _ _ _ (ih.conjunction i hi left k hleft)

lemma disjunctionRest_step : Continues ts (disjunctionRest · (n + 1)) := by
  intro i0 left i hl
  dsimp only
  rw [disjunctionRest.eq_2]
  simp only [okAt_eat_bind, ↓reduceIte, Bool.false_eq_true]
  split_ifs
  · rw [okAt_bind]
    intro right k hright
    have hr := ih.conjunction _ (next_lt hl.lt_size) right k hright
    exact ih.disjunctionRest _ _ _ (Reads.pair hts hl hr (le_next i) rfl rfl trivial)
  · simpa using hl

omit hts in
lemma conjunction_step : Fresh ts (conjunction (n + 1)) := by
  intro i hi
  rw [conjunction.eq_2, okAt_bind]
  intro left k hleft
  exact ih.conjunctionRest _ _ _ (ih.inversion i hi left k hleft)

lemma conjunctionRest_step : Continues ts (conjunctionRest · (n + 1)) := by
  intro i0 left i hl
  dsimp only
  rw [conjunctionRest.eq_2]
  simp only [okAt_eat_bind, ↓reduceIte, Bool.false_eq_true]
  split_ifs
  · rw [okAt_bind]
    intro right k hright
    have hr := ih.inversion _ (next_lt hl.lt_size) right k hright
    exact ih.conjunctionRest _ _ _ (Reads.pair hts hl hr (le_next i) rfl rfl trivial)
  · simpa using hl

lemma inversion_step : Fresh ts (inversion (n + 1)) := by
  intro i hi
  rw [inversion.eq_2]
  simp only [okAt_check_bind]
  split
  · simp only [okAt_advance_bind]
    rw [okAt_bind]
    intro operand j hoperand
    simp only [okAt_pure]
    exact Reads.prefixed hts (le_next i) (ih.inversion _ (next_lt hi) operand j hoperand) rfl rfl
      trivial
  · exact ih.comparison i hi

lemma comparison_step : Fresh ts (comparison (n + 1)) := by
  intro i hi
  rw [comparison.eq_2, okAt_bind]
  intro left k hleft
  have hl := ih.operatorChain .bitOr i hi left k hleft
  rw [okAt_bind]
  intro links j hlinks
  obtain ⟨hkj, hread⟩ := ih.comparisonLinks (ts.stopBefore k) #[] k
    (ReadsAll.nil hl.lt_size le_rfl) links j hlinks
  split
  · simpa using hl.widen hts le_rfl hkj hread.lt_size
  · rename_i op last hback
    refine OkAt.after_storeList ?_
    simp only [okAt_pure]
    obtain ⟨init, hinit⟩ : ∃ init, links.toList = init ++ [.mk op last] :=
      ⟨links.toList.dropLast, (List.dropLast_append_getLast? _
        (by rw [Array.getLast?_toList]; exact hback)).symm⟩
    have hkids := ReadsAll.cons hl hread
    rw [hinit, List.map_append, List.map_singleton, ← List.cons_append] at hkids
    refine Reads.ending (by have := hl.lt; omega) hkids
      hl.start_le ?_ (by simp [Expr.children, hinit, Link.right]) rfl trivial
    have := hts.stopBefore_mono hkj (by have := hread.lt_size; omega)
    have := hl.stop_le
    omega

lemma comparisonLinks_step : ∀ lo acc i, ts.ReadsAll lo (acc.toList.map Link.right) i →
    OkAt ts (comparisonLinks acc (n + 1)) i fun res j =>
      i ≤ j ∧ ts.ReadsAll lo (res.toList.map Link.right) j := by
  intro lo acc i hacc
  rw [comparisonLinks.eq_2, okAt_bind]
  intro op k hop
  obtain ⟨hik, hk⟩ := okAt_comparisonOp hacc.lt_size op k hop
  cases op with
  | none => simpa [hik] using hacc.later hts hik hk
  | some op =>
    simp only
    rw [okAt_bind]
    intro right j hright
    have hr := ih.operatorChain .bitOr k hk right j hright
    have hnext : ts.ReadsAll lo ((acc.push (.mk op right)).toList.map Link.right) j := by
      simpa [Link.right] using hacc.snoc hts hr hik
    exact (ih.comparisonLinks lo _ j hnext).from_le (hik.trans hr.lt.le)

omit hts in
lemma operatorChain_step (level : BinLevel) : Fresh ts (operatorChain level (n + 1)) := by
  intro i hi
  rw [operatorChain.eq_2, okAt_bind]
  intro left k hleft
  exact ih.chainRest level _ _ _ (ih.operand level i hi left k hleft)

lemma chainRest_step (level : BinLevel) : Continues ts (chainRest level · (n + 1)) := by
  intro i0 left i hl
  dsimp only
  rw [chainRest.eq_2]
  simp only [okAt_currentKind_bind]
  split
  · simp only [okAt_discard_advance_bind]
    rw [okAt_bind]
    intro right k hright
    have hr := ih.operand level _ (next_lt hl.lt_size) right k hright
    exact ih.chainRest level _ _ _ (Reads.pair hts hl hr (le_next i) rfl rfl trivial)
  · simpa using hl

omit hts in
lemma operand_step (level : BinLevel) : Fresh ts (operand level (n + 1)) := by
  intro i hi
  rw [operand.eq_2]
  split
  · exact ih.operatorChain _ i hi
  · exact ih.factor i hi

lemma factor_step : Fresh ts (factor (n + 1)) := by
  intro i hi
  rw [factor.eq_2]
  simp only [okAt_currentKind_bind]
  split
  · simp only [okAt_advance_bind]
    rw [okAt_bind]
    intro e j he
    simp only [okAt_pure]
    exact Reads.prefixed hts (le_next i) (ih.factor _ (next_lt hi) e j he) rfl rfl trivial
  · exact ih.power i hi

lemma power_step : Fresh ts (power (n + 1)) := by
  intro i hi
  rw [power.eq_2, okAt_bind]
  intro base k hbase
  have hb := ih.awaitPrimary i hi base k hbase
  simp only [okAt_eat_bind, ↓reduceIte, Bool.false_eq_true]
  split_ifs
  · rw [okAt_bind]
    intro ex j hex
    simp only [okAt_pure]
    exact Reads.pair hts hb (ih.factor _ (next_lt hb.lt_size) ex j hex) (le_next k) rfl rfl trivial
  · simpa using hb

lemma awaitPrimary_step : Fresh ts (awaitPrimary (n + 1)) := by
  intro i hi
  rw [awaitPrimary.eq_2]
  simp only [okAt_check_bind]
  split
  · simp only [okAt_advance_bind]
    rw [okAt_bind]
    intro v j hv
    simp only [okAt_pure]
    exact Reads.prefixed hts (le_next i) (ih.primary _ (next_lt hi) v j hv) rfl rfl trivial
  · exact ih.primary i hi

omit hts in
lemma primary_step : Fresh ts (primary (n + 1)) := by
  intro i hi
  rw [primary.eq_2, okAt_bind]
  intro v k hv
  exact ih.trailers _ _ _ (ih.atom i hi v k hv)

omit ih in
/-- An attribute access spans its value and the name after the dot. -/
lemma reads_attribute {i0 i : Nat} {value : Expr} (hv : ts.Reads i0 value i)
    (hname : (ts.tokenAt (ts.next i)).kind = .name) :
    ts.Reads i0 (.attribute value (ts.tokenAt (ts.next i)).span
      (value.span.merge (ts.tokenAt (ts.next i)).span)) (ts.next (ts.next i)) := by
  have hk := next_lt hv.lt_size
  refine Reads.trailing hts hv (ReadsAll.nil hk (hts.stopBefore_mono (le_next i) hk.le))
    (le_next i) (by simp [hname]) rfl rfl ⟨hts.wf_at hk, Span.inside_merge_right _ _⟩

lemma trailers_step : Continues ts (trailers · (n + 1)) := by
  intro i0 value i hv
  dsimp only
  rw [trailers.eq_2]
  simp only [okAt_currentKind_bind]
  split
  · simp only [okAt_discard_advance_bind, okAt_expect_bind]
    intro hname
    exact ih.trailers _ _ _ (reads_attribute hts hv hname)
  · rw [okAt_bind]
    intro e k he
    exact ih.trailers _ _ _ (ih.call _ _ _ hv e k he)
  · rw [okAt_bind]
    intro e k he
    exact ih.trailers _ _ _ (ih.subscript _ _ _ hv e k he)
  · simpa using hv

end

end Grammar

end ExprFront
