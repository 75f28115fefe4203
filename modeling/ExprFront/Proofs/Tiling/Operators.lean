import Mathlib
import ExprFront.Proofs.Tiling.Contract

/-!
# Tiling through the operator productions

The productions from `disjunction` down to `primary` and its trailers keep their tiling
contracts from one fuel to the next. None of them reads an f-string of its own: each takes its
operator tokens, which neither open nor close, and builds a node whose children are the tiled
expressions its callees read.
-/

namespace ExprFront

namespace Grammar

open TokenStream ParseM

variable {ts : TokenStream} {n : Nat}

/-- An operator token of a level neither opens nor closes. -/
lemma BinLevel.operator?_plain {level : BinLevel} {k : TokenKind} {op : BinaryOp}
    (h : level.operator? k = some op) : k.opens = false ∧ k.closes = false := by
  unfold BinLevel.operator? at h
  split at h <;> first | (cases h; exact ⟨rfl, rfl⟩) | cases h

lemma unaryOperator?_plain {k : TokenKind} {op : UnaryOp} (h : unaryOperator? k = some op) :
    k.opens = false ∧ k.closes = false := by
  unfold unaryOperator? at h
  split at h <;> first | (cases h; exact ⟨rfl, rfl⟩) | cases h

/-- A comparison operator is one or two tokens that neither open nor close. -/
lemma okAt_comparisonOp_took (hts : ts.Ordered) {i : Nat} (hi : i < ts.tokens.size) :
    OkAt ts comparisonOp? i fun _ k => ts.Took i k := by
  have h₀ := Took.refl hi
  unfold comparisonOp?
  simp only [okAt_currentKind_bind]
  split
  · rename_i heq
    simp only [okAt_discard_advance_bind, okAt_pure]
    split at heq <;> first | exact h₀.next ‹_› rfl rfl | cases heq
  · simp only [okAt_currentKind_bind, okAt_peekKind_bind]
    split
    · simpa only [okAt_discard_advance_bind, okAt_pure] using
        h₀.next₂ hts ‹_› ‹_› (by simp) rfl rfl rfl rfl
    · simpa only [okAt_discard_advance_bind, okAt_pure] using
        h₀.next₂ hts ‹_› ‹_› (by simp) rfl rfl rfl rfl
    · simpa only [okAt_discard_advance_bind, okAt_pure] using h₀.next ‹_› rfl rfl
    · simpa only [okAt_pure] using h₀

section

variable (hts : ts.Laid) (ih : Tiles ts n)
include hts ih

omit hts in
lemma disjunction_tiles : Tiling.Fresh ts (disjunction (n + 1)) := by
  intro i hi
  rw [disjunction.eq_2, okAt_bind]
  intro left k hleft
  obtain ⟨hl, hleft⟩ := ih.conjunction i hi left k hleft
  exact ih.disjunctionRest _ _ _ hl hleft

omit hts in
lemma disjunctionRest_tiles : Tiling.Continues ts (disjunctionRest · (n + 1)) := by
  intro i0 left i hl hleft
  dsimp only
  rw [disjunctionRest.eq_2]
  simp only [okAt_eat_bind, ↓reduceIte, Bool.false_eq_true]
  split_ifs with hk
  · rw [okAt_bind]
    intro right k hright
    obtain ⟨hr, hright⟩ := ih.conjunction _ (next_lt hl.2) right k hright
    exact ih.disjunctionRest _ _ _ ((hl.next hk rfl rfl).join hr)
      (.intro trivial (by simp [Expr.children, hleft, hright]))
  · simpa using ⟨hl, hleft⟩

omit hts in
lemma conjunction_tiles : Tiling.Fresh ts (conjunction (n + 1)) := by
  intro i hi
  rw [conjunction.eq_2, okAt_bind]
  intro left k hleft
  obtain ⟨hl, hleft⟩ := ih.inversion i hi left k hleft
  exact ih.conjunctionRest _ _ _ hl hleft

omit hts in
lemma conjunctionRest_tiles : Tiling.Continues ts (conjunctionRest · (n + 1)) := by
  intro i0 left i hl hleft
  dsimp only
  rw [conjunctionRest.eq_2]
  simp only [okAt_eat_bind, ↓reduceIte, Bool.false_eq_true]
  split_ifs with hk
  · rw [okAt_bind]
    intro right k hright
    obtain ⟨hr, hright⟩ := ih.inversion _ (next_lt hl.2) right k hright
    exact ih.conjunctionRest _ _ _ ((hl.next hk rfl rfl).join hr)
      (.intro trivial (by simp [Expr.children, hleft, hright]))
  · simpa using ⟨hl, hleft⟩

omit hts in
lemma inversion_tiles : Tiling.Fresh ts (inversion (n + 1)) := by
  intro i hi
  rw [inversion.eq_2]
  simp only [okAt_check_bind]
  split
  · rename_i hk
    simp only [okAt_advance_bind]
    rw [okAt_bind]
    intro operand j hoperand
    obtain ⟨ho, hoperand⟩ := ih.inversion _ (next_lt hi) operand j hoperand
    simp only [okAt_pure]
    exact ⟨((Took.refl hi).next (beq_iff_eq.mp hk) rfl rfl).join ho,
      .intro trivial (by simp [Expr.children, hoperand])⟩
  · exact ih.comparison i hi

omit hts in
lemma comparison_tiles : Tiling.Fresh ts (comparison (n + 1)) := by
  intro i hi
  rw [comparison.eq_2, okAt_bind]
  intro left k hleft
  obtain ⟨hl, hleft⟩ := ih.operatorChain .bitOr i hi left k hleft
  rw [okAt_bind]
  intro links j hlinks
  obtain ⟨hlj, hrights⟩ := ih.comparisonLinks i #[] k (ItemsRead.nil hl) links j hlinks
  split
  · simpa using ⟨hlj, hleft⟩
  · refine OkAt.after_storeList ?_
    simp only [okAt_pure]
    refine ⟨hlj, .intro trivial ?_⟩
    simp only [Expr.children, List.mem_cons, List.mem_map]
    rintro c (rfl | ⟨l, hl, rfl⟩)
    · exact hleft
    · exact hrights l hl _ (List.mem_singleton_self _)

lemma comparisonLinks_tiles : Tiling.Extends ts (fun l : Link => [l.right])
    (comparisonLinks · (n + 1)) := by
  intro lo acc i hacc
  dsimp only
  rw [comparisonLinks.eq_2, okAt_bind]
  intro op k hop
  have hik := okAt_comparisonOp_took hts.ordered hacc.took.2 op k hop
  cases op with
  | none => simpa using hacc.later hik
  | some op =>
    simp only
    rw [okAt_bind]
    intro right j hright
    obtain ⟨hr, hright⟩ := ih.operatorChain .bitOr k hik.2 right j hright
    have hnext :
        ts.ItemsRead (fun l : Link => [l.right]) lo (acc.push (.mk op right)).toList j := by
      simpa using hacc.snoc hik ⟨hr, by simpa [Link.right] using hright⟩
    exact ih.comparisonLinks lo _ j hnext

omit hts in
lemma operatorChain_tiles (level : BinLevel) : Tiling.Fresh ts (operatorChain level (n + 1)) := by
  intro i hi
  rw [operatorChain.eq_2, okAt_bind]
  intro left k hleft
  obtain ⟨hl, hleft⟩ := ih.operand level i hi left k hleft
  exact ih.chainRest level _ _ _ hl hleft

omit hts in
lemma chainRest_tiles (level : BinLevel) : Tiling.Continues ts (chainRest level · (n + 1)) := by
  intro i0 left i hl hleft
  dsimp only
  rw [chainRest.eq_2]
  simp only [okAt_currentKind_bind]
  split
  · rename_i op hop
    obtain ⟨ho, hc⟩ := BinLevel.operator?_plain hop
    simp only [okAt_discard_advance_bind]
    rw [okAt_bind]
    intro right k hright
    obtain ⟨hr, hright⟩ := ih.operand level _ (next_lt hl.2) right k hright
    exact ih.chainRest level _ _ _ ((hl.next rfl ho hc).join hr)
      (.intro trivial (by simp [Expr.children, hleft, hright]))
  · simpa using ⟨hl, hleft⟩

omit hts in
lemma operand_tiles (level : BinLevel) : Tiling.Fresh ts (operand level (n + 1)) := by
  intro i hi
  rw [operand.eq_2]
  split
  · exact ih.operatorChain _ i hi
  · exact ih.factor i hi

omit hts in
lemma factor_tiles : Tiling.Fresh ts (factor (n + 1)) := by
  intro i hi
  rw [factor.eq_2]
  simp only [okAt_currentKind_bind]
  split
  · rename_i op hop
    obtain ⟨ho, hc⟩ := unaryOperator?_plain hop
    simp only [okAt_advance_bind]
    rw [okAt_bind]
    intro e j he
    obtain ⟨he, htiled⟩ := ih.factor _ (next_lt hi) e j he
    simp only [okAt_pure]
    exact ⟨((Took.refl hi).next rfl ho hc).join he,
      .intro trivial (by simp [Expr.children, htiled])⟩
  · exact ih.power i hi

omit hts in
lemma power_tiles : Tiling.Fresh ts (power (n + 1)) := by
  intro i hi
  rw [power.eq_2, okAt_bind]
  intro base k hbase
  obtain ⟨hb, hbase⟩ := ih.awaitPrimary i hi base k hbase
  simp only [okAt_eat_bind, ↓reduceIte, Bool.false_eq_true]
  split_ifs with hk
  · rw [okAt_bind]
    intro ex j hex
    obtain ⟨he, hex⟩ := ih.factor _ (next_lt hb.2) ex j hex
    simp only [okAt_pure]
    exact ⟨(hb.next hk rfl rfl).join he, .intro trivial (by simp [Expr.children, hbase, hex])⟩
  · simpa using ⟨hb, hbase⟩

omit hts in
lemma awaitPrimary_tiles : Tiling.Fresh ts (awaitPrimary (n + 1)) := by
  intro i hi
  rw [awaitPrimary.eq_2]
  simp only [okAt_check_bind]
  split
  · rename_i hk
    simp only [okAt_advance_bind]
    rw [okAt_bind]
    intro v j hv
    obtain ⟨hv, hvalue⟩ := ih.primary _ (next_lt hi) v j hv
    simp only [okAt_pure]
    exact ⟨((Took.refl hi).next (beq_iff_eq.mp hk) rfl rfl).join hv,
      .intro trivial (by simp [Expr.children, hvalue])⟩
  · exact ih.primary i hi

omit hts in
lemma primary_tiles : Tiling.Fresh ts (primary (n + 1)) := by
  intro i hi
  rw [primary.eq_2, okAt_bind]
  intro v k hv
  obtain ⟨hv, hvalue⟩ := ih.atom i hi v k hv
  exact ih.trailers _ _ _ hv hvalue

omit hts in
lemma trailers_tiles : Tiling.Continues ts (trailers · (n + 1)) := by
  intro i0 value i hv hvalue
  dsimp only
  rw [trailers.eq_2]
  simp only [okAt_currentKind_bind]
  split
  · rename_i hk
    simp only [okAt_discard_advance_bind, okAt_expect_bind]
    intro hname
    exact ih.trailers _ _ _ ((hv.next hk rfl rfl).next hname rfl rfl)
      (.intro trivial (by simp [Expr.children, hvalue]))
  · rename_i hk
    rw [okAt_bind]
    intro e k he
    obtain ⟨he, htiled⟩ := ih.call _ _ _ hv hvalue hk e k he
    exact ih.trailers _ _ _ he htiled
  · rename_i hk
    rw [okAt_bind]
    intro e k he
    obtain ⟨he, htiled⟩ := ih.subscript _ _ _ hv hvalue hk e k he
    exact ih.trailers _ _ _ he htiled
  · simpa using ⟨hv, hvalue⟩

end

end Grammar

end ExprFront
