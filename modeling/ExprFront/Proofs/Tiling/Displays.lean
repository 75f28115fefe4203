import Mathlib
import ExprFront.Proofs.Tiling.Contract

/-!
# Tiling through bracketed forms, displays and comprehensions

A bracketed form takes its opening bracket, reads its contents, and takes the closing bracket
that pairs with it (`Took.close`). Its items, entries and clauses are tiled, and so is the node
over them.
-/

namespace ExprFront

namespace Grammar

open TokenStream ParseM

variable {ts : TokenStream} {n : Nat} (hts : ts.Laid) (ih : Tiles ts n)
include hts ih

omit hts in
/-- The clauses of a comprehension, read after its items `elts` from a stretch taken from `lo`:
the stretch goes on, and the items and the clauses' expressions are tiled. -/
lemma comprehension_tiles (elts : List Expr) {lo k : Nat} (hk : ts.Took lo k)
    (helts : ∀ e ∈ elts, e.Tiled ts) :
    OkAt ts (clauses #[] n) k fun cs k' => ts.Took lo k' ∧
      ∀ c ∈ elts ++ cs.toList.flatMap Clause.exprs, c.Tiled ts := by
  refine (ih.clauses lo #[] k (ItemsRead.nil hk)).mono ?_
  rintro cs k' ⟨hk', hclauses⟩
  refine ⟨hk', fun c hc => ?_⟩
  rcases List.mem_append.mp hc with hc | hc
  · exact helts c hc
  · obtain ⟨cl, hcl, hc⟩ := List.mem_flatMap.mp hc
    exact hclauses cl hcl c hc

lemma parenthesized_tiles : Tiling.FreshAt ts (.punct .lparen) (parenthesized (n + 1)) := by
  intro i hi hk
  rw [parenthesized.eq_2]
  simp only [okAt_advance_bind, okAt_withContext]
  rw [hts.ordered.next_eq hi (by simp [hk])]
  exact ih.parenContents _ i hi (hk ▸ rfl)

lemma parenContents_tiles : Tiling.Opens ts (parenContents · (n + 1)) := by
  intro opening i0 hi0 ho
  dsimp only
  have hi := succ_lt_of_opens hts.ordered hi0 ho
  -- the closing bracket at `k` after a stretch read from just after the opener
  have hclose : ∀ k, ts.Took (i0 + 1) k → (ts.tokenAt k).kind = .punct .rparen →
      ts.Took i0 (ts.next k) := fun k hk hc => hk.close hts.ordered ho (hc ▸ rfl)
  rw [parenContents.eq_2]
  simp only [okAt_check_bind]
  split
  · rename_i hc
    simp only [okAt_advance_bind, okAt_pure]
    exact ⟨hclose _ (Took.refl hi) (beq_iff_eq.mp hc), .intro trivial (by simp [Expr.children])⟩
  simp only [okAt_check_bind]
  split
  · rename_i hyield
    rw [okAt_bind]
    intro value k hvalue
    obtain ⟨hv, hvalue⟩ := ih.yieldExpr _ hi (beq_iff_eq.mp hyield) value k hvalue
    simp only [okAt_discard_expect_bind, okAt_pure]
    exact fun hc => ⟨hclose k hv hc, hvalue⟩
  rw [okAt_bind]
  intro first k hfirst
  obtain ⟨hf, hfirst⟩ := ih.element .starNamed _ hi first k hfirst
  simp only [okAt_atClause_bind]
  split
  · simp only [okAt_refuseUnpacking_bind]
    intro _
    refine (comprehension_tiles ih [first] hf (by simp [hfirst])).bind ?_
    rintro cs k' ⟨hk', hall⟩
    simp only [okAt_expect_bind, okAt_pure]
    exact fun hc => ⟨hclose k' hk' hc, .intro trivial (by simpa [Expr.children] using hall)⟩
  simp only [okAt_check_bind]
  split
  · simp only [okAt_discard_expect_bind, okAt_refuseStarred_bind, okAt_pure]
    exact fun hc _ => ⟨hclose k hf hc, hfirst⟩
  · rw [okAt_bind]
    intro items k' hitems
    obtain ⟨hk', hall⟩ := ih.moreElements _ (i0 + 1) #[first] k
      (itemsRead_singleton.mpr ⟨hf, hfirst⟩) items k' hitems
    simp only [okAt_expect_bind, okAt_pure]
    exact fun hc => ⟨hclose k' hk' hc, .intro trivial (by simpa [Expr.children] using hall)⟩

lemma listForm_tiles : Tiling.FreshAt ts (.punct .lbracket) (listForm (n + 1)) := by
  intro i hi hk
  rw [listForm.eq_2]
  simp only [okAt_advance_bind, okAt_withContext]
  rw [hts.ordered.next_eq hi (by simp [hk])]
  exact ih.listContents _ i hi (hk ▸ rfl)

lemma listContents_tiles : Tiling.Opens ts (listContents · (n + 1)) := by
  intro opening i0 hi0 ho
  dsimp only
  have hi := succ_lt_of_opens hts.ordered hi0 ho
  have hclose : ∀ k, ts.Took (i0 + 1) k → (ts.tokenAt k).kind = .punct .rbracket →
      ts.Took i0 (ts.next k) := fun k hk hc => hk.close hts.ordered ho (hc ▸ rfl)
  rw [listContents.eq_2]
  simp only [okAt_check_bind]
  split
  · rename_i hc
    simp only [okAt_advance_bind, okAt_pure]
    exact ⟨hclose _ (Took.refl hi) (beq_iff_eq.mp hc), .intro trivial (by simp [Expr.children])⟩
  rw [okAt_bind]
  intro first k hfirst
  obtain ⟨hf, hfirst⟩ := ih.element .starNamed _ hi first k hfirst
  simp only [okAt_atClause_bind]
  split
  · simp only [okAt_refuseUnpacking_bind]
    intro _
    refine (comprehension_tiles ih [first] hf (by simp [hfirst])).bind ?_
    rintro cs k' ⟨hk', hall⟩
    simp only [okAt_expect_bind, okAt_pure]
    exact fun hc => ⟨hclose k' hk' hc, .intro trivial (by simpa [Expr.children] using hall)⟩
  · rw [okAt_bind]
    intro items k' hitems
    obtain ⟨hk', hall⟩ := ih.moreElements _ (i0 + 1) #[first] k
      (itemsRead_singleton.mpr ⟨hf, hfirst⟩) items k' hitems
    simp only [okAt_expect_bind, okAt_pure]
    exact fun hc => ⟨hclose k' hk' hc, .intro trivial (by simpa [Expr.children] using hall)⟩

lemma braceForm_tiles : Tiling.FreshAt ts (.punct .lbrace) (braceForm (n + 1)) := by
  intro i hi hk
  rw [braceForm.eq_2]
  simp only [okAt_advance_bind, okAt_withContext]
  rw [hts.ordered.next_eq hi (by simp [hk])]
  exact ih.braceContents _ i hi (hk ▸ rfl)

lemma braceContents_tiles : Tiling.Opens ts (braceContents · (n + 1)) := by
  intro opening i0 hi0 ho
  dsimp only
  have hi := succ_lt_of_opens hts.ordered hi0 ho
  have hclose : ∀ k, ts.Took (i0 + 1) k → (ts.tokenAt k).kind = .punct .rbrace →
      ts.Took i0 (ts.next k) := fun k hk hc => hk.close hts.ordered ho (hc ▸ rfl)
  rw [braceContents.eq_2]
  simp only [okAt_check_bind]
  split
  · rename_i hc
    simp only [okAt_advance_bind, okAt_pure]
    exact ⟨hclose _ (Took.refl hi) (beq_iff_eq.mp hc), .intro trivial (by simp [Expr.children])⟩
  simp only [okAt_check_bind]
  split
  · rw [okAt_bind]
    intro first k hfirst
    exact ih.dictEntries _ i0 #[first] k ho (by simpa using ih.entry _ hi first k hfirst)
  rw [okAt_bind]
  intro first k hfirst
  obtain ⟨hf, hfirst⟩ := ih.element .starNamed _ hi first k hfirst
  simp only [okAt_eat_bind, ↓reduceIte, Bool.false_eq_true]
  split_ifs with hcolon
  · simp only [okAt_refuseStarred_bind]
    intro _
    rw [okAt_bind]
    intro value k' hvalue
    obtain ⟨hv, hvalue⟩ := ih.expression _ (next_lt hf.2) value k' hvalue
    have hpair := (hf.next hcolon rfl rfl).join hv
    simp only [okAt_atClause_bind]
    split
    · refine (comprehension_tiles ih [first, value] hpair (by simp [hfirst, hvalue])).bind ?_
      rintro cs k'' ⟨hk'', hall⟩
      simp only [okAt_expect_bind, okAt_pure]
      exact fun hc => ⟨hclose k'' hk'' hc, .intro trivial (by simpa [Expr.children] using hall)⟩
    · exact ih.dictEntries _ i0 #[.pair first value] k' ho
        (by simpa [ItemsRead, DictEntry.exprs] using ⟨hpair, hfirst, hvalue⟩)
  simp only [okAt_atClause_bind]
  split
  · simp only [okAt_refuseUnpacking_bind]
    intro _
    refine (comprehension_tiles ih [first] hf (by simp [hfirst])).bind ?_
    rintro cs k' ⟨hk', hall⟩
    simp only [okAt_expect_bind, okAt_pure]
    exact fun hc => ⟨hclose k' hk' hc, .intro trivial (by simpa [Expr.children] using hall)⟩
  · rw [okAt_bind]
    intro items k' hitems
    obtain ⟨hk', hall⟩ := ih.moreElements _ (i0 + 1) #[first] k
      (itemsRead_singleton.mpr ⟨hf, hfirst⟩) items k' hitems
    simp only [okAt_expect_bind, okAt_pure]
    exact fun hc => ⟨hclose k' hk' hc, .intro trivial (by simpa [Expr.children] using hall)⟩

lemma dictEntries_tiles : ∀ opening i0 acc i, (ts.tokenAt i0).kind.opens = true →
    ts.ItemsRead DictEntry.exprs (i0 + 1) acc.toList i →
    OkAt ts (dictEntries opening acc (n + 1)) i fun e j => ts.Took i0 j ∧ e.Tiled ts := by
  intro opening i0 acc i ho hacc
  have hi := hacc.took.2
  -- the closing brace after the entries, from a position no earlier
  have hclose : ∀ k, ts.Took i k →
      OkAt ts (do
        let close ← expect (.punct .rbrace)
        storeList acc.size
        pure (Expr.dict acc.toList (opening.merge close.span))) k
        fun e j => ts.Took i0 j ∧ e.Tiled ts := by
    intro k hik
    simp only [okAt_expect_bind, okAt_storeList_bind, okAt_pure]
    intro hbrace _
    refine ⟨(hacc.later hik).took.close hts.ordered ho (hbrace ▸ rfl), .intro trivial ?_⟩
    simp only [Expr.children, List.mem_flatMap]
    rintro c ⟨en, hen, hc⟩
    exact hacc.2 en hen c hc
  rw [dictEntries.eq_2]
  simp only [okAt_eat_bind, okAt_check_bind, Bool.true_and, Bool.false_and, ↓reduceIte,
    Bool.false_eq_true]
  split_ifs with hcomma
  · rw [okAt_bind]
    intro e k he
    exact ih.dictEntries opening i0 _ k ho
      (by simpa using
        hacc.snoc ((Took.refl hi).next hcomma rfl rfl) (ih.entry _ (next_lt hi) e k he))
  · exact hclose _ ((Took.refl hi).next hcomma rfl rfl)
  · exact hclose _ (Took.refl hi)

omit hts in
lemma entry_tiles : Tiling.Item ts DictEntry.exprs (entry (n + 1)) := by
  intro i hi
  rw [entry.eq_2]
  simp only [okAt_eat_bind, ↓reduceIte, Bool.false_eq_true]
  split_ifs with hk
  · rw [okAt_bind]
    intro value j hvalue
    obtain ⟨hv, hvalue⟩ := ih.operatorChain .bitOr _ (next_lt hi) value j hvalue
    simp only [okAt_pure]
    simpa [ItemsRead, DictEntry.exprs, hvalue] using ((Took.refl hi).next hk rfl rfl).join hv
  · rw [okAt_bind]
    intro key k hkey
    obtain ⟨hk, hkey⟩ := ih.expression i hi key k hkey
    simp only [okAt_discard_expect_bind]
    intro hcolon
    rw [okAt_bind]
    intro value j hvalue
    obtain ⟨hv, hvalue⟩ := ih.expression _ (next_lt hk.2) value j hvalue
    simp only [okAt_pure]
    simpa [ItemsRead, DictEntry.exprs, hkey, hvalue] using (hk.next hcolon rfl rfl).join hv

omit hts in
lemma moreElements_tiles (close : TokenKind) :
    Tiling.Extends ts (fun e : Expr => [e]) (moreElements close · (n + 1)) := by
  intro lo acc i hacc
  dsimp only
  have hi := hacc.took.2
  rw [moreElements.eq_2]
  simp only [okAt_eat_bind, okAt_check_bind, Bool.true_and, Bool.false_and, ↓reduceIte,
    Bool.false_eq_true]
  split_ifs with hcomma
  · rw [okAt_bind]
    intro e k he
    obtain ⟨he, htiled⟩ := ih.element .starNamed _ (next_lt hi) e k he
    have hall := hacc.snoc ((Took.refl hi).next hcomma rfl rfl)
      (itemsRead_singleton.mpr ⟨he, htiled⟩)
    exact ih.moreElements close lo _ k (by simpa using hall)
  · exact OkAt.after_storeList (by simpa using hacc.later ((Took.refl hi).next hcomma rfl rfl))
  · exact OkAt.after_storeList (by simpa using hacc)

omit hts in
lemma clauses_tiles : Tiling.Extends ts Clause.exprs (clauses · (n + 1)) := by
  intro lo acc i hacc
  dsimp only
  have hi := hacc.took.2
  rw [clauses.eq_2]
  simp only [okAt_atClause_bind]
  split
  · simp only [okAt_withContext_bind]
    rw [okAt_bind]
    intro c k hc
    exact ih.clauses lo _ k (by simpa using hacc.snoc (Took.refl hi) (ih.clause i hi c k hc))
  · exact OkAt.after_storeList (by simpa using hacc)

omit hts in
lemma clause_tiles : Tiling.Item ts Clause.exprs (clause (n + 1)) := by
  intro i hi
  rw [clause.eq_2]
  refine OkAt.bind (okAt_eat_took hi rfl rfl) ?_
  rintro isAsync i' ⟨hii', -⟩
  simp only [okAt_discard_expect_bind]
  intro hfor
  rw [okAt_bind]
  intro target k htarget
  obtain ⟨ht, htarget⟩ := ih.forTarget _ (next_lt hii'.2) target k htarget
  split
  · simp
  simp only [okAt_discard_expect_bind]
  intro hin
  rw [okAt_bind]
  intro iter k' hiter
  obtain ⟨hit, hiter⟩ := ih.disjunction _ (next_lt ht.2) iter k' hiter
  rw [okAt_bind]
  intro ifs j hifs
  obtain ⟨hj, hifs⟩ := ih.conditions k' #[] k' (ItemsRead.nil (Took.refl hit.2)) ifs j hifs
  refine OkAt.after_storeList ?_
  simp only [okAt_pure]
  refine ⟨(((hii'.next hfor rfl rfl).join ht |>.next hin rfl rfl).join hit).join hj, ?_⟩
  intro x hx
  rw [List.mem_singleton.mp hx]
  simp only [Clause.exprs, List.mem_cons]
  rintro c (rfl | rfl | hc)
  · exact htarget
  · exact hiter
  · simpa using hifs c hc

omit hts in
lemma conditions_tiles : Tiling.Extends ts (fun e : Expr => [e]) (conditions · (n + 1)) := by
  intro lo acc i hacc
  dsimp only
  have hi := hacc.took.2
  rw [conditions.eq_2]
  simp only [okAt_eat_bind, ↓reduceIte, Bool.false_eq_true]
  split_ifs with hif
  · rw [okAt_bind]
    intro c k hc
    obtain ⟨hc, htiled⟩ := ih.disjunction _ (next_lt hi) c k hc
    have hall := hacc.snoc ((Took.refl hi).next hif rfl rfl)
      (itemsRead_singleton.mpr ⟨hc, htiled⟩)
    exact ih.conditions lo _ k (by simpa using hall)
  · simpa using hacc

omit hts in
lemma forTarget_tiles : Tiling.Fresh ts (forTarget (n + 1)) := by
  intro i hi
  rw [forTarget.eq_2, okAt_bind]
  intro first k hfirst
  obtain ⟨hf, hfirst⟩ := ih.forTargetItem i hi first k hfirst
  simp only [okAt_check_bind]
  split
  · simpa using ⟨hf, hfirst⟩
  · rw [okAt_bind]
    intro items j hitems
    obtain ⟨hj, hall⟩ := ih.forTargetRest i #[first] k
      (itemsRead_singleton.mpr ⟨hf, hfirst⟩) items j hitems
    simp only [okAt_previousSpan_bind, okAt_storeList_bind, okAt_pure]
    exact fun _ => ⟨hj, .intro trivial (by simpa [Expr.children] using hall)⟩

omit hts in
lemma forTargetRest_tiles : Tiling.Extends ts (fun e : Expr => [e]) (forTargetRest · (n + 1)) := by
  intro lo acc i hacc
  dsimp only
  have hi := hacc.took.2
  rw [forTargetRest.eq_2]
  simp only [okAt_eat_bind, okAt_check_bind, Bool.true_and, Bool.false_and, ↓reduceIte,
    Bool.false_eq_true]
  split_ifs with hcomma
  · rw [okAt_bind]
    intro e k he
    obtain ⟨he, htiled⟩ := ih.forTargetItem _ (next_lt hi) e k he
    have hall := hacc.snoc ((Took.refl hi).next hcomma rfl rfl)
      (itemsRead_singleton.mpr ⟨he, htiled⟩)
    exact ih.forTargetRest lo _ k (by simpa using hall)
  · simpa using hacc.later ((Took.refl hi).next hcomma rfl rfl)
  · simpa using hacc

omit hts in
lemma forTargetItem_tiles : Tiling.Fresh ts (forTargetItem (n + 1)) := by
  intro i hi
  rw [forTargetItem.eq_2]
  simp only [okAt_check_bind]
  split
  · rename_i hk
    exact ih.starred i hi (beq_iff_eq.mp hk)
  · exact ih.operatorChain .bitOr i hi

end Grammar

end ExprFront
