import Mathlib
import ExprFront.Proofs.Tiling.Contract

/-!
# Tiling through calls, subscripts and slices

A call or a subscript takes its brackets as a pair (`Took.close`): what it reads between them is
a bracketed stretch, so the whole is one. Its arguments, slices and clauses are tiled, and so is
the node it builds over them.
-/

namespace ExprFront

namespace Grammar

open TokenStream ParseM

variable {ts : TokenStream} {n : Nat} (hts : ts.Laid) (ih : Tiles ts n)
include hts ih

lemma call_tiles : Tiling.ContinuesAt ts (.punct .lparen) (call · (n + 1)) := by
  intro i0 func i hf hfunc hk
  dsimp only
  rw [call.eq_2]
  simp only [okAt_discard_advance_bind, okAt_withContext_bind]
  rw [okAt_bind]
  intro args k hargs
  have hsucc := hts.ordered.next_eq hf.2 (by simp [hk])
  rw [hsucc] at hargs
  obtain ⟨hk', hvalues⟩ := ih.arguments false false (i + 1) #[] (i + 1)
    (ItemsRead.nil (Took.refl (hsucc ▸ next_lt hf.2))) args k hargs
  simp only [okAt_withContext_bind, okAt_expect_bind]
  intro hclose
  refine OkAt.after_storeList ?_
  simp only [okAt_pure]
  refine ⟨hf.join (hk'.close hts.ordered (hk ▸ rfl) (hclose ▸ rfl)), .intro trivial ?_⟩
  simp only [List.mem_singleton, forall_eq] at hvalues
  simpa [Expr.children, hfunc] using hvalues

lemma arguments_tiles (sk sd : Bool) :
    Tiling.Extends ts (fun a : Arg => [a.value]) (arguments · sk sd (n + 1)) := by
  intro lo acc i hacc
  dsimp only
  have hi := hacc.took.2
  -- after an argument read from `i` to `k`, a comma goes on to the next one
  have hcont : ∀ (arg : Arg) (sk' sd' : Bool) k, ts.Took i k → arg.value.Tiled ts →
      OkAt ts (do
        if ← eat (.punct .comma) then arguments (acc.push arg) sk' sd' n
        else pure (acc.push arg)) k fun res j =>
          ts.ItemsRead (fun a : Arg => [a.value]) lo res.toList j := by
    intro arg sk' sd' k hik hv
    have hall := hacc.snoc (Took.refl hi) (by simpa [ItemsRead] using And.intro hik hv)
    simp only [okAt_eat_bind, ↓reduceIte, Bool.false_eq_true]
    split_ifs with hc
    · exact ih.arguments sk' sd' lo _ _
        (by simpa using hall.later ((Took.refl hik.2).next hc rfl rfl))
    · simpa using hall
  rw [arguments.eq_2]
  simp only [okAt_check_bind]
  split
  · simpa using hacc
  simp only [okAt_currentSpan_bind, okAt_currentKind_bind, okAt_peekKind_bind]
  split
  · have hstar := (Took.refl hi).next ‹(ts.tokenAt i).kind = _› rfl rfl
    simp only [okAt_discard_advance_bind]
    rw [okAt_bind]
    intro value k hvalue
    obtain ⟨hv, hvalue⟩ := ih.expression _ (next_lt hi) value k hvalue
    split
    · simp
    · simp only [okAt_pure_bind]
      exact hcont _ _ _ k (hstar.join hv) hvalue
  · have hstar := (Took.refl hi).next ‹(ts.tokenAt i).kind = _› rfl rfl
    simp only [okAt_discard_advance_bind]
    rw [okAt_bind]
    intro value k hvalue
    obtain ⟨hv, hvalue⟩ := ih.expression _ (next_lt hi) value k hvalue
    simp only [okAt_pure_bind]
    exact hcont _ _ _ k (hstar.join hv) hvalue
  · rename_i hk hk'
    simp only [okAt_advance_bind, okAt_discard_advance_bind]
    rw [okAt_bind]
    intro value k hvalue
    obtain ⟨hv, hvalue⟩ := ih.expression _ (next_lt (next_lt hi)) value k hvalue
    simp only [okAt_pure_bind]
    have htook := (Took.refl hi).next₂ hts.ordered hk hk' (by simp) rfl rfl rfl rfl
    exact hcont _ _ _ k (htook.join hv) hvalue
  · rw [okAt_bind]
    intro value k hvalue
    obtain ⟨hv, hvalue⟩ := ih.namedExpression i hi value k hvalue
    simp only [okAt_atClause_bind]
    rw [okAt_ite_bind]
    refine OkAt.bind (R := fun v k' => ts.Took i k' ∧ v.Tiled ts) ?_ ?_
    · split
      · exact ih.loneGenerator _ _ _ _ hv hvalue
      · simpa using ⟨hv, hvalue⟩
    · rintro v k' ⟨hv', hvalue'⟩
      split
      · simp
      split
      · simp
      · simp only [okAt_pure_bind]
        exact hcont _ _ _ k' hv' hvalue'

omit hts in
lemma loneGenerator_tiles (isFirst : Bool) :
    Tiling.Continues ts (loneGenerator · isFirst (n + 1)) := by
  intro i0 elt i he helt
  dsimp only
  rw [loneGenerator.eq_2, okAt_bind]
  intro cs k hcs
  obtain ⟨hk, hclauses⟩ := ih.clauses i0 #[] i (ItemsRead.nil he) cs k hcs
  simp only [okAt_previousSpan_bind, okAt_check_bind]
  split
  · simp
  · simp only [okAt_pure]
    refine ⟨hk, .intro trivial ?_⟩
    simp only [Expr.children, List.mem_cons, List.mem_flatMap]
    rintro c (rfl | ⟨cl, hcl, hc⟩)
    · exact helt
    · exact hclauses cl hcl c hc

lemma subscript_tiles : Tiling.ContinuesAt ts (.punct .lbracket) (subscript · (n + 1)) := by
  intro i0 value i hv hvalue hk
  dsimp only
  rw [subscript.eq_2]
  simp only [okAt_discard_advance_bind, okAt_withContext_bind]
  rw [okAt_bind]
  intro index k hindex
  have hsucc := hts.ordered.next_eq hv.2 (by simp [hk])
  rw [hsucc] at hindex
  obtain ⟨hx, hindex⟩ := ih.slices _ (hsucc ▸ next_lt hv.2) index k hindex
  simp only [okAt_withContext_bind, okAt_expect_bind]
  intro hclose
  simp only [okAt_pure]
  exact ⟨hv.join (hx.close hts.ordered (hk ▸ rfl) (hclose ▸ rfl)),
    .intro trivial (by simp [Expr.children, hvalue, hindex])⟩

omit hts in
lemma slices_tiles : Tiling.Fresh ts (slices (n + 1)) := by
  intro i hi
  rw [slices.eq_2, okAt_bind]
  intro first k hfirst
  obtain ⟨hf, hfirst⟩ := ih.slice i hi first k hfirst
  simp only [okAt_check_bind]
  split
  · simpa using ⟨hf, hfirst⟩
  · rw [okAt_bind]
    intro items j hitems
    obtain ⟨hj, hall⟩ := ih.slicesRest i #[first] k (itemsRead_singleton.mpr ⟨hf, hfirst⟩)
      items j hitems
    simp only [okAt_previousSpan_bind, okAt_storeList_bind, okAt_pure]
    exact fun _ => ⟨hj, .intro trivial (by simpa [Expr.children] using hall)⟩

omit hts in
lemma slicesRest_tiles : Tiling.Extends ts (fun e : Expr => [e]) (slicesRest · (n + 1)) := by
  intro lo acc i hacc
  dsimp only
  rw [slicesRest.eq_2]
  simp only [okAt_eat_bind, ↓reduceIte, Bool.false_eq_true]
  have hi := hacc.took.2
  split_ifs with hc
  · have hcomma := (Took.refl hi).next hc rfl rfl
    simp only [okAt_check_bind, okAt_currentKind_bind]
    split
    · rw [okAt_bind]
      intro s k hs
      obtain ⟨hs, hslice⟩ := ih.slice _ (next_lt hi) s k hs
      exact ih.slicesRest lo _ k
        (by simpa using hacc.snoc hcomma (itemsRead_singleton.mpr ⟨hs, hslice⟩))
    · simpa using hacc.later hcomma
  · simpa using hacc

omit hts in
lemma slice_tiles : Tiling.Fresh ts (slice (n + 1)) := by
  intro i hi
  rw [slice.eq_2]
  simp only [okAt_currentSpan_bind, okAt_check_bind]
  split
  · rename_i hk
    exact ih.starred i hi (beq_iff_eq.mp hk)
  simp only [okAt_check_bind]
  split
  · rename_i hcolon
    simp only [okAt_pure_bind]
    exact ih.sliceTail _ none i i (beq_iff_eq.mp hcolon) (Took.refl hi) (by simp)
  · rw [okAt_bind]
    intro l k hl
    obtain ⟨hlow, hl⟩ := ih.namedExpression i hi l k hl
    simp only [okAt_pure_bind, okAt_check_bind]
    split
    · simpa using ⟨hlow, hl⟩
    · rename_i hcolon
      exact ih.sliceTail _ (some l) i k (by simpa using hcolon) hlow (by simpa using hl)

omit hts in
lemma sliceTail_tiles : ∀ start lower i0 i, (ts.tokenAt i).kind = .punct .colon → ts.Took i0 i →
    (∀ l ∈ lower, Expr.Tiled ts l) →
    OkAt ts (sliceTail start lower (n + 1)) i fun e j => ts.Took i0 j ∧ e.Tiled ts := by
  intro start lower i0 i hcolon hlow hlower
  have hfirst := hlow.next hcolon rfl rfl
  rw [sliceTail.eq_2]
  simp only [okAt_discard_advance_bind]
  rw [okAt_bind]
  intro upper k hupper
  obtain ⟨hk, hup⟩ := ih.bound _ (next_lt hlow.2) upper k hupper
  simp only [okAt_eat_bind, ↓reduceIte, Bool.false_eq_true]
  -- the node's children are its three bounds, each tiled
  have hslice : ∀ (step : Option Expr) sp, (∀ s ∈ step, s.Tiled ts) →
      (Expr.slice lower upper step sp).Tiled ts := by
    intro step sp hstep
    refine .intro trivial ?_
    simp only [Expr.children, List.mem_append, Option.mem_toList]
    rintro c ((hc | hc) | hc)
    · exact hlower c hc
    · exact hup c (by simpa using hc) c (List.mem_singleton_self c)
    · exact hstep c hc
  split_ifs with hc
  · rw [okAt_bind]
    intro step j hstep
    obtain ⟨hj, hst⟩ := ih.bound _ (next_lt hk.2) step j hstep
    simp only [okAt_previousSpan_bind, okAt_pure]
    exact ⟨(hfirst.join hk).join ((Took.refl hk.2).next hc rfl rfl |>.join hj),
      hslice step _ (by simpa using hst)⟩
  · simp only [okAt_pure_bind, okAt_previousSpan_bind, okAt_pure]
    exact ⟨hfirst.join hk, hslice none _ (by simp)⟩

omit hts in
lemma bound_tiles : ∀ i, i < ts.tokens.size →
    OkAt ts (bound (n + 1)) i fun res j => ts.ItemsRead (fun e : Expr => [e]) i res.toList j := by
  intro i hi
  rw [bound.eq_2]
  simp only [okAt_currentKind_bind]
  split
  · rw [okAt_bind]
    intro e j he
    obtain ⟨hr, he⟩ := ih.expression i hi e j he
    simpa [ItemsRead] using And.intro hr he
  · simpa using ItemsRead.nil (Took.refl hi)

end Grammar

end ExprFront
