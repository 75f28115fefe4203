import Mathlib
import ExprFront.Proofs.Spans.Contract

/-!
# Spans of calls, subscripts and slices

A call or a subscript spans its value and its closing bracket (`Reads.trailing`), and the names
of keyword arguments lie between the two. A generator given as the sole argument of a call, a
tuple of slices and a slice itself span from their first token or child to the last token they
took (`Reads.spanning`).
-/

namespace ExprFront

namespace TokenStream

variable {ts : TokenStream} {lo i j : Nat} {args : List Arg}

namespace ArgsRead

lemma nil (hi : i < ts.tokens.size) (hlo : lo ≤ ts.stopBefore i) : ts.ArgsRead lo [] i :=
  ⟨by simp, ReadsAll.nil hi hlo⟩

/-- Arguments read before a position stay read up to a later one. -/
lemma later (hts : ts.Ordered) (h : ts.ArgsRead lo args i) (hij : i ≤ j)
    (hj : j < ts.tokens.size) : ts.ArgsRead lo args j := by
  have := hts.stopBefore_mono hij hj.le
  refine ⟨fun a ha name hn => ?_, h.values.later hts hij hj⟩
  obtain ⟨hwf, hlo, hhi⟩ := h.names a ha name hn
  exact ⟨hwf, hlo, hhi.trans this⟩

/-- One more argument, whose value was read from a position no earlier and whose name lies
between where the token there starts and where the value's read stops. -/
lemma snoc (hts : ts.Ordered) {arg : Arg} {i' : Nat} (h : ts.ArgsRead lo args i)
    (hv : ts.Reads i' arg.value j) (hii' : i ≤ i')
    (hname : ∀ name ∈ arg.keyword?, name.WF ∧ name.Inside ⟨ts.startAt i', ts.stopBefore j⟩) :
    ts.ArgsRead lo (args ++ [arg]) j := by
  have hi := h.values.lt_size
  have h₁ := hts.stopBefore_le_startAt hi
  have h₂ := hts.startAt_mono hii' (by have := hv.lt; have := hv.lt_size; omega)
  have h₃ := hts.stopBefore_mono (show i ≤ j by have := hv.lt; omega) hv.lt_size.le
  have hlo := h.values.le
  refine ⟨fun a ha name hn => ?_, by simpa using h.values.snoc hts hv hii'⟩
  rcases List.mem_append.mp ha with ha | ha
  · obtain ⟨hwf, hlo', hhi⟩ := h.names a ha name hn
    exact ⟨hwf, hlo', hhi.trans h₃⟩
  · rw [List.mem_singleton.mp ha] at hn
    obtain ⟨hwf, hlo', hhi⟩ := hname name hn
    exact ⟨hwf, by dsimp only at hlo' ⊢; omega, hhi⟩

end ArgsRead

end TokenStream

namespace Grammar

open TokenStream ParseM

variable {ts : TokenStream} {n : Nat} (hts : ts.Ordered) (ih : Sound ts n)
include hts ih

lemma call_step : Continues ts (call · (n + 1)) := by
  intro i0 func i hf
  dsimp only
  rw [call.eq_2]
  simp only [okAt_discard_advance_bind, okAt_withContext_bind]
  rw [okAt_bind]
  intro args k hargs
  have hnext := next_lt hf.lt_size
  obtain ⟨hk, hread⟩ := ih.arguments (ts.stopBefore i) #[] false false (ts.next i)
    (ArgsRead.nil hnext (hts.stopBefore_mono (le_next i) hnext.le)) args k hargs
  simp only [okAt_withContext_bind, okAt_expect_bind]
  intro hclose
  refine OkAt.after_storeList ?_
  simp only [okAt_pure]
  have hinside := Reads.inside_trailing hts hf hread.values.lt_size
  exact Reads.trailing hts hf hread.values ((le_next i).trans hk) (by simp [hclose]) rfl rfl
    fun a ha name hn => (hread.names a ha name hn).imp_right fun h => h.trans hinside

lemma arguments_step : ∀ lo acc seenKeyword seenDoubleStar i, ts.ArgsRead lo acc.toList i →
    OkAt ts (arguments acc seenKeyword seenDoubleStar (n + 1)) i fun res j =>
      i ≤ j ∧ ts.ArgsRead lo res.toList j := by
  intro lo acc sk sd i hacc
  have hi := hacc.values.lt_size
  have hcont : ∀ (arg : Arg) (sk' sd' : Bool) k, ts.Reads i arg.value k →
      (∀ name ∈ arg.keyword?, name.WF ∧ name.Inside ⟨ts.startAt i, ts.stopBefore k⟩) →
      OkAt ts (do
        if ← eat (.punct .comma) then arguments (acc.push arg) sk' sd' n
        else pure (acc.push arg)) k fun res j => i ≤ j ∧ ts.ArgsRead lo res.toList j := by
    intro arg sk' sd' k hv hname
    have hall := hacc.snoc hts hv le_rfl hname
    have hik : i ≤ k := hv.lt.le
    simp only [okAt_eat_bind, ↓reduceIte, Bool.false_eq_true]
    split_ifs
    · have hk := next_lt hv.lt_size
      exact (ih.arguments lo _ _ _ _ (by simpa using hall.later hts (le_next k) hk)).from_le
        (hik.trans (le_next k))
    · simpa [hik] using hall
  rw [arguments.eq_2]
  simp only [okAt_check_bind]
  split
  · simpa using hacc
  simp only [okAt_currentSpan_bind, okAt_currentKind_bind, okAt_peekKind_bind]
  split
  · simp only [okAt_discard_advance_bind]
    rw [okAt_bind]
    intro value k hvalue
    have hv := ih.expression _ (next_lt hi) value k hvalue
    split
    · simp
    · simp only [okAt_pure_bind]
      exact hcont _ _ _ k (hv.widen hts (le_next i) le_rfl hv.lt_size) (by simp [Arg.keyword?])
  · simp only [okAt_discard_advance_bind]
    rw [okAt_bind]
    intro value k hvalue
    have hv := ih.expression _ (next_lt hi) value k hvalue
    simp only [okAt_pure_bind]
    exact hcont _ _ _ k (hv.widen hts (le_next i) le_rfl hv.lt_size) (by simp [Arg.keyword?])
  · simp only [okAt_advance_bind, okAt_discard_advance_bind]
    rw [okAt_bind]
    intro value k hvalue
    have hv := ih.expression _ (next_lt (next_lt hi)) value k hvalue
    have hik : i < k := by
      have := (le_next i : i ≤ ts.next i)
      have := (le_next (ts.next i) : ts.next i ≤ ts.next (ts.next i))
      have := hv.lt
      omega
    simp only [okAt_pure_bind]
    exact hcont _ _ _ k (hv.widen hts ((le_next i).trans (le_next _)) le_rfl hv.lt_size)
      (by simpa [Arg.keyword?] using hts.token_fits hik hv.lt_size.le)
  · rw [okAt_bind]
    intro value k hvalue
    have hv := ih.namedExpression i hi value k hvalue
    simp only [okAt_atClause_bind]
    rw [okAt_ite_bind]
    refine OkAt.bind (R := fun v k' => ts.Reads i v k') ?_ ?_
    · split
      · exact ih.loneGenerator _ _ _ _ hv
      · simpa using hv
    · intro v k' hv'
      split
      · simp
      split
      · simp
      · simp only [okAt_pure_bind]
        exact hcont _ _ _ k' hv' (by simp [Arg.keyword?])

lemma loneGenerator_step (isFirst : Bool) : Continues ts (loneGenerator · isFirst (n + 1)) := by
  intro i0 elt i he
  dsimp only
  rw [loneGenerator.eq_2, okAt_bind]
  intro cs k hcs
  obtain ⟨hik, hread⟩ := ih.clauses (ts.stopBefore i) #[] i (ReadsAll.nil he.lt_size le_rfl) cs k hcs
  simp only [okAt_previousSpan_bind, okAt_check_bind]
  split
  · simp
  · simp only [okAt_pure]
    refine Reads.spanning hts (by have := he.lt; omega) (ReadsAll.cons he hread) he.start_le ?_
      rfl trivial
    have := hts.stopBefore_mono hik hread.lt_size.le
    have := he.stop_le
    omega

lemma subscript_step : Continues ts (subscript · (n + 1)) := by
  intro i0 value i hv
  dsimp only
  rw [subscript.eq_2]
  simp only [okAt_discard_advance_bind, okAt_withContext_bind]
  rw [okAt_bind]
  intro index k hindex
  have hx := ih.slices _ (next_lt hv.lt_size) index k hindex
  simp only [okAt_withContext_bind, okAt_expect_bind]
  intro hclose
  simp only [okAt_pure]
  exact Reads.trailing hts hv (hx.toAll hts (le_next i)) ((le_next i).trans hx.lt.le)
    (by simp [hclose]) rfl rfl trivial

lemma slices_step : Fresh ts (slices (n + 1)) := by
  intro i hi
  rw [slices.eq_2, okAt_bind]
  intro first k hfirst
  have hf := ih.slice i hi first k hfirst
  simp only [okAt_check_bind]
  split
  · simpa using hf
  · rw [okAt_bind]
    intro items j hitems
    obtain ⟨hkj, hread⟩ := ih.slicesRest first.span.start #[first] k
      (ReadsAll.singleton hf).from_head items j hitems
    simp only [okAt_previousSpan_bind, okAt_storeList_bind, okAt_pure]
    exact fun _ => Reads.tuple hts hf hread hkj

lemma slicesRest_step : Extends ts (slicesRest · (n + 1)) := by
  intro lo acc i hacc
  dsimp only
  rw [slicesRest.eq_2]
  simp only [okAt_eat_bind, ↓reduceIte, Bool.false_eq_true]
  have hi := hacc.lt_size
  split_ifs
  · simp only [okAt_check_bind, okAt_currentKind_bind]
    split
    · rw [okAt_bind]
      intro s k hs
      exact ih.slicesRest.push hts hacc (ih.slice _ (next_lt hi) s k hs) (le_next i)
    · exact okAt_keep hts hacc (le_next i) (next_lt hi)
  · exact okAt_keep hts hacc le_rfl hi

omit hts in
lemma slice_step : Fresh ts (slice (n + 1)) := by
  intro i hi
  rw [slice.eq_2]
  simp only [okAt_currentSpan_bind, okAt_check_bind]
  split
  · exact ih.starred i hi
  simp only [okAt_check_bind]
  split
  · rename_i hcolon
    simp only [okAt_pure_bind]
    exact ih.sliceTail i none i (by simpa using hcolon) (.inl ⟨rfl, rfl⟩) hi
  · rw [okAt_bind]
    intro l k hl
    have hlow := ih.namedExpression i hi l k hl
    simp only [okAt_pure_bind, okAt_check_bind]
    split
    · simpa using hlow
    · rename_i hcolon
      exact ih.sliceTail i (some l) k (by simpa using hcolon) (.inr ⟨l, rfl, hlow⟩) hlow.lt_size

lemma sliceTail_step : ∀ i0 lower i, (ts.tokenAt i).kind = .punct .colon →
    (lower = none ∧ i = i0 ∨ ∃ l, lower = some l ∧ ts.Reads i0 l i) →
    i < ts.tokens.size → OkAt ts (sliceTail (ts.tokenAt i0).span lower (n + 1)) i (ts.Reads i0) := by
  intro i0 lower i hcolon hlower hi
  have hsucc := hts.next_eq hi (by simp [hcolon])
  have hi0 : i0 ≤ i := by
    rcases hlower with ⟨-, rfl⟩ | ⟨l, -, hl⟩
    · exact le_rfl
    · exact hl.lt.le
  have hlow : ts.ReadsAll (ts.startAt i0) lower.toList (ts.next i) := by
    rcases hlower with ⟨rfl, rfl⟩ | ⟨l, rfl, hl⟩
    · refine ReadsAll.nil (next_lt hi) ?_
      rw [hsucc]
      exact hts.startAt_le_stopBefore (Nat.lt_succ_self _) (by have := next_lt hi; omega)
    · simpa using (ReadsAll.singleton hl).later hts (le_next i) (next_lt hi)
  rw [sliceTail.eq_2]
  simp only [okAt_discard_advance_bind]
  rw [okAt_bind]
  intro upper k hupper
  obtain ⟨hik, hup⟩ := ih.bound _ (next_lt hi) upper k hupper
  have hlu := hlow.append hup le_rfl
  simp only [okAt_eat_bind, ↓reduceIte, Bool.false_eq_true]
  have hslice : ∀ step j, ts.ReadsAll (ts.startAt i0) (lower.toList ++ upper.toList ++ step.toList) j →
      k ≤ j → ts.Reads i0 (.slice lower upper step
        ((ts.tokenAt i0).span.merge (ts.spanBefore j))) j := by
    intro step j hall hkj
    refine Reads.spanning hts (by have := (le_next i : i ≤ ts.next i); omega) hall le_rfl ?_ rfl trivial
    exact (hts.token_inside le_rfl (by have := (le_next i : i ≤ ts.next i); omega) hall.lt_size.le).2
  split_ifs
  · rw [okAt_bind]
    intro step j hstep
    obtain ⟨hkj, hst⟩ := ih.bound _ (next_lt hup.lt_size) step j hstep
    simp only [okAt_previousSpan_bind, okAt_pure]
    exact hslice step j (hlu.append hst (hts.stopBefore_mono (le_next k) (next_lt hup.lt_size).le))
      ((le_next k).trans hkj)
  · simp only [okAt_pure_bind, okAt_previousSpan_bind, okAt_pure]
    exact hslice none k (by simpa using hlu) le_rfl

lemma bound_step : ∀ i, i < ts.tokens.size →
    OkAt ts (bound (n + 1)) i fun res j => i ≤ j ∧ ts.ReadsAll (ts.stopBefore i) res.toList j := by
  intro i hi
  rw [bound.eq_2]
  simp only [okAt_currentKind_bind]
  split
  · rw [okAt_bind]
    intro e j he
    have hr := ih.expression i hi e j he
    simpa using ⟨hr.lt.le, hr.toAll hts le_rfl⟩
  · simpa using ReadsAll.nil hi le_rfl

end Grammar

end ExprFront
