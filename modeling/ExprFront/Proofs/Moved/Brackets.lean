import Mathlib
import ExprFront.Proofs.Moved.Grammar

/-!
# Every production runs alike on a moved stream: trailers, brackets and literals

The step lemmas for the productions below a primary: its trailers (attributes, calls and their
arguments, subscripts and slices), the atoms, runs of string literals and f-strings with their
fields, and the bracketed forms with their comprehensions. With those of `Moved.Grammar`, one
more unit of fuel keeps every production running alike on a stream and on the stream moved
(`Grammar.shifts_succ`), so by induction on the fuel every production does at every fuel
(`Grammar.shifts`).

Two of these productions read a span that a moved text moves only past the first token: a
generator that stands alone in a call reads the span of the last token it took, which lies past
the call's `(`; and a run of literals reads the span of the last literal it took, so it is
followed from a literal or from past the first token.
-/

namespace ExprFront

namespace Grammar

open ParseM

variable {k : Nat} {ts ts' : TokenStream} (hM : ts.Moved k ts') (hts : ts.Ordered) {n : Nat}
  (ih : Shifts k ts ts' n)
include hM ih

/-! ## Trailers, calls and subscripts -/

lemma trailers_shifts : ∀ value, Shifted k ts ts' (Expr.shift k)
    (trailers value (n + 1)) (trailers (value.shift k) (n + 1)) := by
  intro value p hp
  rw [trailers.eq_2, trailers.eq_2]
  refine moves_currentKind_bind hM ?_
  rcases TokenKind.shift_cases k (ts.tokenAt p).kind with hs | ⟨text, ht⟩
  · rw [hs]
    split
    · refine moves_discard_advance_bind hM (moves_expect_bind hM (by simp) fun _ => ?_)
      rw [hM.span]
      have h := ih.trailers (.attribute value (ts.tokenAt (ts.next p)).span
        (value.span.merge (ts.tokenAt (ts.next p)).span)) _
        (TokenStream.next_lt (TokenStream.next_lt hp))
      simpa using h
    · rename_i hk
      exact (ih.call value p hp (by simp [hk])).bind_map fun e q _ hq => ih.trailers e q hq
    · exact (ih.subscript value p hp).bind_map fun e q _ hq => ih.trailers e q hq
    · exact moves_pure hp rfl
  · rw [ht, TokenKind.shift_fstringEnd]
    exact moves_pure hp rfl

include hts in
lemma call_shifts :
    ∀ func, ShiftedPast k ts ts' (Expr.shift k) (call func (n + 1)) (call (func.shift k) (n + 1)) := by
  intro func p hp hne
  rw [call.eq_2, call.eq_2]
  have hpast := hts.past_next hne
  refine moves_discard_advance_bind hM ?_
  have hargs := ih.arguments #[] false false _ (Nat.lt_of_le_of_lt (Nat.zero_le p) hpast.1) hpast.2
  rw [Array.map_empty] at hargs
  refine hargs.withContext_bind_map fun _ q _ hq => ?_
  refine (moves_expect hM (by simp) hq).withContext.bind fun _ _ r hclose _ hr => ?_
  rw [hclose.span]
  exact moves_storeList_bind hM (by simp) fun _ => moves_pure hr (by simp)

include hts in
lemma arguments_shifts : ∀ acc seenKeyword seenDoubleStar,
    ShiftedAfter k ts ts' (Array.map (Arg.shift k)) (arguments acc seenKeyword seenDoubleStar (n + 1))
      (arguments (acc.map (Arg.shift k)) seenKeyword seenDoubleStar (n + 1)) := by
  intro acc sk sd p hpos hp
  have hst := steadies hts n
  rw [arguments.eq_2, arguments.eq_2]
  refine moves_check_bind hM (by simp) (Moves.ite (fun _ => moves_pure hp rfl) fun _ => ?_)
  refine moves_currentSpan_bind hM (moves_currentKind_bind hM (moves_peekKind_bind hM ?_))
  extract_lets jp jp₂ jp' jp₂'
  have hjp : ∀ arg sk' sd' q, 0 < q → q < ts.tokens.size →
      Moves k ts ts' (fun a a' => a' = a.map (Arg.shift k)) (jp (arg, sk', sd'))
        (jp' (arg.shift k, sk', sd')) q := by
    intro arg sk' sd' q hq₀ hq
    simp only [jp, jp']
    rw [← Array.map_push]
    refine moves_eat_bind hM (by simp) (fun hk => Moves.ite_pos rfl ?_)
      fun _ => Moves.ite_neg (by decide) (moves_pure hq rfl)
    have hpast := hts.past_next (show (ts.tokenAt q).kind ≠ .eof by simp [hk])
    exact ih.arguments _ _ _ _ (Nat.lt_of_le_of_lt (Nat.zero_le q) hpast.1) hpast.2
  have hjp₂ : ∀ value q, 0 < q → q < ts.tokens.size →
      Moves k ts ts' (fun a a' => a' = a.map (Arg.shift k)) (jp₂ value) (jp₂' (value.shift k)) q := by
    intro value q hq₀ hq
    simp only [jp₂, jp₂']
    rw [Expr.span_shift]
    exact Moves.ite (fun _ => moves_failAt_bind)
      fun _ => Moves.ite (fun _ => moves_failAt_bind) fun _ => hjp _ _ _ q hq₀ hq
  have hpositional : Moves k ts ts' (fun a a' => a' = a.map (Arg.shift k))
      (do
        let value ← namedExpression n
        let isClause ← atClause
        if isClause = true then do
          let value ← loneGenerator value acc.isEmpty n
          jp₂ value
        else do
          let value ← pure value
          jp₂ value)
      (do
        let value ← namedExpression n
        let isClause ← atClause
        if isClause = true then do
          let value ← loneGenerator value (acc.map (Arg.shift k)).isEmpty n
          jp₂' value
        else do
          let value ← pure value
          jp₂' value) p := by
    refine (ih.namedExpression p hp).bind_map fun value q hvalue hq => moves_atClause_bind hM ?_
    have hq₀ : 0 < q := Nat.lt_of_lt_of_le hpos ((hst.namedExpression p hp).1 _ _ hvalue).1
    refine Moves.ite (fun _ => ?_) fun _ => Moves.of_ok_bind rfl rfl (hjp₂ value q hq₀ hq)
    rw [show (acc.map (Arg.shift k)).isEmpty = acc.isEmpty by simp [Array.isEmpty]]
    refine (ih.loneGenerator value acc.isEmpty q hq₀ hq).bind_map fun _ r hgen hr => ?_
    exact hjp₂ _ r (Nat.lt_of_lt_of_le hq₀ ((hst.loneGenerator _ _ q hq).1 _ _ hgen).1) hr
  have hafter : ∀ {α : Type} {m : ParseM α} {a : α} {q : Nat}, Steady ts m →
      m ts (ts.next p) = .ok (a, q) → 0 < q := fun hm h =>
    Nat.lt_of_lt_of_le hpos ((TokenStream.le_next p).trans ((hm _ (TokenStream.next_lt hp)).1 _ _ h).1)
  by_cases hstar : (ts.tokenAt p).kind = .punct .star
  · rw [hstar, TokenKind.shift_punct]
    dsimp only
    refine moves_discard_advance_bind hM ?_
    refine (ih.expression _ (TokenStream.next_lt hp)).bind_map fun value q hvalue hq => ?_
    rw [Expr.span_shift, ← Span.shift_merge]
    exact Moves.ite (fun _ => moves_failAt_bind)
      fun _ => Moves.of_ok_bind rfl rfl (hjp _ _ _ q (hafter hst.expression hvalue) hq)
  by_cases hdouble : (ts.tokenAt p).kind = .punct .doubleStar
  · rw [hdouble, TokenKind.shift_punct]
    dsimp only
    refine moves_discard_advance_bind hM ?_
    refine (ih.expression _ (TokenStream.next_lt hp)).bind_map fun value q hvalue hq => ?_
    exact Moves.of_ok_bind rfl rfl (hjp _ _ _ q (hafter hst.expression hvalue) hq)
  by_cases hname : (ts.tokenAt p).kind = .name
  · rw [hname, TokenKind.shift_name]
    rcases TokenKind.shift_cases k (ts.tokenAt (p + 1)).kind with hs₁ | ⟨text₁, ht₁⟩
    · rw [hs₁]
      split
      · rename_i h
        cases h
      · rename_i h
        cases h
      · have hq := TokenStream.next_lt (TokenStream.next_lt hp)
        refine moves_advance_bind_moved hM (moves_discard_advance_bind hM ?_)
        refine (ih.expression _ hq).bind_map fun value r hvalue hr => ?_
        have hr₀ : 0 < r := Nat.lt_of_lt_of_le hpos ((TokenStream.le_next p).trans
          ((TokenStream.le_next _).trans ((hst.expression _ hq).1 _ _ hvalue).1))
        exact Moves.of_ok_bind rfl rfl (hjp (.keyword _ value) true sd r hr₀ hr)
      · exact hpositional
    · rw [ht₁, TokenKind.shift_fstringEnd]
      exact hpositional
  rcases TokenKind.shift_cases k (ts.tokenAt p).kind with hs | ⟨text, ht⟩
  · rw [hs]
    rcases TokenKind.shift_cases k (ts.tokenAt (p + 1)).kind with hs₁ | ⟨text₁, ht₁⟩
    · rw [hs₁]
      split
      · exact absurd ‹_› hstar
      · exact absurd ‹_› hdouble
      · exact absurd ‹_› hname
      · exact hpositional
    · rw [ht₁, TokenKind.shift_fstringEnd]
      split
      · exact absurd ‹_› hstar
      · exact absurd ‹_› hdouble
      · exact absurd ‹(ts.tokenAt p).kind = .name› hname
      · split
        · exact absurd ‹_› hstar
        · exact absurd ‹_› hdouble
        · exact absurd ‹(ts.tokenAt p).kind = .name› hname
        · exact hpositional
  · rw [ht, TokenKind.shift_fstringEnd]
    exact hpositional

include hts in
lemma loneGenerator_shifts : ∀ elt isFirst, ShiftedAfter k ts ts' (Expr.shift k)
    (loneGenerator elt isFirst (n + 1)) (loneGenerator (elt.shift k) isFirst (n + 1)) := by
  intro elt isFirst p hpos hp
  rw [loneGenerator.eq_2, loneGenerator.eq_2]
  have hclauses := ih.clauses #[] p hp
  rw [Array.map_empty] at hclauses
  refine hclauses.bind_map fun _ q hcl hq => ?_
  have hq₀ : 0 < q := Nat.lt_of_lt_of_le hpos (((steadies hts n).clauses _ p hp).1 _ _ hcl).1
  refine moves_previousSpan_bind hM hq₀ hq ?_
  dsimp only
  refine moves_check_bind hM (by simp) (Moves.ite (fun _ => ?_) fun _ => moves_pure hq (by simp))
  rw [Expr.span_shift, ← Span.shift_merge]
  exact moves_failAt

lemma subscript_shifts : ∀ value, Shifted k ts ts' (Expr.shift k)
    (subscript value (n + 1)) (subscript (value.shift k) (n + 1)) := by
  intro value p hp
  rw [subscript.eq_2, subscript.eq_2]
  refine moves_discard_advance_bind hM ?_
  refine (ih.slices _ (TokenStream.next_lt hp)).withContext_bind_map fun _ q _ hq => ?_
  refine (moves_expect hM (by simp) hq).withContext.bind fun _ _ r hclose _ hr => ?_
  rw [hclose.span]
  exact moves_pure hr (by simp)

include hts in
lemma slices_shifts : Shifted k ts ts' (Expr.shift k) (slices (n + 1)) (slices (n + 1)) := by
  intro p hp
  rw [slices.eq_2]
  refine (ih.slice p hp).bind_map fun first q _ hq => moves_check_bind hM (by simp) ?_
  refine Moves.ite (fun _ => moves_pure hq rfl) fun hc => ?_
  have hcomma : (ts.tokenAt q).kind = .punct .comma := by simpa using hc
  have hrest := ih.slicesRest #[first] q hq
  rw [Array.map_singleton] at hrest
  refine hrest.bind_map fun items r hitems hr => ?_
  have hpos : 0 < r := Nat.lt_of_le_of_lt (Nat.zero_le q) (slicesRest_past hts hcomma hitems)
  exact moves_previousSpan_bind hM hpos hr (moves_storeList_bind hM (by simp) fun _ => moves_pure hr (by simp))

lemma slicesRest_shifts : ∀ acc, Shifted k ts ts' (Array.map (Expr.shift k))
    (slicesRest acc (n + 1)) (slicesRest (acc.map (Expr.shift k)) (n + 1)) := by
  intro acc p hp
  rw [slicesRest.eq_2, slicesRest.eq_2]
  refine moves_eat_bind hM (by simp) (fun _ => Moves.ite_pos rfl ?_)
    (fun _ => Moves.ite_neg (by decide) (moves_pure hp rfl))
  have hq := TokenStream.next_lt hp
  refine moves_check_bind hM (by simp) (moves_currentKind_bind hM ?_)
  rw [TokenKind.canStartExpr_shift]
  refine Moves.ite (fun _ => ?_) fun _ => moves_pure hq rfl
  refine (ih.slice _ hq).bind_map fun s r _ hr => ?_
  rw [← Array.map_push]
  exact ih.slicesRest _ r hr

lemma slice_shifts : Shifted k ts ts' (Expr.shift k) (slice (n + 1)) (slice (n + 1)) := by
  intro p hp
  rw [slice.eq_2]
  refine moves_currentSpan_bind hM (moves_check_bind hM (by simp) ?_)
  refine Moves.ite (fun _ => ih.starred p hp) fun _ => moves_check_bind hM (by simp) ?_
  extract_lets jp jp'
  have htail : ∀ lower q, q < ts.tokens.size → (ts.tokenAt q).kind = .punct .colon →
      Moves k ts ts' (fun a a' => a' = a.shift k) (sliceTail (ts.tokenAt p).span lower n)
        (sliceTail ((ts.tokenAt p).span.shift k) (lower.map (Expr.shift k)) n) q :=
    fun lower q hq hcolon => ih.sliceTail _ lower q hq (by simp [hcolon])
  refine Moves.ite (fun hc => Moves.of_ok_bind rfl rfl ?_) fun _ => ?_
  · exact htail none p hp (by simpa using hc)
  · refine (ih.namedExpression p hp).bind_map fun e q _ hq => Moves.of_ok_bind rfl rfl ?_
    refine moves_check_bind hM (by simp) (Moves.ite (fun _ => moves_pure hq rfl) fun hc => ?_)
    exact htail (some e) q hq (by simpa using hc)

include hts in
lemma sliceTail_shifts : ∀ start lower, ShiftedPast k ts ts' (Expr.shift k)
    (sliceTail start lower (n + 1)) (sliceTail (start.shift k) (lower.map (Expr.shift k)) (n + 1)) := by
  intro start lower p hp hne
  have hpast := hts.past_next hne
  have hst := steadies hts n
  rw [sliceTail.eq_2, sliceTail.eq_2]
  refine moves_discard_advance_bind hM ?_
  refine (ih.bound _ hpast.2).bind_map fun upper q hupper hq => ?_
  have hq₀ : 0 < q := Nat.lt_of_lt_of_le (Nat.lt_of_le_of_lt (Nat.zero_le p) hpast.1)
    ((hst.bound _ hpast.2).1 _ _ hupper).1
  have hjp : ∀ step r, 0 < r → r < ts.tokens.size →
      Moves k ts ts' (fun a a' => a' = Expr.shift k a)
        (previousSpan >>= fun sp => pure (Expr.slice lower upper step (start.merge sp)))
        (previousSpan >>= fun sp => pure (Expr.slice (lower.map (Expr.shift k))
          (upper.map (Expr.shift k)) (step.map (Expr.shift k)) ((start.shift k).merge sp))) r :=
    fun step r h₀ hr => moves_previousSpan_bind hM h₀ hr (moves_pure hr (by simp [Span.shift_merge]))
  refine moves_eat_bind hM (by simp) (fun hc => Moves.ite_pos rfl ?_) fun _ =>
    Moves.ite_neg (by simp) (Moves.of_ok_bind rfl rfl (hjp none q hq₀ hq))
  have hnext : ts.Past q (ts.next q) := hts.past_next (by simp [hc])
  refine (ih.bound _ hnext.2).bind_map fun step r hstep hr => hjp step r ?_ hr
  exact Nat.lt_of_lt_of_le hq₀ (hnext.1.le.trans ((hst.bound _ hnext.2).1 _ _ hstep).1)

lemma bound_shifts : Shifted k ts ts' (Option.map (Expr.shift k)) (bound (n + 1)) (bound (n + 1)) := by
  intro p hp
  rw [bound.eq_2]
  refine moves_currentKind_bind hM ?_
  rw [TokenKind.canStartExpr_shift]
  exact Moves.ite (fun _ => (ih.expression p hp).bind_map fun _ q _ hq => moves_pure hq rfl)
    fun _ => moves_pure hp rfl

omit hM ih in
/-- The kinds an atom begins with: the eight leaves, then strings and the three brackets. -/
lemma startsAtom_cases {kind : TokenKind} (h : startsAtom kind = true) :
    kind = .name ∨ kind = .int ∨ kind = .float ∨ kind = .imaginary ∨ kind = .keyword .none ∨
      kind = .keyword .true ∨ kind = .keyword .false ∨ kind = .punct .ellipsis ∨
      (∃ d, kind = .string d) ∨ (∃ d, kind = .fstringStart d) ∨ kind = .punct .lparen ∨
      kind = .punct .lbracket ∨ kind = .punct .lbrace := by
  cases kind with
  | keyword kw => cases kw <;> simp_all [startsAtom]
  | punct pc => cases pc <;> simp_all [startsAtom]
  | _ => simp_all [startsAtom]

omit hM ih in
@[simp] lemma startsAtom_shift (kind : TokenKind) : startsAtom (kind.shift k) = startsAtom kind := by
  rcases TokenKind.shift_cases k kind with hs | ⟨text, rfl⟩
  · rw [hs]
  · rfl

omit hM ih in
/-- No kind an atom begins with carries a span. -/
lemma shift_of_startsAtom {kind : TokenKind} (h : startsAtom kind = true) : kind.shift k = kind := by
  rcases TokenKind.shift_cases k kind with hs | ⟨text, rfl⟩
  · exact hs
  · simp [startsAtom] at h

include hts in
lemma atom_shifts : Shifted k ts ts' (Expr.shift k) (atom (n + 1)) (atom (n + 1)) := by
  intro p hp
  by_cases hk : startsAtom (ts.tokenAt p).kind = true
  · have hpast := hts.past_next (p := p) fun h => by rw [h] at hk; cases hk
    rw [atom.eq_2]
    refine moves_current_bind ?_
    rw [hM.kind, shift_of_startsAtom hk, hM.span]
    generalize hkind : (ts.tokenAt p).kind = kind at hk ⊢
    rcases startsAtom_cases hk with rfl | rfl | rfl | rfl | rfl | rfl | rfl | rfl | ⟨d, rfl⟩ |
      ⟨d, rfl⟩ | rfl | rfl | rfl
    iterate 8 exact moves_discard_advance_bind hM (moves_pure hpast.2 rfl)
    · simpa using ih.strings _ #[] none p hp (.inr (.inl ⟨d, hkind⟩))
    · simpa using ih.strings _ #[] none p hp (.inr (.inr ⟨d, hkind⟩))
    · exact ih.parenthesized p hp
    · exact ih.listForm p hp
    · exact ih.braceForm p hp
  · have hk₀ : startsAtom (ts.tokenAt p).kind = false := by simpa using hk
    have hk' : startsAtom (ts'.tokenAt p).kind = false := by rw [hM.kind, startsAtom_shift, hk₀]
    exact (moves_failUnexpected hM : Moves k ts ts' _ (failUnexpected "expected expression")
      (failUnexpected "expected expression") p).congr
      ((atom_fails hk₀ n).trans (run_failUnexpected ts p _).symm)
      ((atom_fails hk' n).trans (run_failUnexpected ts' p _).symm)

omit hM ih in
/-- The quotes of a string literal fit in its token. -/
lemma closeLength_le_stop (hts : ts.Ordered) {p : Nat} {d : Delimiter}
    (hk : (ts.tokenAt p).kind = .string d) : d.closeLength ≤ (ts.tokenAt p).span.stop := by
  have hp := hts.lt_size_of_ne_eof (p := p) (by simp [hk])
  rw [TokenStream.tokenAt_eq hp] at hk ⊢
  have := hts.strings p hp d hk
  omega

include hts in
lemma strings_shifts : ∀ start parts bytes p, p < ts.tokens.size →
    (0 < p ∨ (∃ d, (ts.tokenAt p).kind = .string d) ∨ ∃ d, (ts.tokenAt p).kind = .fstringStart d) →
    Moves k ts ts' (fun a a' => a' = a.shift k) (strings start parts bytes (n + 1))
      (strings (start.shift k) (parts.map (Expr.shift k)) bytes (n + 1)) p := by
  intro start parts bytes p hp hpos
  rw [strings.eq_2]
  refine moves_current_bind ?_
  extract_lets jp jp'
  have hjp : ∀ next q, 0 < q → q < ts.tokens.size →
      Moves k ts ts' (fun a a' => a' = a.shift k) (jp next)
        (jp' (next.map fun eb => (eb.1.shift k, eb.2))) q := by
    intro next q h₀ hq
    rcases next with _ | ⟨e, isBytes⟩
    · simp only [jp, jp', Option.map_none, Array.toList_map]
      have hconcat : ∀ items : List Expr, Moves k ts ts' (fun a a' => a' = a.shift k)
          (previousSpan >>= fun sp => storeList items.length >>= fun _ =>
            pure (Expr.concat items (start.merge sp)))
          (previousSpan >>= fun sp => storeList (items.map (Expr.shift k)).length >>= fun _ =>
            pure (Expr.concat (items.map (Expr.shift k)) ((start.shift k).merge sp))) q :=
        fun items => moves_previousSpan_bind hM h₀ hq
          (moves_storeList_bind hM (by simp) fun _ => moves_pure hq (by simp [Span.shift_merge]))
      rcases parts.toList with _ | ⟨a, _ | ⟨b, rest⟩⟩
      · exact hconcat []
      · exact moves_pure hq rfl
      · exact hconcat (a :: b :: rest)
    · simp only [jp, jp', Option.map_some]
      refine Moves.ite (fun _ => moves_previousSpan_bind hM h₀ hq ?_) fun _ => ?_
      · rw [← Span.shift_merge]
        exact moves_failAt
      · have h := ih.strings start (parts.push e) (some isBytes) q hq (.inl h₀)
        rwa [Array.map_push] at h
  clear_value jp jp'
  rw [hM.kind, hM.span]
  rcases TokenKind.shift_cases k (ts.tokenAt p).kind with hs | ⟨text, ht⟩
  · rw [hs]
    split
    · rename_i d hk
      have hpast := hts.past_next (p := p) (by simp [hk])
      have hbody : (⟨((ts.tokenAt p).span.shift k).start + d.openLength,
          ((ts.tokenAt p).span.shift k).stop - d.closeLength⟩ : Span) =
          (⟨(ts.tokenAt p).span.start + d.openLength, (ts.tokenAt p).span.stop - d.closeLength⟩ :
            Span).shift k := by
        have := closeLength_le_stop hts hk
        simp only [Span.shift, Span.mk.injEq]
        omega
      simp only [pure_bind]
      rw [hbody]
      exact moves_discard_advance_bind hM (hjp _ _ (Nat.lt_of_le_of_lt (Nat.zero_le p) hpast.1) hpast.2)
    · rename_i d hk
      simp only [pure_bind]
      exact (ih.fstring p hp).bind_map fun e q he hq => hjp (some (e, false)) q
        (Nat.lt_of_le_of_lt (Nat.zero_le p) ((fstring_takes hts hk n).1 e q he).1) hq
    · rename_i hstr hfstr
      refine Moves.of_ok_bind rfl rfl (hjp none p (hpos.resolve_right ?_) hp)
      rintro (⟨d, hd⟩ | ⟨d, hd⟩)
      exacts [hstr d hd, hfstr d hd]
  · rw [ht, TokenKind.shift_fstringEnd]
    exact Moves.of_ok_bind rfl rfl (hjp none p (hpos.resolve_right (by simp [ht])) hp)

/-! ## Bracketed forms -/

lemma parenthesized_shifts :
    Shifted k ts ts' (Expr.shift k) (parenthesized (n + 1)) (parenthesized (n + 1)) := by
  intro p hp
  rw [parenthesized.eq_2]
  exact moves_advance_bind_moved hM (ih.parenContents _ _ (TokenStream.next_lt hp)).withContext

lemma parenContents_shifts : ∀ opening, Shifted k ts ts' (Expr.shift k)
    (parenContents opening (n + 1)) (parenContents (opening.shift k) (n + 1)) := by
  intro opening p hp
  rw [parenContents.eq_2, parenContents.eq_2]
  refine moves_check_bind hM (by simp) (Moves.ite (fun _ => ?_) fun _ => ?_)
  · exact moves_advance_bind_moved hM (moves_pure (TokenStream.next_lt hp) (by simp))
  refine moves_check_bind hM (by simp) (Moves.ite (fun _ => ?_) fun _ => ?_)
  · refine (ih.yieldExpr p hp).bind_map fun _ q _ hq => ?_
    exact moves_discard_expect_bind hM (by simp) fun _ => moves_pure (TokenStream.next_lt hq) rfl
  refine (ih.element .starNamed p hp).bind_map fun first q _ hq => moves_atClause_bind hM ?_
  refine Moves.ite (fun _ => ?_) fun _ => moves_check_bind hM (by simp) (Moves.ite (fun _ => ?_) fun _ => ?_)
  · refine moves_refuseUnpacking_bind first fun _ => ?_
    have hclauses := ih.clauses #[] q hq
    rw [Array.map_empty] at hclauses
    refine hclauses.bind_map fun _ r _ hr => (moves_expect hM (by simp) hr).bind fun _ _ r' hclose _ hr' => ?_
    rw [hclose.span]
    exact moves_pure hr' (by simp)
  · exact moves_discard_expect_bind hM (by simp) fun _ =>
      moves_refuseStarred_bind first fun _ => moves_pure (TokenStream.next_lt hq) rfl
  · have hmore := ih.moreElements (.punct .rparen) #[first] (by simp) q hq
    rw [Array.map_singleton] at hmore
    refine hmore.bind_map fun _ r _ hr => (moves_expect hM (by simp) hr).bind fun _ _ r' hclose _ hr' => ?_
    rw [hclose.span]
    exact moves_pure hr' (by simp)

lemma listForm_shifts : Shifted k ts ts' (Expr.shift k) (listForm (n + 1)) (listForm (n + 1)) := by
  intro p hp
  rw [listForm.eq_2]
  exact moves_advance_bind_moved hM (ih.listContents _ _ (TokenStream.next_lt hp)).withContext

lemma listContents_shifts : ∀ opening, Shifted k ts ts' (Expr.shift k)
    (listContents opening (n + 1)) (listContents (opening.shift k) (n + 1)) := by
  intro opening p hp
  rw [listContents.eq_2, listContents.eq_2]
  refine moves_check_bind hM (by simp) (Moves.ite (fun _ => ?_) fun _ => ?_)
  · exact moves_advance_bind_moved hM (moves_pure (TokenStream.next_lt hp) (by simp))
  refine (ih.element .starNamed p hp).bind_map fun first q _ hq => moves_atClause_bind hM ?_
  refine Moves.ite (fun _ => ?_) fun _ => ?_
  · refine moves_refuseUnpacking_bind first fun _ => ?_
    have hclauses := ih.clauses #[] q hq
    rw [Array.map_empty] at hclauses
    refine hclauses.bind_map fun _ r _ hr => (moves_expect hM (by simp) hr).bind fun _ _ r' hclose _ hr' => ?_
    rw [hclose.span]
    exact moves_pure hr' (by simp)
  · have hmore := ih.moreElements (.punct .rbracket) #[first] (by simp) q hq
    rw [Array.map_singleton] at hmore
    refine hmore.bind_map fun _ r _ hr => (moves_expect hM (by simp) hr).bind fun _ _ r' hclose _ hr' => ?_
    rw [hclose.span]
    exact moves_pure hr' (by simp)

lemma braceForm_shifts : Shifted k ts ts' (Expr.shift k) (braceForm (n + 1)) (braceForm (n + 1)) := by
  intro p hp
  rw [braceForm.eq_2]
  exact moves_advance_bind_moved hM (ih.braceContents _ _ (TokenStream.next_lt hp)).withContext

lemma braceContents_shifts : ∀ opening, Shifted k ts ts' (Expr.shift k)
    (braceContents opening (n + 1)) (braceContents (opening.shift k) (n + 1)) := by
  intro opening p hp
  rw [braceContents.eq_2, braceContents.eq_2]
  refine moves_check_bind hM (by simp) (Moves.ite (fun _ => ?_) fun _ => ?_)
  · exact moves_advance_bind_moved hM (moves_pure (TokenStream.next_lt hp) (by simp))
  refine moves_check_bind hM (by simp) (Moves.ite (fun _ => ?_) fun _ => ?_)
  · refine (ih.entry p hp).bind_map fun first q _ hq => ?_
    have h := ih.dictEntries opening #[first] q hq
    rwa [Array.map_singleton] at h
  refine (ih.element .starNamed p hp).bind_map fun first q _ hq =>
    moves_eat_bind hM (by simp) (fun _ => Moves.ite_pos rfl ?_) fun _ => Moves.ite_neg (by decide) ?_
  · refine moves_refuseStarred_bind first fun _ => ?_
    refine (ih.expression _ (TokenStream.next_lt hq)).bind_map fun value r _ hr => moves_atClause_bind hM ?_
    refine Moves.ite (fun _ => ?_) fun _ => ?_
    · have hclauses := ih.clauses #[] r hr
      rw [Array.map_empty] at hclauses
      refine hclauses.bind_map fun _ r' _ hr' =>
        (moves_expect hM (by simp) hr').bind fun _ _ r'' hclose _ hr'' => ?_
      rw [hclose.span]
      exact moves_pure hr'' (by simp)
    · have h := ih.dictEntries opening #[.pair first value] r hr
      rwa [Array.map_singleton, DictEntry.shift_pair] at h
  refine moves_atClause_bind hM (Moves.ite (fun _ => ?_) fun _ => ?_)
  · refine moves_refuseUnpacking_bind first fun _ => ?_
    have hclauses := ih.clauses #[] q hq
    rw [Array.map_empty] at hclauses
    refine hclauses.bind_map fun _ r _ hr => (moves_expect hM (by simp) hr).bind fun _ _ r' hclose _ hr' => ?_
    rw [hclose.span]
    exact moves_pure hr' (by simp)
  · have hmore := ih.moreElements (.punct .rbrace) #[first] (by simp) q hq
    rw [Array.map_singleton] at hmore
    refine hmore.bind_map fun _ r _ hr => (moves_expect hM (by simp) hr).bind fun _ _ r' hclose _ hr' => ?_
    rw [hclose.span]
    exact moves_pure hr' (by simp)

lemma dictEntries_shifts : ∀ opening acc, Shifted k ts ts' (Expr.shift k) (dictEntries opening acc (n + 1))
    (dictEntries (opening.shift k) (acc.map (DictEntry.shift k)) (n + 1)) := by
  intro opening acc p hp
  rw [dictEntries.eq_2, dictEntries.eq_2]
  have hclose : ∀ q, q < ts.tokens.size → Moves k ts ts' (fun a a' => a' = a.shift k)
      (expect (.punct .rbrace) >>= fun close => storeList acc.size >>= fun _ =>
        pure (Expr.dict acc.toList (opening.merge close.span)))
      (expect (.punct .rbrace) >>= fun close => storeList (acc.map (DictEntry.shift k)).size >>= fun _ =>
        pure (Expr.dict (acc.map (DictEntry.shift k)).toList ((opening.shift k).merge close.span))) q :=
    fun q hq => (moves_expect hM (by simp) hq).bind fun _ _ r hc _ hr => by
      rw [hc.span]
      exact moves_storeList_bind hM (by simp) fun _ => moves_pure hr (by simp)
  refine moves_eat_bind hM (by simp) (fun _ => moves_check_bind hM (by simp) ?_)
    (fun _ => moves_check_bind hM (by simp) (Moves.ite_neg (by simp) (hclose p hp)))
  have hq := TokenStream.next_lt hp
  refine Moves.ite (fun _ => ?_) fun _ => hclose _ hq
  refine (ih.entry _ hq).bind_map fun e r _ hr => ?_
  rw [← Array.map_push]
  exact ih.dictEntries opening _ r hr

lemma entry_shifts : Shifted k ts ts' (DictEntry.shift k) (entry (n + 1)) (entry (n + 1)) := by
  intro p hp
  rw [entry.eq_2]
  refine moves_eat_bind hM (by simp) (fun _ => Moves.ite_pos rfl ?_) fun _ => Moves.ite_neg (by decide) ?_
  · exact (ih.operatorChain .bitOr _ (TokenStream.next_lt hp)).bind_map fun _ q _ hq =>
      moves_pure hq (by simp)
  · refine (ih.expression p hp).bind_map fun _ q _ hq => moves_discard_expect_bind hM (by simp) fun _ => ?_
    exact (ih.expression _ (TokenStream.next_lt hq)).bind_map fun _ r _ hr => moves_pure hr (by simp)

lemma moreElements_shifts : ∀ close acc, (∀ text, close ≠ .fstringEnd text) →
    Shifted k ts ts' (Array.map (Expr.shift k)) (moreElements close acc (n + 1))
      (moreElements close (acc.map (Expr.shift k)) (n + 1)) := by
  intro close acc hclose p hp
  rw [moreElements.eq_2, moreElements.eq_2]
  refine moves_eat_bind hM (by simp) (fun _ => moves_check_bind hM hclose ?_)
    (fun _ => moves_check_bind hM hclose (Moves.ite_neg (by simp) (moves_storeList_bind hM (by simp) fun _ => moves_pure hp rfl)))
  have hq := TokenStream.next_lt hp
  refine Moves.ite (fun _ => ?_) fun _ => moves_storeList_bind hM (by simp) fun _ => moves_pure hq rfl
  refine (ih.element .starNamed _ hq).bind_map fun e r _ hr => ?_
  rw [← Array.map_push]
  exact ih.moreElements close _ hclose r hr

/-! ## Comprehension clauses -/

lemma clauses_shifts : ∀ acc, Shifted k ts ts' (Array.map (Clause.shift k))
    (clauses acc (n + 1)) (clauses (acc.map (Clause.shift k)) (n + 1)) := by
  intro acc p hp
  rw [clauses.eq_2, clauses.eq_2]
  refine moves_atClause_bind hM (Moves.ite (fun _ => ?_) fun _ => moves_storeList_bind hM (by simp) fun _ => moves_pure hp rfl)
  refine (ih.clause p hp).withContext_bind_map fun c q _ hq => ?_
  rw [← Array.map_push]
  exact ih.clauses _ q hq

omit hM ih in
/-- A target is refused on a moved stream exactly where it is on the stream, at the moved span. -/
lemma targetError?_shift :
    ∀ e : Expr, targetError? (e.shift k) = (targetError? e).map (SyntaxError.shift k) := by
  refine targetError?.induct (fun e => targetError? (e.shift k) = (targetError? e).map (SyntaxError.shift k))
    (fun l => firstTargetError? (l.map (Expr.shift k)) = (firstTargetError? l).map (SyntaxError.shift k))
    ?_ ?_ ?_ ?_ ?_ ?_ ?_ ?_ ?_ ?_
  · intro _
    simp [targetError?]
  · intro _ _ _
    simp [targetError?]
  · intro _ _ _
    simp [targetError?]
  · intro _ _ ih
    simpa [targetError?] using ih
  · intro _ _ ih
    simpa [targetError?] using ih
  · intro _ _ ih
    simpa [targetError?] using ih
  · intro e h1 h2 h3 h4 h5 h6
    cases e with
    | name sp => exact absurd rfl (h1 sp)
    | «attribute» v a sp => exact absurd rfl (h2 v a sp)
    | subscript v i sp => exact absurd rfl (h3 v i sp)
    | starred i sp => exact absurd rfl (h4 i sp)
    | tuple items sp => exact absurd rfl (h5 items sp)
    | list items sp => exact absurd rfl (h6 items sp)
    | constant c sp => cases c <;> rfl
    | _ => rfl
  · rfl
  · intro e rest err he ih
    simp [firstTargetError?, he, ih]
  · intro e rest he ihe ihr
    simp [firstTargetError?, he, ihe, ihr]

lemma clause_shifts : Shifted k ts ts' (Clause.shift k) (clause (n + 1)) (clause (n + 1)) := by
  intro p hp
  rw [clause.eq_2]
  refine moves_eat_bind_any hM (by simp) hp fun _ q hq => moves_discard_expect_bind hM (by simp) fun _ => ?_
  refine (ih.forTarget _ (TokenStream.next_lt hq)).bind_map fun target r _ hr => ?_
  rw [targetError?_shift]
  cases targetError? target with
  | some err => exact moves_throw
  | none =>
    refine moves_discard_expect_bind hM (by simp) fun _ => ?_
    refine (ih.disjunction _ (TokenStream.next_lt hr)).bind_map fun _ r' _ hr' => ?_
    have hconditions := ih.conditions #[] r' hr'
    rw [Array.map_empty] at hconditions
    exact hconditions.bind_map fun _ r'' _ hr'' => moves_storeList_bind hM (by simp) fun _ => moves_pure hr'' (by simp)

lemma conditions_shifts : ∀ acc, Shifted k ts ts' (Array.map (Expr.shift k))
    (conditions acc (n + 1)) (conditions (acc.map (Expr.shift k)) (n + 1)) := by
  intro acc p hp
  rw [conditions.eq_2, conditions.eq_2]
  refine moves_eat_bind hM (by simp) (fun _ => Moves.ite_pos rfl ?_)
    fun _ => Moves.ite_neg (by decide) (moves_pure hp rfl)
  refine (ih.disjunction _ (TokenStream.next_lt hp)).bind_map fun c q _ hq => ?_
  rw [← Array.map_push]
  exact ih.conditions _ q hq

include hts in
lemma forTarget_shifts : Shifted k ts ts' (Expr.shift k) (forTarget (n + 1)) (forTarget (n + 1)) := by
  intro p hp
  rw [forTarget.eq_2]
  refine (ih.forTargetItem p hp).bind_map fun first q _ hq => moves_check_bind hM (by simp) ?_
  refine Moves.ite (fun _ => moves_pure hq rfl) fun hc => ?_
  have hcomma : (ts.tokenAt q).kind = .punct .comma := by simpa using hc
  have hrest := ih.forTargetRest #[first] q hq
  rw [Array.map_singleton] at hrest
  refine hrest.bind_map fun items r hitems hr => ?_
  have hpos : 0 < r := Nat.lt_of_le_of_lt (Nat.zero_le q) (forTargetRest_past hts hcomma hitems)
  exact moves_previousSpan_bind hM hpos hr (moves_storeList_bind hM (by simp) fun _ => moves_pure hr (by simp))

lemma forTargetRest_shifts : ∀ acc, Shifted k ts ts' (Array.map (Expr.shift k))
    (forTargetRest acc (n + 1)) (forTargetRest (acc.map (Expr.shift k)) (n + 1)) := by
  intro acc p hp
  rw [forTargetRest.eq_2, forTargetRest.eq_2]
  refine moves_eat_bind hM (by simp) (fun _ => moves_check_bind hM (by simp) ?_)
    (fun _ => moves_check_bind hM (by simp) (Moves.ite_neg (by simp) (moves_pure hp rfl)))
  have hq := TokenStream.next_lt hp
  refine Moves.ite (fun _ => ?_) fun _ => moves_pure hq rfl
  refine (ih.forTargetItem _ hq).bind_map fun e r _ hr => ?_
  rw [← Array.map_push]
  exact ih.forTargetRest _ r hr

lemma forTargetItem_shifts :
    Shifted k ts ts' (Expr.shift k) (forTargetItem (n + 1)) (forTargetItem (n + 1)) := by
  intro p hp
  rw [forTargetItem.eq_2]
  exact moves_check_bind hM (by simp)
    (Moves.ite (fun _ => ih.starred p hp) fun _ => ih.operatorChain .bitOr p hp)

/-! ## F-strings -/

lemma fstring_shifts : Shifted k ts ts' (Expr.shift k) (fstring (n + 1)) (fstring (n + 1)) := by
  intro p hp
  rw [fstring.eq_2]
  refine moves_advance_bind_moved hM ?_
  dsimp only
  rcases TokenKind.shift_cases k (ts.tokenAt p).kind with hs | ⟨text, ht⟩
  · rw [hs]
    split
    · rename_i d _
      have h := ih.fstringParts d (ts.tokenAt p).span #[] _ (TokenStream.next_lt hp)
      rwa [Array.map_empty] at h
    · exact moves_failAt
  · rw [ht, TokenKind.shift_fstringEnd]
    exact moves_failAt

lemma fstringParts_shifts : ∀ d start acc, Shifted k ts ts' (Expr.shift k) (fstringParts d start acc (n + 1))
    (fstringParts d (start.shift k) (acc.map (FPart.shift k)) (n + 1)) := by
  intro d start acc p hp
  rw [fstringParts.eq_2, fstringParts.eq_2]
  refine moves_current_bind ?_
  rw [hM.kind, hM.span]
  by_cases hend : ∃ text, (ts.tokenAt p).kind = .fstringEnd text
  · obtain ⟨text, ht⟩ := hend
    rw [ht, TokenKind.shift_fstringEnd]
    have hfold : (if (text.shift k).isEmpty then acc.map (FPart.shift k)
        else (acc.map (FPart.shift k)).push (.literal (text.shift k))) =
        (if text.isEmpty then acc else acc.push (.literal text)).map (FPart.shift k) := by
      rw [Span.isEmpty_shift]
      by_cases he : text.isEmpty = true <;> simp [he]
    simp only [hfold]
    exact moves_discard_advance_bind hM
      (moves_storeList_bind hM (by simp) fun _ => moves_pure (TokenStream.next_lt hp) (by simp))
  rcases TokenKind.shift_cases k (ts.tokenAt p).kind with hs | ⟨text, ht⟩
  · rw [hs]
    split
    · refine moves_discard_advance_bind hM ?_
      have h := ih.fstringParts d start (acc.push (.literal (ts.tokenAt p).span)) _ (TokenStream.next_lt hp)
      rwa [Array.map_push, FPart.shift_literal] at h
    · refine (ih.field p hp).bind_map fun f q _ hq => ?_
      have h := ih.fstringParts d start (acc.push (.field f)) q hq
      rwa [Array.map_push, FPart.shift_field] at h
    · rename_i text ht
      exact absurd ⟨text, ht⟩ hend
    · exact moves_failUnexpected hM
  · exact absurd ⟨text, ht⟩ hend

omit hM in
lemma field_shifts : Shifted k ts ts' (Field.shift k) (field (n + 1)) (field (n + 1)) := by
  intro p hp
  rw [field.eq_2]
  exact (ih.fieldContents p hp).withContext

lemma fieldContents_shifts :
    Shifted k ts ts' (Field.shift k) (fieldContents (n + 1)) (fieldContents (n + 1)) := by
  intro p hp
  rw [fieldContents.eq_2]
  refine moves_advance_bind_moved hM (moves_check_bind hM (by simp) (Moves.ite
    (fun _ => moves_currentSpan_bind hM moves_failAt) fun _ => ?_))
  refine (ih.fieldExpression _ (TokenStream.next_lt hp)).bind_map fun e q _ hq => ?_
  extract_lets jp₁ jp₁'
  have hjp₁ : ∀ debug q₁, q₁ < ts.tokens.size → Moves k ts ts' (fun a a' => a' = a.shift k)
      (jp₁ debug) (jp₁' (debug.map (Span.shift k))) q₁ := by
    intro debug q₁ hq₁
    simp -zeta only [jp₁, jp₁']
    refine moves_check_bind hM (by simp) ?_
    extract_lets jp₂ jp₂'
    have hjp₂ : ∀ conv q₂, q₂ < ts.tokens.size →
        Moves k ts ts' (fun a a' => a' = a.shift k) (jp₂ conv) (jp₂' conv) q₂ := by
      intro conv q₂ hq₂
      simp -zeta only [jp₂, jp₂']
      refine moves_eat_bind_any hM (by simp) hq₂ fun _ q₃ hq₃ => ?_
      extract_lets jp₃ jp₃'
      have hjp₃ : ∀ spec q₄, q₄ < ts.tokens.size → Moves k ts ts' (fun a a' => a' = a.shift k)
          (jp₃ spec) (jp₃' (spec.map (Array.map (FPart.shift k)))) q₄ := by
        intro spec q₄ hq₄
        simp only [jp₃, jp₃']
        refine moves_current_bind ?_
        rw [hM.kind, hM.span]
        simp only [bne, TokenKind.shift_beq_punct]
        refine Moves.ite (fun _ => ?_) fun _ =>
          moves_discard_advance_bind hM (moves_pure (TokenStream.next_lt hq₄) ?_)
        · cases spec <;> exact moves_throw
        · cases spec <;> simp
      clear_value jp₃ jp₃'
      refine Moves.ite (fun _ => ?_) fun _ => Moves.of_ok_bind rfl rfl (hjp₃ none q₃ hq₃)
      have hspec := ih.formatSpec #[] q₃ hq₃
      rw [Array.map_empty] at hspec
      exact (hspec.map (S := fun (a : Option (Array FPart)) a' => a' = a.map (Array.map (FPart.shift k)))
        fun _ _ h => by
        rw [h]
        rfl).bind_map fun spec q₄ _ hq₄ => hjp₃ spec q₄ hq₄
    clear_value jp₂ jp₂'
    refine Moves.ite (fun _ => ?_) fun _ => Moves.of_ok_bind rfl rfl (hjp₂ none q₁ hq₁)
    exact ((moves_conversion hM hq₁).map (S := fun (a : Option Conversion) a' => a' = a) fun _ _ h => by
      rw [h]).bind_map
      fun conv q₂ _ hq₂ => hjp₂ conv q₂ hq₂
  clear_value jp₁ jp₁'
  refine moves_eat_bind hM (by simp) (fun _ => Moves.ite_pos rfl ?_)
    fun _ => Moves.ite_neg (by decide) (Moves.of_ok_bind rfl rfl (hjp₁ none q hq))
  exact moves_currentSpan_bind hM (Moves.of_ok_bind rfl rfl (hjp₁ _ _ (TokenStream.next_lt hq)))

lemma formatSpec_shifts : ∀ acc, Shifted k ts ts' (Array.map (FPart.shift k))
    (formatSpec acc (n + 1)) (formatSpec (acc.map (FPart.shift k)) (n + 1)) := by
  intro acc p hp
  rw [formatSpec.eq_2, formatSpec.eq_2]
  refine moves_current_bind ?_
  rw [hM.kind, hM.span]
  rcases TokenKind.shift_cases k (ts.tokenAt p).kind with hs | ⟨text, ht⟩
  · rw [hs]
    split
    · refine moves_discard_advance_bind hM ?_
      have h := ih.formatSpec (acc.push (.literal (ts.tokenAt p).span)) _ (TokenStream.next_lt hp)
      rwa [Array.map_push, FPart.shift_literal] at h
    · refine (ih.field p hp).bind_map fun f q _ hq => ?_
      have h := ih.formatSpec (acc.push (.field f)) q hq
      rwa [Array.map_push, FPart.shift_field] at h
    · exact moves_storeList_bind hM (by simp) fun _ => moves_pure hp rfl
  · rw [ht, TokenKind.shift_fstringEnd]
    exact moves_storeList_bind hM (by simp) fun _ => moves_pure hp rfl

/-! ## Every production at every fuel -/

include hts in
/-- One more unit of fuel keeps every production running alike on a stream and on the stream
moved. -/
lemma shifts_succ : Shifts k ts ts' (n + 1) where
  fieldExpression := fieldExpression_shifts hM ih
  sequence := sequence_shifts hM hts ih
  sequenceRest := sequenceRest_shifts hM ih
  element := element_shifts hM ih
  starred := starred_shifts hM ih
  namedExpression := namedExpression_shifts hM ih
  expression := expression_shifts hM ih
  yieldExpr := yieldExpr_shifts hM ih
  lambda := lambda_shifts hM ih
  lambdaParams := lambdaParams_shifts hM ih
  lambdaParam := lambdaParam_shifts hM ih
  disjunction := disjunction_shifts ih
  disjunctionRest := disjunctionRest_shifts hM ih
  conjunction := conjunction_shifts ih
  conjunctionRest := conjunctionRest_shifts hM ih
  inversion := inversion_shifts hM ih
  comparison := comparison_shifts hM ih
  comparisonLinks := comparisonLinks_shifts hM ih
  operatorChain := operatorChain_shifts ih
  chainRest := chainRest_shifts hM ih
  operand := operand_shifts ih
  factor := factor_shifts hM ih
  power := power_shifts hM ih
  awaitPrimary := awaitPrimary_shifts hM ih
  primary := primary_shifts ih
  trailers := trailers_shifts hM ih
  call := call_shifts hM hts ih
  arguments := arguments_shifts hM hts ih
  loneGenerator := loneGenerator_shifts hM hts ih
  subscript := subscript_shifts hM ih
  slices := slices_shifts hM hts ih
  slicesRest := slicesRest_shifts hM ih
  slice := slice_shifts hM ih
  sliceTail := sliceTail_shifts hM hts ih
  bound := bound_shifts hM ih
  atom := atom_shifts hM hts ih
  strings := strings_shifts hM hts ih
  parenthesized := parenthesized_shifts hM ih
  parenContents := parenContents_shifts hM ih
  listForm := listForm_shifts hM ih
  listContents := listContents_shifts hM ih
  braceForm := braceForm_shifts hM ih
  braceContents := braceContents_shifts hM ih
  dictEntries := dictEntries_shifts hM ih
  entry := entry_shifts hM ih
  moreElements := moreElements_shifts hM ih
  clauses := clauses_shifts hM ih
  clause := clause_shifts hM ih
  conditions := conditions_shifts hM ih
  forTarget := forTarget_shifts hM hts ih
  forTargetRest := forTargetRest_shifts hM ih
  forTargetItem := forTargetItem_shifts hM ih
  fstring := fstring_shifts hM ih
  fstringParts := fstringParts_shifts hM ih
  field := field_shifts ih
  fieldContents := fieldContents_shifts hM ih
  formatSpec := formatSpec_shifts hM ih

omit ih in
include hts in
/-- **Every production runs alike on a stream and on the stream moved**, at every fuel: to the
same end with its result moved, or to the same failure at the moved span. -/
theorem shifts : ∀ n, Shifts k ts ts' n
  | 0 => shifts_zero hM
  | n + 1 => shifts_succ hM hts (shifts n)

end Grammar

end ExprFront
