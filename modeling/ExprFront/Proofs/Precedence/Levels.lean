import Mathlib
import ExprFront.Proofs.ParseRun

/-!
# The levels of the expression grammar

The productions of the grammar that read operators form a ladder, loosest first: the
conditional, `or`, `and`, `not`, comparisons, the six levels of binary operators, prefix
operators, `**`, `await`, and a primary with its trailers. `Grammar.atLevel L` is the production
at level `L`. Each reads the next tighter level and then looks at the token after it:

* a level may begin with a prefix form (`prefixAt`): `lambda`, `not`, `+ - ~`, `await`;
* a level may read on after an operand (`suffixAt`): `if`, `or`, `and`, a comparison operator,
  a binary operator of the level, `**`, or a trailer;
* the left-associative levels read their further operands in a loop (`loopAt`).

Where the first token begins no prefix form and the token after the operand makes no level
read on, a level reads exactly what the next one reads (`atLevel_descend`). `Stops L k` says
that `k` makes no level from `L` on read on.
-/

namespace ExprFront

namespace Grammar

open ParseM

/-- The level of a binary-operator production. -/
def BinLevel.prec : BinLevel → Nat
  | .bitOr => 5 | .bitXor => 6 | .bitAnd => 7 | .shift => 8 | .sum => 9 | .term => 10

/-- The production that reads an expression at a level. -/
def atLevel : Nat → Nat → ParseM Expr
  | 0, n => expression n
  | 1, n => disjunction n
  | 2, n => conjunction n
  | 3, n => inversion n
  | 4, n => comparison n
  | 5, n => operatorChain .bitOr n
  | 6, n => operatorChain .bitXor n
  | 7, n => operatorChain .bitAnd n
  | 8, n => operatorChain .shift n
  | 9, n => operatorChain .sum n
  | 10, n => operatorChain .term n
  | 11, n => factor n
  | 12, n => power n
  | 13, n => awaitPrimary n
  | _, n => primary n

/-- Whether a token begins the prefix form of a level. -/
def prefixAt : Nat → TokenKind → Bool
  | 0, k => k == .keyword .lambda
  | 3, k => k == .keyword .not
  | 11, k => k == .punct .plus || k == .punct .minus || k == .punct .tilde
  | 13, k => k == .keyword .await
  | _, _ => false

/-- Whether a token after an operand makes a level read on. -/
def suffixAt : Nat → TokenKind → Bool
  | 0, k => k == .keyword .if
  | 1, k => k == .keyword .or
  | 2, k => k == .keyword .and
  | 4, k => k == .punct .eqEq || k == .punct .notEq || k == .punct .lt || k == .punct .ltEq ||
      k == .punct .gt || k == .punct .gtEq || k == .keyword .in || k == .keyword .not ||
      k == .keyword .is
  | 5, k => (BinLevel.bitOr.operator? k).isSome
  | 6, k => (BinLevel.bitXor.operator? k).isSome
  | 7, k => (BinLevel.bitAnd.operator? k).isSome
  | 8, k => (BinLevel.shift.operator? k).isSome
  | 9, k => (BinLevel.sum.operator? k).isSome
  | 10, k => (BinLevel.term.operator? k).isSome
  | 12, k => k == .punct .doubleStar
  | 14, k => k == .punct .dot || k == .punct .lparen || k == .punct .lbracket
  | _, _ => false

/-- A token stops the levels from `L` on: it makes none of them read on. -/
def Stops (L : Nat) (k : TokenKind) : Prop := ∀ j, L ≤ j → j ≤ 14 → suffixAt j k = false

lemma Stops.mono {L L' : Nat} {k : TokenKind} (h : Stops L k) (hle : L ≤ L') : Stops L' k :=
  fun j hj hj14 => h j (by omega) hj14

/-- The fuel one level of descent takes: two for a binary level, which reads its operands
through `operand`, and one for the others. -/
def descentCost (L : Nat) : Nat := if 5 ≤ L ∧ L ≤ 10 then 2 else 1

/-- The loop in which a left-associative level reads its operands after the first. -/
def loopAt : Nat → Expr → Nat → ParseM Expr
  | 1, e, m => disjunctionRest e m
  | 2, e, m => conjunctionRest e m
  | 5, e, m => chainRest .bitOr e m
  | 6, e, m => chainRest .bitXor e m
  | 7, e, m => chainRest .bitAnd e m
  | 8, e, m => chainRest .shift e m
  | 9, e, m => chainRest .sum e m
  | 10, e, m => chainRest .term e m
  | _, e, m => trailers e m

/-- Whether a level reads its operands in a loop: `or`, `and`, the binary operators and the
trailers. -/
def IsLoop (L : Nat) : Prop := L = 1 ∨ L = 2 ∨ (5 ≤ L ∧ L ≤ 10) ∨ L = 14

variable {ts : TokenStream} {p q n m : Nat} {e : Expr}

lemma exists_binLevel {L : Nat} (h5 : 5 ≤ L) (h10 : L ≤ 10) : ∃ lvl : BinLevel, lvl.prec = L := by
  interval_cases L
  exacts [⟨.bitOr, rfl⟩, ⟨.bitXor, rfl⟩, ⟨.bitAnd, rfl⟩, ⟨.shift, rfl⟩, ⟨.sum, rfl⟩, ⟨.term, rfl⟩]

lemma atLevel_binLevel (lvl : BinLevel) : atLevel lvl.prec n = operatorChain lvl n := by
  cases lvl <;> rfl

/-- A binary level reads its first operand at the next level. -/
lemma operand_succ (lvl : BinLevel) : operand lvl (n + 1) = atLevel (lvl.prec + 1) n := by
  cases lvl <;> simp [operand.eq_2, BinLevel.next?, BinLevel.prec, atLevel]

lemma atLevel_zero_fuel (L : Nat) : ∃ err, atLevel L 0 ts p = .error err := by
  rcases L with _ | _ | _ | _ | _ | _ | _ | _ | _ | _ | _ | _ | _ | _ | L <;>
    simp [atLevel, expression, disjunction, conjunction, inversion, comparison, operatorChain,
      factor, power, awaitPrimary, primary, outOfFuel]

/-- No level reads anything without fuel. -/
lemma pos_of_atLevel {L : Nat} (h : atLevel L n ts p = .ok (e, q)) : 0 < n := by
  rcases n with _ | n
  · obtain ⟨err, herr⟩ : ∃ err, atLevel L 0 ts p = .error err := atLevel_zero_fuel L
    rw [herr] at h
    cases h
  · omega

/-- No comparison operator stands at a token that does not make comparisons read on. -/
lemma comparisonOp?_of_suffix (h : suffixAt 4 (ts.tokenAt q).kind = false) :
    comparisonOp? ts q = .ok (none, q) := by
  generalize hk : (ts.tokenAt q).kind = k at h
  simp only [comparisonOp?, run_bind, run_currentKind, hk, Except.bind]
  cases k with
  | keyword kw => cases kw <;> simp_all [suffixAt, Except.bind]
  | punct pc => cases pc <;> simp_all [suffixAt, Except.bind]
  | _ => simp_all [Except.bind]

/-- A binary level reads its first operand, then its loop. -/
lemma operatorChain_succ_succ (lvl : BinLevel) :
    operatorChain lvl (n + 2) ts p =
      (atLevel (lvl.prec + 1) n ts p).bind fun aq => chainRest lvl aq.1 (n + 1) ts aq.2 := by
  rw [operatorChain.eq_2, operand_succ]
  rfl

lemma loopAt_binLevel (lvl : BinLevel) : loopAt lvl.prec e m = chainRest lvl e m := by
  cases lvl <;> rfl

/-- A binary level's loop ends at a token that is none of its operators. -/
lemma chainRest_stop (lvl : BinLevel) (h : lvl.operator? (ts.tokenAt q).kind = none) :
    chainRest lvl e (m + 1) ts q = .ok (e, q) := by
  simp [chainRest.eq_2, h, Except.bind]

lemma suffixAt_binLevel (lvl : BinLevel) (k : TokenKind) :
    suffixAt lvl.prec k = (lvl.operator? k).isSome := by
  cases lvl <;> rfl

/-- One level of descent: where the first token begins no prefix form of the level and the
token after the operand does not make it read on, a level reads what the next one reads. -/
lemma atLevel_descend {L : Nat} (hL : L < 14)
    (hpre : prefixAt L (ts.tokenAt p).kind = false)
    (h : atLevel (L + 1) n ts p = .ok (e, q))
    (hsuf : suffixAt L (ts.tokenAt q).kind = false) :
    atLevel L (n + descentCost L) ts p = .ok (e, q) := by
  obtain ⟨n, rfl⟩ : ∃ k, n = k + 1 := ⟨n - 1, by have := pos_of_atLevel h; omega⟩
  have hbin : ∀ lvl : BinLevel, L = lvl.prec →
      atLevel L (n + 1 + descentCost L) ts p = .ok (e, q) := by
    intro lvl hlvl
    subst hlvl
    have hcost : descentCost lvl.prec = 2 := by cases lvl <;> rfl
    rw [suffixAt_binLevel, Option.isSome_eq_false_iff, Option.isNone_iff_eq_none] at hsuf
    rw [hcost, atLevel_binLevel, operatorChain_succ_succ, h]
    exact chainRest_stop lvl hsuf
  rcases L with _ | _ | _ | _ | _ | _ | _ | _ | _ | _ | _ | _ | _ | _ | L
  · simp only [prefixAt, beq_eq_false_iff_ne, ne_eq] at hpre
    simp only [suffixAt, beq_eq_false_iff_ne, ne_eq] at hsuf
    simp only [atLevel] at h
    simp [atLevel, descentCost, expression, hpre, h, hsuf, Except.bind]
  · simp only [suffixAt, beq_eq_false_iff_ne, ne_eq] at hsuf
    simp only [atLevel] at h ⊢
    rw [descentCost, if_neg (by omega), disjunction.eq_2]
    simp [h, disjunctionRest.eq_2, hsuf, Except.bind]
  · simp only [suffixAt, beq_eq_false_iff_ne, ne_eq] at hsuf
    simp only [atLevel] at h ⊢
    rw [descentCost, if_neg (by omega), conjunction.eq_2]
    simp [h, conjunctionRest.eq_2, hsuf, Except.bind]
  · simp only [prefixAt, beq_eq_false_iff_ne, ne_eq] at hpre
    simp only [atLevel] at h ⊢
    rw [descentCost, if_neg (by omega), inversion.eq_2]
    simp [h, hpre, Except.bind]
  · simp only [atLevel] at h ⊢
    rw [descentCost, if_neg (by omega), comparison.eq_2]
    simp [h, comparisonLinks.eq_2, comparisonOp?_of_suffix hsuf, Except.bind]
  · exact hbin .bitOr rfl
  · exact hbin .bitXor rfl
  · exact hbin .bitAnd rfl
  · exact hbin .shift rfl
  · exact hbin .sum rfl
  · exact hbin .term rfl
  · have hu : unaryOperator? (ts.tokenAt p).kind = none := by
      simp only [prefixAt] at hpre
      generalize (ts.tokenAt p).kind = k at hpre ⊢
      cases k with
      | punct pc => cases pc <;> simp_all [unaryOperator?]
      | _ => rfl
    simp only [atLevel] at h ⊢
    rw [descentCost, if_neg (by omega), factor.eq_2]
    simp [h, hu, Except.bind]
  · simp only [suffixAt, beq_eq_false_iff_ne, ne_eq] at hsuf
    simp only [atLevel] at h ⊢
    rw [descentCost, if_neg (by omega), power.eq_2]
    simp [h, hsuf, Except.bind]
  · simp only [prefixAt, beq_eq_false_iff_ne, ne_eq] at hpre
    simp only [atLevel] at h ⊢
    rw [descentCost, if_neg (by omega), awaitPrimary.eq_2]
    simp [h, hpre, Except.bind]
  · omega

/-- A left-associative level below the trailers reads its first operand, then its loop. -/
lemma atLevel_loop {L : Nat} (hL : IsLoop L) (hL14 : L < 14) :
    atLevel L (n + descentCost L) ts p =
      (atLevel (L + 1) n ts p).bind fun aq => loopAt L aq.1 (n + descentCost L - 1) ts aq.2 := by
  rcases hL with rfl | rfl | ⟨h5, h10⟩ | rfl
  · cases n with
    | zero => simp [atLevel, descentCost, disjunction.eq_2, conjunction.eq_1, outOfFuel,
        Except.bind]
    | succ n => simp [atLevel, descentCost, disjunction.eq_2, loopAt]
  · cases n with
    | zero => simp [atLevel, descentCost, conjunction.eq_2, inversion.eq_1, outOfFuel,
        Except.bind]
    | succ n => simp [atLevel, descentCost, conjunction.eq_2, loopAt]
  · obtain ⟨lvl, rfl⟩ := exists_binLevel h5 h10
    have hcost : descentCost lvl.prec = 2 := by cases lvl <;> rfl
    rw [hcost, atLevel_binLevel, operatorChain_succ_succ]
    simp only [loopAt_binLevel, show n + 2 - 1 = n + 1 by omega]
  · omega

/-- A loop ends at a token that does not make its level read on. -/
lemma loopAt_stop {L : Nat} (hL : IsLoop L) (h : suffixAt L (ts.tokenAt q).kind = false) :
    loopAt L e (m + 1) ts q = .ok (e, q) := by
  rcases hL with rfl | rfl | ⟨h5, h10⟩ | rfl
  · simp only [suffixAt, beq_eq_false_iff_ne, ne_eq] at h
    simp [loopAt, disjunctionRest.eq_2, h, Except.bind]
  · simp only [suffixAt, beq_eq_false_iff_ne, ne_eq] at h
    simp [loopAt, conjunctionRest.eq_2, h, Except.bind]
  · obtain ⟨lvl, rfl⟩ := exists_binLevel h5 h10
    rw [suffixAt_binLevel, Option.isSome_eq_false_iff, Option.isNone_iff_eq_none] at h
    rw [loopAt_binLevel]
    exact chainRest_stop lvl h
  · simp only [suffixAt, Bool.or_eq_false_iff, beq_eq_false_iff_ne, ne_eq] at h
    generalize hk : (ts.tokenAt q).kind = k at h
    simp only [loopAt, trailers.eq_2, run_bind, run_currentKind, hk, Except.bind]
    split <;> simp_all

end Grammar

end ExprFront
