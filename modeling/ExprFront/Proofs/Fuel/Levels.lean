import Mathlib
import ExprFront.Proofs.Fuel.Settled

/-!
# The levels of the productions

Each production gets a level below 64 (`Grammar.Settles`): a production calls another where it
stands, before it has taken a token, only at a lower level. So from position `p` a chain of
calls that take no token is shorter than 64, and the fuel a production of level `L` needs from
`p` is below `64 * (tokens left) + L` (`TokenStream.Budget`). The loops take a token before they
go round again, and so do the bracketed forms before they read their contents.

`Grammar.Enough ts n L f` says that `f` with fuel `n`, run where the fuel covers level `L`, is
settled and stays inside the stream; `Grammar.EnoughPast` is the same for a production that
first takes the token it starts at, and so ends past it. `Grammar.Settles ts n` holds this for
every production, each at its level. The productions that take no fuel, the comparison operators
and the conversion of a field, are settled too: they never fail out of fuel.
-/

namespace ExprFront

namespace Grammar

open ParseM TokenStream

/-- How many levels of the binary-operator chain lie below a level. -/
def BinLevel.depth : BinLevel → Nat
  | .term => 0
  | .sum => 1
  | .shift => 2
  | .bitAnd => 3
  | .bitXor => 4
  | .bitOr => 5

lemma BinLevel.depth_next {level next : BinLevel} (h : level.next? = some next) :
    next.depth + 1 = level.depth := by
  cases level <;> cases h <;> rfl

lemma BinLevel.depth_le (level : BinLevel) : level.depth ≤ 5 := by
  cases level <;> decide

section

variable {α : Type} (ts : TokenStream) (n L : Nat) (f : Nat → ParseM α)

/-- Fuel `n` is enough for the production `f` at level `L`: from any position inside the stream
that the fuel covers, its run is settled and stays inside the stream. -/
def Enough : Prop :=
  ∀ p, p < ts.tokens.size → ts.Budget n p L →
    Settled ts (f n) (f (n + 1)) p fun _ q => ts.Within p q

/-- Fuel `n` is enough for the production `f` at level `L` from any token other than the end
of input: its run is settled and ends past that token. -/
def EnoughPast : Prop :=
  ∀ p, p < ts.tokens.size → (ts.tokenAt p).kind ≠ .eof → ts.Budget n p L →
    Settled ts (f n) (f (n + 1)) p fun _ q => ts.Past p q

end

/-- Fuel `n` is enough for every production of the grammar, each at its level. -/
structure Settles (ts : TokenStream) (n : Nat) : Prop where
  fieldExpression : Enough ts n 27 fieldExpression
  sequence : ∀ item, Enough ts n 26 (sequence item)
  sequenceRest : ∀ item acc, Enough ts n 0 (sequenceRest item acc)
  element : ∀ item, Enough ts n 25 (element item)
  starred : EnoughPast ts n 0 starred
  namedExpression : Enough ts n 24 namedExpression
  expression : Enough ts n 23 expression
  yieldExpr : EnoughPast ts n 0 yieldExpr
  lambda : EnoughPast ts n 0 lambda
  lambdaParams : ∀ acc, Enough ts n 1 (lambdaParams acc)
  lambdaParam : Enough ts n 0 lambdaParam
  disjunction : Enough ts n 22 disjunction
  disjunctionRest : ∀ left, Enough ts n 0 (disjunctionRest left)
  conjunction : Enough ts n 21 conjunction
  conjunctionRest : ∀ left, Enough ts n 0 (conjunctionRest left)
  inversion : Enough ts n 20 inversion
  comparison : Enough ts n 19 comparison
  comparisonLinks : ∀ acc, Enough ts n 0 (comparisonLinks acc)
  operatorChain : ∀ level, Enough ts n (8 + 2 * level.depth) (operatorChain level)
  chainRest : ∀ level left, Enough ts n 0 (chainRest level left)
  operand : ∀ level, Enough ts n (7 + 2 * level.depth) (operand level)
  factor : Enough ts n 6 factor
  power : Enough ts n 5 power
  awaitPrimary : Enough ts n 4 awaitPrimary
  primary : Enough ts n 3 primary
  trailers : ∀ value, Enough ts n 1 (trailers value)
  call : ∀ func, EnoughPast ts n 0 (call func)
  arguments : ∀ acc seenKeyword seenDoubleStar,
    Enough ts n 25 (arguments acc seenKeyword seenDoubleStar)
  loneGenerator : ∀ elt isFirst, Enough ts n 2 (loneGenerator elt isFirst)
  subscript : ∀ value, EnoughPast ts n 0 (subscript value)
  slices : Enough ts n 26 slices
  slicesRest : ∀ acc, Enough ts n 0 (slicesRest acc)
  slice : Enough ts n 25 slice
  sliceTail : ∀ start lower, EnoughPast ts n 0 (sliceTail start lower)
  bound : Enough ts n 24 bound
  atom : Enough ts n 2 atom
  strings : ∀ start parts bytes, Enough ts n 1 (strings start parts bytes)
  parenthesized : EnoughPast ts n 0 parenthesized
  parenContents : ∀ opening, Enough ts n 26 (parenContents opening)
  listForm : EnoughPast ts n 0 listForm
  listContents : ∀ opening, Enough ts n 26 (listContents opening)
  braceForm : EnoughPast ts n 0 braceForm
  braceContents : ∀ opening, Enough ts n 26 (braceContents opening)
  dictEntries : ∀ opening acc, Enough ts n 0 (dictEntries opening acc)
  entry : Enough ts n 24 entry
  moreElements : ∀ close acc, Enough ts n 0 (moreElements close acc)
  clauses : ∀ acc, Enough ts n 1 (clauses acc)
  clause : EnoughPast ts n 0 clause
  conditions : ∀ acc, Enough ts n 0 (conditions acc)
  forTarget : Enough ts n 20 forTarget
  forTargetRest : ∀ acc, Enough ts n 0 (forTargetRest acc)
  forTargetItem : Enough ts n 19 forTargetItem
  fstring : EnoughPast ts n 0 fstring
  fstringParts : ∀ d start acc, Enough ts n 2 (fstringParts d start acc)
  field : EnoughPast ts n 1 field
  fieldContents : EnoughPast ts n 0 fieldContents
  formatSpec : ∀ acc, Enough ts n 2 (formatSpec acc)

variable {ts : TokenStream}

section

variable {α : Type} {L : Nat} {f : Nat → ParseM α}

lemma enough_zero : Enough ts 0 L f := fun _ _ hb => absurd hb not_budget_zero

lemma enoughPast_zero : EnoughPast ts 0 L f := fun _ _ _ hb => absurd hb not_budget_zero

end

/-- No fuel covers any production, so every one is settled wherever it is covered. -/
lemma settles_zero : Settles ts 0 where
  fieldExpression := enough_zero
  sequence _ := enough_zero
  sequenceRest _ _ := enough_zero
  element _ := enough_zero
  starred := enoughPast_zero
  namedExpression := enough_zero
  expression := enough_zero
  yieldExpr := enoughPast_zero
  lambda := enoughPast_zero
  lambdaParams _ := enough_zero
  lambdaParam := enough_zero
  disjunction := enough_zero
  disjunctionRest _ := enough_zero
  conjunction := enough_zero
  conjunctionRest _ := enough_zero
  inversion := enough_zero
  comparison := enough_zero
  comparisonLinks _ := enough_zero
  operatorChain _ := enough_zero
  chainRest _ _ := enough_zero
  operand _ := enough_zero
  factor := enough_zero
  power := enough_zero
  awaitPrimary := enough_zero
  primary := enough_zero
  trailers _ := enough_zero
  call _ := enoughPast_zero
  arguments _ _ _ := enough_zero
  loneGenerator _ _ := enough_zero
  subscript _ := enoughPast_zero
  slices := enough_zero
  slicesRest _ := enough_zero
  slice := enough_zero
  sliceTail _ _ := enoughPast_zero
  bound := enough_zero
  atom := enough_zero
  strings _ _ _ := enough_zero
  parenthesized := enoughPast_zero
  parenContents _ := enough_zero
  listForm := enoughPast_zero
  listContents _ := enough_zero
  braceForm := enoughPast_zero
  braceContents _ := enough_zero
  dictEntries _ _ := enough_zero
  entry := enough_zero
  moreElements _ _ := enough_zero
  clauses _ := enough_zero
  clause := enoughPast_zero
  conditions _ := enough_zero
  forTarget := enough_zero
  forTargetRest _ := enough_zero
  forTargetItem := enough_zero
  fstring := enoughPast_zero
  fstringParts _ _ _ := enough_zero
  field := enoughPast_zero
  fieldContents := enoughPast_zero
  formatSpec _ := enough_zero

/-! ## The steps that take no fuel -/

variable {β : Type} {p : Nat} {Q : β → Nat → Prop}

lemma run_atClause (ts : TokenStream) (p : Nat) :
    atClause ts p = .ok ([TokenKind.keyword .for, .keyword .async].contains (ts.tokenAt p).kind, p) :=
  run_checkAny ts p _

/-- A token that a check found is no end of input, when the kind checked for is not. -/
lemma ne_eof_of_check {k : TokenKind} (h : ((ts.tokenAt p).kind == k) = true) (hk : k ≠ .eof) :
    (ts.tokenAt p).kind ≠ .eof := by
  rw [beq_iff_eq] at h
  rw [h]
  exact hk

/-- A comprehension clause starts at a keyword, no end of input. -/
lemma ne_eof_of_atClause
    (h : [TokenKind.keyword .for, .keyword .async].contains (ts.tokenAt p).kind = true) :
    (ts.tokenAt p).kind ≠ .eof := by
  intro heof
  simp [heof] at h

lemma BinLevel.operator?_eof (level : BinLevel) : level.operator? .eof = none := by
  cases level <;> rfl

/-- A target that cannot be assigned to is refused with `cannot assign to …`, no out-of-fuel
failure. -/
lemma targetError?_fueled : ∀ e err, targetError? e = some err → ¬ err.OutOfFuel := by
  refine targetError?.induct (fun e => ∀ err, targetError? e = some err → ¬ err.OutOfFuel)
    (fun l => ∀ err, firstTargetError? l = some err → ¬ err.OutOfFuel)
    ?_ ?_ ?_ ?_ ?_ ?_ ?_ ?_ ?_ ?_
  · intro _ err h
    simp [targetError?] at h
  · intro _ _ _ err h
    simp [targetError?] at h
  · intro _ _ _ err h
    simp [targetError?] at h
  · intro inner _ ih err h
    exact ih err (by simpa [targetError?] using h)
  · intro items _ ih err h
    exact ih err (by simpa [targetError?] using h)
  · intro items _ ih err h
    exact ih err (by simpa [targetError?] using h)
  · intro e h1 h2 h3 h4 h5 h6 err h
    -- the last case of the match, the only one the hypotheses leave
    rw [targetError?.eq_def] at h
    split at h
    all_goals first
      | exact absurd rfl (h1 _) | exact absurd rfl (h2 _ _ _) | exact absurd rfl (h3 _ _ _)
      | exact absurd rfl (h4 _ _) | exact absurd rfl (h5 _ _) | exact absurd rfl (h6 _ _)
      | skip
    simp only [Option.some.injEq] at h
    subst h
    exact not_outOfFuel_of_diverges (by decide) _ _ _ _
  · intro err h
    simp [firstTargetError?] at h
  · intro e rest err' he ih err h
    simp only [firstTargetError?, he, Option.some.injEq] at h
    exact h ▸ ih err' he
  · intro e rest he _ ih err h
    simp only [firstTargetError?, he] at h
    exact ih err h

lemma settled_refuseStarred_bind {e : Expr} {f f' : PUnit → ParseM β}
    (h : e.isStarred = false → Settled ts (f ()) (f' ()) p Q) :
    Settled ts (refuseStarred e >>= f) (refuseStarred e >>= f') p Q := by
  unfold refuseStarred
  cases hs : e.isStarred
  · exact Settled.of_ok_bind rfl (h hs)
  · exact settled_failAt_bind (by decide)

lemma settled_refuseUnpacking_bind {e : Expr} {f f' : PUnit → ParseM β}
    (h : e.isStarred = false → Settled ts (f ()) (f' ()) p Q) :
    Settled ts (refuseUnpacking e >>= f) (refuseUnpacking e >>= f') p Q := by
  unfold refuseUnpacking
  cases hs : e.isStarred
  · exact Settled.of_ok_bind rfl (h hs)
  · exact settled_failAt_bind (by decide)

/-- A comparison operator is read past its tokens; where none stands, nothing is read. -/
lemma settled_comparisonOp (hts : ts.EndsWithEof) (hp : p < ts.tokens.size) :
    Settled ts comparisonOp? comparisonOp? p fun op q =>
      ts.Within p q ∧ (op.isSome → ts.Past p q) := by
  by_cases hk : (ts.tokenAt p).kind = .eof
  · unfold comparisonOp?
    refine Settled.of_ok_bind (run_currentKind ts p) ?_
    simp only [hk]
    refine Settled.of_ok_bind (run_currentKind ts p) ?_
    refine Settled.of_ok_bind (run_peekKind ts p 1) ?_
    simp only [hk]
    exact settled_pure ⟨within_refl hp, by simp⟩
  · have h₁ := past_next hts hp hk
    have h₂ : ts.Past p (ts.next (ts.next p)) := h₁.trans_within (within_next h₁.2)
    unfold comparisonOp?
    refine Settled.of_ok_bind (run_currentKind ts p) ?_
    split <;> dsimp only
    all_goals first
      | exact Settled.of_ok_bind run_discard_advance (settled_pure ⟨h₁.within, fun _ => h₁⟩)
      | skip
    refine Settled.of_ok_bind (run_currentKind ts p) ?_
    refine Settled.of_ok_bind (run_peekKind ts p 1) ?_
    split
    · refine Settled.of_ok_bind run_discard_advance ?_
      exact Settled.of_ok_bind run_discard_advance (settled_pure ⟨h₂.within, fun _ => h₂⟩)
    · refine Settled.of_ok_bind run_discard_advance ?_
      exact Settled.of_ok_bind run_discard_advance (settled_pure ⟨h₂.within, fun _ => h₂⟩)
    · exact Settled.of_ok_bind run_discard_advance (settled_pure ⟨h₁.within, fun _ => h₁⟩)
    · exact settled_pure ⟨within_refl hp, by simp⟩

/-- The conversion of a field is read, or refused with a message of its own. -/
lemma settled_conversion (hp : p < ts.tokens.size) :
    Settled ts conversion conversion p fun _ q => ts.Within p q := by
  have h₁ := within_next hp
  unfold conversion
  refine Settled.of_ok_bind (run_advance ts p) ?_
  refine Settled.of_ok_bind (run_current ts _) ?_
  refine Settled.ite (fun _ => settled_failAt (by decide)) fun _ => ?_
  refine Settled.ite (fun _ => settled_failAt (by decide)) fun _ => ?_
  refine Settled.of_ok_bind (run_read ts _) ?_
  dsimp only
  split
  · exact Settled.of_ok_bind run_discard_advance (settled_pure (h₁.trans (within_next h₁.2)))
  · rw [String.append_assoc]
    exact settled_failAt_append (by decide)

end Grammar

end ExprFront
