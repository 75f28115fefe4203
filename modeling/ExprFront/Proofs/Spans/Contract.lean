import Mathlib
import ExprFront.Proofs.Spans.Stream

/-!
# What each production of the grammar gives

`Grammar.Sound ts n` holds one contract for each production of the grammar run with fuel `n` on
the token stream `ts`. A production that reads an expression of its own (`Grammar.Fresh`) reads
one that nests and lies within the tokens it took. One that goes on after an expression already
read (`Grammar.Continues`), or after an opening bracket (`Grammar.Opens`), gives one that nests
and lies within all the tokens from the first. One that adds items to a list (`Grammar.Extends`)
keeps them nested and following one another. Parameters, call arguments and f-string parts have
contracts of their own (`ParamsRead`, `ArgsRead`, `PartsRead`), which add what their names and
pieces of text satisfy.

The contracts hold at every fuel (`Grammar.sound`, in `Spans.Grammar`): without fuel every
production fails, and each production with fuel `n + 1` keeps its contract when the productions
it calls, with fuel `n`, keep theirs.
-/

namespace ExprFront

namespace TokenStream

/-- Lambda parameters read up to position `j`, from the text offset `lo` on: their names are well
formed and lie between `lo` and the end of the token before `j`, and their defaults nest and follow
one another. -/
structure ParamsRead (ts : TokenStream) (lo : Nat) (ps : List Param) (j : Nat) : Prop where
  names : ∀ p ∈ ps, p.name.WF ∧ p.name.Inside ⟨lo, ts.stopBefore j⟩
  defaults : ts.ReadsAll lo (ps.filterMap Param.default) j

/-- Call arguments read up to position `j`, from the text offset `lo` on: the names of keyword
arguments are well formed and lie between `lo` and the end of the token before `j`, and the
values nest and follow one another. -/
structure ArgsRead (ts : TokenStream) (lo : Nat) (args : List Arg) (j : Nat) : Prop where
  names : ∀ a ∈ args, ∀ name ∈ a.keyword?, name.WF ∧ name.Inside ⟨lo, ts.stopBefore j⟩
  values : ts.ReadsAll lo (args.map Arg.value) j

/-- F-string parts read up to position `j`, from the text offset `lo` on: they fit between `lo`
and the end of the token before `j`, and the expressions of their fields nest and follow one
another. -/
structure PartsRead (ts : TokenStream) (lo : Nat) (ps : List FPart) (j : Nat) : Prop where
  fits : ∀ p ∈ ps, p.Fits ⟨lo, ts.stopBefore j⟩
  exprs : ts.ReadsAll lo (FPart.listExprs ps) j

end TokenStream

namespace ParseM

/-! ## What a run that succeeds gives -/

variable {α β : Type} {ts : TokenStream} {p : Nat}

/-- Every run of `m` on `ts` from position `p` that succeeds ends with a value and a position
that satisfy `Q`. -/
def OkAt (ts : TokenStream) (m : ParseM α) (p : Nat) (Q : α → Nat → Prop) : Prop :=
  ∀ a q, m ts p = .ok (a, q) → Q a q

variable {Q : β → Nat → Prop}

lemma OkAt.congr {m m' : ParseM β} {p' : Nat} (h : m ts p = m' ts p') :
    OkAt ts m p Q ↔ OkAt ts m' p' Q := by
  simp only [OkAt, h]

lemma OkAt.mono {m : ParseM β} {Q' : β → Nat → Prop} (h : OkAt ts m p Q)
    (hQ : ∀ b q, Q b q → Q' b q) : OkAt ts m p Q' :=
  fun b q hm => hQ b q (h b q hm)

/-- A run that ends no earlier than `p` ends no earlier than any position before `p`. -/
lemma OkAt.from_le {m : ParseM β} {R : β → Nat → Prop} {p₀ : Nat}
    (h : OkAt ts m p fun b q => p ≤ q ∧ R b q) (hp : p₀ ≤ p) :
    OkAt ts m p fun b q => p₀ ≤ q ∧ R b q :=
  h.mono fun _ _ ⟨hq, hR⟩ => ⟨hp.trans hq, hR⟩

/-- A run of `m >>= f` that succeeds runs `m`, then `f` from where `m` stopped. -/
lemma okAt_bind {m : ParseM α} {f : α → ParseM β} :
    OkAt ts (m >>= f) p Q ↔ ∀ a q, m ts p = .ok (a, q) → OkAt ts (f a) q Q := by
  simp only [OkAt, bind_eq_ok]
  exact ⟨fun h a q ha b r hb => h b r ⟨a, q, ha, hb⟩, fun h b r ⟨a, q, ha, hb⟩ => h a q ha b r hb⟩

/-- A run of `m >>= f` satisfies `Q` when `m` ends as `R` says, and `f` from any such end
satisfies `Q`. -/
lemma OkAt.bind {m : ParseM α} {f : α → ParseM β} {R : α → Nat → Prop} (h : OkAt ts m p R)
    (hf : ∀ a q, R a q → OkAt ts (f a) q Q) : OkAt ts (m >>= f) p Q :=
  okAt_bind.mpr fun a q hm => hf a q (h a q hm)

@[simp] lemma okAt_pure {b : β} : OkAt ts (pure b) p Q ↔ Q b p := by
  simp [OkAt]

@[simp] lemma okAt_pure_bind {a : α} {f : α → ParseM β} :
    OkAt ts (pure a >>= f) p Q ↔ OkAt ts (f a) p Q := by
  rw [pure_bind]

/-- Both branches of a choice going on the same way go on that way after the choice. -/
lemma okAt_ite_bind {c : Prop} [Decidable c] {x y : ParseM α} {g : α → ParseM β} :
    OkAt ts (if c then x >>= g else y >>= g) p Q ↔ OkAt ts ((if c then x else y) >>= g) p Q := by
  split <;> rfl

@[simp] lemma okAt_map {g : α → β} {m : ParseM α} :
    OkAt ts (g <$> m) p Q ↔ OkAt ts m p fun a q => Q (g a) q := by
  rw [map_eq_pure_bind, okAt_bind]
  simp only [okAt_pure]
  rfl

@[simp] lemma okAt_throw {e : SyntaxError} : OkAt ts (throw e : ParseM β) p Q := by
  simp [OkAt]

@[simp] lemma okAt_failAt {span : Span} {message : String} :
    OkAt ts (failAt span message : ParseM β) p Q := by
  simp [OkAt]

@[simp] lemma okAt_failUnexpected {message : String} :
    OkAt ts (failUnexpected message : ParseM β) p Q := by
  simp [OkAt]

@[simp] lemma okAt_abort {message : String} : OkAt ts (abort message : ParseM β) p Q := by
  simp [OkAt]

/-- The arena's check on a list moves nothing, and a panic gives no result. -/
@[simp] lemma okAt_storeList_bind {n : Nat} {f : PUnit → ParseM β} :
    OkAt ts (storeList n >>= f) p Q ↔ (n ≤ maxListLength → OkAt ts (f ()) p Q) := by
  unfold storeList
  split
  · simp_all
  · simp only [*, false_implies, iff_true, okAt_bind]
    intro _ _ hfail
    simp at hfail

/-- What the run after the arena's check satisfies, the whole run satisfies. -/
lemma OkAt.after_storeList {n : Nat} {f : PUnit → ParseM β} (h : OkAt ts (f ()) p Q) :
    OkAt ts (storeList n >>= f) p Q :=
  okAt_storeList_bind.2 fun _ => h

@[simp] lemma okAt_throw_bind {e : SyntaxError} {f : α → ParseM β} :
    OkAt ts (throw e >>= f) p Q := by
  rw [okAt_bind]
  intro _ _ h
  simp at h

@[simp] lemma okAt_failAt_bind {span : Span} {message : String} {f : α → ParseM β} :
    OkAt ts (failAt span message >>= f) p Q := by
  rw [okAt_bind]
  intro _ _ h
  simp at h

@[simp] lemma okAt_failUnexpected_bind {message : String} {f : α → ParseM β} :
    OkAt ts (failUnexpected message >>= f) p Q := by
  rw [okAt_bind]
  intro _ _ h
  simp at h

@[simp] lemma okAt_withContext {c : ErrorContext} {m : ParseM β} :
    OkAt ts (withContext c m) p Q ↔ OkAt ts m p Q := by
  simp only [OkAt, run_withContext_eq_ok]

@[simp] lemma okAt_withContext_bind {c : ErrorContext} {m : ParseM α} {f : α → ParseM β} :
    OkAt ts (withContext c m >>= f) p Q ↔ OkAt ts (m >>= f) p Q := by
  simp only [okAt_bind, run_withContext_eq_ok]

@[simp] lemma okAt_discard_withContext_bind {c : ErrorContext} {m : ParseM α}
    {f : PUnit → ParseM β} :
    OkAt ts (discard (withContext c m) >>= f) p Q ↔ OkAt ts (discard m >>= f) p Q := by
  have key : ∀ r, discard (withContext c m) ts p = .ok r ↔ discard m ts p = .ok r := by
    intro r
    simp only [run_discard]
    cases h : m ts p with
    | error e =>
      have hne : ∀ a, withContext c m ts p ≠ .ok a := fun a h' => by
        simp [run_withContext_eq_ok, h] at h'
      cases h' : withContext c m ts p with
      | error e' => simp [Except.map]
      | ok a => exact absurd h' (hne a)
    | ok a =>
      have hok : withContext c m ts p = .ok a := by simp [run_withContext_eq_ok, h]
      simp [hok]
  simp only [okAt_bind, key]

@[simp] lemma okAt_current_bind {f : Token → ParseM β} :
    OkAt ts (current >>= f) p Q ↔ OkAt ts (f (ts.tokenAt p)) p Q :=
  OkAt.congr (by simp only [run_bind, run_current]; rfl)

@[simp] lemma okAt_currentKind_bind {f : TokenKind → ParseM β} :
    OkAt ts (currentKind >>= f) p Q ↔ OkAt ts (f (ts.tokenAt p).kind) p Q :=
  OkAt.congr (by simp only [run_bind, run_currentKind]; rfl)

@[simp] lemma okAt_currentSpan_bind {f : Span → ParseM β} :
    OkAt ts (currentSpan >>= f) p Q ↔ OkAt ts (f (ts.tokenAt p).span) p Q :=
  OkAt.congr (by simp only [run_bind, run_currentSpan]; rfl)

@[simp] lemma okAt_peekKind_bind {n : Nat} {f : TokenKind → ParseM β} :
    OkAt ts (peekKind n >>= f) p Q ↔ OkAt ts (f (ts.tokenAt (p + n)).kind) p Q :=
  OkAt.congr (by simp only [run_bind, run_peekKind]; rfl)

@[simp] lemma okAt_check_bind {k : TokenKind} {f : Bool → ParseM β} :
    OkAt ts (check k >>= f) p Q ↔ OkAt ts (f ((ts.tokenAt p).kind == k)) p Q :=
  OkAt.congr (by simp only [run_bind, run_check]; rfl)

@[simp] lemma okAt_checkAny_bind {ks : List TokenKind} {f : Bool → ParseM β} :
    OkAt ts (checkAny ks >>= f) p Q ↔ OkAt ts (f (ks.contains (ts.tokenAt p).kind)) p Q :=
  OkAt.congr (by simp only [run_bind, run_checkAny]; rfl)

@[simp] lemma okAt_advance_bind {f : Token → ParseM β} :
    OkAt ts (advance >>= f) p Q ↔ OkAt ts (f (ts.tokenAt p)) (ts.next p) Q :=
  OkAt.congr (by simp only [run_bind, run_advance]; rfl)

@[simp] lemma okAt_discard_advance_bind {f : PUnit → ParseM β} :
    OkAt ts (discard advance >>= f) p Q ↔ OkAt ts (f ()) (ts.next p) Q :=
  OkAt.congr (by simp only [run_bind, run_discard, run_advance]; rfl)

@[simp] lemma okAt_previousSpan_bind {f : Span → ParseM β} :
    OkAt ts (previousSpan >>= f) p Q ↔ OkAt ts (f (ts.spanBefore p)) p Q :=
  OkAt.congr (by simp only [run_bind, run_previousSpan]; rfl)

@[simp] lemma okAt_read_bind {f : TokenStream → ParseM β} :
    OkAt ts (read >>= f) p Q ↔ OkAt ts (f ts) p Q := Iff.rfl

@[simp] lemma okAt_eat {k : TokenKind} {Q : Bool → Nat → Prop} :
    OkAt ts (eat k) p Q ↔ if (ts.tokenAt p).kind = k then Q true (ts.next p) else Q false p := by
  by_cases hk : (ts.tokenAt p).kind = k <;> simp [OkAt, run_eat, hk]

@[simp] lemma okAt_eat_bind {k : TokenKind} {f : Bool → ParseM β} :
    OkAt ts (eat k >>= f) p Q ↔
      if (ts.tokenAt p).kind = k then OkAt ts (f true) (ts.next p) Q else OkAt ts (f false) p Q := by
  by_cases hk : (ts.tokenAt p).kind = k
  · simp only [hk, if_true]
    exact OkAt.congr (by simp [run_bind, run_eat, hk, Except.bind])
  · simp only [hk, if_false]
    exact OkAt.congr (by simp [run_bind, run_eat, hk, Except.bind])

/-- An optional token: eating it, or not, moves forward and stays inside the stream. -/
lemma okAt_eat_within {k : TokenKind} (hp : p < ts.tokens.size) :
    OkAt ts (eat k) p fun b q => p ≤ q ∧ q < ts.tokens.size ∧ (b = true → q = ts.next p) := by
  simp only [okAt_eat]
  split_ifs
  · exact ⟨TokenStream.le_next p, TokenStream.next_lt hp, by simp⟩
  · exact ⟨le_rfl, hp, by simp⟩

@[simp] lemma okAt_expect_bind {k : TokenKind} {f : Token → ParseM β} :
    OkAt ts (expect k >>= f) p Q ↔
      ((ts.tokenAt p).kind = k → OkAt ts (f (ts.tokenAt p)) (ts.next p) Q) := by
  by_cases hk : (ts.tokenAt p).kind = k
  · simp only [hk, forall_const]
    exact OkAt.congr (by simp [run_bind, run_expect, hk, Except.bind])
  · simp only [hk, IsEmpty.forall_iff, iff_true]
    intro a q h
    simp [run_bind, run_expect, hk, Except.bind] at h

@[simp] lemma okAt_discard_expect_bind {k : TokenKind} {f : PUnit → ParseM β} :
    OkAt ts (discard (expect k) >>= f) p Q ↔
      ((ts.tokenAt p).kind = k → OkAt ts (f ()) (ts.next p) Q) := by
  by_cases hk : (ts.tokenAt p).kind = k
  · simp only [hk, forall_const]
    exact OkAt.congr (by simp [run_bind, run_discard, run_expect, hk, Except.bind, Except.map])
  · simp only [hk, IsEmpty.forall_iff, iff_true]
    intro a q h
    simp [run_bind, run_discard, run_expect, hk, Except.bind, Except.map] at h

end ParseM

namespace Grammar

open ParseM

variable {β : Type} {ts : TokenStream} {p : Nat} {Q : β → Nat → Prop} {e : Expr}
  {f : PUnit → ParseM β}

@[simp] lemma okAt_refuseStarred_bind :
    OkAt ts (refuseStarred e >>= f) p Q ↔ (e.isStarred = false → OkAt ts (f ()) p Q) := by
  cases h : e.isStarred
  · simp [refuseStarred, h]
  · simp only [refuseStarred, h, if_true, Bool.true_eq_false, false_implies, iff_true, okAt_bind]
    intro _ _ hfail
    simp at hfail

@[simp] lemma okAt_refuseUnpacking_bind :
    OkAt ts (refuseUnpacking e >>= f) p Q ↔ (e.isStarred = false → OkAt ts (f ()) p Q) := by
  cases h : e.isStarred
  · simp [refuseUnpacking, h]
  · simp only [refuseUnpacking, h, if_true, Bool.true_eq_false, false_implies, iff_true, okAt_bind]
    intro _ _ hfail
    simp at hfail

@[simp] lemma okAt_atClause_bind {f : Bool → ParseM β} :
    OkAt ts (atClause >>= f) p Q ↔
      OkAt ts (f ([TokenKind.keyword .for, .keyword .async].contains (ts.tokenAt p).kind)) p Q :=
  okAt_checkAny_bind

end Grammar

namespace Grammar

open TokenStream ParseM

variable (ts : TokenStream)

/-- A production that reads an expression of its own: from any position inside the stream, what
it reads nests and lies within the tokens it took. -/
def Fresh (m : ParseM Expr) : Prop :=
  ∀ i, i < ts.tokens.size → OkAt ts m i (ts.Reads i)

/-- A production that goes on after an expression read from `i0`: it gives one that nests and lies
within all the tokens from `i0`. -/
def Continues (m : Expr → ParseM Expr) : Prop :=
  ∀ i0 left i, ts.Reads i0 left i → OkAt ts (m left) i (ts.Reads i0)

/-- A production that goes on after the opening bracket at `i0`, with the bracket's span: it gives
an expression that nests and lies within all the tokens from `i0`. -/
def Opens (m : Span → ParseM Expr) : Prop :=
  ∀ i0, i0 < ts.tokens.size → OkAt ts (m (ts.tokenAt i0).span) (ts.next i0) (ts.Reads i0)

/-- A production that adds items to a list of expressions read one after another: the list it
gives is one too. -/
def Extends (m : Array Expr → ParseM (Array Expr)) : Prop :=
  ∀ lo acc i, ts.ReadsAll lo acc.toList i →
    OkAt ts (m acc) i fun res j => i ≤ j ∧ ts.ReadsAll lo res.toList j

/-- The contracts of the productions of the grammar with fuel `n`. -/
structure Sound (n : Nat) : Prop where
  fieldExpression : Fresh ts (fieldExpression n)
  sequence : ∀ item, Fresh ts (sequence item n)
  sequenceRest : ∀ item, Extends ts (sequenceRest item · n)
  element : ∀ item, Fresh ts (element item n)
  starred : Fresh ts (starred n)
  namedExpression : Fresh ts (namedExpression n)
  expression : Fresh ts (expression n)
  yieldExpr : ∀ i, i < ts.tokens.size → (ts.tokenAt i).kind ≠ .eof →
    OkAt ts (yieldExpr n) i (ts.Reads i)
  lambda : Fresh ts (lambda n)
  lambdaParams : ∀ lo acc i, ts.ParamsRead lo acc.toList i →
    OkAt ts (lambdaParams acc n) i fun res j => i ≤ j ∧ ts.ParamsRead lo res.toList j
  lambdaParam : ∀ i, i < ts.tokens.size →
    OkAt ts (lambdaParam n) i fun p j => i < j ∧ ts.ParamsRead (ts.startAt i) [p] j
  disjunction : Fresh ts (disjunction n)
  disjunctionRest : Continues ts (disjunctionRest · n)
  conjunction : Fresh ts (conjunction n)
  conjunctionRest : Continues ts (conjunctionRest · n)
  inversion : Fresh ts (inversion n)
  comparison : Fresh ts (comparison n)
  comparisonLinks : ∀ lo acc i, ts.ReadsAll lo (acc.toList.map Link.right) i →
    OkAt ts (comparisonLinks acc n) i fun res j =>
      i ≤ j ∧ ts.ReadsAll lo (res.toList.map Link.right) j
  operatorChain : ∀ level, Fresh ts (operatorChain level n)
  chainRest : ∀ level, Continues ts (chainRest level · n)
  operand : ∀ level, Fresh ts (operand level n)
  factor : Fresh ts (factor n)
  power : Fresh ts (power n)
  awaitPrimary : Fresh ts (awaitPrimary n)
  primary : Fresh ts (primary n)
  trailers : Continues ts (trailers · n)
  call : Continues ts (call · n)
  arguments : ∀ lo acc seenKeyword seenDoubleStar i, ts.ArgsRead lo acc.toList i →
    OkAt ts (arguments acc seenKeyword seenDoubleStar n) i fun res j =>
      i ≤ j ∧ ts.ArgsRead lo res.toList j
  loneGenerator : ∀ isFirst, Continues ts (loneGenerator · isFirst n)
  subscript : Continues ts (subscript · n)
  slices : Fresh ts (slices n)
  slicesRest : Extends ts (slicesRest · n)
  slice : Fresh ts (slice n)
  sliceTail : ∀ i0 lower i, (ts.tokenAt i).kind = .punct .colon →
    (lower = none ∧ i = i0 ∨ ∃ l, lower = some l ∧ ts.Reads i0 l i) →
    i < ts.tokens.size → OkAt ts (sliceTail (ts.tokenAt i0).span lower n) i (ts.Reads i0)
  bound : ∀ i, i < ts.tokens.size →
    OkAt ts (bound n) i fun res j => i ≤ j ∧ ts.ReadsAll (ts.stopBefore i) res.toList j
  atom : Fresh ts (atom n)
  strings : ∀ i0 parts bytes i,
    (parts.toList = [] ∧ i = i0 ∧ i < ts.tokens.size ∧
      ((∃ d, (ts.tokenAt i).kind = .string d) ∨ ∃ d, (ts.tokenAt i).kind = .fstringStart d)) ∨
    (i0 < i ∧ parts.toList ≠ [] ∧ ts.ReadsAll (ts.startAt i0) parts.toList i) →
    OkAt ts (strings (ts.tokenAt i0).span parts bytes n) i (ts.Reads i0)
  parenthesized : Fresh ts (parenthesized n)
  parenContents : Opens ts (parenContents · n)
  listForm : Fresh ts (listForm n)
  listContents : Opens ts (listContents · n)
  braceForm : Fresh ts (braceForm n)
  braceContents : Opens ts (braceContents · n)
  dictEntries : ∀ i0 lo acc i, i0 < i → ts.startAt i0 ≤ lo →
    ts.ReadsAll lo (acc.toList.flatMap DictEntry.exprs) i →
    OkAt ts (dictEntries (ts.tokenAt i0).span acc n) i (ts.Reads i0)
  entry : ∀ i, i < ts.tokens.size →
    OkAt ts (entry n) i fun en j => i < j ∧ ts.ReadsAll (ts.startAt i) en.exprs j
  moreElements : ∀ close, Extends ts (moreElements close · n)
  clauses : ∀ lo acc i, ts.ReadsAll lo (acc.toList.flatMap Clause.exprs) i →
    OkAt ts (clauses acc n) i fun res j =>
      i ≤ j ∧ ts.ReadsAll lo (res.toList.flatMap Clause.exprs) j
  clause : ∀ i, i < ts.tokens.size →
    OkAt ts (clause n) i fun c j => i < j ∧ ts.ReadsAll (ts.startAt i) c.exprs j
  conditions : Extends ts (conditions · n)
  forTarget : Fresh ts (forTarget n)
  forTargetRest : Extends ts (forTargetRest · n)
  forTargetItem : Fresh ts (forTargetItem n)
  fstring : Fresh ts (fstring n)
  fstringParts : ∀ d i0 acc i, i0 < i → ts.PartsRead (ts.startAt i0) acc.toList i →
    OkAt ts (fstringParts d (ts.tokenAt i0).span acc n) i (ts.Reads i0)
  field : ∀ i, i < ts.tokens.size →
    OkAt ts (field n) i fun f j => i < j ∧ ts.PartsRead (ts.startAt i) [.field f] j
  fieldContents : ∀ i, i < ts.tokens.size →
    OkAt ts (fieldContents n) i fun f j => i < j ∧ ts.PartsRead (ts.startAt i) [.field f] j
  formatSpec : ∀ lo acc i, ts.PartsRead lo acc.toList i →
    OkAt ts (formatSpec acc n) i fun res j => i ≤ j ∧ ts.PartsRead lo res.toList j

variable {ts}

lemma okAt_outOfFuel {α : Type} {p : Nat} {Q : α → Nat → Prop} : OkAt ts outOfFuel p Q := by
  simp [OkAt, outOfFuel]

/-- Without fuel every production fails, so every contract holds. -/
lemma sound_zero : Sound ts 0 where
  fieldExpression _ _ := okAt_outOfFuel
  sequence _ _ _ := okAt_outOfFuel
  sequenceRest _ _ _ _ _ := okAt_outOfFuel
  element _ _ _ := okAt_outOfFuel
  starred _ _ := okAt_outOfFuel
  namedExpression _ _ := okAt_outOfFuel
  expression _ _ := okAt_outOfFuel
  yieldExpr _ _ _ := okAt_outOfFuel
  lambda _ _ := okAt_outOfFuel
  lambdaParams _ _ _ _ := okAt_outOfFuel
  lambdaParam _ _ := okAt_outOfFuel
  disjunction _ _ := okAt_outOfFuel
  disjunctionRest _ _ _ _ := okAt_outOfFuel
  conjunction _ _ := okAt_outOfFuel
  conjunctionRest _ _ _ _ := okAt_outOfFuel
  inversion _ _ := okAt_outOfFuel
  comparison _ _ := okAt_outOfFuel
  comparisonLinks _ _ _ _ := okAt_outOfFuel
  operatorChain _ _ _ := okAt_outOfFuel
  chainRest _ _ _ _ _ := okAt_outOfFuel
  operand _ _ _ := okAt_outOfFuel
  factor _ _ := okAt_outOfFuel
  power _ _ := okAt_outOfFuel
  awaitPrimary _ _ := okAt_outOfFuel
  primary _ _ := okAt_outOfFuel
  trailers _ _ _ _ := okAt_outOfFuel
  call _ _ _ _ := okAt_outOfFuel
  arguments _ _ _ _ _ _ := okAt_outOfFuel
  loneGenerator _ _ _ _ _ := okAt_outOfFuel
  subscript _ _ _ _ := okAt_outOfFuel
  slices _ _ := okAt_outOfFuel
  slicesRest _ _ _ _ := okAt_outOfFuel
  slice _ _ := okAt_outOfFuel
  sliceTail _ _ _ _ _ _ := okAt_outOfFuel
  bound _ _ := okAt_outOfFuel
  atom _ _ := okAt_outOfFuel
  strings _ _ _ _ _ := okAt_outOfFuel
  parenthesized _ _ := okAt_outOfFuel
  parenContents _ _ := okAt_outOfFuel
  listForm _ _ := okAt_outOfFuel
  listContents _ _ := okAt_outOfFuel
  braceForm _ _ := okAt_outOfFuel
  braceContents _ _ := okAt_outOfFuel
  dictEntries _ _ _ _ _ _ _ := okAt_outOfFuel
  entry _ _ := okAt_outOfFuel
  moreElements _ _ _ _ _ := okAt_outOfFuel
  clauses _ _ _ _ := okAt_outOfFuel
  clause _ _ := okAt_outOfFuel
  conditions _ _ _ _ := okAt_outOfFuel
  forTarget _ _ := okAt_outOfFuel
  forTargetRest _ _ _ _ := okAt_outOfFuel
  forTargetItem _ _ := okAt_outOfFuel
  fstring _ _ := okAt_outOfFuel
  fstringParts _ _ _ _ _ _ := okAt_outOfFuel
  field _ _ := okAt_outOfFuel
  fieldContents _ _ := okAt_outOfFuel
  formatSpec _ _ _ _ := okAt_outOfFuel

/-- One more item read from a position no earlier, then a production that extends the list:
the list read up to its end is one too. -/
lemma Extends.push (hts : ts.Ordered) {m : Array Expr → ParseM (Array Expr)} (hm : Extends ts m)
    {lo i k j : Nat} {acc : Array Expr} {e : Expr} (hacc : ts.ReadsAll lo acc.toList i)
    (he : ts.Reads k e j) (hik : i ≤ k) :
    OkAt ts (m (acc.push e)) j fun res j' => i ≤ j' ∧ ts.ReadsAll lo res.toList j' :=
  (hm lo _ j (by simpa using hacc.snoc hts he hik)).from_le (hik.trans he.lt.le)

/-- A list given back as it is, from a position no earlier. -/
lemma okAt_keep (hts : ts.Ordered) {lo i k : Nat} {acc : Array Expr}
    (hacc : ts.ReadsAll lo acc.toList i) (hik : i ≤ k) (hk : k < ts.tokens.size) :
    OkAt ts (pure acc) k fun res j => i ≤ j ∧ ts.ReadsAll lo res.toList j := by
  simpa using ⟨hik, hacc.later hts hik hk⟩

end Grammar

end ExprFront
