import Mathlib
import ExprFront.Proofs.FirstSet.Brackets
import ExprFront.Proofs.Fuel.Levels
import ExprFront.Proofs.Fuel.Run
import ExprFront.Proofs.Spans.Lexed

/-!
# The tokens an expression begins with

An item of an expression list is read by a descent through the levels of the grammar, from the
item down to an atom. Each level lets one more kind of token begin it: an atom begins with a
name, a number, a constant, a literal or an opening bracket (`Grammar.startsAtom`), a power also
with `await`, a factor also with a prefix operator, an inversion also with `not`, an expression
also with `lambda`, and an item also with the `*` of a starred item. The hand-kept list
`TokenKind.canStartExpr` is exactly the union of these (`Grammar.canStartExpr_eq`).

The main statement, `Grammar.element_fails_at_first_token_iff`: on a stream as the lexer gives
it, with fuel for the descent from an item to an atom (the parser gives far more), an item fails
with `expected expression` at its first token exactly when that token cannot start an
expression.

* Where it cannot, the descent reaches the atom without taking a token, and the atom fails
  there (`element_fails`).
* Where it can, the level that lets the token begin takes it, and everything after runs
  steadily (`Grammar.steadies`), so no `expected expression` failure can stand at that token
  any more (`element_takes`).

A list that stops at a comma, a `yield` left without a value and a slice left without a bound
are each decided by `canStartExpr` of the next token; so each time an item read there instead
would have failed at that token before taking it, and nothing an item could read is left
behind.
-/

namespace ExprFront

namespace TokenStream.Ordered

variable {ts : TokenStream} {p : Nat}

/-- Only positions inside the stream hold a token other than the end of input. -/
lemma lt_size_of_ne_eof (hts : ts.Ordered) (hk : (ts.tokenAt p).kind ≠ .eof) :
    p < ts.tokens.size := by
  by_contra hp
  apply hk
  -- past the end a read sees the last token, which is the end of input
  have hlast : ts.tokens.size - 1 < ts.tokens.size := by
    have := hts.nonempty
    omega
  have hback : ts.tokens.back? = some ts.tokens[ts.tokens.size - 1] := by
    rw [Array.back?_eq_getElem?]
    simp [hlast]
  simp only [TokenStream.tokenAt, Array.getElem?_eq_none (Nat.le_of_not_lt hp),
    Option.getD_none, hback, Option.getD_some]
  exact (hts.eof_iff _ hlast).mpr (by omega)

/-- Taking a token other than the end of input moves one place on, inside the stream. -/
lemma past_next (hts : ts.Ordered) (hk : (ts.tokenAt p).kind ≠ .eof) : ts.Past p (ts.next p) := by
  have hp := hts.lt_size_of_ne_eof hk
  rw [hts.next_eq hp hk]
  exact ⟨Nat.lt_succ_self p, hts.succ_lt hp hk⟩

end TokenStream.Ordered

namespace Grammar

open ParseM

/-! ## The first tokens of the levels -/

/-- The kinds an atom begins with: a name, a number, a constant, a literal, an f-string or an
opening bracket. -/
def startsAtom : TokenKind → Bool
  | .name | .int | .float | .imaginary | .string _ | .fstringStart _ => true
  | .keyword .none | .keyword .true | .keyword .false => true
  | .punct .ellipsis | .punct .lparen | .punct .lbracket | .punct .lbrace => true
  | _ => false

/-- The kinds a power begins with: those of an atom, and `await`. -/
def startsPower (k : TokenKind) : Bool := startsAtom k || k == .keyword .await

/-- The kinds a factor begins with: those of a power, and the prefix operators. -/
def startsFactor (k : TokenKind) : Bool := startsPower k || (unaryOperator? k).isSome

/-- The kinds an inversion begins with: those of a factor, and `not`. -/
def startsInversion (k : TokenKind) : Bool := startsFactor k || k == .keyword .not

/-- The kinds an expression begins with: those of an inversion, and `lambda`. -/
def startsExpression (k : TokenKind) : Bool := startsInversion k || k == .keyword .lambda

/-- The kinds an expression can begin with are those of the levels of the grammar, with the `*`
of a starred item. -/
theorem canStartExpr_eq (k : TokenKind) :
    k.canStartExpr = (startsExpression k || k == .punct .star) := by
  cases k with
  | keyword kw => cases kw <;> rfl
  | punct pc => cases pc <;> rfl
  | _ => rfl

/-- A kind that a test accepts, where the test refuses the end of input, is not the end. -/
lemma ne_eof_of_starts {starts : TokenKind → Bool} {k : TokenKind} (hk : starts k = true)
    (heof : starts .eof = false) : k ≠ .eof := by
  rintro rfl
  rw [heof] at hk
  exact Bool.false_ne_true hk

/-! ## Where the first token can start an expression, it is taken -/

section Takes

variable {ts : TokenStream} (hts : ts.Ordered) {p : Nat}
include hts

lemma takes_outOfFuel (hp : p < ts.tokens.size) : Takes ts (outOfFuel : ParseM α) p :=
  takes_failUnexpected hts hp (by decide)

/-- A production takes its first token at every fuel once it does with fuel to spare: without
fuel it fails there with a message of its own. -/
lemma takes_of_succ {form : Nat → ParseM α} (hzero : form 0 = outOfFuel)
    (hk : (ts.tokenAt p).kind ≠ .eof) (hsucc : ∀ n, Takes ts (form (n + 1)) p) :
    ∀ n, Takes ts (form n) p := by
  intro n
  cases n with
  | zero =>
    rw [hzero]
    exact takes_outOfFuel hts (hts.lt_size_of_ne_eof hk)
  | succ n => exact hsucc n

lemma takes_discard_advance_bind (hk : (ts.tokenAt p).kind ≠ .eof) {f : PUnit → ParseM α}
    (hf : ∀ u, Steady ts (f u)) : Takes ts (discard advance >>= f) p := by
  refine Takes.bind ⟨fun u q h => ?_, fun e h => by simp [Except.map] at h⟩ hf
  simp only [run_discard_advance, Except.ok.injEq, Prod.mk.injEq] at h
  exact h.2 ▸ hts.past_next hk

/-- A bracketed form takes its opening bracket. -/
lemma bracketed_takes {form : Nat → ParseM Expr} {contents : Span → Nat → ParseM Expr}
    {c : ErrorContext} (hzero : form 0 = outOfFuel)
    (hsucc : ∀ n, form (n + 1) = do let opening ← advance; withContext c (contents opening.span n))
    (hcontents : ∀ n opening, Steady ts (contents opening n)) (hk : (ts.tokenAt p).kind ≠ .eof) :
    ∀ n, Takes ts (form n) p := by
  refine takes_of_succ hts hzero hk fun n => ?_
  rw [hsucc n]
  exact takes_advance_bind hts (hts.lt_size_of_ne_eof hk) hk fun _ =>
    (hcontents n _).withContext c

lemma fstring_takes {d : Delimiter} (hk : (ts.tokenAt p).kind = .fstringStart d) :
    ∀ n, Takes ts (fstring n) p := by
  have hne : (ts.tokenAt p).kind ≠ .eof := by simp [hk]
  refine takes_of_succ hts fstring.eq_1 hne fun n => ?_
  rw [fstring.eq_2]
  refine takes_advance_bind hts (hts.lt_size_of_ne_eof hne) hne fun start => ?_
  split
  · exact (steadies hts n).fstringParts _ _ _
  · exact steady_failAt (by decide) _

/-- A run of literals that starts at a literal or an f-string takes it. -/
lemma strings_takes (hk : (∃ d, (ts.tokenAt p).kind = .string d) ∨
    ∃ d, (ts.tokenAt p).kind = .fstringStart d) :
    ∀ start parts bytes n, Takes ts (strings start parts bytes n) p := by
  have hne : (ts.tokenAt p).kind ≠ .eof := by
    rcases hk with ⟨d, hd⟩ | ⟨d, hd⟩ <;> simp [hd]
  intro start parts bytes
  refine takes_of_succ hts (strings.eq_1 start parts bytes) hne fun n => ?_
  rw [strings.eq_2]
  refine Takes.of_ok_bind (run_current ts p) ?_
  extract_lets jp
  have hjp : ∀ e isBytes, Steady ts (jp (some (e, isBytes))) := fun _ _ =>
    Steady.ite (steady_previousSpan.bind fun _ => steady_failAt (by decide) _)
      ((steadies hts n).strings _ _ _)
  clear_value jp
  split
  · simp only [pure_bind]
    exact takes_discard_advance_bind hts hne fun _ => hjp _ _
  · rename_i d hd
    simp only [pure_bind]
    exact (fstring_takes hts hd n).bind fun _ => hjp _ _
  · rename_i hs hf
    rcases hk with ⟨d, hd⟩ | ⟨d, hd⟩
    · exact absurd hd (hs d)
    · exact absurd hd (hf d)

/-- An atom takes a token that begins one. -/
lemma atom_takes (hk : startsAtom (ts.tokenAt p).kind = true) : ∀ n, Takes ts (atom n) p := by
  have hne := ne_eof_of_starts hk rfl
  refine takes_of_succ hts atom.eq_1 hne fun n => ?_
  rw [atom.eq_2]
  refine Takes.of_ok_bind (run_current ts p) ?_
  dsimp only
  split
  · exact takes_discard_advance_bind hts hne fun _ => steady_pure _
  · split
    · rename_i d hd
      exact strings_takes hts (.inl ⟨d, hd⟩) _ _ _ n
    · rename_i d hd
      exact strings_takes hts (.inr ⟨d, hd⟩) _ _ _ n
    · exact bracketed_takes hts parenthesized.eq_1 parenthesized.eq_2
        (fun n o => (steadies hts n).parenContents o) hne n
    · exact bracketed_takes hts listForm.eq_1 listForm.eq_2
        (fun n o => (steadies hts n).listContents o) hne n
    · exact bracketed_takes hts braceForm.eq_1 braceForm.eq_2
        (fun n o => (steadies hts n).braceContents o) hne n
    · rename_i heq _ hs hf hl hb hc
      exfalso
      generalize (ts.tokenAt p).kind = k at hk heq hs hf hl hb hc
      cases k with
      | keyword kw => cases kw <;> simp_all [startsAtom]
      | punct pc => cases pc <;> simp_all [startsAtom]
      | _ => simp_all [startsAtom]

lemma primary_takes (hk : startsAtom (ts.tokenAt p).kind = true) :
    ∀ n, Takes ts (primary n) p := by
  refine takes_of_succ hts primary.eq_1 (ne_eof_of_starts hk rfl) fun n => ?_
  rw [primary.eq_2]
  exact (atom_takes hts hk n).bind fun value => (steadies hts n).trailers value

lemma awaitPrimary_takes (hk : startsPower (ts.tokenAt p).kind = true) :
    ∀ n, Takes ts (awaitPrimary n) p := by
  have hne := ne_eof_of_starts hk rfl
  refine takes_of_succ hts awaitPrimary.eq_1 hne fun n => ?_
  rw [awaitPrimary.eq_2]
  refine Takes.of_ok_bind (run_check ts p _) ?_
  split
  · exact takes_advance_bind hts (hts.lt_size_of_ne_eof hne) hne fun _ =>
      (steadies hts n).primary.bind fun _ => steady_pure _
  · rename_i hawait
    refine primary_takes hts ?_ n
    simpa [startsPower, hawait] using hk

lemma power_takes (hk : startsPower (ts.tokenAt p).kind = true) : ∀ n, Takes ts (power n) p := by
  refine takes_of_succ hts power.eq_1 (ne_eof_of_starts hk rfl) fun n => ?_
  rw [power.eq_2]
  exact (awaitPrimary_takes hts hk n).bind fun base => (steady_eat _).bind fun _ =>
    Steady.ite ((steadies hts n).factor.bind fun _ => steady_pure _) (steady_pure base)

lemma factor_takes (hk : startsFactor (ts.tokenAt p).kind = true) : ∀ n, Takes ts (factor n) p := by
  have hne := ne_eof_of_starts hk rfl
  refine takes_of_succ hts factor.eq_1 hne fun n => ?_
  rw [factor.eq_2]
  refine Takes.of_ok_bind (run_currentKind ts p) ?_
  split
  · exact takes_advance_bind hts (hts.lt_size_of_ne_eof hne) hne fun _ =>
      (steadies hts n).factor.bind fun _ => steady_pure _
  · rename_i hop
    refine power_takes hts ?_ n
    simpa [startsFactor, hop] using hk

/-- The operator levels take a token that begins a factor: a level's operand is the next
tighter level, and below the last one a factor. The induction is on the fuel, with the level
and its operand together. -/
lemma operatorChain_takes (hk : startsFactor (ts.tokenAt p).kind = true) :
    ∀ n level, Takes ts (operatorChain level n) p ∧ Takes ts (operand level n) p := by
  have hp := hts.lt_size_of_ne_eof (ne_eof_of_starts hk rfl)
  intro n
  induction n with
  | zero => exact fun _ => ⟨takes_outOfFuel hts hp, takes_outOfFuel hts hp⟩
  | succ n ih =>
    intro level
    constructor
    · rw [operatorChain.eq_2]
      exact (ih level).2.bind fun left => (steadies hts n).chainRest level left
    · rw [operand.eq_2]
      split
      · exact (ih _).1
      · exact factor_takes hts hk n

lemma comparison_takes (hk : startsFactor (ts.tokenAt p).kind = true) :
    ∀ n, Takes ts (comparison n) p := by
  refine takes_of_succ hts comparison.eq_1 (ne_eof_of_starts hk rfl) fun n => ?_
  rw [comparison.eq_2]
  refine ((operatorChain_takes hts hk n .bitOr).1.bind fun left =>
    (steadies hts n).comparisonLinks _ |>.bind fun links => ?_)
  split
  · exact steady_pure _
  · exact (steady_storeList _).bind fun _ => steady_pure _

lemma inversion_takes (hk : startsInversion (ts.tokenAt p).kind = true) :
    ∀ n, Takes ts (inversion n) p := by
  have hne := ne_eof_of_starts hk rfl
  refine takes_of_succ hts inversion.eq_1 hne fun n => ?_
  rw [inversion.eq_2]
  refine Takes.of_ok_bind (run_check ts p _) ?_
  split
  · exact takes_advance_bind hts (hts.lt_size_of_ne_eof hne) hne fun _ =>
      (steadies hts n).inversion.bind fun _ => steady_pure _
  · rename_i hnot
    refine comparison_takes hts ?_ n
    simpa [startsInversion, hnot] using hk

lemma conjunction_takes (hk : startsInversion (ts.tokenAt p).kind = true) :
    ∀ n, Takes ts (conjunction n) p := by
  refine takes_of_succ hts conjunction.eq_1 (ne_eof_of_starts hk rfl) fun n => ?_
  rw [conjunction.eq_2]
  exact (inversion_takes hts hk n).bind fun left => (steadies hts n).conjunctionRest left

lemma disjunction_takes (hk : startsInversion (ts.tokenAt p).kind = true) :
    ∀ n, Takes ts (disjunction n) p := by
  refine takes_of_succ hts disjunction.eq_1 (ne_eof_of_starts hk rfl) fun n => ?_
  rw [disjunction.eq_2]
  exact (conjunction_takes hts hk n).bind fun left => (steadies hts n).disjunctionRest left

lemma lambda_takes (hk : (ts.tokenAt p).kind = .keyword .lambda) : ∀ n, Takes ts (lambda n) p := by
  have hne : (ts.tokenAt p).kind ≠ .eof := by simp [hk]
  refine takes_of_succ hts lambda.eq_1 hne fun n => ?_
  rw [lambda.eq_2]
  exact takes_advance_bind hts (hts.lt_size_of_ne_eof hne) hne fun _ =>
    ((steadies hts n).lambdaParams _).bind fun _ =>
      ((steady_expect hts _).withContext _).discard.bind fun _ =>
        (steadies hts n).expression.bind fun _ => (steady_storeList _).bind fun _ => steady_pure _

lemma expression_takes (hk : startsExpression (ts.tokenAt p).kind = true) :
    ∀ n, Takes ts (expression n) p := by
  refine takes_of_succ hts expression.eq_1 (ne_eof_of_starts hk rfl) fun n => ?_
  rw [expression.eq_2]
  refine Takes.of_ok_bind (run_check ts p _) ?_
  split
  · rename_i hlambda
    exact lambda_takes hts (by simpa using hlambda) n
  · rename_i hlambda
    have hinv : startsInversion (ts.tokenAt p).kind = true := by
      simpa [startsExpression, hlambda] using hk
    refine (disjunction_takes hts hinv n).bind fun body => (steady_eat _).bind fun _ =>
      Steady.ite (steady_pure body) ?_
    exact (steadies hts n).disjunction.bind fun _ => (steady_check _).bind fun _ =>
      Steady.ite (steady_failUnexpected hts _) (steady_advance.discard.bind fun _ =>
        (steadies hts n).expression.bind fun _ => steady_pure _)

lemma namedExpression_takes (hk : startsExpression (ts.tokenAt p).kind = true) :
    ∀ n, Takes ts (namedExpression n) p := by
  have hne := ne_eof_of_starts hk rfl
  refine takes_of_succ hts namedExpression.eq_1 hne fun n => ?_
  rw [namedExpression.eq_2]
  refine Takes.of_ok_bind (run_check ts p _) (Takes.of_ok_bind (run_peekKind ts p 1) ?_)
  split
  · exact takes_advance_bind hts (hts.lt_size_of_ne_eof hne) hne fun _ =>
      steady_advance.discard.bind fun _ => (steadies hts n).expression.bind fun _ => steady_pure _
  · exact (expression_takes hts hk n).bind fun e => (steady_check _).bind fun _ =>
      Steady.ite (steady_failAt (by decide) _) (steady_pure e)

lemma starred_takes (hk : (ts.tokenAt p).kind = .punct .star) : ∀ n, Takes ts (starred n) p := by
  have hne : (ts.tokenAt p).kind ≠ .eof := by simp [hk]
  refine takes_of_succ hts starred.eq_1 hne fun n => ?_
  rw [starred.eq_2]
  exact takes_advance_bind hts (hts.lt_size_of_ne_eof hne) hne fun _ =>
    ((steadies hts n).operatorChain _).bind fun _ => steady_pure _

/-- An item reads a starred item at a `*` and its body elsewhere: it takes a token that can
start an expression when its body takes one that is no `*`. -/
lemma starOr_takes {body : ParseM Expr}
    (hk : (startsExpression (ts.tokenAt p).kind || (ts.tokenAt p).kind == .punct .star) = true)
    (hbody : startsExpression (ts.tokenAt p).kind = true → Takes ts body p) (n : Nat) :
    Takes ts (do if ← check (.punct .star) then starred n else body) p := by
  refine Takes.of_ok_bind (run_check ts p _) ?_
  split
  · rename_i hstar
    exact starred_takes hts (by simpa using hstar) n
  · rename_i hstar
    exact hbody (by simpa [hstar] using hk)

/-- An item of either kind takes a token that can start an expression. -/
lemma element_takes (hk : (ts.tokenAt p).kind.canStartExpr = true) :
    ∀ item n, Takes ts (element item n) p := by
  have hne := ne_eof_of_starts hk rfl
  rw [canStartExpr_eq] at hk
  intro item
  refine takes_of_succ hts (element.eq_1 item) hne fun n => ?_
  cases item with
  | star =>
    rw [element.eq_2]
    exact starOr_takes hts hk (expression_takes hts · n) n
  | starNamed =>
    rw [element.eq_3]
    exact starOr_takes hts hk (namedExpression_takes hts · n) n

end Takes

/-! ## Where it cannot, the descent fails at it

Here the stream is any stream at all: a production that cannot begin at the current token goes
down the levels, at each one reading the token and passing it on, until the atom fails there. The
fuel each level needs is the depth of the descent below it. -/

section Fails

variable {ts : TokenStream} {p : Nat}

lemma bind_of_error {x : ParseM α} (f : α → ParseM β) {e : SyntaxError}
    (h : x ts p = .error e) : (x >>= f) ts p = .error e := by
  simp [h, Except.bind]

lemma atom_fails (hk : startsAtom (ts.tokenAt p).kind = false) (n : Nat) :
    atom (n + 1) ts p = .error (expectedAt ts p) := by
  rw [atom.eq_2, bind_of_ok ts p _ (run_current ts p)]
  -- a kind either begins an atom, against the hypothesis, or falls to the last case
  generalize (ts.tokenAt p).kind = k at hk ⊢
  cases k with
  | keyword kw =>
    cases kw <;> first | exact absurd hk (by decide) | exact run_failUnexpected ts p _
  | punct pc =>
    cases pc <;> first | exact absurd hk (by decide) | exact run_failUnexpected ts p _
  | _ => first | exact run_failUnexpected ts p _ | exact absurd hk (by simp [startsAtom])

lemma primary_fails (hk : startsAtom (ts.tokenAt p).kind = false) (n : Nat) :
    primary (n + 2) ts p = .error (expectedAt ts p) := by
  rw [primary.eq_2, bind_of_error _ (atom_fails hk n)]

lemma awaitPrimary_fails (hk : startsPower (ts.tokenAt p).kind = false) (n : Nat) :
    awaitPrimary (n + 3) ts p = .error (expectedAt ts p) := by
  simp only [startsPower, Bool.or_eq_false_iff] at hk
  rw [awaitPrimary.eq_2, bind_of_ok ts p _ (run_check ts p _), hk.2]
  exact primary_fails hk.1 n

lemma power_fails (hk : startsPower (ts.tokenAt p).kind = false) (n : Nat) :
    power (n + 4) ts p = .error (expectedAt ts p) := by
  rw [power.eq_2, bind_of_error _ (awaitPrimary_fails hk n)]

lemma factor_fails (hk : startsFactor (ts.tokenAt p).kind = false) (n : Nat) :
    factor (n + 5) ts p = .error (expectedAt ts p) := by
  simp only [startsFactor, Bool.or_eq_false_iff, Option.isSome_eq_false_iff, Option.isNone_iff_eq_none] at hk
  rw [factor.eq_2, bind_of_ok ts p _ (run_currentKind ts p), hk.2]
  exact power_fails hk.1 n

/-- A level's operand fails with the atom below it, given fuel for the levels in between. The
induction is on the depth of the level: at depth zero there is no tighter level. -/
lemma operand_fails (hk : startsFactor (ts.tokenAt p).kind = false) :
    ∀ d level n, level.depth = d → operand level (n + 2 * d + 6) ts p = .error (expectedAt ts p) := by
  intro d
  induction d with
  | zero =>
    intro level n hd
    rw [operand.eq_2]
    cases hnext : level.next? with
    | some next => exact absurd (BinLevel.depth_next hnext) (by omega)
    | none => exact factor_fails hk (n + 2 * 0)
  | succ d ih =>
    intro level n hd
    rw [operand.eq_2]
    cases hnext : level.next? with
    | some next =>
      have hfuel : n + 2 * (d + 1) + 5 = (n + 2 * d + 6) + 1 := by omega
      dsimp only
      rw [hfuel, operatorChain.eq_2,
        bind_of_error _ (ih next n (by have := BinLevel.depth_next hnext; omega))]
    | none => exact factor_fails hk (n + 2 * (d + 1))

lemma operatorChain_fails (hk : startsFactor (ts.tokenAt p).kind = false) (level : BinLevel)
    (n : Nat) : operatorChain level (n + 2 * level.depth + 7) ts p = .error (expectedAt ts p) := by
  rw [operatorChain.eq_2, bind_of_error _ (operand_fails hk _ level n rfl)]

lemma comparison_fails (hk : startsFactor (ts.tokenAt p).kind = false) (n : Nat) :
    comparison (n + 18) ts p = .error (expectedAt ts p) := by
  rw [comparison.eq_2]
  exact bind_of_error _ (operatorChain_fails hk .bitOr n)

lemma inversion_fails (hk : startsInversion (ts.tokenAt p).kind = false) (n : Nat) :
    inversion (n + 19) ts p = .error (expectedAt ts p) := by
  simp only [startsInversion, Bool.or_eq_false_iff] at hk
  rw [inversion.eq_2, bind_of_ok ts p _ (run_check ts p _), hk.2]
  exact comparison_fails hk.1 n

lemma conjunction_fails (hk : startsInversion (ts.tokenAt p).kind = false) (n : Nat) :
    conjunction (n + 20) ts p = .error (expectedAt ts p) := by
  rw [conjunction.eq_2, bind_of_error _ (inversion_fails hk n)]

lemma disjunction_fails (hk : startsInversion (ts.tokenAt p).kind = false) (n : Nat) :
    disjunction (n + 21) ts p = .error (expectedAt ts p) := by
  rw [disjunction.eq_2, bind_of_error _ (conjunction_fails hk n)]

lemma expression_fails (hk : startsExpression (ts.tokenAt p).kind = false) (n : Nat) :
    expression (n + 22) ts p = .error (expectedAt ts p) := by
  simp only [startsExpression, Bool.or_eq_false_iff] at hk
  rw [expression.eq_2, bind_of_ok ts p _ (run_check ts p _), hk.2]
  exact bind_of_error _ (disjunction_fails hk.1 n)

lemma namedExpression_fails (hk : startsExpression (ts.tokenAt p).kind = false) (n : Nat) :
    namedExpression (n + 23) ts p = .error (expectedAt ts p) := by
  have hname : ((ts.tokenAt p).kind == .name) = false := by
    cases h : (ts.tokenAt p).kind <;> simp_all [startsExpression, startsInversion, startsFactor,
      startsPower, startsAtom]
  rw [namedExpression.eq_2, bind_of_ok ts p _ (run_check ts p _),
    bind_of_ok ts p _ (run_peekKind ts p 1), hname, Bool.false_and]
  exact bind_of_error _ (expression_fails hk n)

/-- An item fails at a token that cannot start an expression, with the error of the atom. -/
lemma element_fails (hk : (ts.tokenAt p).kind.canStartExpr = false) (item : ListItem) (n : Nat) :
    element item (n + 24) ts p = .error (expectedAt ts p) := by
  simp only [canStartExpr_eq, Bool.or_eq_false_iff] at hk
  cases item with
  | star =>
    rw [element.eq_2, bind_of_ok ts p _ (run_check ts p _), hk.2]
    exact expression_fails hk.1 (n + 1)
  | starNamed =>
    rw [element.eq_3, bind_of_ok ts p _ (run_check ts p _), hk.2]
    exact namedExpression_fails hk.1 n

end Fails

/-- **The first set of an item.** On a stream the lexer can give, an item fails at the current
token, with `expected expression` and before taking a token, exactly when that token cannot start
an expression. -/
theorem element_fails_at_first_token_iff {ts : TokenStream} (hts : ts.Ordered) {p n : Nat}
    (hfuel : 24 ≤ n) (item : ListItem) :
    element item n ts p = .error (expectedAt ts p) ↔ (ts.tokenAt p).kind.canStartExpr = false := by
  constructor
  · intro h
    by_contra hk
    exact (element_takes hts (by simpa using hk) item n).2 _ h p le_rfl rfl
  · intro hk
    obtain ⟨m, rfl⟩ : ∃ m, n = m + 24 := ⟨n - 24, by omega⟩
    exact element_fails hk item m

/-- `(a)` is what the lexer gives for its text. -/
lemma tokenize_parenthesizedName : tokenize "(a)" {} = .ok parenthesizedName.tokens := by
  decide +kernel

/-- In `(a)` an item cannot begin at the closing bracket, and fails there. -/
theorem element_fails_at_close_paren :
    element .starNamed 24 parenthesizedName 2 = .error (expectedAt parenthesizedName 2) :=
  (element_fails_at_first_token_iff (tokenize_ordered tokenize_parenthesizedName) (le_refl 24)
    .starNamed).2 rfl

end Grammar

end ExprFront
