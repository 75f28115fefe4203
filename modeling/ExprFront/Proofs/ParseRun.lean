import Mathlib
import ExprFront.Syntax.Grammar

/-!
# Running the grammar's reading steps

A computation of `ParseM` runs on a token stream from a position and gives a value and the next
position, or a syntax error. This module says what each reading step gives, so that later
proofs follow a run of the grammar without unfolding the monad:

* `TokenStream.tokenAt` is the token a read at a position sees: the token there, or the last one
  past the end; `TokenStream.next` is where one advance lands;
* `run_bind` and `bind_eq_ok` take a run of `x >>= f` apart into a run of `x` and one of `f`;
* `run_check`, `run_eat`, `run_advance`, `run_expect`, `run_previousSpan` and their kin give the
  run of each step of `ParseM`.
-/

namespace ExprFront

namespace TokenStream

/-- The token a read at position `i` sees: the token there, or the last one past the end. -/
def tokenAt (ts : TokenStream) (i : Nat) : Token :=
  ts.tokens[i]?.getD (ts.tokens.back?.getD ParseM.endToken)

/-- Where one advance from position `i` lands: the next position, or `i` at the last token. -/
def next (ts : TokenStream) (i : Nat) : Nat :=
  if i + 1 < ts.tokens.size then i + 1 else i

/-- The span of the token before position `i`, or `0..0` at the start. -/
def spanBefore (ts : TokenStream) : Nat → Span
  | 0 => ⟨0, 0⟩
  | i + 1 => (ts.tokens[i]?.map (·.span)).getD ⟨0, 0⟩

end TokenStream

namespace ParseM

variable {α β : Type} (ts : TokenStream) (p : Nat)

@[simp] lemma run_bind (x : ParseM α) (f : α → ParseM β) :
    (x >>= f) ts p = (x ts p).bind fun aq => f aq.1 ts aq.2 := rfl

@[simp] lemma run_pure (a : α) : (pure a : ParseM α) ts p = .ok (a, p) := rfl

@[simp] lemma run_map (g : α → β) (x : ParseM α) :
    (g <$> x) ts p = (x ts p).map fun aq => (g aq.1, aq.2) := rfl

@[simp] lemma run_discard (x : ParseM α) : (discard x) ts p = (x ts p).map fun aq => ((), aq.2) :=
  rfl

@[simp] lemma run_throw (e : SyntaxError) : (throw e : ParseM α) ts p = .error e := rfl

@[simp] lemma run_read : (read : ParseM TokenStream) ts p = .ok (ts, p) := rfl

@[simp] lemma run_get : (get : ParseM Nat) ts p = .ok (p, p) := rfl

@[simp] lemma run_peek (n : Nat) : peek n ts p = .ok (ts.tokenAt (p + n), p) := by
  simp only [peek, run_bind, run_read, run_get, Except.bind, TokenStream.tokenAt]
  cases ts.tokens[p + n]? <;> rfl

@[simp] lemma run_current : current ts p = .ok (ts.tokenAt p, p) := by
  simp [current]

@[simp] lemma run_currentKind : currentKind ts p = .ok ((ts.tokenAt p).kind, p) := by
  simp [currentKind, Except.bind]

@[simp] lemma run_currentSpan : currentSpan ts p = .ok ((ts.tokenAt p).span, p) := by
  simp [currentSpan, Except.bind]

@[simp] lemma run_peekKind (n : Nat) : peekKind n ts p = .ok ((ts.tokenAt (p + n)).kind, p) := by
  simp [peekKind, Except.bind]

@[simp] lemma run_check (k : TokenKind) : check k ts p = .ok ((ts.tokenAt p).kind == k, p) := by
  simp [check, Except.bind]

@[simp] lemma run_checkAny (ks : List TokenKind) :
    checkAny ks ts p = .ok (ks.contains (ts.tokenAt p).kind, p) := by
  simp [checkAny, Except.bind]

@[simp] lemma run_advance : advance ts p = .ok (ts.tokenAt p, ts.next p) := by
  simp only [advance, run_bind, run_current, run_read, Except.bind]
  rfl

@[simp] lemma run_eat (k : TokenKind) :
    eat k ts p = if (ts.tokenAt p).kind == k then .ok (true, ts.next p) else .ok (false, p) := by
  simp only [eat, run_bind, run_check, Except.bind]
  split <;> simp_all [Except.bind, Except.map]

@[simp] lemma run_unexpected (message : String) :
    unexpected message ts p =
      .ok (⟨(ts.tokenAt p).span, message ++ ", found " ++ (ts.tokenAt p).kind.displayName, none, false⟩, p) := by
  simp [unexpected, Except.bind]

@[simp] lemma run_failUnexpected (message : String) :
    (failUnexpected message : ParseM α) ts p =
      .error ⟨(ts.tokenAt p).span, message ++ ", found " ++ (ts.tokenAt p).kind.displayName, none,
        false⟩ := by
  simp [failUnexpected, Except.bind]

@[simp] lemma run_failAt (span : Span) (message : String) :
    (failAt span message : ParseM α) ts p = .error ⟨span, message, none, false⟩ := rfl

@[simp] lemma run_abort (message : String) :
    (abort message : ParseM α) ts p = .error ⟨(ts.tokenAt p).span, message, none, true⟩ := by
  simp [abort, Except.bind]

/-- A list the arena holds is stored without a move; a longer one gives up at the current token. -/
lemma run_storeList (n : Nat) :
    storeList n ts p = if n ≤ maxListLength then .ok ((), p)
      else .error ⟨(ts.tokenAt p).span, "arena list exceeds u16::MAX entries", none, true⟩ := by
  unfold storeList
  split <;> simp_all

@[simp] lemma run_storeList_of_le {n : Nat} (h : n ≤ maxListLength) : storeList n ts p = .ok ((), p) := by
  simp [run_storeList, h]

@[simp] lemma run_expect (k : TokenKind) :
    expect k ts p = if (ts.tokenAt p).kind == k then .ok (ts.tokenAt p, ts.next p)
      else .error ⟨(ts.tokenAt p).span, "expected " ++ k.displayName ++ ", found " ++
        (ts.tokenAt p).kind.displayName, none, false⟩ := by
  simp only [expect, run_bind, run_check, Except.bind]
  split <;> simp_all

@[simp] lemma run_previousSpan : previousSpan ts p = .ok (ts.spanBefore p, p) := by
  cases p <;> rfl

/-- A run with a context added succeeds exactly when the run without it does. -/
@[simp] lemma run_withContext_eq_ok (c : ErrorContext) (m : ParseM α) (r : α × Nat) :
    withContext c m ts p = .ok r ↔ m ts p = .ok r := by
  simp only [withContext]
  show Except.tryCatch (m ts p) _ = _ ↔ _
  cases m ts p <;> simp [Except.tryCatch]

/-- A run of `x >>= f` that succeeds is a run of `x` that succeeds, then one of `f`. -/
lemma bind_eq_ok {x : ParseM α} {f : α → ParseM β} {r : β × Nat} :
    (x >>= f) ts p = .ok r ↔ ∃ a q, x ts p = .ok (a, q) ∧ f a ts q = .ok r := by
  rw [run_bind]
  cases h : x ts p with
  | error e => simp [Except.bind]
  | ok aq =>
    obtain ⟨a, q⟩ := aq
    simp [Except.bind]

/-- After a run of `x` that succeeds, `x >>= f` goes on as `f`. -/
lemma bind_of_ok {x : ParseM α} (f : α → ParseM β) {a : α} {q : Nat} (h : x ts p = .ok (a, q)) :
    (x >>= f) ts p = f a ts q := by
  simp [h, Except.bind]

end ParseM

end ExprFront
