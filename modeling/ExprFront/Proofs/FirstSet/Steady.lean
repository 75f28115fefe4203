import Mathlib
import ExprFront.Proofs.Fuel.Settled

/-!
# Where an `expected expression` failure can stand

An atom that finds no expression at its token fails with `expected expression, found …` at that
token (`ParseM.expectedAt`). This module sets up the two notions from which the first tokens of
the grammar's productions are read off:

* `ParseM.Steady ts m`: a run of `m` from any position inside the stream stays inside it, never
  goes back, and raises no `expected expression` failure at a token before the one it starts
  at. Every reading step of `ParseM` is steady; so is a failure at the current token, and one
  whose message parts from `expected expression` (`ParseM.Unlike`). Steadiness is kept by
  `bind`, `map` and `withContext`.
* `ParseM.Takes ts m p`: a run of `m` from `p` takes the token there: it ends past it, and
  raises no `expected expression` failure at it or before it. A run that takes its token and
  then goes on steadily takes it (`Takes.bind`).

Positions are told apart by the spans of their tokens: on a stream as the lexer gives it
(`TokenStream.Ordered`) no two tokens have the same span (`Ordered.span_ne`). On an arbitrary
array of tokens two of them could, and a failure past the first token could not be told from
one at it.
-/

namespace ExprFront

namespace TokenStream.Ordered

variable {ts : TokenStream} {r q : Nat}

/-- Tokens at two positions of the stream have different spans. -/
lemma span_ne (hts : ts.Ordered) (hrq : r < q) (hq : q < ts.tokens.size) :
    (ts.tokenAt r).span ≠ (ts.tokenAt q).span := by
  -- every token before the last covers a byte, and the tokens after it start past it
  have hr : (ts.tokenAt r).kind ≠ .eof := by
    rw [tokenAt_eq (by omega)]
    intro h
    have := (hts.eof_iff r (by omega)).mp h
    omega
  have hsolid := hts.solid_at (by omega : r < ts.tokens.size) hr
  have hafter := hts.stop_le_start hrq hq
  intro h
  rw [h] at hsolid hafter
  omega

end TokenStream.Ordered

namespace ParseM

variable {α β : Type} {ts : TokenStream} {m m' : ParseM α} {p : Nat}

/-- The failure of an atom at the token at position `r`: `expected expression, found …`. -/
def expectedAt (ts : TokenStream) (r : Nat) : SyntaxError :=
  ⟨(ts.tokenAt r).span, "expected expression" ++ ", found " ++ (ts.tokenAt r).kind.displayName,
    none, false⟩

/-- A message that parts from that of an `expected expression` failure: neither starts with
the other. -/
def Unlike (msg : String) : Prop :=
  ¬ "expected expression".toList <+: msg.toList ∧ ¬ msg.toList <+: "expected expression".toList

instance : DecidablePred Unlike := fun _ => inferInstanceAs (Decidable (_ ∧ _))

/-- A failure whose message starts with a parting one is no `expected expression` failure. -/
lemma ne_expectedAt_of_unlike {msg : String} {b : Bool} (h : Unlike msg) (rest : String) (sp : Span)
    (c : Option ErrorContext) (ts : TokenStream) (r : Nat) :
    (⟨sp, msg ++ rest, c, b⟩ : SyntaxError) ≠ expectedAt ts r := by
  intro heq
  have hmsg := congrArg SyntaxError.message heq
  simp only [expectedAt, String.append_assoc] at hmsg
  have hmine : msg.toList <+: (msg ++ rest).toList := by simp
  have htheirs : "expected expression".toList <+: (msg ++ rest).toList := by
    rw [hmsg]
    simp
  rcases List.prefix_or_prefix_of_prefix htheirs hmine with h' | h'
  · exact h.1 h'
  · exact h.2 h'

lemma ne_expectedAt_of_unlike' {msg : String} {b : Bool} (h : Unlike msg) (sp : Span)
    (c : Option ErrorContext) (ts : TokenStream) (r : Nat) :
    (⟨sp, msg, c, b⟩ : SyntaxError) ≠ expectedAt ts r := by
  simpa using ne_expectedAt_of_unlike h "" sp c ts r (b := b)

/-- A failure at the token at `p` is no `expected expression` failure at a token before it. -/
lemma ne_expectedAt_before (hts : ts.Ordered) (hp : p < ts.tokens.size) {r : Nat} (hr : r < p)
    (msg : String) (c : Option ErrorContext) (b : Bool) :
    (⟨(ts.tokenAt p).span, msg, c, b⟩ : SyntaxError) ≠ expectedAt ts r := fun h =>
  hts.span_ne hr hp (congrArg SyntaxError.span h).symm

/-! ## Steady runs -/

/-- A run from any position inside the stream stays inside it, never goes back, and raises no
`expected expression` failure at a token before the one it starts at. -/
def Steady (ts : TokenStream) (m : ParseM α) : Prop :=
  ∀ p, p < ts.tokens.size →
    (∀ a q, m ts p = .ok (a, q) → ts.Within p q) ∧
      ∀ e, m ts p = .error e → ∀ r < p, e ≠ expectedAt ts r

lemma Steady.bind {f : α → ParseM β} (hm : Steady ts m) (hf : ∀ a, Steady ts (f a)) :
    Steady ts (m >>= f) := by
  intro p hp
  cases h : m ts p with
  | error e =>
    refine ⟨fun b q hb => by simp [h, Except.bind] at hb, fun e' he' => ?_⟩
    simp only [run_bind, h, Except.bind, Except.error.injEq] at he'
    exact he' ▸ (hm p hp).2 e h
  | ok aq =>
    obtain ⟨a, q⟩ := aq
    have hq := (hm p hp).1 a q h
    have hfq := hf a q hq.2
    rw [bind_of_ok ts p f h]
    exact ⟨fun b r hb => hq.trans (hfq.1 b r hb),
      fun e he r hr => hfq.2 e he r (lt_of_lt_of_le hr hq.1)⟩

/-- A step that reads and stays where it is. -/
lemma steady_of_stays (h : ∀ p, ∃ a, m ts p = .ok (a, p)) : Steady ts m := by
  intro p hp
  obtain ⟨a, ha⟩ := h p
  refine ⟨fun a' q h' => ?_, fun e he => by simp [ha] at he⟩
  rw [ha] at h'
  cases h'
  exact TokenStream.within_refl hp

lemma steady_pure (a : α) : Steady ts (pure a) := steady_of_stays fun _ => ⟨a, rfl⟩

lemma steady_read : Steady ts (read : ParseM TokenStream) :=
  steady_of_stays fun _ => ⟨ts, rfl⟩

lemma steady_current : Steady ts current := steady_of_stays fun p => ⟨_, run_current ts p⟩

lemma steady_currentKind : Steady ts currentKind :=
  steady_of_stays fun p => ⟨_, run_currentKind ts p⟩

lemma steady_currentSpan : Steady ts currentSpan :=
  steady_of_stays fun p => ⟨_, run_currentSpan ts p⟩

lemma steady_peekKind (k : Nat) : Steady ts (peekKind k) :=
  steady_of_stays fun p => ⟨_, run_peekKind ts p k⟩

lemma steady_check (k : TokenKind) : Steady ts (check k) :=
  steady_of_stays fun p => ⟨_, run_check ts p k⟩

lemma steady_checkAny (ks : List TokenKind) : Steady ts (checkAny ks) :=
  steady_of_stays fun p => ⟨_, run_checkAny ts p ks⟩

lemma steady_previousSpan : Steady ts previousSpan :=
  steady_of_stays fun p => ⟨_, run_previousSpan ts p⟩

lemma steady_advance : Steady ts advance := fun p hp =>
  ⟨fun a q h => by
    simp only [run_advance, Except.ok.injEq, Prod.mk.injEq] at h
    exact h.2 ▸ TokenStream.within_next hp,
   fun e h => by simp at h⟩

lemma steady_eat (k : TokenKind) : Steady ts (eat k) :=
  (steady_check k).bind fun b => by
    cases b
    · exact steady_pure false
    · exact (steady_advance.bind fun _ => steady_pure ()).bind fun _ => steady_pure true

/-- A failure at the current token is at no token before it. -/
lemma steady_failUnexpected (hts : ts.Ordered) (msg : String) :
    Steady ts (failUnexpected msg : ParseM α) := fun p hp =>
  ⟨fun a q h => by simp at h, fun e he r hr => by
    rw [run_failUnexpected, Except.error.injEq] at he
    exact he ▸ ne_expectedAt_before hts hp hr _ _ _⟩

lemma steady_expect (hts : ts.Ordered) (k : TokenKind) : Steady ts (expect k) := by
  unfold expect
  refine (steady_check k).bind fun b => ?_
  cases b
  · exact steady_failUnexpected hts _
  · exact steady_advance

/-- A failure whose message parts from `expected expression`. -/
lemma steady_throw {e : SyntaxError} (h : ∀ r, e ≠ expectedAt ts r) :
    Steady ts (throw e : ParseM α) := fun p hp =>
  ⟨fun a q h' => by simp at h', fun e' he r _ => by
    rw [run_throw, Except.error.injEq] at he
    exact he ▸ h r⟩

lemma steady_failAt {msg : String} (h : Unlike msg) (sp : Span) :
    Steady ts (failAt sp msg : ParseM α) :=
  steady_throw fun r => ne_expectedAt_of_unlike' h sp none ts r

/-- A panic is marked as one, so it is no `expected expression` failure. -/
lemma steady_abort (msg : String) : Steady ts (abort msg : ParseM α) := fun p _ =>
  ⟨fun a q h => by simp at h, fun e he r _ => by
    rw [run_abort, Except.error.injEq] at he
    simp [← he, expectedAt]⟩

lemma steady_storeList (n : Nat) : Steady ts (storeList n) := by
  unfold storeList
  split
  · exact steady_pure ()
  · exact steady_abort _

lemma Steady.map {g : α → β} (hm : Steady ts m) : Steady ts (g <$> m) := by
  rw [← bind_pure_comp]
  exact hm.bind fun a => steady_pure (g a)

lemma Steady.discard (hm : Steady ts m) : Steady ts (discard m) := hm.map

/-- A context changes only the context of a failure, and a failure with a context is no
`expected expression` failure. -/
lemma Steady.withContext (c : ErrorContext) (hm : Steady ts m) :
    Steady ts (withContext c m) := by
  intro p hp
  refine ⟨fun a q h => (hm p hp).1 a q ((run_withContext_eq_ok ts p c m _).1 h),
    fun e he r hr => ?_⟩
  simp only [ParseM.withContext] at he
  change Except.tryCatch (m ts p) _ = _ at he
  cases hmp : m ts p with
  | ok a => simp [hmp, Except.tryCatch] at he
  | error e₀ =>
    simp only [hmp, Except.tryCatch, run_throw, Except.error.injEq] at he
    subst he
    unfold SyntaxError.withinContext
    split
    · exact (hm p hp).2 e₀ hmp r hr
    · intro h
      simpa [expectedAt] using congrArg SyntaxError.context h

/-! ## Runs that take their first token -/

/-- A run from `p` that takes the token there: it ends past it, inside the stream, and raises no
`expected expression` failure at that token or at one before it. -/
def Takes (ts : TokenStream) (m : ParseM α) (p : Nat) : Prop :=
  (∀ a q, m ts p = .ok (a, q) → ts.Past p q) ∧
    ∀ e, m ts p = .error e → ∀ r ≤ p, e ≠ expectedAt ts r

/-- A run that takes its token and goes on steadily takes it. -/
lemma Takes.bind {f : α → ParseM β} (hm : Takes ts m p) (hf : ∀ a, Steady ts (f a)) :
    Takes ts (m >>= f) p := by
  cases h : m ts p with
  | error e =>
    refine ⟨fun b q hb => by simp [h, Except.bind] at hb, fun e' he' => ?_⟩
    simp only [run_bind, h, Except.bind, Except.error.injEq] at he'
    exact he' ▸ hm.2 e h
  | ok aq =>
    obtain ⟨a, q⟩ := aq
    have hq := hm.1 a q h
    have hfq := hf a q hq.2
    rw [Takes, bind_of_ok ts p f h]
    exact ⟨fun b r hb => hq.trans_within (hfq.1 b r hb),
      fun e he r hr => hfq.2 e he r (lt_of_le_of_lt hr hq.1)⟩

/-- Two computations that run alike from `p` take its token alike. -/
lemma Takes.congr (h : m ts p = m' ts p) (hm : Takes ts m' p) : Takes ts m p := by
  rw [Takes, h]
  exact hm

/-- A reading step that stays, followed by a run that takes the token. -/
lemma Takes.of_ok_bind {x : ParseM β} {f : β → ParseM α} {b : β} (hx : x ts p = .ok (b, p))
    (h : Takes ts (f b) p) : Takes ts (x >>= f) p :=
  h.congr (bind_of_ok ts p f hx)

/-- Taking the token, then going on steadily. -/
lemma takes_advance_bind (hts : ts.Ordered) (hp : p < ts.tokens.size)
    (hk : (ts.tokenAt p).kind ≠ .eof) {f : Token → ParseM α} (hf : ∀ t, Steady ts (f t)) :
    Takes ts (advance >>= f) p := by
  refine Takes.bind ⟨fun t q h => ?_, fun e h => by simp at h⟩ hf
  simp only [run_advance, Except.ok.injEq, Prod.mk.injEq] at h
  rw [← h.2, hts.next_eq hp hk]
  exact ⟨Nat.lt_succ_self p, hts.succ_lt hp hk⟩

/-- A failure at the token with a parting message, such as running out of fuel there. -/
lemma takes_failUnexpected (hts : ts.Ordered) (hp : p < ts.tokens.size) {msg : String}
    (h : Unlike msg) : Takes ts (failUnexpected msg : ParseM α) p := by
  refine ⟨fun a q h' => by simp at h', fun e he r hr => ?_⟩
  rw [run_failUnexpected, Except.error.injEq] at he
  subst he
  rcases Nat.lt_or_eq_of_le hr with hlt | rfl
  · exact ne_expectedAt_before hts hp hlt _ _ _
  · rw [String.append_assoc]
    exact ne_expectedAt_of_unlike h _ _ _ ts r

lemma Takes.withContext (c : ErrorContext) (hm : Takes ts m p) : Takes ts (withContext c m) p := by
  refine ⟨fun a q h => hm.1 a q ((run_withContext_eq_ok ts p c m _).1 h), fun e he r hr => ?_⟩
  simp only [ParseM.withContext] at he
  change Except.tryCatch (m ts p) _ = _ at he
  cases hmp : m ts p with
  | ok a => simp [hmp, Except.tryCatch] at he
  | error e₀ =>
    simp only [hmp, Except.tryCatch, run_throw, Except.error.injEq] at he
    subst he
    unfold SyntaxError.withinContext
    split
    · exact hm.2 e₀ hmp r hr
    · intro h
      simpa [expectedAt] using congrArg SyntaxError.context h

end ParseM

end ExprFront
