import Mathlib
import ExprFront.Proofs.Spans.Contract

/-!
# Runs with fuel enough

Every production of the grammar takes a fuel that bounds the depth of its descent, and fails
with `expression nested too deeply` once the fuel is spent (`Grammar.outOfFuel`). A run has
fuel enough when one more unit would change nothing: `ParseM.Settled ts m m' p Q` says that
the runs of `m` and `m'` from position `p` give the same result, that this result is not the
out-of-fuel failure (`SyntaxError.OutOfFuel`), and that a run that succeeds ends as `Q` says.
`Settled.bind` and the lemmas after it follow a production's steps one at a time; a step that
fails with a message of its own is no out-of-fuel failure as long as the message parts from the
out-of-fuel one (`Diverges`).

How much fuel is enough is `TokenStream.Budget`: 64 for each token left, plus the level of the
production. A production calls another where it stands only at a lower level (`Budget.down`),
and one at any level once it has taken a token (`Budget.past`). Taking a token means moving:
on a stream that ends with the end of input, an advance from any other token moves forward
(`EndsWithEof.lt_next`).
-/

namespace ExprFront

/-- How the message of the out-of-fuel failure starts. -/
def outOfFuelText : String := "expression nested too deeply"

/-- Whether an error is the failure of a descent deeper than its fuel. -/
def SyntaxError.OutOfFuel (e : SyntaxError) : Prop := outOfFuelText.toList <+: e.message.toList

/-- A message that parts from the out-of-fuel one: neither starts with the other. -/
def Diverges (msg : String) : Prop :=
  ¬ outOfFuelText.toList <+: msg.toList ∧ ¬ msg.toList <+: outOfFuelText.toList

instance : DecidablePred Diverges := fun _ => inferInstanceAs (Decidable (_ ∧ _))

/-- A message that starts with a diverging one is no out-of-fuel failure. -/
lemma not_outOfFuel_of_diverges {msg : String} (h : Diverges msg) (rest : String) (sp : Span)
    (c : Option ErrorContext) (b : Bool) : ¬ SyntaxError.OutOfFuel ⟨sp, msg ++ rest, c, b⟩ := by
  intro hpre
  have hmsg : msg.toList <+: (msg ++ rest).toList := by simp
  rcases List.prefix_or_prefix_of_prefix hpre hmsg with h' | h'
  · exact h.1 h'
  · exact h.2 h'

/-- A diverging message is no out-of-fuel failure. -/
lemma not_outOfFuel_of_message {msg : String} (h : Diverges msg) (sp : Span)
    (c : Option ErrorContext) (b : Bool) : ¬ SyntaxError.OutOfFuel ⟨sp, msg, c, b⟩ := by
  simpa using not_outOfFuel_of_diverges h "" sp c b

/-- A context leaves the message as it was, and with it whether the failure is out of fuel. -/
@[simp] lemma SyntaxError.outOfFuel_withinContext (e : SyntaxError) (c : ErrorContext) :
    (e.withinContext c).OutOfFuel ↔ e.OutOfFuel := by
  unfold withinContext
  split <;> rfl

namespace TokenStream

/-- A token stream whose last token is the end of input, as every stream the lexer gives. -/
def EndsWithEof (ts : TokenStream) : Prop := ∃ t, ts.tokens.back? = some t ∧ t.kind = .eof

/-- A run from `p` that ends at `q` stayed or moved forward, inside the stream. -/
def Within (ts : TokenStream) (p q : Nat) : Prop := p ≤ q ∧ q < ts.tokens.size

/-- A run from `p` that ends at `q` moved forward, inside the stream. -/
def Past (ts : TokenStream) (p q : Nat) : Prop := p < q ∧ q < ts.tokens.size

/-- Fuel `n` covers a production of level `L` from position `p`: each token left may open up
to 64 levels of descent, of which `L` are open already. -/
def Budget (ts : TokenStream) (n p L : Nat) : Prop := 64 * (ts.tokens.size - p) + L < n

variable {ts : TokenStream} {n p q r L L' : Nat}

lemma EndsWithEof.size_pos (h : ts.EndsWithEof) : 0 < ts.tokens.size := by
  obtain ⟨t, ht, -⟩ := h
  rcases Nat.eq_zero_or_pos ts.tokens.size with h0 | h0
  · simp [Array.back?, h0] at ht
  · exact h0

/-- Only the end of input keeps an advance where it is. -/
lemma EndsWithEof.lt_next (h : ts.EndsWithEof) (hk : (ts.tokenAt p).kind ≠ .eof) :
    p < ts.next p := by
  obtain ⟨t, ht, hte⟩ := h
  by_contra hle
  have hlast : ¬ p + 1 < ts.tokens.size := fun h' => hle (by simp [next, h'])
  apply hk
  have hback : ts.tokens.back? = ts.tokens[ts.tokens.size - 1]? := Array.back?_eq_getElem?
  by_cases hp : p < ts.tokens.size
  · obtain rfl : p = ts.tokens.size - 1 := by omega
    simp only [tokenAt, ← hback, ht, Option.getD_some]
    exact hte
  · simp [tokenAt, ht, hte, Array.getElem?_eq_none (Nat.le_of_not_lt hp)]

lemma within_refl (hp : p < ts.tokens.size) : ts.Within p p := ⟨le_rfl, hp⟩

lemma Within.trans (h : ts.Within p q) (h' : ts.Within q r) : ts.Within p r :=
  ⟨h.1.trans h'.1, h'.2⟩

lemma Past.within (h : ts.Past p q) : ts.Within p q := ⟨h.1.le, h.2⟩

lemma Past.trans_within (h : ts.Past p q) (h' : ts.Within q r) : ts.Past p r :=
  ⟨lt_of_lt_of_le h.1 h'.1, h'.2⟩

lemma within_next (hp : p < ts.tokens.size) : ts.Within p (ts.next p) := ⟨le_next p, next_lt hp⟩

lemma past_next (hts : ts.EndsWithEof) (hp : p < ts.tokens.size)
    (hk : (ts.tokenAt p).kind ≠ .eof) : ts.Past p (ts.next p) :=
  ⟨hts.lt_next hk, next_lt hp⟩

/-- A production called where its caller stands, or further on, at a lower level. -/
lemma Budget.down (h : ts.Budget (n + 1) p L) (hpq : p ≤ q) (hL : L' < L) :
    ts.Budget n q L' := by
  unfold Budget at *
  have : ts.tokens.size - q ≤ ts.tokens.size - p := by omega
  omega

/-- A production called past a token its caller took, at any level. -/
lemma Budget.past (h : ts.Budget (n + 1) p L) (hp : p < ts.tokens.size) (hpq : p < q)
    (hL : L' < 64) : ts.Budget n q L' := by
  unfold Budget at *
  have : ts.tokens.size - q + 1 ≤ ts.tokens.size - p := by omega
  omega

/-- No fuel covers nothing. -/
lemma not_budget_zero : ¬ ts.Budget 0 p L := by
  simp [Budget]

end TokenStream

namespace ParseM

variable {α β : Type} {ts : TokenStream} {p : Nat}

/-- Runs of `m` and `m'` from position `p` that give the same result, which is not the failure
of a descent deeper than its fuel, and that end as `Q` says when they succeed. -/
structure Settled (ts : TokenStream) (m m' : ParseM α) (p : Nat) (Q : α → Nat → Prop) :
    Prop where
  same : m ts p = m' ts p
  fueled : ∀ e, m ts p = .error e → ¬ e.OutOfFuel
  ok : OkAt ts m p Q

variable {Q R : α → Nat → Prop} {Q' : β → Nat → Prop} {m m' : ParseM α}

lemma Settled.mono (h : Settled ts m m' p Q) (hQ : ∀ a q, Q a q → R a q) :
    Settled ts m m' p R :=
  ⟨h.same, h.fueled, h.ok.mono hQ⟩

/-- Settled runs that go on the same way from where they end are settled. -/
lemma Settled.bind {f f' : α → ParseM β} (h : Settled ts m m' p R)
    (hf : ∀ a q, R a q → m ts p = .ok (a, q) → Settled ts (f a) (f' a) q Q') :
    Settled ts (m >>= f) (m' >>= f') p Q' := by
  cases hm : m ts p with
  | error e =>
    have hm' : m' ts p = .error e := h.same ▸ hm
    refine ⟨by simp [hm, hm', Except.bind], ?_, ?_⟩
    · intro e' he
      simp only [run_bind, hm, Except.bind, Except.error.injEq] at he
      exact he ▸ h.fueled e hm
    · exact okAt_bind.2 fun a q ha => by simp [hm] at ha
  | ok aq =>
    obtain ⟨a, q⟩ := aq
    have hm' : m' ts p = .ok (a, q) := h.same ▸ hm
    have hk := hf a q (h.ok a q hm) hm
    refine ⟨by simp [hm, hm', Except.bind, hk.same], ?_, ?_⟩
    · intro e he
      simp only [run_bind, hm, Except.bind] at he
      exact hk.fueled e he
    · refine okAt_bind.2 fun a' q' ha => ?_
      simp only [hm, Except.ok.injEq, Prod.mk.injEq] at ha
      obtain ⟨rfl, rfl⟩ := ha
      exact hk.ok

/-- A step that succeeds, the same on both sides, and what follows it. -/
lemma Settled.of_ok_bind {x : ParseM α} {f f' : α → ParseM β} {a : α} {q : Nat}
    (hx : x ts p = .ok (a, q)) (h : Settled ts (f a) (f' a) q Q') :
    Settled ts (x >>= f) (x >>= f') p Q' :=
  Settled.bind (R := fun a' q' => a' = a ∧ q' = q)
    ⟨rfl, fun e he => by simp [hx] at he, fun a' q' h' => by simp_all⟩
    fun _ _ ⟨ha, hq⟩ _ => ha ▸ hq ▸ h

lemma settled_pure {a : α} (h : Q a p) : Settled ts (pure a) (pure a) p Q :=
  ⟨rfl, fun e he => by simp at he, by simpa using h⟩

lemma Settled.map {g : α → β} (h : Settled ts m m' p Q) :
    Settled ts (g <$> m) (g <$> m') p fun b q => ∃ a, g a = b ∧ Q a q := by
  refine ⟨by simp [h.same], fun e he => ?_, fun b q hb => ?_⟩
  · cases hm : m ts p with
    | ok aq => simp [hm, Except.map] at he
    | error e₀ =>
      simp only [run_map, hm, Except.map, Except.error.injEq] at he
      exact he ▸ h.fueled e₀ hm
  · cases hm : m ts p with
    | error e₀ => simp [hm, Except.map] at hb
    | ok aq =>
      simp only [run_map, hm, Except.map, Except.ok.injEq, Prod.mk.injEq] at hb
      obtain ⟨rfl, rfl⟩ := hb
      exact ⟨aq.1, rfl, h.ok aq.1 aq.2 hm⟩

lemma Settled.discard (h : Settled ts m m' p Q) :
    Settled ts (discard m) (discard m') p fun _ q => ∃ a, Q a q := by
  refine ⟨by simp [h.same], fun e he => ?_, fun b q hb => ?_⟩
  · cases hm : m ts p with
    | ok aq => simp [hm, Except.map] at he
    | error e₀ =>
      simp only [run_discard, hm, Except.map, Except.error.injEq] at he
      exact he ▸ h.fueled e₀ hm
  · cases hm : m ts p with
    | error e₀ => simp [hm, Except.map] at hb
    | ok aq =>
      simp only [run_discard, hm, Except.map, Except.ok.injEq, Prod.mk.injEq] at hb
      exact ⟨aq.1, hb.2 ▸ h.ok aq.1 aq.2 hm⟩

/-- A failure whose error is no out-of-fuel failure. -/
lemma settled_throw {e : SyntaxError} (h : ¬ e.OutOfFuel) : Settled ts (throw e) (throw e) p Q :=
  ⟨rfl, fun e' he => by simp only [run_throw, Except.error.injEq] at he; exact he ▸ h, by simp⟩

lemma settled_failAt {sp : Span} {msg : String} (h : Diverges msg) :
    Settled ts (failAt sp msg) (failAt sp msg) p Q := by
  refine ⟨rfl, fun e he => ?_, by simp⟩
  simp only [run_failAt, Except.error.injEq] at he
  exact he ▸ not_outOfFuel_of_message h sp none false

lemma settled_failAt_append {sp : Span} {msg rest : String} (h : Diverges msg) :
    Settled ts (failAt sp (msg ++ rest)) (failAt sp (msg ++ rest)) p Q := by
  refine ⟨rfl, fun e he => ?_, by simp⟩
  simp only [run_failAt, Except.error.injEq] at he
  subst he
  exact not_outOfFuel_of_diverges h rest sp none false

lemma settled_failAt_bind {sp : Span} {msg : String} {f f' : α → ParseM β} (h : Diverges msg) :
    Settled ts (failAt sp msg >>= f) (failAt sp msg >>= f') p Q' :=
  (settled_failAt (Q := fun _ _ => True) h).bind fun _ _ _ hrun => by simp at hrun

lemma settled_failUnexpected {msg : String} (h : Diverges msg) :
    Settled ts (failUnexpected msg) (failUnexpected msg) p Q := by
  refine ⟨rfl, fun e he => ?_, by simp⟩
  simp only [run_failUnexpected, Except.error.injEq] at he
  subst he
  rw [String.append_assoc]
  exact not_outOfFuel_of_diverges h _ _ _ _

/-- A panic is no out-of-fuel failure. -/
lemma settled_abort {msg : String} (h : Diverges msg) :
    Settled ts (abort msg : ParseM α) (abort msg) p Q := by
  refine ⟨rfl, fun e he => ?_, fun _ _ h => by simp at h⟩
  simp only [run_abort, Except.error.injEq] at he
  exact he ▸ not_outOfFuel_of_message h _ none true

/-- The arena's check on a list depends on no fuel. -/
lemma settled_storeList_bind {n : Nat} {f f' : PUnit → ParseM β}
    (h : n ≤ maxListLength → Settled ts (f ()) (f' ()) p Q') :
    Settled ts (storeList n >>= f) (storeList n >>= f') p Q' := by
  unfold storeList
  split
  · exact Settled.of_ok_bind rfl (h ‹_›)
  · exact (settled_abort (Q := fun _ _ => True) (by decide)).bind fun _ _ _ hrun => by simp at hrun

/-- An expected token is taken, or the failure says what was expected. -/
lemma settled_expect {k : TokenKind} :
    Settled ts (expect k) (expect k) p fun t q =>
      (ts.tokenAt p).kind = k ∧ t = ts.tokenAt p ∧ q = ts.next p := by
  refine ⟨rfl, fun e he => ?_, fun t q h => ?_⟩
  · simp only [run_expect] at he
    split at he
    · cases he
    · simp only [Except.error.injEq] at he
      subst he
      rw [String.append_assoc, String.append_assoc]
      exact not_outOfFuel_of_diverges (by decide) _ _ _ _
  · simp only [run_expect] at h
    split at h
    · simp_all
    · cases h

/-- A context changes only the context of a failure. -/
lemma Settled.withContext {c : ErrorContext} (h : Settled ts m m' p Q) :
    Settled ts (withContext c m) (withContext c m') p Q := by
  refine ⟨?_, fun e he => ?_, fun a q ha => h.ok a q ((run_withContext_eq_ok ts p c m _).1 ha)⟩
  · simp only [ParseM.withContext]
    show Except.tryCatch (m ts p) _ = Except.tryCatch (m' ts p) _
    rw [h.same]
  · simp only [ParseM.withContext] at he
    change Except.tryCatch (m ts p) _ = _ at he
    cases hm : m ts p with
    | ok a => simp [hm, Except.tryCatch] at he
    | error e₀ =>
      simp only [hm, Except.tryCatch, run_throw, Except.error.injEq] at he
      rw [← he, SyntaxError.outOfFuel_withinContext]
      exact h.fueled e₀ hm

lemma Settled.ite {c : Prop} [Decidable c] {x x' y y' : ParseM α}
    (hx : c → Settled ts x x' p Q) (hy : ¬ c → Settled ts y y' p Q) :
    Settled ts (if c then x else y) (if c then x' else y') p Q := by
  split
  · exact hx ‹_›
  · exact hy ‹_›

/-! ## The steps of a production, one at a time -/

variable {f f' : α → ParseM β}

lemma run_discard_advance : (discard advance : ParseM PUnit) ts p = .ok ((), ts.next p) := by
  simp [Except.map]

/-- An optional token is taken where it stands, and only there. -/
lemma settled_eat {k : TokenKind} :
    Settled ts (eat k) (eat k) p fun b q =>
      (b = true → (ts.tokenAt p).kind = k ∧ q = ts.next p) ∧ (b = false → q = p) := by
  by_cases hk : (ts.tokenAt p).kind = k
  · exact ⟨rfl, fun e he => by simp [run_eat, hk] at he, fun b q h => by simp_all [run_eat]⟩
  · exact ⟨rfl, fun e he => by simp [run_eat, hk] at he, fun b q h => by simp_all [run_eat]⟩

/-- An optional token leaves the position where it was, or just past it. -/
lemma within_of_eat {k : TokenKind} {b : Bool} {q : Nat} (hp : p < ts.tokens.size)
    (h : (b = true → (ts.tokenAt p).kind = k ∧ q = ts.next p) ∧ (b = false → q = p)) :
    ts.Within p q := by
  cases b
  · rw [h.2 rfl]
    exact TokenStream.within_refl hp
  · rw [(h.1 rfl).2]
    exact TokenStream.within_next hp

lemma settled_eat_bind {k : TokenKind} {f f' : Bool → ParseM β}
    (ht : (ts.tokenAt p).kind = k → Settled ts (f true) (f' true) (ts.next p) Q')
    (hf : (ts.tokenAt p).kind ≠ k → Settled ts (f false) (f' false) p Q') :
    Settled ts (eat k >>= f) (eat k >>= f') p Q' := by
  by_cases hk : (ts.tokenAt p).kind = k
  · exact Settled.of_ok_bind (by simp [run_eat, hk]) (ht hk)
  · exact Settled.of_ok_bind (by simp [run_eat, hk]) (hf hk)

lemma settled_expect_bind {k : TokenKind} {f f' : Token → ParseM β}
    (h : (ts.tokenAt p).kind = k →
      Settled ts (f (ts.tokenAt p)) (f' (ts.tokenAt p)) (ts.next p) Q') :
    Settled ts (expect k >>= f) (expect k >>= f') p Q' :=
  settled_expect.bind fun _ _ ⟨hk, ht, hq⟩ _ => ht ▸ hq ▸ h hk

lemma settled_discard_expect_bind {k : TokenKind} {f f' : PUnit → ParseM β}
    (h : (ts.tokenAt p).kind = k → Settled ts (f ()) (f' ()) (ts.next p) Q') :
    Settled ts (discard (expect k) >>= f) (discard (expect k) >>= f') p Q' :=
  settled_expect.discard.bind fun _ _ ⟨_, hk, _, hq⟩ _ => hq ▸ h hk

end ParseM

end ExprFront
