import Mathlib
import ExprFront.Proofs.Moved.Tokens
import ExprFront.Proofs.Spans.Stream

/-!
# Parser runs on a moved stream

The tokens of a text behind a mark are the tokens of the text alone, each moved by the mark's
`k` bytes (`TokenStream.Moved`). The grammar reads tokens through their kinds and spans, and
the text through slices, so a run on the moved stream does what the run on the stream alone
does, with every span it hands on moved by `k`: `ParseM.Moves` relates the two runs from one
position, the same failure moved or related values at the same end.

`Moves.bind` and the lemmas after it follow a production one step at a time. Only one step
reads something that does not move: the span before the first token is `0..0` on both streams
(`ParseM.previousSpan`), so that step is followed only past the first position
(`moves_previousSpan_bind`).
-/

namespace ExprFront

/-- A syntax error `k` bytes further on: the same message and context at the moved span. -/
def SyntaxError.shift (k : Nat) (e : SyntaxError) : SyntaxError := { e with span := e.span.shift k }

@[simp] lemma SyntaxError.shift_withinContext (k : Nat) (e : SyntaxError) (c : ErrorContext) :
    (e.shift k).withinContext c = (e.withinContext c).shift k := by
  cases hc : e.context <;> simp [withinContext, shift, hc]

@[simp] lemma TokenKind.displayName_shift (k : Nat) (kind : TokenKind) :
    (kind.shift k).displayName = kind.displayName := by
  cases kind <;> rfl

/-- Looking a moved kind up among kinds with no span is looking the kind up. -/
lemma TokenKind.contains_shift (k : Nat) {ks : List TokenKind}
    (hks : ∀ kind ∈ ks, ∀ text, kind ≠ .fstringEnd text) (kind : TokenKind) :
    ks.contains (kind.shift k) = ks.contains kind := by
  induction ks with
  | nil => rfl
  | cons a ks ih =>
    simp only [List.contains_cons, TokenKind.shift_beq k (hks a (by simp)),
      ih fun kind hk => hks kind (by simp [hk])]

/-- Moving a kind changes it only if it is an f-string end. -/
lemma TokenKind.shift_cases (k : Nat) (kind : TokenKind) :
    kind.shift k = kind ∨ ∃ text, kind = .fstringEnd text := by
  cases kind with
  | fstringEnd text => exact .inr ⟨text, rfl⟩
  | _ => exact .inl rfl

section

variable (k : Nat) (kind : TokenKind)

@[simp] lemma TokenKind.shift_beq_punct (q : Punct) : (kind.shift k == .punct q) = (kind == .punct q) :=
  TokenKind.shift_beq k (by simp)

@[simp] lemma TokenKind.shift_beq_keyword (w : Keyword) :
    (kind.shift k == .keyword w) = (kind == .keyword w) :=
  TokenKind.shift_beq k (by simp)

@[simp] lemma TokenKind.shift_beq_name : (kind.shift k == .name) = (kind == .name) :=
  TokenKind.shift_beq k (by simp)

@[simp] lemma TokenKind.shift_bne_name : (kind.shift k != .name) = (kind != .name) := by
  simp only [bne, TokenKind.shift_beq_name]

end

/-- A moved kind is a kind with no span exactly when the kind is. -/
lemma TokenKind.shift_eq_iff (k : Nat) {kind kind' : TokenKind}
    (h : ∀ text, kind' ≠ .fstringEnd text) : kind.shift k = kind' ↔ kind = kind' := by
  rw [← beq_iff_eq, TokenKind.shift_beq k h, beq_iff_eq]

namespace TokenStream

/-- A token stream and the stream of the same text `k` bytes into a larger one: as many tokens,
each moved by `k`, over the moved text. -/
structure Moved (k : Nat) (ts ts' : TokenStream) : Prop where
  src : ts.src.Moved k ts'.src
  size : ts'.tokens.size = ts.tokens.size
  token : ∀ i, (ts.tokenAt i).Moved k (ts'.tokenAt i)

variable {k : Nat} {ts ts' : TokenStream}

@[simp] lemma Moved.kind (hM : ts.Moved k ts') (i : Nat) :
    (ts'.tokenAt i).kind = (ts.tokenAt i).kind.shift k :=
  (hM.token i).kind

@[simp] lemma Moved.span (hM : ts.Moved k ts') (i : Nat) :
    (ts'.tokenAt i).span = (ts.tokenAt i).span.shift k :=
  (hM.token i).span

lemma Moved.next (hM : ts.Moved k ts') (i : Nat) : ts'.next i = ts.next i := by
  simp [TokenStream.next, hM.size]

/-- The token before any position but the first moves with the stream. -/
lemma Moved.spanBefore (hM : ts.Moved k ts') {i : Nat} (hi : 0 < i) (hi' : i ≤ ts.tokens.size) :
    ts'.spanBefore i = (ts.spanBefore i).shift k := by
  obtain ⟨j, rfl⟩ : ∃ j, i = j + 1 := ⟨i - 1, by omega⟩
  have hj : j < ts.tokens.size := by omega
  have hj' : j < ts'.tokens.size := by rw [hM.size]; exact hj
  have h := hM.span j
  rw [tokenAt_eq hj, tokenAt_eq hj'] at h
  simp [TokenStream.spanBefore, hj, hj', h]

/-- Skipping newlines reads only kinds, which move alike. -/
lemma Moved.skipNewlines (hM : ts.Moved k ts') (p : Nat) :
    ParseM.skipNewlines ts' p = ParseM.skipNewlines ts p := by
  induction p using ParseM.skipNewlines.induct ts with
  | case1 p hp hnl ih =>
    have hp' : p < ts'.tokens.size := by rw [hM.size]; exact hp
    have hnl' : (ts'.tokens[p].kind == .newline && decide (p + 1 < ts'.tokens.size)) = true := by
      rw [← tokenAt_eq hp', hM.kind, TokenKind.shift_beq k (by simp), tokenAt_eq hp, hM.size]
      exact hnl
    conv_lhs => rw [ParseM.skipNewlines, dif_pos hp', if_pos hnl', ih]
    conv_rhs => rw [ParseM.skipNewlines, dif_pos hp, if_pos hnl]
  | case2 p hp hnl =>
    have hp' : p < ts'.tokens.size := by rw [hM.size]; exact hp
    have hnl' : ¬ (ts'.tokens[p].kind == .newline && decide (p + 1 < ts'.tokens.size)) = true := by
      rw [← tokenAt_eq hp', hM.kind, TokenKind.shift_beq k (by simp), tokenAt_eq hp, hM.size]
      exact hnl
    conv_lhs => rw [ParseM.skipNewlines, dif_pos hp', if_neg hnl']
    conv_rhs => rw [ParseM.skipNewlines, dif_pos hp, if_neg hnl]
  | case3 p hp =>
    have hp' : ¬ p < ts'.tokens.size := by rw [hM.size]; exact hp
    conv_lhs => rw [ParseM.skipNewlines, dif_neg hp']
    conv_rhs => rw [ParseM.skipNewlines, dif_neg hp]

end TokenStream

namespace ParseM

variable {α α' β β' : Type} {k : Nat} {ts ts' : TokenStream} {p : Nat}

/-- Runs of `m` on a stream and of `m'` on the stream moved `k` bytes on, from position `p`:
the same failure moved, or values related by `R` at the same end, inside the stream. -/
def Moves (k : Nat) (ts ts' : TokenStream) (R : α → α' → Prop) (m : ParseM α) (m' : ParseM α')
    (p : Nat) : Prop :=
  match m ts p, m' ts' p with
  | .error e, .error e' => e' = e.shift k
  | .ok (a, q), .ok (a', q') => R a a' ∧ q' = q ∧ q < ts.tokens.size
  | _, _ => False

variable {R : α → α' → Prop} {S : β → β' → Prop} {m : ParseM α} {m' : ParseM α'}

lemma moves_ok {a : α} {a' : α'} {q : Nat} (h : m ts p = .ok (a, q)) (h' : m' ts' p = .ok (a', q))
    (hR : R a a') (hq : q < ts.tokens.size) : Moves k ts ts' R m m' p := by
  unfold Moves
  rw [h, h']
  exact ⟨hR, rfl, hq⟩

lemma moves_error {e : SyntaxError} (h : m ts p = .error e) (h' : m' ts' p = .error (e.shift k)) :
    Moves k ts ts' R m m' p := by
  unfold Moves
  rw [h, h']

/-- The relation sees only the results of the two runs. -/
lemma Moves.congr {x : ParseM α} {x' : ParseM α'} {q : Nat} (h : Moves k ts ts' R m m' q)
    (hx : x ts p = m ts q) (hx' : x' ts' p = m' ts' q) : Moves k ts ts' R x x' p := by
  unfold Moves at h ⊢
  rw [hx, hx']
  exact h

lemma Moves.mono {R' : α → α' → Prop} (h : Moves k ts ts' R m m' p)
    (hR : ∀ a a', R a a' → R' a a') : Moves k ts ts' R' m m' p := by
  unfold Moves at h ⊢
  split at h
  · assumption
  · obtain ⟨h₁, h₂⟩ := h
    exact ⟨hR _ _ h₁, h₂⟩
  · exact h.elim

/-- Related runs that go on in related ways from where they end are related. -/
lemma Moves.bind {g : α → ParseM β} {g' : α' → ParseM β'} (h : Moves k ts ts' R m m' p)
    (hg : ∀ a a' q, R a a' → m ts p = .ok (a, q) → q < ts.tokens.size →
      Moves k ts ts' S (g a) (g' a') q) :
    Moves k ts ts' S (m >>= g) (m' >>= g') p := by
  cases hm : m ts p with
  | error e =>
    cases hm' : m' ts' p with
    | error e' =>
      simp only [Moves, hm, hm'] at h
      exact moves_error (e := e) (by simp [hm, Except.bind]) (by simp [hm', Except.bind, h])
    | ok r' =>
      simp [Moves, hm, hm'] at h
  | ok r =>
    obtain ⟨a, q⟩ := r
    cases hm' : m' ts' p with
    | error e' =>
      simp [Moves, hm, hm'] at h
    | ok r' =>
      obtain ⟨a', q'⟩ := r'
      simp only [Moves, hm, hm'] at h
      obtain ⟨hR, rfl, hq⟩ := h
      exact (hg a a' q' hR hm hq).congr (bind_of_ok ts p g hm) (bind_of_ok ts' p g' hm')

/-- A step that succeeds on both streams at the same end, and what follows it. -/
lemma Moves.of_ok_bind {x : ParseM α} {x' : ParseM α'} {g : α → ParseM β} {g' : α' → ParseM β'}
    {a : α} {a' : α'} {q : Nat} (hx : x ts p = .ok (a, q)) (hx' : x' ts' p = .ok (a', q))
    (h : Moves k ts ts' S (g a) (g' a') q) : Moves k ts ts' S (x >>= g) (x' >>= g') p :=
  h.congr (bind_of_ok ts p g hx) (bind_of_ok ts' p g' hx')

lemma moves_pure {a : α} {a' : α'} (hp : p < ts.tokens.size) (h : R a a') :
    Moves k ts ts' R (pure a) (pure a') p :=
  moves_ok rfl rfl h hp

lemma moves_throw {e : SyntaxError} : Moves k ts ts' R (throw e) (throw (e.shift k)) p :=
  moves_error rfl rfl

lemma moves_failAt {sp : Span} {msg : String} :
    Moves k ts ts' R (failAt sp msg) (failAt (sp.shift k) msg) p :=
  moves_error rfl rfl

lemma Moves.ite {c : Prop} [Decidable c] {x y : ParseM α} {x' y' : ParseM α'}
    (hx : c → Moves k ts ts' R x x' p) (hy : ¬ c → Moves k ts ts' R y y' p) :
    Moves k ts ts' R (if c then x else y) (if c then x' else y') p := by
  split
  · exact hx ‹_›
  · exact hy ‹_›

lemma Moves.map {f : α → β} {f' : α' → β'} (h : Moves k ts ts' R m m' p)
    (hf : ∀ a a', R a a' → S (f a) (f' a')) : Moves k ts ts' S (f <$> m) (f' <$> m') p := by
  unfold Moves at h ⊢
  simp only [run_map]
  cases hm : m ts p <;> cases hm' : m' ts' p <;> simp_all [Except.map]

lemma Moves.discard (h : Moves k ts ts' R m m' p) :
    Moves k ts ts' (fun _ _ => True) (discard m) (discard m') p := by
  unfold Moves at h ⊢
  simp only [run_discard]
  cases hm : m ts p <;> cases hm' : m' ts' p <;> simp_all [Except.map]

/-- A context changes only the context of a failure, which moves alike. -/
lemma Moves.withContext {c : ErrorContext} (h : Moves k ts ts' R m m' p) :
    Moves k ts ts' R (withContext c m) (withContext c m') p := by
  unfold Moves at h ⊢
  simp only [ParseM.withContext]
  change match Except.tryCatch (m ts p) _, Except.tryCatch (m' ts' p) _ with
    | .error e, .error e' => e' = e.shift k
    | .ok (a, q), .ok (a', q') => R a a' ∧ q' = q ∧ q < ts.tokens.size
    | _, _ => False
  cases hm : m ts p <;> cases hm' : m' ts' p <;> simp_all [Except.tryCatch]

/-! ## Reading tokens on the moved stream -/

variable (hM : ts.Moved k ts')
include hM

omit hM in
lemma moves_current_bind {g : Token → ParseM β} {g' : Token → ParseM β'}
    (h : Moves k ts ts' S (g (ts.tokenAt p)) (g' (ts'.tokenAt p)) p) :
    Moves k ts ts' S (current >>= g) (current >>= g') p :=
  Moves.of_ok_bind (run_current ts p) (run_current ts' p) h

lemma moves_currentKind_bind {g : TokenKind → ParseM β} {g' : TokenKind → ParseM β'}
    (h : Moves k ts ts' S (g (ts.tokenAt p).kind) (g' ((ts.tokenAt p).kind.shift k)) p) :
    Moves k ts ts' S (currentKind >>= g) (currentKind >>= g') p :=
  Moves.of_ok_bind (run_currentKind ts p) (by rw [run_currentKind, hM.kind]) h

lemma moves_currentSpan_bind {g : Span → ParseM β} {g' : Span → ParseM β'}
    (h : Moves k ts ts' S (g (ts.tokenAt p).span) (g' ((ts.tokenAt p).span.shift k)) p) :
    Moves k ts ts' S (currentSpan >>= g) (currentSpan >>= g') p :=
  Moves.of_ok_bind (run_currentSpan ts p) (by rw [run_currentSpan, hM.span]) h

lemma moves_peekKind_bind {n : Nat} {g : TokenKind → ParseM β} {g' : TokenKind → ParseM β'}
    (h : Moves k ts ts' S (g (ts.tokenAt (p + n)).kind) (g' ((ts.tokenAt (p + n)).kind.shift k)) p) :
    Moves k ts ts' S (peekKind n >>= g) (peekKind n >>= g') p :=
  Moves.of_ok_bind (run_peekKind ts p n) (by rw [run_peekKind, hM.kind]) h

/-- A check against a kind with no span sees the same on both streams. -/
lemma moves_check_bind {kind : TokenKind} (hkind : ∀ text, kind ≠ .fstringEnd text)
    {g : Bool → ParseM β} {g' : Bool → ParseM β'}
    (h : Moves k ts ts' S (g ((ts.tokenAt p).kind == kind)) (g' ((ts.tokenAt p).kind == kind)) p) :
    Moves k ts ts' S (check kind >>= g) (check kind >>= g') p :=
  Moves.of_ok_bind (run_check ts p kind)
    (by rw [run_check, hM.kind, TokenKind.shift_beq k hkind]) h

lemma moves_checkAny_bind {ks : List TokenKind} (hks : ∀ kind ∈ ks, ∀ text, kind ≠ .fstringEnd text)
    {g : Bool → ParseM β} {g' : Bool → ParseM β'}
    (h : Moves k ts ts' S (g (ks.contains (ts.tokenAt p).kind))
      (g' (ks.contains (ts.tokenAt p).kind)) p) :
    Moves k ts ts' S (checkAny ks >>= g) (checkAny ks >>= g') p := by
  refine Moves.of_ok_bind (run_checkAny ts p ks) ?_ h
  rw [run_checkAny, hM.kind, TokenKind.contains_shift k hks]

lemma moves_advance_bind {g : Token → ParseM β} {g' : Token → ParseM β'}
    (h : Moves k ts ts' S (g (ts.tokenAt p)) (g' (ts'.tokenAt p)) (ts.next p)) :
    Moves k ts ts' S (advance >>= g) (advance >>= g') p :=
  Moves.of_ok_bind (run_advance ts p) (by rw [run_advance, hM.next]) h

lemma moves_discard_advance_bind {g : PUnit → ParseM β} {g' : PUnit → ParseM β'}
    (h : Moves k ts ts' S (g ()) (g' ()) (ts.next p)) :
    Moves k ts ts' S (discard advance >>= g) (discard advance >>= g') p :=
  Moves.of_ok_bind (by simp only [run_discard, run_advance, Except.map])
    (by simp only [run_discard, run_advance, Except.map, hM.next]) h

/-- An optional token with no span is taken on both streams or on neither. -/
lemma moves_eat_bind {kind : TokenKind} (hkind : ∀ text, kind ≠ .fstringEnd text)
    {g : Bool → ParseM β} {g' : Bool → ParseM β'}
    (ht : (ts.tokenAt p).kind = kind → Moves k ts ts' S (g true) (g' true) (ts.next p))
    (hf : (ts.tokenAt p).kind ≠ kind → Moves k ts ts' S (g false) (g' false) p) :
    Moves k ts ts' S (eat kind >>= g) (eat kind >>= g') p := by
  have hbeq : ((ts'.tokenAt p).kind == kind) = ((ts.tokenAt p).kind == kind) := by
    rw [hM.kind, TokenKind.shift_beq k hkind]
  by_cases hk : (ts.tokenAt p).kind = kind
  · exact Moves.of_ok_bind (by simp [run_eat, hk]) (by simp [run_eat, hbeq, hk, hM.next]) (ht hk)
  · exact Moves.of_ok_bind (by simp [run_eat, hk]) (by simp [run_eat, hbeq, hk]) (hf hk)

/-- The error for the token at the position moves with it. -/
lemma moves_failUnexpected {msg : String} :
    Moves k ts ts' R (failUnexpected msg) (failUnexpected msg) p :=
  moves_error (run_failUnexpected ts p msg) (by simp [SyntaxError.shift, hM.span, hM.kind])

/-- An expected token with no span is taken on both streams, or missed with the same error
moved. -/
lemma moves_expect_bind {kind : TokenKind} (hkind : ∀ text, kind ≠ .fstringEnd text)
    {g : Token → ParseM β} {g' : Token → ParseM β'}
    (h : (ts.tokenAt p).kind = kind →
      Moves k ts ts' S (g (ts.tokenAt p)) (g' (ts'.tokenAt p)) (ts.next p)) :
    Moves k ts ts' S (expect kind >>= g) (expect kind >>= g') p := by
  have hbeq : ((ts'.tokenAt p).kind == kind) = ((ts.tokenAt p).kind == kind) := by
    rw [hM.kind, TokenKind.shift_beq k hkind]
  by_cases hk : (ts.tokenAt p).kind = kind
  · exact Moves.of_ok_bind (by simp [run_expect, hk]) (by simp [run_expect, hbeq, hk, hM.next])
      (h hk)
  · refine moves_error (e := ⟨(ts.tokenAt p).span, "expected " ++ kind.displayName ++ ", found " ++
      (ts.tokenAt p).kind.displayName, none, false⟩) ?_ ?_
    · simp [run_expect, hk, Except.bind]
    · simp [run_expect, hk, Except.bind, SyntaxError.shift, hM.span, hM.kind,
        TokenKind.shift_eq_iff k hkind]

lemma moves_discard_expect_bind {kind : TokenKind} (hkind : ∀ text, kind ≠ .fstringEnd text)
    {g : PUnit → ParseM β} {g' : PUnit → ParseM β'}
    (h : (ts.tokenAt p).kind = kind → Moves k ts ts' S (g ()) (g' ()) (ts.next p)) :
    Moves k ts ts' S (discard (expect kind) >>= g) (discard (expect kind) >>= g') p := by
  have hbeq : ((ts'.tokenAt p).kind == kind) = ((ts.tokenAt p).kind == kind) := by
    rw [hM.kind, TokenKind.shift_beq k hkind]
  by_cases hk : (ts.tokenAt p).kind = kind
  · exact Moves.of_ok_bind (by simp [run_expect, hk, Except.map])
      (by simp [run_expect, hbeq, hk, hM.next, Except.map]) (h hk)
  · refine moves_error (e := ⟨(ts.tokenAt p).span, "expected " ++ kind.displayName ++ ", found " ++
      (ts.tokenAt p).kind.displayName, none, false⟩) ?_ ?_
    · simp [run_expect, hk, Except.bind, Except.map]
    · simp [run_expect, hk, Except.bind, Except.map, SyntaxError.shift, hM.span, hM.kind,
        TokenKind.shift_eq_iff k hkind]

/-- The span before a position past the first moves with the stream. -/
lemma moves_previousSpan_bind {g : Span → ParseM β} {g' : Span → ParseM β'} (hp : 0 < p)
    (hp' : p < ts.tokens.size)
    (h : Moves k ts ts' S (g (ts.spanBefore p)) (g' ((ts.spanBefore p).shift k)) p) :
    Moves k ts ts' S (previousSpan >>= g) (previousSpan >>= g') p :=
  Moves.of_ok_bind (run_previousSpan ts p) (by rw [run_previousSpan, hM.spanBefore hp hp'.le]) h

end ParseM

end ExprFront
