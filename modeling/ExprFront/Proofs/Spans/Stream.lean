import Mathlib
import ExprFront.Proofs.Spans.Tree
import ExprFront.Proofs.ParseRun

/-!
# Ordered token streams, and what a read of them gives

The grammar builds every span it stores from the spans of the tokens it reads. Those tokens are
as the lexer gives them (`TokenStream.Ordered`): one end-of-input token, last; every other token
covers at least one byte; tokens follow one another in the text, within the source; a string
token is at least as long as its opening and closing quotes; and the text an f-string end
carries lies inside it.

Over such a stream, `TokenStream.startAt i` is where the token at position `i` starts and
`TokenStream.stopBefore j` where the token before position `j` stops. A read from `i` to `j`
that gives an expression (`TokenStream.Reads`) took a token at least, and the expression nests
and lies between those two offsets; expressions read one after another (`TokenStream.ReadsAll`)
nest and follow one another.
-/

namespace ExprFront

namespace TokenStream

/-- A token stream as the lexer gives it. -/
structure Ordered (ts : TokenStream) : Prop where
  nonempty : 0 < ts.tokens.size
  eof_iff : ∀ i (hi : i < ts.tokens.size), ts.tokens[i].kind = .eof ↔ i + 1 = ts.tokens.size
  wf : ∀ i (hi : i < ts.tokens.size), ts.tokens[i].span.WF
  solid : ∀ i (hi : i < ts.tokens.size), ts.tokens[i].kind ≠ .eof →
    ts.tokens[i].span.start < ts.tokens[i].span.stop
  chain : ∀ i (hi : i + 1 < ts.tokens.size), ts.tokens[i].span.stop ≤ ts.tokens[i + 1].span.start
  bounded : ∀ i (hi : i < ts.tokens.size), ts.tokens[i].span.stop ≤ ts.src.size
  strings : ∀ i (hi : i < ts.tokens.size) (d : Delimiter), ts.tokens[i].kind = .string d →
    ts.tokens[i].span.start + d.openLength + d.closeLength ≤ ts.tokens[i].span.stop
  ends : ∀ i (hi : i < ts.tokens.size) (text : Span), ts.tokens[i].kind = .fstringEnd text →
    text.WF ∧ text.Inside ts.tokens[i].span

/-- Where the token at position `i` starts. -/
def startAt (ts : TokenStream) (i : Nat) : Nat := (ts.tokenAt i).span.start

/-- Where the token before position `j` stops; `0` at the start. -/
def stopBefore (ts : TokenStream) (j : Nat) : Nat := (ts.spanBefore j).stop

variable {ts : TokenStream} {i j k : Nat}

lemma tokenAt_eq (hi : i < ts.tokens.size) : ts.tokenAt i = ts.tokens[i] := by
  simp [tokenAt, hi]

@[simp] lemma spanBefore_succ (hi : i < ts.tokens.size) :
    ts.spanBefore (i + 1) = (ts.tokenAt i).span := by
  simp [spanBefore, tokenAt, hi]

@[simp] lemma stopBefore_zero : ts.stopBefore 0 = 0 := rfl

lemma stopBefore_succ (hi : i < ts.tokens.size) :
    ts.stopBefore (i + 1) = (ts.tokenAt i).span.stop := by
  simp [stopBefore, hi]

lemma le_next (i : Nat) : i ≤ ts.next i := by
  unfold next
  split <;> omega

lemma next_lt (hi : i < ts.tokens.size) : ts.next i < ts.tokens.size := by
  unfold next
  split <;> omega

namespace Ordered

variable (hts : ts.Ordered)
include hts

/-- Every token but the last is no end of input, so a read moves past it. -/
lemma succ_lt (hi : i < ts.tokens.size) (hk : (ts.tokenAt i).kind ≠ .eof) :
    i + 1 < ts.tokens.size := by
  rw [tokenAt_eq hi] at hk
  have := (hts.eof_iff i hi).not.mp hk
  omega

lemma next_eq (hi : i < ts.tokens.size) (hk : (ts.tokenAt i).kind ≠ .eof) : ts.next i = i + 1 := by
  simp [next, hts.succ_lt hi hk]

lemma wf_at (hi : i < ts.tokens.size) : (ts.tokenAt i).span.WF := by
  rw [tokenAt_eq hi]
  exact hts.wf i hi

lemma solid_at (hi : i < ts.tokens.size) (hk : (ts.tokenAt i).kind ≠ .eof) :
    (ts.tokenAt i).span.start < (ts.tokenAt i).span.stop := by
  rw [tokenAt_eq hi] at hk ⊢
  exact hts.solid i hi hk

/-- Tokens follow one another in the text. -/
lemma stop_le_start (hij : i < j) (hj : j < ts.tokens.size) :
    (ts.tokenAt i).span.stop ≤ (ts.tokenAt j).span.start := by
  induction j with
  | zero => omega
  | succ j ih =>
    have hchain := hts.chain j hj
    rw [← tokenAt_eq (by omega), ← tokenAt_eq hj] at hchain
    rcases Nat.lt_succ_iff_lt_or_eq.mp hij with hlt | rfl
    · have := ih hlt (by omega)
      have := hts.wf_at (i := j) (by omega)
      exact le_trans (by unfold Span.WF at this; omega) hchain
    · exact hchain

lemma startAt_mono (hij : i ≤ j) (hj : j < ts.tokens.size) : ts.startAt i ≤ ts.startAt j := by
  rcases Nat.lt_or_eq_of_le hij with hlt | rfl
  · have := hts.stop_le_start hlt hj
    have := hts.wf_at (i := i) (by omega)
    unfold startAt
    unfold Span.WF at this
    omega
  · exact le_rfl

lemma stopBefore_le_startAt (hi : i < ts.tokens.size) : ts.stopBefore i ≤ ts.startAt i := by
  rcases i with _ | i
  · exact Nat.zero_le _
  · rw [stopBefore_succ (by omega)]
    exact hts.stop_le_start (Nat.lt_succ_self i) hi

lemma stopBefore_mono (hij : i ≤ j) (hj : j ≤ ts.tokens.size) : ts.stopBefore i ≤ ts.stopBefore j := by
  rcases j with _ | j
  · obtain rfl : i = 0 := by omega
    exact le_rfl
  · rw [stopBefore_succ (by omega)]
    rcases i with _ | i
    · exact Nat.zero_le _
    · rw [stopBefore_succ (by omega)]
      rcases Nat.lt_or_eq_of_le (Nat.le_of_succ_le_succ hij) with hlt | rfl
      · have := hts.stop_le_start hlt (by omega)
        have := hts.wf_at (i := j) (by omega)
        unfold Span.WF at this
        omega
      · exact le_rfl

/-- A token at a position from `i` on and before `j` lies between where the token at `i` starts
and where the one before `j` stops. -/
lemma token_inside (hik : i ≤ k) (hkj : k < j) (hj : j ≤ ts.tokens.size) :
    ts.startAt i ≤ (ts.tokenAt k).span.start ∧ (ts.tokenAt k).span.stop ≤ ts.stopBefore j := by
  have hstart := hts.startAt_mono hik (by omega)
  have hstop := hts.stopBefore_mono (show k + 1 ≤ j by omega) hj
  rw [stopBefore_succ (by omega)] at hstop
  exact ⟨hstart, hstop⟩

/-- An advance from a position moves past it unless the token it lands on ends the input. -/
lemma lt_next (hi : i < ts.tokens.size) (hk : (ts.tokenAt (ts.next i)).kind ≠ .eof) :
    i < ts.next i := by
  by_contra hle
  have hlast : ¬ i + 1 < ts.tokens.size := fun h => hle (by simp [next, h])
  have heq : ts.next i = i := by simp [next, hlast]
  rw [heq, tokenAt_eq hi] at hk
  exact hk ((hts.eof_iff i hi).mpr (by omega))

/-- The token at `i`, for a read from `i` to `j`, is well formed and lies between where it starts
and where the token before `j` stops. -/
lemma token_fits (hij : i < j) (hj : j ≤ ts.tokens.size) :
    (ts.tokenAt i).span.WF ∧ (ts.tokenAt i).span.Inside ⟨ts.startAt i, ts.stopBefore j⟩ :=
  ⟨hts.wf_at (by omega), le_rfl, (hts.token_inside le_rfl hij hj).2⟩

/-- Every token stops inside the text, so the one before any position does too. -/
lemma stopBefore_le_size (hj : j ≤ ts.tokens.size) : ts.stopBefore j ≤ ts.src.size := by
  rcases j with _ | j
  · exact Nat.zero_le _
  · rw [stopBefore_succ (by omega), tokenAt_eq (by omega)]
    exact hts.bounded j (by omega)

lemma startAt_le_stopBefore (hij : i < j) (hj : j ≤ ts.tokens.size) :
    ts.startAt i ≤ ts.stopBefore j := by
  have := hts.token_inside le_rfl hij hj
  have := hts.wf_at (i := i) (by omega)
  unfold startAt
  unfold Span.WF at this
  omega

end Ordered

/-! ## Reads -/

/-- A read from position `i` to position `j` that gave the expression `e`: it took a token at
least and stopped inside the stream, and `e` nests and lies between the start of the token at
`i` and the end of the token before `j`. -/
structure Reads (ts : TokenStream) (i : Nat) (e : Expr) (j : Nat) : Prop where
  lt : i < j
  lt_size : j < ts.tokens.size
  nested : e.Nested
  start_le : ts.startAt i ≤ e.span.start
  stop_le : e.span.stop ≤ ts.stopBefore j

/-- Expressions read one after another, from the text offset `lo` on, up to the end of the token
before position `j`: they nest, and their spans follow one another. -/
structure ReadsAll (ts : TokenStream) (lo : Nat) (es : List Expr) (j : Nat) : Prop where
  lt_size : j < ts.tokens.size
  nested : ∀ e ∈ es, e.Nested
  follow : Span.Follow lo (ts.stopBefore j) (es.map Expr.span)

variable {ts : TokenStream} {i j k lo : Nat} {e : Expr} {es : List Expr}

namespace Reads

lemma span_wf (h : ts.Reads i e j) : e.span.start ≤ e.span.stop := h.nested.nonempty.le

/-- An expression read from a position no earlier than `i` is read from the end of the token
before `i` on. -/
lemma toAll (hts : ts.Ordered) {i' : Nat} (h : ts.Reads i' e j) (hii' : i ≤ i') :
    ts.ReadsAll (ts.stopBefore i) [e] j := by
  have h₁ := hts.stopBefore_le_startAt (show i < ts.tokens.size by
    have := h.lt; have := h.lt_size; omega)
  have h₂ := hts.startAt_mono hii' (by have := h.lt; have := h.lt_size; omega)
  exact ⟨h.lt_size, by simpa using h.nested, by
    simpa using ⟨by have := h.start_le; omega, h.span_wf, h.stop_le⟩⟩

/-- A read from a position no earlier than `i0` starts where the token at `i0` starts or later. -/
lemma startAt_le (hts : ts.Ordered) {i0 : Nat} (h : ts.Reads i e j) (hi0 : i0 ≤ i) :
    ts.startAt i0 ≤ e.span.start :=
  (hts.startAt_mono hi0 (by have := h.lt; have := h.lt_size; omega)).trans h.start_le

/-- What is read before a position ends before what is read from there on. -/
lemma before (hts : ts.Ordered) {a b : Expr} {i' j' : Nat} (ha : ts.Reads i a j)
    (hb : ts.Reads i' b j') (hji : j ≤ i') : a.span.stop ≤ b.span.start := by
  have h₁ := hts.stopBefore_le_startAt (show j < ts.tokens.size from ha.lt_size)
  have h₂ := hts.startAt_mono hji (show i' < ts.tokens.size by have := hb.lt; have := hb.lt_size; omega)
  have := ha.stop_le
  have := hb.start_le
  omega

/-- A read lies between any wider positions. -/
lemma widen (hts : ts.Ordered) (h : ts.Reads i e j) {i' j' : Nat} (hi : i' ≤ i) (hj : j ≤ j')
    (hj' : j' < ts.tokens.size) : ts.Reads i' e j' := by
  have := hts.startAt_mono hi (by have := h.lt; have := h.lt_size; omega)
  have := hts.stopBefore_mono hj (by omega)
  exact ⟨by have := h.lt; omega, hj', h.nested, by have := h.start_le; omega,
    by have := h.stop_le; omega⟩

/-- The token at the first position of a read is no end of input. -/
lemma ne_eof (hts : ts.Ordered) (h : ts.Reads i e j) : (ts.tokenAt i).kind ≠ .eof := by
  intro hk
  have hi : i < ts.tokens.size := by have := h.lt; have := h.lt_size; omega
  rw [tokenAt_eq hi] at hk
  have := (hts.eof_iff i hi).mp hk
  have := h.lt
  have := h.lt_size
  omega

end Reads

namespace ReadsAll

lemma nil (hj : j < ts.tokens.size) (hlo : lo ≤ ts.stopBefore j) : ts.ReadsAll lo [] j :=
  ⟨hj, by simp, hlo⟩

lemma le (h : ts.ReadsAll lo es j) : lo ≤ ts.stopBefore j := h.follow.le

/-- Expressions read before a position stay read up to a later one. -/
lemma later (hts : ts.Ordered) (h : ts.ReadsAll lo es i) (hij : i ≤ j) (hj : j < ts.tokens.size) :
    ts.ReadsAll lo es j :=
  ⟨hj, h.nested, h.follow.mono le_rfl (hts.stopBefore_mono hij (by omega))⟩

/-- One more expression, read from a later position. -/
lemma snoc (hts : ts.Ordered) (h : ts.ReadsAll lo es i) (he : ts.Reads k e j) (hik : i ≤ k) :
    ts.ReadsAll lo (es ++ [e]) j := by
  refine ⟨he.lt_size, ?_, ?_⟩
  · intro c hc
    rcases List.mem_append.mp hc with hc | hc
    · exact h.nested c hc
    · rw [List.mem_singleton.mp hc]
      exact he.nested
  · rw [List.map_append, List.map_singleton]
    have h₁ := hts.stopBefore_le_startAt (show i < ts.tokens.size from h.lt_size)
    have h₂ := hts.startAt_mono hik (by have := he.lt; have := he.lt_size; omega)
    exact h.follow.snoc (by have := he.start_le; omega) he.span_wf he.stop_le

lemma singleton (he : ts.Reads i e j) : ts.ReadsAll (ts.startAt i) [e] j :=
  ⟨he.lt_size, by simpa using he.nested, by simpa using ⟨he.start_le, he.span_wf, he.stop_le⟩⟩

/-- Expressions read one after another, then more from a later position. -/
lemma append {es' : List Expr} {lo' : Nat} (h : ts.ReadsAll lo es i)
    (h' : ts.ReadsAll lo' es' j) (hlo : ts.stopBefore i ≤ lo') : ts.ReadsAll lo (es ++ es') j := by
  refine ⟨h'.lt_size, fun c hc => ?_, ?_⟩
  · rcases List.mem_append.mp hc with hc | hc
    · exact h.nested c hc
    · exact h'.nested c hc
  · rw [List.map_append]
    exact Span.follow_append.mpr ⟨_, h.follow, h'.follow.mono hlo le_rfl⟩

/-- Expressions read from `lo` on are read from any earlier offset on. -/
lemma weaken {lo' : Nat} (h : ts.ReadsAll lo es j) (hlo : lo' ≤ lo) : ts.ReadsAll lo' es j :=
  ⟨h.lt_size, h.nested, h.follow.mono hlo le_rfl⟩

/-- Expressions read one after another are read from the start of the first. -/
lemma from_head (h : ts.ReadsAll lo (e :: es) j) : ts.ReadsAll e.span.start (e :: es) j := by
  obtain ⟨hj, hnested, -, hwf, hrest⟩ := h
  exact ⟨hj, hnested, le_rfl, hwf, hrest⟩

/-- One expression read from where the token at `i0` starts, past `i0`, is a read from `i0`. -/
lemma reads_single {i0 : Nat} (h : ts.ReadsAll (ts.startAt i0) [e] j) (hlt : i0 < j) :
    ts.Reads i0 e j := by
  obtain ⟨hj, hnested, hlo, -, hhi⟩ := h
  exact ⟨hlt, hj, hnested e (by simp), hlo, hhi⟩

/-- An expression read, then more from where it stopped. -/
lemma cons {i0 : Nat} (he : ts.Reads i0 e i) (h : ts.ReadsAll (ts.stopBefore i) es j) :
    ts.ReadsAll e.span.start (e :: es) j :=
  ((singleton he).append h le_rfl).from_head

end ReadsAll

/-! ## Nodes built over reads -/

namespace Reads

variable (hts : ts.Ordered)
include hts

/-- A node over one token, with no children. -/
lemma leaf (hi : i < ts.tokens.size) (hk : (ts.tokenAt i).kind ≠ .eof) (hkids : e.children = [])
    (hspan : e.span = (ts.tokenAt i).span) (hloc : e.LocalSpans) : ts.Reads i e (i + 1) := by
  have hsolid := hts.solid_at hi hk
  refine ⟨by omega, hts.succ_lt hi hk, .of_follow ?_ ?_ hloc (by simp [hkids]), ?_, ?_⟩
  · rw [hspan]
    exact hsolid
  · rw [hkids, hspan]
    exact hsolid.le
  · rw [hspan]
    exact le_rfl
  · rw [hspan, stopBefore_succ hi]

/-- A node over two reads, one after the other, that spans both. -/
lemma pair {a b : Expr} {i0 : Nat} (ha : ts.Reads i0 a i) (hb : ts.Reads k b j) (hik : i ≤ k)
    (hkids : e.children = [a, b]) (hspan : e.span = a.span.merge b.span) (hloc : e.LocalSpans) :
    ts.Reads i0 e j := by
  have hab := ha.before hts hb hik
  have ha₁ := ha.span_wf
  have hb₁ := hb.span_wf
  have ha₂ := ha.start_le
  have hb₂ := hb.stop_le
  have hlt : i0 < j := by have := ha.lt; have := hb.lt; omega
  have hstop := hts.stopBefore_mono (show i ≤ j by have := hb.lt; omega) (by have := hb.lt_size; omega)
  have ha₃ := ha.stop_le
  refine ⟨hlt, hb.lt_size, .of_follow ?_ ?_ hloc ?_, ?_, ?_⟩
  · rw [hspan]
    simp only [Span.start_merge, Span.stop_merge]
    have := hb.nested.nonempty
    omega
  · rw [hkids, hspan]
    simp only [List.map_cons, List.map_nil, Span.follow_cons, Span.follow_nil, Span.start_merge,
      Span.stop_merge]
    omega
  · rw [hkids]
    simp [ha.nested, hb.nested]
  · rw [hspan]
    simp only [Span.start_merge]
    omega
  · rw [hspan]
    simp only [Span.stop_merge]
    omega

/-- A node over a token, then a read from a position no earlier, that spans both. -/
lemma prefixed {v : Expr} {i0 : Nat} (hi0 : i0 ≤ i) (hv : ts.Reads i v j)
    (hkids : e.children = [v]) (hspan : e.span = (ts.tokenAt i0).span.merge v.span)
    (hloc : e.LocalSpans) : ts.Reads i0 e j := by
  have hlt : i0 < j := by have := hv.lt; omega
  obtain ⟨-, htok⟩ := hts.token_inside le_rfl hlt (by have := hv.lt_size; omega)
  have hstart := hts.startAt_mono hi0 (by have := hv.lt; have := hv.lt_size; omega)
  have hv₁ := hv.start_le
  have hv₂ := hv.stop_le
  have hv₃ := hv.nested.nonempty
  have hwf := hts.wf_at (i := i0) (by have := hv.lt_size; omega)
  unfold startAt at hstart hv₁
  unfold Span.WF at hwf
  refine ⟨hlt, hv.lt_size, .of_follow ?_ ?_ hloc ?_, ?_, ?_⟩
  · rw [hspan]
    simp only [Span.start_merge, Span.stop_merge]
    omega
  · rw [hkids, hspan]
    simp only [List.map_cons, List.map_nil, Span.follow_cons, Span.follow_nil, Span.start_merge,
      Span.stop_merge]
    omega
  · rw [hkids]
    simp [hv.nested]
  · rw [hspan]
    simp only [Span.start_merge, startAt]
    omega
  · rw [hspan]
    simp only [Span.stop_merge]
    omega

/-- A node that spans from `first` to the end of the last token it took, over children read from
the start of `first` on. -/
lemma spanning {first : Span} {i0 : Nat} (hlt : i0 < j)
    (hkids : ts.ReadsAll first.start e.children j) (hfirst : ts.startAt i0 ≤ first.start)
    (hfirst' : first.stop ≤ ts.stopBefore j) (hspan : e.span = first.merge (ts.spanBefore j))
    (hloc : e.LocalSpans) : ts.Reads i0 e j := by
  have hj := hkids.lt_size
  obtain ⟨k, rfl⟩ : ∃ k, j = k + 1 := ⟨j - 1, by omega⟩
  have hk : k < ts.tokens.size := by omega
  have hne : (ts.tokenAt k).kind ≠ .eof := by
    rw [tokenAt_eq hk]
    intro h
    have := (hts.eof_iff k hk).mp h
    omega
  have hsolid := hts.solid_at hk hne
  have hmono := hts.startAt_mono (show i0 ≤ k by omega) hk
  have hstop := stopBefore_succ hk
  rw [spanBefore_succ hk] at hspan
  rw [hstop] at hfirst'
  unfold startAt at hmono hfirst
  refine ⟨hlt, hj, .of_follow ?_ ?_ hloc hkids.nested, ?_, ?_⟩
  · rw [hspan]
    simp only [Span.start_merge, Span.stop_merge]
    omega
  · rw [hspan]
    simp only [Span.start_merge, Span.stop_merge]
    exact hkids.follow.mono (by omega) (by omega)
  · rw [hspan]
    simp only [Span.start_merge, startAt]
    omega
  · rw [hspan, hstop]
    simp only [Span.stop_merge]
    omega

/-- A node over a value, then expressions read after it, up to a token that closes the node. -/
lemma trailing {v : Expr} {kids : List Expr} {i0 : Nat} (hv : ts.Reads i0 v i)
    (hkids : ts.ReadsAll (ts.stopBefore i) kids k) (hik : i ≤ k)
    (hclose : (ts.tokenAt k).kind ≠ .eof) (hchildren : e.children = v :: kids)
    (hspan : e.span = v.span.merge (ts.tokenAt k).span) (hloc : e.LocalSpans) :
    ts.Reads i0 e (ts.next k) := by
  have hk := hkids.lt_size
  have hsucc := hts.succ_lt hk hclose
  rw [hts.next_eq hk hclose]
  refine spanning hts (by have := hv.lt; omega) ?_ hv.start_le ?_
    (by rw [hspan, spanBefore_succ hk]) hloc
  · rw [hchildren]
    exact ReadsAll.cons hv (hkids.later hts (Nat.le_succ k) hsucc)
  · have := hts.stopBefore_mono (show i ≤ k + 1 by omega) hsucc.le
    have := hv.stop_le
    omega

/-- What lies between a value read and the token that closes a node over it lies inside the
node. -/
lemma inside_trailing {v : Expr} {i0 : Nat} (hv : ts.Reads i0 v i) (hk : k < ts.tokens.size) :
    (⟨ts.stopBefore i, ts.stopBefore k⟩ : Span).Inside (v.span.merge (ts.tokenAt k).span) := by
  have := hts.stopBefore_le_startAt hk
  have := hts.wf_at hk
  have := hv.span_wf
  have := hv.stop_le
  unfold startAt at *
  unfold Span.WF at *
  simp only [Span.Inside, Span.start_merge, Span.stop_merge]
  omega

/-- A tuple of items read one after another from the first on, spanning them up to the last
token taken, a trailing comma included. -/
lemma tuple {first : Expr} {items : List Expr} {i0 : Nat} (hf : ts.Reads i0 first k)
    (hitems : ts.ReadsAll first.span.start items j) (hkj : k ≤ j) :
    ts.Reads i0 (.tuple items (first.span.merge (ts.spanBefore j))) j := by
  refine spanning hts (by have := hf.lt; omega) hitems hf.start_le ?_ rfl trivial
  have := hts.stopBefore_mono hkj hitems.lt_size.le
  have := hf.stop_le
  omega

/-- A node from the token at `i0` to a closing token at `k`, over children read between them. -/
lemma bracketed {kids : List Expr} {i0 lo : Nat} (hkids : ts.ReadsAll lo kids k)
    (hlo : ts.startAt i0 ≤ lo) (hi0k : i0 < k) (hclose : (ts.tokenAt k).kind ≠ .eof)
    (hchildren : e.children = kids)
    (hspan : e.span = (ts.tokenAt i0).span.merge (ts.tokenAt k).span) (hloc : e.LocalSpans) :
    ts.Reads i0 e (ts.next k) := by
  have hk := hkids.lt_size
  have hsucc := hts.succ_lt hk hclose
  rw [hts.next_eq hk hclose]
  refine spanning hts (by omega) ?_ le_rfl ?_ (by rw [hspan, spanBefore_succ hk]) hloc
  · rw [hchildren]
    exact (hkids.later hts (Nat.le_succ k) hsucc).weaken hlo
  · exact (hts.token_inside le_rfl (by omega) hsucc.le).2

omit hts in
/-- A node that spans from `first` to the end of its last child, over children read from the
start of `first` on. -/
lemma ending {first : Span} {kids : List Expr} {last : Expr} {i0 : Nat} (hlt : i0 < j)
    (hkids : ts.ReadsAll first.start (kids ++ [last]) j) (hfirst : ts.startAt i0 ≤ first.start)
    (hfirst' : first.stop ≤ ts.stopBefore j) (hchildren : e.children = kids ++ [last])
    (hspan : e.span = first.merge last.span) (hloc : e.LocalSpans) : ts.Reads i0 e j := by
  have hfollow := hkids.follow
  rw [List.map_append, List.map_singleton] at hfollow
  obtain ⟨-, hin₁, hin₂⟩ := hfollow.inside last.span (by simp)
  have hne := (hkids.nested last (by simp)).nonempty
  dsimp only at hin₁ hin₂
  refine ⟨hlt, hkids.lt_size, .of_follow ?_ ?_ hloc (by rw [hchildren]; exact hkids.nested), ?_, ?_⟩
  · rw [hspan]
    simp only [Span.start_merge, Span.stop_merge]
    omega
  · rw [hchildren, hspan, List.map_append, List.map_singleton]
    simp only [Span.start_merge, Span.stop_merge]
    exact hfollow.to_last.mono (by omega) (by omega)
  · rw [hspan]
    simp only [Span.start_merge]
    omega
  · rw [hspan]
    simp only [Span.stop_merge]
    omega

end Reads

end TokenStream

end ExprFront
