import Mathlib
import ExprFront.Proofs.Precedence.Reading

/-!
# Operators read at their own levels

Each operator node of a term is read by the production of its own level:

* a binary operator other than `**`, and `and` and `or`, take one more turn of the loop of their
  level (`chainsAt_join`): the left operand is read and chained at the level, and the operator
  and the right operand, read at the next level, are the turn;
* a prefix operator reads its operand at its own level, and `await` at the trailers' level;
* `**` reads an `await` operand on its left and a prefix operand on its right;
* a comparison reads its operands at the level of `|` and all its links in one flat loop
  (`comparisonLinks_of_readsAt`), `not in` and `is not` taking two tokens each;
* the conditional reads its body and test at the level of `or` and what follows `else` at its
  own.
-/

namespace ExprFront

open Grammar TokenStream ParseM

/-- A binary operator other than `**` is an operator of the binary level of its precedence. -/
lemma BinaryOp.level (op : BinaryOp) (hop : op ≠ .pow) :
    ∃ lvl : BinLevel, lvl.prec = op.prec ∧ lvl.operator? (.punct op.punct) = some op := by
  cases op
  exacts [⟨.sum, rfl, rfl⟩, ⟨.sum, rfl, rfl⟩, ⟨.term, rfl, rfl⟩, ⟨.term, rfl, rfl⟩,
    ⟨.term, rfl, rfl⟩, ⟨.term, rfl, rfl⟩, ⟨.term, rfl, rfl⟩, absurd rfl hop, ⟨.shift, rfl, rfl⟩,
    ⟨.shift, rfl, rfl⟩, ⟨.bitAnd, rfl, rfl⟩, ⟨.bitOr, rfl, rfl⟩, ⟨.bitXor, rfl, rfl⟩]

/-- An operator makes no tighter level read on. -/
lemma BinaryOp.stops_punct (op : BinaryOp) : Stops (op.prec + 1) (.punct op.punct) := by
  intro j hj hj14
  cases op <;> simp only [BinaryOp.prec] at hj <;> interval_cases j <;> rfl

lemma BoolOp.stops_keyword (op : BoolOp) : Stops (op.prec + 1) (.keyword op.keyword) := by
  intro j hj hj14
  cases op <;> simp only [BoolOp.prec] at hj <;> interval_cases j <;> rfl

namespace Grammar

lemma stops_doubleStar : Stops 13 (.punct .doubleStar) := by
  intro j hj hj14
  interval_cases j <;> rfl

/-- No token makes the prefix level read on, so it stops where the level of `**` stops. -/
lemma Stops.prefix_of_power {k : TokenKind} (h : Stops 12 k) : Stops 11 k := by
  intro j hj hj14
  rcases Nat.eq_or_lt_of_le hj with rfl | hj'
  · simp [suffixAt]
  · exact h j hj' hj14

lemma stops_if : Stops 1 (.keyword .if) := by
  intro j hj hj14
  interval_cases j <;> rfl

lemma stops_else : Stops 1 (.keyword .else) := by
  intro j hj hj14
  interval_cases j <;> rfl

end Grammar

lemma CmpOp.stops_of_mem {op : CmpOp} {x : Lexeme} (hx : x ∈ op.lexemes) : Stops 5 x.kind := by
  intro j hj hj14
  cases op <;> simp only [CmpOp.lexemes, List.mem_cons, List.not_mem_nil, or_false] at hx <;>
    rcases hx with rfl | rfl <;> interval_cases j <;> rfl

namespace Term

variable {ts : TokenStream} {p q n m : Nat} {e : Expr} {l r : Term}

/-! ## Left-associative operators -/

/-- A turn of a binary level's loop: its operator, and an operand of the next level. -/
lemma loopAt_binary {op : BinaryOp} (hop : op ≠ .pow) (hk : (ts.tokenAt q).kind = .punct op.punct) :
    loopAt op.prec e (m + descentCost op.prec) ts q =
      (atLevel (op.prec + 1) m ts (ts.next q)).bind fun aq =>
        loopAt op.prec (.binary op e aq.1 (e.span.merge aq.1.span)) (m + descentCost op.prec - 1)
          ts aq.2 := by
  obtain ⟨lvl, hprec, hopr⟩ := op.level hop
  rw [← hprec]
  have hcost : descentCost lvl.prec = 2 := by cases lvl <;> rfl
  simp only [hcost, loopAt_binLevel]
  rw [chainRest.eq_2]
  simp [hk, hopr, operand_succ, Except.bind, Except.map]

/-- A turn of the loop of `or` or `and`: the keyword, and an operand of the next level. -/
lemma loopAt_boolOp {op : BoolOp} (hk : (ts.tokenAt q).kind = .keyword op.keyword) :
    loopAt op.prec e (m + descentCost op.prec) ts q =
      (atLevel (op.prec + 1) m ts (ts.next q)).bind fun aq =>
        loopAt op.prec (.boolOp op e aq.1 (e.span.merge aq.1.span)) (m + descentCost op.prec - 1)
          ts aq.2 := by
  cases op
  · simp [loopAt, BoolOp.prec, BoolOp.keyword, descentCost, conjunctionRest.eq_2, hk, atLevel,
      Except.bind]
  · simp [loopAt, BoolOp.prec, BoolOp.keyword, descentCost, disjunctionRest.eq_2, hk, atLevel,
      Except.bind]

/-- **A left-associative node continues its level's loop.** Its left operand is read and
chained at the level; its operator, read by one turn of the loop, is followed by its right
operand read at the next level, and the loop goes on after it. -/
lemma chainsAt_join {L : Nat} (hL14 : L < 14) {node : Term} {x : Lexeme}
    (hprec : node.prec = L) (hlex : node.lexemes = l.lexemesAt L ++ x :: r.lexemesAt (L + 1))
    (hx : Stops (L + 1) x.kind) (join : Expr → Expr → Expr)
    (hstep : ∀ (ts : TokenStream) q e m, (ts.tokenAt q).kind = x.kind →
      loopAt L e (m + descentCost L) ts q = (atLevel (L + 1) m ts (ts.next q)).bind fun aq =>
        loopAt L (join e aq.1) (m + descentCost L - 1) ts aq.2)
    (hreads : ∀ src el er, l.Reads src el → r.Reads src er → node.Reads src (join el er))
    (hl : l.ChainsAt L) (hr : r.ReadsAt (L + 1)) : node.ChainsAt L := by
  intro ts p n hsp hstop hn
  rw [lexemesAt_of_le hprec.ge, hlex] at hsp hstop hn ⊢
  rw [spells_append] at hsp
  obtain ⟨hlsp, hxsp⟩ := hsp
  have hnext := hxsp.next
  obtain ⟨hk, -, hrsp⟩ := hxsp
  simp only [List.length_append, List.length_cons] at hstop hn ⊢
  obtain ⟨el, m, hrun, hm, hlr⟩ := hl ts p n hlsp (by rw [hk]; exact hx)
    (by simp only [budget] at hn ⊢; omega)
  have hcost := descentCost_le L
  obtain ⟨k, rfl⟩ : ∃ k, m = k + descentCost L :=
    ⟨m - descentCost L, by simp only [budget] at hn; omega⟩
  rw [show p + ((l.lexemesAt L).length + ((r.lexemesAt (L + 1)).length + 1)) =
    p + (l.lexemesAt L).length + 1 + (r.lexemesAt (L + 1)).length by omega] at hstop ⊢
  obtain ⟨er, hrrun, hrr⟩ := hr ts _ k hrsp hstop (by simp only [budget] at hn hm ⊢; omega)
  refine ⟨join el er, k + descentCost L - 1, ?_, by omega, hreads _ _ _ hlr hrr⟩
  rw [hrun, hstep ts _ el k hk, hnext, hrrun]
  rfl

/-- A binary operator other than `**` takes one more turn of its level's loop. -/
lemma chainsAt_binary {op : BinaryOp} (hop : op ≠ .pow) (hl : l.ChainsAt op.prec)
    (hr : r.ReadsAt (op.prec + 1)) : (binary op l r).ChainsAt op.prec := by
  have hleft : op.leftPrec = op.prec := by cases op <;> simp_all [BinaryOp.leftPrec]
  have hright : op.rightPrec = op.prec + 1 := by cases op <;> simp_all [BinaryOp.rightPrec]
  exact chainsAt_join (x := .punct op.punct) (by cases op <;> decide) rfl
    (by rw [lexemes_binary, hleft, hright]) op.stops_punct (fun e er => .binary op e er (e.span.merge er.span)) (fun _ _ _ _ hk => loopAt_binary hop hk)
    (fun _ _ _ hl hr => reads_binary hl hr) hl hr

/-- `and` and `or` take one more turn of their level's loop. -/
lemma chainsAt_boolOp (op : BoolOp) (hl : l.ChainsAt op.prec) (hr : r.ReadsAt (op.prec + 1)) :
    (boolOp op l r).ChainsAt op.prec := by
  exact chainsAt_join (x := .keyword op.keyword) (by cases op <;> decide) rfl (lexemes_boolOp op)
    op.stops_keyword (fun e er => .boolOp op e er (e.span.merge er.span))
    (fun _ _ _ _ hk => loopAt_boolOp hk) (fun _ _ _ hl hr => reads_boolOp hl hr) hl hr

/-! ## Prefix operators, `await` and `**` -/

/-- A prefix operator reads its operand at its own level. -/
lemma atLevel_unary {op : UnaryOp} (hk : (ts.tokenAt p).kind = op.lexeme.kind) :
    atLevel op.prec (m + 1) ts p = (atLevel op.prec m ts (ts.next p)).map fun aq =>
      (.unary op aq.1 ((ts.tokenAt p).span.merge aq.1.span), aq.2) := by
  cases op <;> simp only [UnaryOp.lexeme, Lexeme.kind] at hk
  case not =>
    simp only [atLevel, UnaryOp.prec]
    rw [inversion.eq_2]
    simp [hk, Except.bind, Except.map]
  all_goals simp [atLevel, UnaryOp.prec, factor.eq_2, hk, unaryOperator?, Except.bind]

lemma readsAt_unary (op : UnaryOp) {a : Term} (ha : a.ReadsAt op.prec) :
    (unary op a).ReadsAt op.prec := by
  intro ts p n hsp hstop hn
  rw [lexemesAt_of_le (show op.prec ≤ (unary op a).prec from le_rfl), lexemes_unary] at hsp hstop hn ⊢
  have hnext := hsp.next
  obtain ⟨hk, -, hasp⟩ := hsp
  simp only [List.length_cons] at hstop hn ⊢
  obtain ⟨k, rfl⟩ : ∃ k, n = k + 1 := ⟨n - 1, by simp only [budget] at hn; omega⟩
  rw [show p + ((a.lexemesAt op.prec).length + 1) = p + 1 + (a.lexemesAt op.prec).length by omega]
    at hstop ⊢
  obtain ⟨ea, hrun, hreads⟩ := ha ts (p + 1) k hasp hstop (by simp only [budget] at hn ⊢; omega)
  exact ⟨_, by rw [atLevel_unary hk, hnext, hrun]; rfl, reads_unary hreads⟩

/-- `await` reads a primary with its trailers. -/
lemma atLevel_await (hk : (ts.tokenAt p).kind = .keyword .await) :
    atLevel 13 (m + 1) ts p = (atLevel 14 m ts (ts.next p)).map fun aq =>
      (.await aq.1 ((ts.tokenAt p).span.merge aq.1.span), aq.2) := by
  simp [atLevel, awaitPrimary.eq_2, hk, Except.bind]

lemma readsAt_await {v : Term} (hv : v.ReadsAt 14) : (await v).ReadsAt 13 := by
  intro ts p n hsp hstop hn
  rw [lexemesAt_of_le (show 13 ≤ (await v).prec from le_rfl), lexemes_await] at hsp hstop hn ⊢
  have hnext := hsp.next
  obtain ⟨hk, -, hvsp⟩ := hsp
  simp only [List.length_cons] at hstop hn ⊢
  obtain ⟨k, rfl⟩ : ∃ k, n = k + 1 := ⟨n - 1, by simp only [budget] at hn; omega⟩
  rw [show p + ((v.lexemesAt 14).length + 1) = p + 1 + (v.lexemesAt 14).length by omega]
    at hstop ⊢
  obtain ⟨ev, hrun, hreads⟩ := hv ts (p + 1) k hvsp (hstop.mono (by omega))
    (by simp only [budget] at hn ⊢; omega)
  exact ⟨_, by rw [atLevel_await hk, hnext, hrun]; rfl, reads_await hreads⟩

/-- `**` reads an `await` operand, and after it a prefix operand. -/
lemma readsAt_pow (hl : l.ReadsAt 13) (hr : r.ReadsAt 11) : (binary .pow l r).ReadsAt 12 := by
  intro ts p n hsp hstop hn
  rw [lexemesAt_of_le (show 12 ≤ (binary .pow l r).prec from le_rfl),
    lexemes_binary] at hsp hstop hn ⊢
  simp only [BinaryOp.leftPrec, BinaryOp.rightPrec, BinaryOp.punct] at hsp hstop hn ⊢
  rw [spells_append] at hsp
  obtain ⟨hlsp, hxsp⟩ := hsp
  have hnext := hxsp.next
  obtain ⟨hk, -, hrsp⟩ := hxsp
  simp only [Lexeme.kind] at hk
  simp only [List.length_append, List.length_cons] at hstop hn ⊢
  obtain ⟨k, rfl⟩ : ∃ k, n = k + 1 := ⟨n - 1, by simp only [budget] at hn; omega⟩
  obtain ⟨el, hlrun, hlr⟩ := hl ts p k hlsp (by rw [hk]; exact stops_doubleStar)
    (by simp only [budget] at hn ⊢; omega)
  rw [show p + ((l.lexemesAt 13).length + ((r.lexemesAt 11).length + 1)) =
    p + (l.lexemesAt 13).length + 1 + (r.lexemesAt 11).length by omega] at hstop ⊢
  obtain ⟨er, hrrun, hrr⟩ := hr ts _ k hrsp hstop.prefix_of_power
    (by simp only [budget] at hn ⊢; omega)
  refine ⟨.binary .pow el er (el.span.merge er.span), ?_, reads_binary hlr hrr⟩
  show power (k + 1) ts p = _
  rw [power.eq_2]
  simp [show awaitPrimary k ts p = _ from hlrun, hk, hnext, show factor k ts _ = _ from hrrun,
    Except.bind, Except.map]

/-! ## Comparison chains -/

/-- A comparison operator is read whole: `not in` and `is not` take two tokens, and `is` takes
one where no `not` follows. -/
lemma comparisonOp?_lexemes (op : CmpOp) (hsp : ts.Spells q op.lexemes)
    (hnot : (ts.tokenAt (q + op.lexemes.length)).kind ≠ .keyword .not) :
    comparisonOp? ts q = .ok (some op, q + op.lexemes.length) := by
  have hnext : ∀ x xs, ts.Spells q (x :: xs) → ts.next q = q + 1 := fun _ _ h => h.next
  cases op <;> simp only [CmpOp.lexemes] at hsp hnot ⊢
  all_goals have hn := hnext _ _ hsp
  all_goals simp only [spells_cons, spells_nil, Lexeme.kind, List.length_cons, List.length_nil]
    at hsp hnot ⊢
  case notIn =>
    have hn' : ts.next (q + 1) = q + 2 := by rw [TokenStream.next, if_pos (by omega)]
    simp [comparisonOp?, hsp.1, hsp.2.2.1, hn, hn', Except.bind, Except.map]
  case isNot =>
    have hn' : ts.next (q + 1) = q + 2 := by rw [TokenStream.next, if_pos (by omega)]
    simp [comparisonOp?, hsp.1, hsp.2.2.1, hn, hn', Except.bind, Except.map]
  case is =>
    generalize hk : (ts.tokenAt (q + 1)).kind = k at hnot
    simp only [comparisonOp?, run_bind, run_currentKind, run_peekKind, hsp.1, hk, Except.bind]
    cases k with
    | keyword kw => cases kw <;> simp_all [Except.map]
    | _ => simp_all [Except.map]
  all_goals simp [comparisonOp?, hsp.1, hn, Except.bind, Except.map]

/-- A term written at a level tighter than `not` does not begin with `not`. -/
lemma head_ne_not {t : Term} {L : Nat} (hL : 3 < L) (hsp : ts.Spells q (t.lexemesAt L)) :
    (ts.tokenAt q).kind ≠ .keyword .not := by
  obtain ⟨x, xs, hx⟩ := List.exists_cons_of_ne_nil (t.lexemesAt_ne_nil L)
  rw [hx] at hsp
  rw [hsp.1]
  intro hnot
  have := ((leads t).at hx).2 3 (by rw [hnot]; rfl)
  omega

/-- The links of a chain begin with an operator that stops the level of `|`, or are empty
before a token that stops comparisons. -/
lemma stops_linkLexemes {links : List (CmpOp × Term)} (hsp : ts.Spells q (linkLexemes links))
    (hstop : Stops 4 (ts.tokenAt (q + (linkLexemes links).length)).kind) :
    Stops 5 (ts.tokenAt q).kind := by
  rcases links with _ | ⟨⟨op, r⟩, links⟩
  · simpa using hstop.mono (by omega)
  · obtain ⟨x, xs, hx⟩ := List.exists_cons_of_ne_nil op.lexemes_ne_nil
    rw [linkLexemes_cons, hx] at hsp
    rw [hsp.1]
    exact CmpOp.stops_of_mem (hx ▸ List.mem_cons_self)

/-- **The links of a comparison chain are read in one flat loop**: each operator, then its
right operand at the level of `|`, and the loop ends at the token after the chain. -/
lemma comparisonLinks_of_readsAt : ∀ (links : List (CmpOp × Term)) (acc : Array Link) {q k : Nat},
    (∀ x ∈ links, x.2.ReadsAt 5) → ts.Spells q (linkLexemes links) →
    Stops 4 (ts.tokenAt (q + (linkLexemes links).length)).kind →
    32 * (linkLexemes links).length + 1 ≤ k →
    ∃ ls, comparisonLinks acc k ts q = .ok (acc ++ ls.toArray, q + (linkLexemes links).length) ∧
      List.Forall₂ (LinkReads ts.src) links ls
  | [], acc, q, k, _, _, hstop, hk => by
    obtain ⟨k, rfl⟩ : ∃ j, k = j + 1 := ⟨k - 1, by omega⟩
    simp only [linkLexemes_nil, List.length_nil, Nat.add_zero] at hstop ⊢
    refine ⟨[], ?_, .nil⟩
    rw [comparisonLinks.eq_2]
    simp [comparisonOp?_of_suffix (hstop 4 le_rfl (by omega)), Except.bind]
  | (op, r) :: links, acc, q, k, hall, hsp, hstop, hk => by
    rw [linkLexemes_cons, spells_append, spells_append] at hsp
    obtain ⟨⟨hop, hrsp⟩, hrest⟩ := hsp
    rw [List.length_append, ← Nat.add_assoc] at hrest
    simp only [linkLexemes_cons, List.length_append] at hstop hk ⊢
    obtain ⟨k, rfl⟩ : ∃ j, k = j + 1 := ⟨k - 1, by omega⟩
    have hlen := List.length_pos_of_ne_nil op.lexemes_ne_nil
    obtain ⟨er, hrrun, hrr⟩ := hall (op, r) List.mem_cons_self ts _ k hrsp
      (stops_linkLexemes hrest (by rwa [show q + (op.lexemes.length + (r.lexemesAt 5).length +
        (linkLexemes links).length) = q + op.lexemes.length + (r.lexemesAt 5).length +
        (linkLexemes links).length by omega] at hstop))
      (by simp only [budget]; omega)
    obtain ⟨ls, hls, hfa⟩ := comparisonLinks_of_readsAt (k := k) links (acc.push (.mk op er))
      (fun x hx => hall x (List.mem_cons_of_mem _ hx)) hrest
      (by rwa [show q + (op.lexemes.length + (r.lexemesAt 5).length +
        (linkLexemes links).length) = q + op.lexemes.length + (r.lexemesAt 5).length +
        (linkLexemes links).length by omega] at hstop) (by omega)
    refine ⟨.mk op er :: ls, ?_, .cons ⟨rfl, hrr⟩ hfa⟩
    rw [comparisonLinks.eq_2, show q + (op.lexemes.length + (r.lexemesAt 5).length +
      (linkLexemes links).length) = q + op.lexemes.length + (r.lexemesAt 5).length +
      (linkLexemes links).length by omega]
    simp [comparisonOp?_lexemes op hop (head_ne_not (by omega) hrsp),
      show operatorChain .bitOr k ts _ = _ from hrrun, hls, Except.bind]

/-- **A comparison reads a flat chain**: its first operand at the level of `|`, then all its
links. -/
lemma readsAt_compare (op : CmpOp) (links : List (CmpOp × Term)) (hl : l.ReadsAt 5)
    (hr : r.ReadsAt 5) (hlinks : ∀ x ∈ links, x.2.ReadsAt 5)
    (hfit : links.length + 1 ≤ ParseM.maxListLength) :
    (compare l op r links).ReadsAt 4 := by
  intro ts p n hsp hstop hn
  have hlex : (compare l op r links).lexemes = l.lexemesAt 5 ++ linkLexemes ((op, r) :: links) := by
    simp [List.append_assoc]
  rw [lexemesAt_of_le (show 4 ≤ (compare l op r links).prec from le_rfl), hlex] at hsp hstop hn ⊢
  rw [spells_append] at hsp
  obtain ⟨hlsp, hcsp⟩ := hsp
  simp only [List.length_append] at hstop hn ⊢
  obtain ⟨k, rfl⟩ : ∃ k, n = k + 1 := ⟨n - 1, by simp only [budget] at hn; omega⟩
  rw [← Nat.add_assoc] at hstop ⊢
  obtain ⟨el, hlrun, hlr⟩ := hl ts p k hlsp (stops_linkLexemes hcsp hstop)
    (by simp only [budget] at hn ⊢; omega)
  obtain ⟨ls, hls, hfa⟩ := comparisonLinks_of_readsAt (k := k) ((op, r) :: links) #[]
    (List.forall_mem_cons.2 ⟨hr, hlinks⟩) hcsp hstop (by simp only [budget] at hn; omega)
  obtain ⟨z, zs, rfl⟩ : ∃ z zs, ls = z :: zs := by
    cases hfa with
    | cons _ _ => exact ⟨_, _, rfl⟩
  obtain ⟨o', last, hlast⟩ : ∃ o' last, (#[] ++ (z :: zs).toArray).back? = some (Link.mk o' last) := by
    cases hw : (z :: zs).getLast (List.cons_ne_nil _ _) with
    | mk o' last => exact ⟨o', last, by simp [List.getLast?_eq_some_getLast, hw]⟩
  have hstore : zs.length + 1 ≤ ParseM.maxListLength := by
    have := hfa.length_eq
    simp only [List.length_cons] at this
    omega
  refine ⟨.compare el (z :: zs) (el.span.merge last.span), ?_, reads_compare hlr hfa⟩
  show comparison (k + 1) ts p = _
  rw [comparison.eq_2]
  simp only [run_bind, show operatorChain .bitOr k ts p = _ from hlrun, hls, hlast, Except.bind]
  simp [hstore]

/-! ## The conditional -/

/-- The conditional reads its body and its test at the level of `or`, and what follows `else`
at its own level. -/
lemma readsAt_ifElse {test body orelse : Term} (ht : test.ReadsAt 1) (hb : body.ReadsAt 1)
    (ho : orelse.ReadsAt 0) : (ifElse test body orelse).ReadsAt 0 := by
  intro ts p n hsp hstop hn
  rw [lexemesAt_zero, lexemes_ifElse] at hsp hstop hn ⊢
  rw [spells_append, spells_append] at hsp
  obtain ⟨⟨hbsp, hifsp⟩, helsesp⟩ := hsp
  have hnext1 := hifsp.next
  have hnext2 := helsesp.next
  have hlam := TokenKind.beq_eq_false_of_beginsTerm (beginsTerm_of_spellsAt hbsp)
    (rfl : (TokenKind.keyword .lambda).beginsTerm = false)
  obtain ⟨hkif, -, htsp⟩ := hifsp
  obtain ⟨hkelse, -, hosp⟩ := helsesp
  simp only [Lexeme.kind] at hkif hkelse
  simp only [List.length_append, List.length_cons] at hstop hn hnext2 hkelse hosp ⊢
  rw [show p + ((body.lexemesAt 1).length + ((test.lexemesAt 1).length + 1)) =
    p + (body.lexemesAt 1).length + 1 + (test.lexemesAt 1).length by omega] at hnext2 hkelse hosp
  obtain ⟨k, rfl⟩ : ∃ k, n = k + 1 := ⟨n - 1, by simp only [budget] at hn; omega⟩
  obtain ⟨eb, hbrun, hbr⟩ := hb ts p k hbsp (by rw [hkif]; exact stops_if)
    (by simp only [budget] at hn ⊢; omega)
  obtain ⟨et, htrun, htr⟩ := ht ts _ k htsp (by rw [hkelse]; exact stops_else)
    (by simp only [budget] at hn ⊢; omega)
  rw [show p + ((body.lexemesAt 1).length + ((test.lexemesAt 1).length + 1) +
    (orelse.lexemes.length + 1)) = p + (body.lexemesAt 1).length + 1 + (test.lexemesAt 1).length
    + 1 + orelse.lexemes.length by omega] at hstop ⊢
  obtain ⟨eo, horun, hor⟩ := ho ts _ k (by rwa [lexemesAt_zero]) (by rwa [lexemesAt_zero])
    (by simp only [budget, lexemesAt_zero] at hn ⊢; omega)
  rw [lexemesAt_zero] at horun
  refine ⟨.ifElse et eb eo (eb.span.merge eo.span), ?_, reads_ifElse htr hbr hor⟩
  show expression (k + 1) ts p = _
  rw [expression.eq_2]
  simp only [Nat.add_assoc] at hnext1 htrun hkelse hnext2 horun ⊢
  simp [hlam, show disjunction k ts p = _ from hbrun, hkif, hnext1,
    show disjunction k ts _ = _ from htrun, hkelse, hnext2, show expression k ts _ = _ from horun,
    Except.bind, Except.map]

end Term

end ExprFront
