import Mathlib
import ExprFront.Proofs.Precedence.Term
import ExprFront.Proofs.Precedence.Levels

/-!
# Reading a term at a level

The grammar reads the lexemes of a term back as a tree whose dump is the term's, at every level
of the ladder where the term may stand. This module says what that means and builds it up from
the term's own level:

* `TokenStream.Spells ts p xs` — the tokens from position `p` are the lexemes `xs`, and a token
  follows them;
* `Term.ReadsAt t L` — the production at level `L` reads the term as written at that level, up
  to a token that makes no level from `L` on read on, and gives a tree that reads as the term;
* `Term.ChainsAt t L` — a left-associative level reads the term and is then in its loop, where
  a further operator may follow;
* `Term.Parses t` — both, at every level.

A term is read at its own level by its own production; from there `parses_of_own` reads it at
every other level. Below its own level each production hands it down to the next
(`ReadsAt.descend`), which needs the first lexeme of the term to begin no prefix form of a
looser level (`leads`). Above it the term is in parentheses, which every level hands down to an
atom, and the atom reads the term inside at level 0 (`chainsAt_paren`).

Fuel is counted by `Term.budget`: 32 for each lexeme, and two for each level the descent may
still take. The loops and the brackets take a few units a lexeme; the rest is room.
-/

namespace ExprFront

namespace TokenStream

/-- The tokens from position `p` on spell the lexemes: each has the kind of its lexeme and the
lexeme's text in the source, and one more token follows the last. -/
def Spells (ts : TokenStream) : Nat → List Lexeme → Prop
  | p, [] => p < ts.tokens.size
  | p, x :: xs =>
    (ts.tokenAt p).kind = x.kind ∧ ts.src.slice (ts.tokenAt p).span = x.text ∧ ts.Spells (p + 1) xs

variable {ts : TokenStream} {p : Nat} {x : Lexeme} {xs ys : List Lexeme}

@[simp] lemma spells_nil : ts.Spells p [] ↔ p < ts.tokens.size := Iff.rfl

@[simp] lemma spells_cons : ts.Spells p (x :: xs) ↔ (ts.tokenAt p).kind = x.kind ∧
    ts.src.slice (ts.tokenAt p).span = x.text ∧ ts.Spells (p + 1) xs := Iff.rfl

lemma Spells.lt_size (h : ts.Spells p xs) : p + xs.length < ts.tokens.size := by
  induction xs generalizing p with
  | nil => simpa using h
  | cons x xs ih =>
    have := ih h.2.2
    simp only [List.length_cons]
    omega

lemma spells_append : ts.Spells p (xs ++ ys) ↔ ts.Spells p xs ∧ ts.Spells (p + xs.length) ys := by
  induction xs generalizing p with
  | nil =>
    simp only [List.nil_append, spells_nil, List.length_nil, Nat.add_zero]
    exact ⟨fun h => ⟨by have := h.lt_size; omega, h⟩, fun h => h.2⟩
  | cons x xs ih =>
    rw [List.cons_append, spells_cons, ih, spells_cons, List.length_cons,
      show p + 1 + xs.length = p + (xs.length + 1) by omega]
    simp only [and_assoc]

/-- An advance over a spelled lexeme moves to the next position. -/
lemma Spells.next (h : ts.Spells p (x :: xs)) : ts.next p = p + 1 := by
  have := h.lt_size
  simp only [List.length_cons] at this
  rw [TokenStream.next, if_pos (by omega)]

lemma Spells.kind_getElem (h : ts.Spells p xs) {i : Nat} (hi : i < xs.length) :
    (ts.tokenAt (p + i)).kind = xs[i].kind := by
  induction xs generalizing p i with
  | nil => simp at hi
  | cons x xs ih =>
    cases i with
    | zero => exact h.1
    | succ i =>
      rw [show p + (i + 1) = p + 1 + i by omega]
      exact ih h.2.2 (by simpa using hi)

end TokenStream

/-- Whether a token can begin a written term: a name, a number, `not`, `await`, a prefix
`+ - ~`, or an opening `(` or `[`. -/
def TokenKind.beginsTerm : TokenKind → Bool
  | .name | .int | .keyword .not | .keyword .await | .punct .plus | .punct .minus
  | .punct .tilde | .punct .lparen | .punct .lbracket => true
  | _ => false

lemma TokenKind.beq_eq_false_of_beginsTerm {k k' : TokenKind} (h : k.beginsTerm = true)
    (h' : k'.beginsTerm = false) : (k == k') = false := by
  rw [beq_eq_false_iff_ne]
  rintro rfl
  rw [h] at h'
  cases h'

namespace Grammar

/-- The prefix forms: `lambda` at the conditional, `not` at its level, `+ - ~` at the prefix
level and `await` at its own. -/
lemma prefixAt_eq_true {j : Nat} {k : TokenKind} (h : prefixAt j k = true) :
    (j = 0 ∧ k = .keyword .lambda) ∨ (j = 3 ∧ k = .keyword .not) ∨
      (j = 11 ∧ (k = .punct .plus ∨ k = .punct .minus ∨ k = .punct .tilde)) ∨
      (j = 13 ∧ k = .keyword .await) := by
  rcases j with _ | _ | _ | _ | _ | _ | _ | _ | _ | _ | _ | _ | _ | _ | j <;> simp_all [prefixAt, or_assoc]

lemma IsLoop.le {L : Nat} (h : IsLoop L) : L ≤ 14 := by
  rcases h with rfl | rfl | ⟨-, h⟩ | rfl <;> omega

lemma isLoop_trailers : IsLoop 14 := .inr (.inr (.inr rfl))

end Grammar

/-- A lexeme that is neither `=` nor `:=`, the tokens after which a name would be a keyword
argument or the target of an assignment. -/
def Lexeme.Plain (x : Lexeme) : Prop := x.kind ≠ .punct .eq ∧ x.kind ≠ .punct .colonEq

lemma CmpOp.lexemes_ne_nil (op : CmpOp) : op.lexemes ≠ [] := by
  cases op <;> simp [CmpOp.lexemes]

lemma CmpOp.plain_of_mem_lexemes {op : CmpOp} {x : Lexeme} (hx : x ∈ op.lexemes) : x.Plain := by
  cases op <;> simp only [CmpOp.lexemes, List.mem_cons, List.not_mem_nil, or_false] at hx <;> rcases hx with rfl | rfl <;> simp [Lexeme.Plain, Lexeme.kind]

lemma BinaryOp.prec_le_leftPrec (op : BinaryOp) : op.prec ≤ op.leftPrec := by
  cases op <;> decide

lemma BinaryOp.plain_punct (op : BinaryOp) : (Lexeme.punct op.punct).Plain := by
  cases op <;> simp [Lexeme.Plain, Lexeme.kind, BinaryOp.punct]

/-- A prefix operator begins a term, and the one prefix form it begins is at its own level. -/
lemma UnaryOp.leads (op : UnaryOp) : op.lexeme.kind.beginsTerm = true ∧
    ∀ j, Grammar.prefixAt j op.lexeme.kind = true → op.prec ≤ j := by
  refine ⟨by cases op <;> rfl, fun j hj => ?_⟩
  rcases Grammar.prefixAt_eq_true hj with ⟨rfl, h⟩ | ⟨rfl, h⟩ | ⟨rfl, h⟩ | ⟨rfl, h⟩ <;>
    cases op <;> simp_all [UnaryOp.lexeme, Lexeme.kind, UnaryOp.prec]

lemma UnaryOp.plain_lexeme (op : UnaryOp) : op.lexeme.Plain := by
  cases op <;> simp [Lexeme.Plain, Lexeme.kind, UnaryOp.lexeme]

namespace Term

open Grammar TokenStream ParseM

/-! ## The first lexeme of a term -/

lemma lexemes_ne_nil (t : Term) : t.lexemes ≠ [] := by
  cases t <;> simp [Lexeme.paren, CmpOp.lexemes_ne_nil]

lemma lexemesAt_ne_nil (t : Term) (L : Nat) : t.lexemesAt L ≠ [] := by
  unfold lexemesAt
  split
  · simp [Lexeme.paren]
  · exact lexemes_ne_nil t

/-- Written at a place looser than itself, a term takes no parentheses; at a tighter one, it
opens with one. -/
lemma lexemesAt_eq_cons {t : Term} {L : Nat} {x : Lexeme} {xs : List Lexeme}
    (h : t.lexemesAt L = x :: xs) :
    (t.prec < L ∧ x = .punct .lparen) ∨ (L ≤ t.prec ∧ t.lexemes = x :: xs) := by
  unfold lexemesAt at h
  split_ifs at h with hp
  · simp only [Lexeme.paren, List.cons_append, List.cons.injEq] at h
    exact .inl ⟨hp, h.1.symm⟩
  · exact .inr ⟨by omega, h⟩

/-- Away from its own level a term is written the same at a level and the next. -/
lemma lexemesAt_succ {t : Term} {L : Nat} (hL : L ≠ t.prec) : t.lexemesAt (L + 1) = t.lexemesAt L := by
  rcases Nat.lt_or_gt_of_ne hL with h | h
  · rw [lexemesAt_of_le (by omega), lexemesAt_of_le (by omega)]
  · rw [lexemesAt_of_lt (by omega), lexemesAt_of_lt h]

/-- A term leads with a lexeme that begins a term, and a prefix form that lexeme begins is no
looser than the term. -/
def Leads (t : Term) : Prop :=
  ∀ x xs, t.lexemes = x :: xs → x.kind.beginsTerm = true ∧ ∀ j, prefixAt j x.kind = true → t.prec ≤ j

/-- Written at a level, a term leads with a lexeme whose prefix forms are at the term's own level
or tighter, and at the level or tighter. -/
lemma Leads.at {t : Term} (ht : t.Leads) {L : Nat} {x : Lexeme} {xs : List Lexeme}
    (h : t.lexemesAt L = x :: xs) :
    x.kind.beginsTerm = true ∧ ∀ j, prefixAt j x.kind = true → L ≤ t.prec ∧ t.prec ≤ j := by
  rcases lexemesAt_eq_cons h with ⟨-, rfl⟩ | ⟨hle, hlex⟩
  · refine ⟨rfl, fun j hj => ?_⟩
    rcases prefixAt_eq_true hj with ⟨-, h⟩ | ⟨-, h⟩ | ⟨-, h | h | h⟩ | ⟨-, h⟩ <;> cases h
  · obtain ⟨hb, hpre⟩ := ht x xs hlex
    exact ⟨hb, fun j hj => ⟨hle, hpre j hj⟩⟩

/-- A child written first, at a place no looser than its node, gives the node its first lexeme. -/
lemma Leads.front {c : Term} (hc : c.Leads) {L P : Nat} (hP : P ≤ L) {B : List Lexeme}
    {x : Lexeme} {xs : List Lexeme} (h : c.lexemesAt L ++ B = x :: xs) :
    x.kind.beginsTerm = true ∧ ∀ j, prefixAt j x.kind = true → P ≤ j := by
  obtain ⟨y, ys, hy⟩ := List.exists_cons_of_ne_nil (c.lexemesAt_ne_nil L)
  rw [hy, List.cons_append, List.cons.injEq] at h
  obtain ⟨rfl, -⟩ := h
  obtain ⟨hb, hpre⟩ := hc.at hy
  exact ⟨hb, fun j hj => by have := hpre j hj; omega⟩

/-- A lexeme that begins no prefix form. -/
lemma leads_of_kind {x : Lexeme} (hb : x.kind.beginsTerm = true)
    (hk : x.kind ≠ .keyword .lambda ∧ x.kind ≠ .keyword .not ∧ x.kind ≠ .punct .plus ∧
      x.kind ≠ .punct .minus ∧ x.kind ≠ .punct .tilde ∧ x.kind ≠ .keyword .await) {P : Nat} :
    x.kind.beginsTerm = true ∧ ∀ j, prefixAt j x.kind = true → P ≤ j := by
  refine ⟨hb, fun j hj => ?_⟩
  rcases prefixAt_eq_true hj with ⟨-, h⟩ | ⟨-, h⟩ | ⟨-, h | h | h⟩ | ⟨-, h⟩ <;> simp_all

/-- Every term leads as `Leads` says: its first lexeme is that of its leftmost child written at
a place no looser than the node, or the node's own prefix or bracket. -/
theorem leads : ∀ t : Term, t.Leads
  | .name _, x, xs, h => by
    rw [lexemes_name] at h
    obtain ⟨rfl, -⟩ := List.cons.inj h
    exact leads_of_kind rfl (by simp [Lexeme.kind])
  | .int _, x, xs, h => by
    rw [lexemes_int] at h
    obtain ⟨rfl, -⟩ := List.cons.inj h
    exact leads_of_kind rfl (by simp [Lexeme.kind])
  | .binary op l r, x, xs, h => by
    rw [lexemes_binary] at h
    exact (leads l).front (P := op.prec) (BinaryOp.prec_le_leftPrec op) h
  | .unary op a, x, xs, h => by
    rw [lexemes_unary] at h
    obtain ⟨rfl, -⟩ := List.cons.inj h
    exact op.leads
  | .boolOp op l r, x, xs, h => by
    rw [lexemes_boolOp] at h
    exact (leads l).front (P := op.prec) le_rfl h
  | .compare l op r links, x, xs, h => by
    rw [lexemes_compare, List.append_assoc, List.append_assoc] at h
    exact (leads l).front (P := 4) (by omega) h
  | .ifElse test body orelse, x, xs, h => by
    rw [lexemes_ifElse, List.append_assoc] at h
    exact (leads body).front (P := 0) (by omega) h
  | .await v, x, xs, h => by
    rw [lexemes_await] at h
    obtain ⟨rfl, -⟩ := List.cons.inj h
    refine ⟨rfl, fun j hj => ?_⟩
    rcases prefixAt_eq_true hj with ⟨-, h⟩ | ⟨-, h⟩ | ⟨-, h | h | h⟩ | ⟨rfl, -⟩ <;>
      simp_all [Lexeme.kind, prec]
  | .attribute v a, x, xs, h => by
    rw [lexemes_attribute] at h
    exact (leads v).front (P := 14) le_rfl h
  | .call f args, x, xs, h => by
    rw [lexemes_call] at h
    exact (leads f).front (P := 14) le_rfl h
  | .subscript v i, x, xs, h => by
    rw [lexemes_subscript, List.append_assoc] at h
    exact (leads v).front (P := 14) le_rfl h
  | .tuple items, x, xs, h => by
    rw [lexemes_tuple, Lexeme.paren] at h
    obtain ⟨rfl, -⟩ := List.cons.inj h
    exact leads_of_kind rfl (by simp [Lexeme.kind])
  | .list items, x, xs, h => by
    rw [lexemes_list] at h
    obtain ⟨rfl, -⟩ := List.cons.inj h
    exact leads_of_kind rfl (by simp [Lexeme.kind])

/-- Away from its own level, a term's first lexeme begins no prefix form of the level. -/
lemma prefixAt_head {t : Term} {L : Nat} (hL : L ≠ t.prec) {x : Lexeme} {xs : List Lexeme}
    (h : t.lexemesAt L = x :: xs) : prefixAt L x.kind = false := by
  cases hpre : prefixAt L x.kind
  · rfl
  · have := ((leads t).at h).2 L hpre
    omega

/-! ## No lexeme is `=` or `:=` -/

lemma plain_of_mem_lexemesAt {t : Term} {L : Nat} (ht : ∀ x ∈ t.lexemes, x.Plain) :
    ∀ x ∈ t.lexemesAt L, x.Plain := by
  intro x hx
  unfold lexemesAt at hx
  split_ifs at hx
  · simp only [Lexeme.paren, List.cons_append, List.mem_cons, List.mem_append,
      List.not_mem_nil, or_false] at hx
    rcases hx with rfl | hx | rfl
    · simp [Lexeme.Plain, Lexeme.kind]
    · exact ht x hx
    · simp [Lexeme.Plain, Lexeme.kind]
  · exact ht x hx

mutual

theorem plain_of_mem_lexemes : ∀ t : Term, ∀ x ∈ t.lexemes, x.Plain
  | .name _, x, hx | .int _, x, hx => by
    simp only [lexemes_name, lexemes_int, List.mem_singleton] at hx
    subst hx
    simp [Lexeme.Plain, Lexeme.kind]
  | .binary op l r, x, hx => by
    simp only [lexemes_binary, List.mem_append, List.mem_cons] at hx
    rcases hx with hx | rfl | hx
    · exact plain_of_mem_lexemesAt (plain_of_mem_lexemes l) x hx
    · exact op.plain_punct
    · exact plain_of_mem_lexemesAt (plain_of_mem_lexemes r) x hx
  | .unary op a, x, hx => by
    simp only [lexemes_unary, List.mem_cons] at hx
    rcases hx with rfl | hx
    · exact op.plain_lexeme
    · exact plain_of_mem_lexemesAt (plain_of_mem_lexemes a) x hx
  | .boolOp op l r, x, hx => by
    simp only [lexemes_boolOp, List.mem_append, List.mem_cons] at hx
    rcases hx with hx | rfl | hx
    · exact plain_of_mem_lexemesAt (plain_of_mem_lexemes l) x hx
    · simp [Lexeme.Plain, Lexeme.kind]
    · exact plain_of_mem_lexemesAt (plain_of_mem_lexemes r) x hx
  | .compare l op r links, x, hx => by
    simp only [lexemes_compare, List.mem_append] at hx
    rcases hx with ((hx | hx) | hx) | hx
    · exact plain_of_mem_lexemesAt (plain_of_mem_lexemes l) x hx
    · exact CmpOp.plain_of_mem_lexemes hx
    · exact plain_of_mem_lexemesAt (plain_of_mem_lexemes r) x hx
    · exact plain_of_mem_linkLexemes links x hx
  | .ifElse test body orelse, x, hx => by
    simp only [lexemes_ifElse, List.mem_append, List.mem_cons] at hx
    rcases hx with (hx | rfl | hx) | rfl | hx
    · exact plain_of_mem_lexemesAt (plain_of_mem_lexemes body) x hx
    · simp [Lexeme.Plain, Lexeme.kind]
    · exact plain_of_mem_lexemesAt (plain_of_mem_lexemes test) x hx
    · simp [Lexeme.Plain, Lexeme.kind]
    · exact plain_of_mem_lexemes orelse x hx
  | .await v, x, hx => by
    simp only [lexemes_await, List.mem_cons] at hx
    rcases hx with rfl | hx
    · simp [Lexeme.Plain, Lexeme.kind]
    · exact plain_of_mem_lexemesAt (plain_of_mem_lexemes v) x hx
  | .attribute v a, x, hx => by
    simp only [lexemes_attribute, List.mem_append, List.mem_cons,
      List.not_mem_nil, or_false] at hx
    rcases hx with hx | rfl | rfl
    · exact plain_of_mem_lexemesAt (plain_of_mem_lexemes v) x hx
    all_goals simp [Lexeme.Plain, Lexeme.kind]
  | .call f args, x, hx => by
    simp only [lexemes_call, Lexeme.paren, List.cons_append, List.mem_append, List.mem_cons,
      List.not_mem_nil, or_false] at hx
    rcases hx with hx | rfl | hx | rfl
    · exact plain_of_mem_lexemesAt (plain_of_mem_lexemes f) x hx
    · simp [Lexeme.Plain, Lexeme.kind]
    · exact plain_of_mem_commaLexemes args x hx
    · simp [Lexeme.Plain, Lexeme.kind]
  | .subscript v i, x, hx => by
    simp only [lexemes_subscript, List.mem_append, List.mem_cons, List.not_mem_nil, or_false] at hx
    rcases hx with (hx | rfl | hx) | rfl
    · exact plain_of_mem_lexemesAt (plain_of_mem_lexemes v) x hx
    · simp [Lexeme.Plain, Lexeme.kind]
    · exact plain_of_mem_lexemes i x hx
    · simp [Lexeme.Plain, Lexeme.kind]
  | .tuple items, x, hx => by
    simp only [lexemes_tuple, Lexeme.paren, List.cons_append, List.mem_cons, List.mem_append,
      List.not_mem_nil, or_false] at hx
    rcases hx with rfl | hx | rfl
    · simp [Lexeme.Plain, Lexeme.kind]
    · exact plain_of_mem_tupleLexemes items x hx
    · simp [Lexeme.Plain, Lexeme.kind]
  | .list items, x, hx => by
    simp only [lexemes_list, List.cons_append, List.mem_cons, List.mem_append,
      List.not_mem_nil, or_false] at hx
    rcases hx with rfl | hx | rfl
    · simp [Lexeme.Plain, Lexeme.kind]
    · exact plain_of_mem_commaLexemes items x hx
    · simp [Lexeme.Plain, Lexeme.kind]

theorem plain_of_mem_commaLexemes : ∀ ts : List Term, ∀ x ∈ commaLexemes ts, x.Plain
  | [], x, hx => by simp at hx
  | [t], x, hx => by
    rw [commaLexemes_single] at hx
    exact plain_of_mem_lexemes t x hx
  | t :: u :: us, x, hx => by
    simp only [commaLexemes_cons_cons, List.mem_append, List.mem_cons] at hx
    rcases hx with hx | rfl | hx
    · exact plain_of_mem_lexemes t x hx
    · simp [Lexeme.Plain, Lexeme.kind]
    · exact plain_of_mem_commaLexemes (u :: us) x hx

theorem plain_of_mem_tupleLexemes : ∀ ts : List Term, ∀ x ∈ tupleLexemes ts, x.Plain
  | [t], x, hx => by
    simp only [tupleLexemes_single, List.mem_append, List.mem_singleton] at hx
    rcases hx with hx | rfl
    · exact plain_of_mem_lexemes t x hx
    · simp [Lexeme.Plain, Lexeme.kind]
  | [], x, hx => by
    rw [tupleLexemes_of_ne (by simp)] at hx
    exact plain_of_mem_commaLexemes [] x hx
  | t :: u :: us, x, hx => by
    rw [tupleLexemes_of_ne (by simp)] at hx
    exact plain_of_mem_commaLexemes (t :: u :: us) x hx

theorem plain_of_mem_linkLexemes : ∀ links : List (CmpOp × Term), ∀ x ∈ linkLexemes links, x.Plain
  | [], x, hx => by simp at hx
  | (op, r) :: links, x, hx => by
    simp only [linkLexemes_cons, List.mem_append] at hx
    rcases hx with (hx | hx) | hx
    · exact CmpOp.plain_of_mem_lexemes hx
    · exact plain_of_mem_lexemesAt (plain_of_mem_lexemes r) x hx
    · exact plain_of_mem_linkLexemes links x hx

end

/-! ## Reading at a level -/

/-- The fuel that reads `k` lexemes at level `L`: 32 a lexeme, and two for each level between
`L` and the atoms. -/
def budget (L k : Nat) : Nat := 32 * k + 2 * (15 - L)

/-- The production at level `L` reads the term as written there, up to any token that makes no
level from `L` on read on, with the fuel its lexemes need, and gives a tree that reads as the
term. -/
def ReadsAt (t : Term) (L : Nat) : Prop :=
  ∀ (ts : TokenStream) (p n : Nat), ts.Spells p (t.lexemesAt L) →
    Stops L (ts.tokenAt (p + (t.lexemesAt L).length)).kind →
    budget L (t.lexemesAt L).length ≤ n →
    ∃ e, atLevel L n ts p = .ok (e, p + (t.lexemesAt L).length) ∧ t.Reads ts.src e

/-- A left-associative level reads the term as written there, up to any token that makes no
tighter level read on, and is then in its loop after the term, with all but 32 fuel a lexeme
left. -/
def ChainsAt (t : Term) (L : Nat) : Prop :=
  ∀ (ts : TokenStream) (p n : Nat), ts.Spells p (t.lexemesAt L) →
    Stops (L + 1) (ts.tokenAt (p + (t.lexemesAt L).length)).kind →
    budget L (t.lexemesAt L).length ≤ n →
    ∃ e m, atLevel L n ts p = loopAt L e m ts (p + (t.lexemesAt L).length) ∧
      n ≤ m + 32 * (t.lexemesAt L).length ∧ t.Reads ts.src e

/-- A term is read back at every level of the ladder. -/
structure Parses (t : Term) : Prop where
  reads : ∀ L ≤ 14, t.ReadsAt L
  chains : ∀ L, IsLoop L → t.ChainsAt L

variable {t : Term} {L : Nat}

/-- A loop stops at a token that makes no level from its own on read on. -/
lemma ReadsAt.of_chainsAt (hL : IsLoop L) (h : t.ChainsAt L) : t.ReadsAt L := by
  intro ts p n hsp hstop hn
  obtain ⟨e, m, hrun, hm, hreads⟩ := h ts p n hsp (hstop.mono (Nat.le_succ L)) hn
  have hL14 := hL.le
  obtain ⟨m, rfl⟩ : ∃ k, m = k + 1 := ⟨m - 1, by simp only [budget] at hn; omega⟩
  exact ⟨e, hrun.trans (loopAt_stop hL (hstop L le_rfl hL14)), hreads⟩

lemma descentCost_le (L : Nat) : descentCost L ≤ 2 := by
  unfold descentCost
  split_ifs <;> omega

/-- Away from its own level, a level hands a term down to the next. -/
lemma ReadsAt.descend (hL14 : L < 14) (hne : L ≠ t.prec) (h : t.ReadsAt (L + 1)) : t.ReadsAt L := by
  intro ts p n hsp hstop hn
  obtain ⟨x, xs, hx⟩ := List.exists_cons_of_ne_nil (t.lexemesAt_ne_nil L)
  have hpre : prefixAt L (ts.tokenAt p).kind = false := by
    rw [hx] at hsp
    rw [hsp.1]
    exact prefixAt_head hne hx
  have hcost := descentCost_le L
  obtain ⟨k, rfl⟩ : ∃ k, n = k + descentCost L :=
    ⟨n - descentCost L, by simp only [budget] at hn; omega⟩
  rw [← lexemesAt_succ hne] at hsp hstop hn ⊢
  obtain ⟨e, hrun, hreads⟩ := h ts p k hsp (hstop.mono (Nat.le_succ L))
    (by simp only [budget] at hn ⊢; omega)
  exact ⟨e, atLevel_descend hL14 hpre hrun (hstop L le_rfl hL14.le), hreads⟩

/-- Away from its own level, a left-associative level reads a term as the next level does and
goes into its loop. -/
lemma ChainsAt.of_readsAt (hL : IsLoop L) (hL14 : L < 14) (hne : L ≠ t.prec)
    (h : t.ReadsAt (L + 1)) : t.ChainsAt L := by
  intro ts p n hsp hstop hn
  have hcost := descentCost_le L
  have hlen := List.length_pos_of_ne_nil (t.lexemesAt_ne_nil (L + 1))
  obtain ⟨k, rfl⟩ : ∃ k, n = k + descentCost L :=
    ⟨n - descentCost L, by simp only [budget] at hn; omega⟩
  rw [← lexemesAt_succ hne] at hsp hstop hn ⊢
  obtain ⟨e, hrun, hreads⟩ := h ts p k hsp hstop (by simp only [budget] at hn ⊢; omega)
  refine ⟨e, k + descentCost L - 1, ?_, by omega, hreads⟩
  rw [atLevel_loop hL hL14, hrun]
  rfl

/-- Reading a term at a level hands it down through the levels below, none of them its own. -/
lemma readsAt_of_le {lo hi : Nat} (hhi : hi ≤ 14) (hle : lo ≤ hi) (h : t.ReadsAt hi)
    (hne : ∀ L, lo ≤ L → L < hi → L ≠ t.prec) : t.ReadsAt lo := by
  obtain ⟨d, rfl⟩ := Nat.exists_eq_add_of_le hle
  induction d generalizing lo with
  | zero => simpa using h
  | succ d ih =>
    have h1 : t.ReadsAt (lo + 1) :=
      ih (by omega) (by omega) (by rwa [show lo + 1 + d = lo + (d + 1) by omega])
        fun L h1 h2 => hne L (by omega) (by omega)
    exact h1.descend (by omega) (hne lo le_rfl (by omega))

/-! ## A term in brackets -/

lemma stops_zero_of_closer {k : TokenKind}
    (hk : k = .punct .rparen ∨ k = .punct .rbracket ∨ k = .punct .comma ∨ k = .eof) : Stops 0 k := by
  intro j _ hj
  rcases hk with rfl | rfl | rfl | rfl <;> interval_cases j <;> rfl

variable {ts : TokenStream} {p n : Nat}

lemma beginsTerm_of_spellsAt (hsp : ts.Spells p (t.lexemesAt L)) :
    (ts.tokenAt p).kind.beginsTerm = true := by
  obtain ⟨x, xs, hx⟩ := List.exists_cons_of_ne_nil (t.lexemesAt_ne_nil L)
  rw [hx] at hsp
  rw [hsp.1]
  exact ((leads t).at hx).1

lemma beginsTerm_of_spells (hsp : ts.Spells p t.lexemes) : (ts.tokenAt p).kind.beginsTerm = true :=
  beginsTerm_of_spellsAt (L := 0) (by rwa [lexemesAt_zero])

/-- The token after a term's first is of no kind the term's lexemes lack and the token after
the term lacks: it is a later lexeme of the term, or the token after it. -/
lemma second_ne_of_spells {k : TokenKind} (hsp : ts.Spells p t.lexemes)
    (hk : ∀ x ∈ t.lexemes, x.kind ≠ k) (hne : (ts.tokenAt (p + t.lexemes.length)).kind ≠ k) :
    (ts.tokenAt (p + 1)).kind ≠ k := by
  by_cases h1 : 1 < t.lexemes.length
  · rw [hsp.kind_getElem h1]
    exact hk _ (List.getElem_mem h1)
  · have h0 := List.length_pos_of_ne_nil (lexemes_ne_nil t)
    rwa [show t.lexemes.length = 1 by omega] at hne

/-- An expression that may be an assignment reads a term that no `:=` follows at level 0. -/
lemma namedExpression_of_readsAt (h : t.ReadsAt 0) (hsp : ts.Spells p t.lexemes)
    (hstop : Stops 0 (ts.tokenAt (p + t.lexemes.length)).kind)
    (hne : (ts.tokenAt (p + t.lexemes.length)).kind ≠ .punct .colonEq)
    (hn : budget 0 t.lexemes.length + 1 ≤ n) :
    ∃ e, namedExpression n ts p = .ok (e, p + t.lexemes.length) ∧ t.Reads ts.src e := by
  obtain ⟨k, rfl⟩ : ∃ k, n = k + 1 := ⟨n - 1, by omega⟩
  obtain ⟨e, hrun, hreads⟩ := h ts p k (by simpa using hsp) (by simpa using hstop)
    (by simpa using (show budget 0 t.lexemes.length ≤ k by omega))
  have hsecond := second_ne_of_spells hsp (fun x hx => (plain_of_mem_lexemes t x hx).2) hne
  simp only [lexemesAt_zero] at hrun
  refine ⟨e, ?_, hreads⟩
  rw [namedExpression.eq_2]
  simp [hsecond, show expression k ts p = _ from hrun, hne, Except.bind]

/-- An element of a display reads a term that no `:=` follows at level 0. -/
lemma element_of_readsAt (h : t.ReadsAt 0) (hsp : ts.Spells p t.lexemes)
    (hstop : Stops 0 (ts.tokenAt (p + t.lexemes.length)).kind)
    (hne : (ts.tokenAt (p + t.lexemes.length)).kind ≠ .punct .colonEq)
    (hn : budget 0 t.lexemes.length + 2 ≤ n) :
    ∃ e, element .starNamed n ts p = .ok (e, p + t.lexemes.length) ∧ t.Reads ts.src e := by
  obtain ⟨k, rfl⟩ : ∃ k, n = k + 1 := ⟨n - 1, by omega⟩
  obtain ⟨e, hrun, hreads⟩ := namedExpression_of_readsAt (n := k) h hsp hstop hne (by omega)
  have hstar := TokenKind.beq_eq_false_of_beginsTerm (beginsTerm_of_spells hsp)
    (rfl : (TokenKind.punct .star).beginsTerm = false)
  refine ⟨e, ?_, hreads⟩
  rw [element.eq_3]
  simp [hstar, hrun, Except.bind]

/-- Inside parentheses a lone term is read at level 0, and the parentheses leave its tree as it
is. -/
lemma parenContents_of_readsAt (h : t.ReadsAt 0) (hsp : ts.Spells p (t.lexemes ++ [.punct .rparen]))
    (hn : budget 0 t.lexemes.length + 3 ≤ n) (opening : Span) :
    ∃ e, parenContents opening n ts p = .ok (e, p + t.lexemes.length + 1) ∧ t.Reads ts.src e := by
  rw [spells_append] at hsp
  obtain ⟨hin, hclose⟩ := hsp
  have hnext := hclose.next
  obtain ⟨hk, -, -⟩ := hclose
  simp only [Lexeme.kind] at hk
  obtain ⟨k, rfl⟩ : ∃ k, n = k + 1 := ⟨n - 1, by omega⟩
  obtain ⟨e, hrun, hreads⟩ := element_of_readsAt (n := k) h hin
    (stops_zero_of_closer (.inl hk)) (by rw [hk]; decide) (by omega)
  have hb := beginsTerm_of_spells hin
  refine ⟨e, ?_, hreads⟩
  rw [parenContents.eq_2]
  simp [TokenKind.beq_eq_false_of_beginsTerm hb (rfl : (TokenKind.punct .rparen).beginsTerm = false),
    TokenKind.beq_eq_false_of_beginsTerm hb (rfl : (TokenKind.keyword .yield).beginsTerm = false),
    hrun, atClause, hk, hnext, refuseStarred, hreads.1, Except.bind, Except.map]

lemma primary_succ (k : Nat) :
    primary (k + 1) ts p = (atom k ts p).bind fun aq => trailers aq.1 k ts aq.2 := by
  rw [primary.eq_2]
  rfl

lemma atom_lparen (hk : (ts.tokenAt p).kind = .punct .lparen) (k : Nat) :
    atom (k + 1) ts p = parenthesized k ts p := by
  rw [atom.eq_2]
  simp [hk, Except.bind]

lemma parenthesized_succ (k : Nat) : parenthesized (k + 1) ts p =
    withContext .parenthesized (parenContents (ts.tokenAt p).span k) ts (ts.next p) := by
  rw [parenthesized.eq_2]
  simp [Except.bind]

/-- A term in parentheses is an atom, and the trailers' loop follows it. -/
lemma chainsAt_paren (hp : t.prec < 14) (h : t.ReadsAt 0) : t.ChainsAt 14 := by
  intro ts p n hsp _ hn
  rw [lexemesAt_of_lt hp] at hsp hn ⊢
  have hnext := hsp.next
  simp only [Lexeme.paren, List.cons_append, List.length_cons, List.length_append,
    List.length_nil, spells_cons] at hsp hn hnext ⊢
  obtain ⟨hk, -, hin⟩ := hsp
  obtain ⟨k, rfl⟩ : ∃ k, n = k + 4 := ⟨n - 4, by simp only [budget] at hn; omega⟩
  obtain ⟨e, hrun, hreads⟩ := parenContents_of_readsAt (n := k + 1) h hin
    (by simp only [budget] at hn ⊢; omega) (ts.tokenAt p).span
  refine ⟨e, k + 3, ?_, by omega, hreads⟩
  show primary (k + 3 + 1) ts p = _
  rw [primary_succ, atom_lparen hk, parenthesized_succ, hnext,
    (run_withContext_eq_ok _ _ _ _ _).2 hrun, show p + (t.lexemes.length + 1 + 1) = p + 1 + t.lexemes.length + 1 by omega]
  rfl

/-- **A term is read at every level from its own.** Its own level `P` is its precedence, or the
trailers' level for an atom; where the term is read there (and, for a loop, chained), every
level below hands it down, and every level above reads it in its parentheses as an atom. -/
theorem parses_of_own {P : Nat} (hP : P ≤ 14) (hle : P ≤ t.prec) (htop : P < 14 → t.prec = P)
    (hR : t.ReadsAt P) (hC : IsLoop P → t.ChainsAt P) : t.Parses := by
  have below : ∀ L ≤ P, t.ReadsAt L := fun L hL =>
    readsAt_of_le hP hL hR fun j _ hj => by omega
  have hparen : P < 14 → t.ChainsAt 14 := fun h =>
    chainsAt_paren (by have := htop h; omega) (below 0 (Nat.zero_le _))
  have reads : ∀ L ≤ 14, t.ReadsAt L := by
    intro L hL
    by_cases hLP : L ≤ P
    · exact below L hLP
    · have htop' := htop (by omega)
      exact readsAt_of_le le_rfl hL (ReadsAt.of_chainsAt isLoop_trailers (hparen (by omega)))
        fun j hj _ => by omega
  refine ⟨reads, fun L hL => ?_⟩
  have hL14 := hL.le
  rcases lt_trichotomy L P with hlt | rfl | hgt
  · exact ChainsAt.of_readsAt hL (by omega) (by omega) (reads (L + 1) (by omega))
  · exact hC hL
  · have htop' := htop (by omega)
    by_cases h14 : L = 14
    · subst h14
      exact hparen (by omega)
    · exact ChainsAt.of_readsAt hL (by omega) (by omega) (reads (L + 1) (by omega))

end Term

end ExprFront
