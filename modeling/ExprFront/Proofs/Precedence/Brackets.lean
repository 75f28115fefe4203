import Mathlib
import ExprFront.Proofs.Precedence.Operators

/-!
# Atoms, trailers and displays

The terms at the trailers' level and above are read by `primary`: an atom, then the loop of
trailers. This module reads each of them there:

* a name or a number is an atom of one token;
* a tuple is read in its parentheses (the empty one as `( )`, one item with its comma), a list
  in its brackets; their items are elements read at level 0 and separated by commas
  (`moreElements_of_readsAt`);
* an attribute, a call and a subscript are one more turn of the trailers' loop after their value
  (`chainsAt_trailer`): a call reads its arguments as positional ones
  (`arguments_of_readsAt`), and a subscript its index as a lone slice.
-/

namespace ExprFront

namespace Term

open Grammar TokenStream ParseM

variable {ts : TokenStream} {p q n m k : Nat} {e : Expr}

lemma commaLexemes_cons (t : Term) (us : List Term) :
    commaLexemes (t :: us) = t.lexemes ++ us.flatMap fun u => .punct .comma :: u.lexemes := by
  induction us generalizing t with
  | nil => simp
  | cons u us ih =>
    rw [commaLexemes_cons_cons, ih]
    simp

lemma stops_fifteen (k : TokenKind) : Stops 15 k := fun _ hj hj14 => absurd (hj.trans hj14) (by omega)

/-- The item after a comma, or the closing bracket, is what follows an item of a display. -/
lemma head_sep_or_close (us : List Term) (close : Punct) :
    ∃ xs, (us.flatMap fun u => .punct .comma :: u.lexemes) ++ [.punct close] =
      .punct .comma :: xs ∨
      (us.flatMap fun u => .punct .comma :: u.lexemes) ++ [.punct close] = .punct close :: xs := by
  cases us with
  | nil => exact ⟨[], .inr rfl⟩
  | cons u us =>
    exact ⟨u.lexemes ++ ((us.flatMap fun u => .punct .comma :: u.lexemes) ++ [.punct close]),
      .inl (by simp)⟩

/-! ## Atoms -/

/-- A term that `atom` reads whole is chained at the trailers' level. -/
lemma chainsAt_atom {t : Term} (hprec : 14 ≤ t.prec)
    (h : ∀ (ts : TokenStream) p k, ts.Spells p t.lexemes → 32 * t.lexemes.length ≤ k →
      ∃ e, atom (k + 1) ts p = .ok (e, p + t.lexemes.length) ∧ t.Reads ts.src e) :
    t.ChainsAt 14 := by
  intro ts p n hsp _ hn
  rw [lexemesAt_of_le hprec] at hsp hn ⊢
  obtain ⟨k, rfl⟩ : ∃ k, n = k + 2 := ⟨n - 2, by simp only [budget] at hn; omega⟩
  obtain ⟨e, hrun, hreads⟩ := h ts p k hsp (by simp only [budget] at hn; omega)
  have hlen := List.length_pos_of_ne_nil (lexemes_ne_nil t)
  refine ⟨e, k + 1, ?_, by omega, hreads⟩
  show primary (k + 1 + 1) ts p = _
  rw [primary_succ, hrun]
  rfl

lemma chainsAt_name (x : Ident) : (name x).ChainsAt 14 :=
  chainsAt_atom (by simp [prec]) fun ts p k hsp _ => by
    rw [lexemes_name] at hsp ⊢
    have hnext := hsp.next
    obtain ⟨hk, htext, -⟩ := hsp
    refine ⟨.name (ts.tokenAt p).span, ?_, reads_name htext⟩
    rw [atom.eq_2]
    simp [hk, Lexeme.kind, hnext, Except.bind, Except.map]

lemma chainsAt_int (j : Nat) : (int j).ChainsAt 14 :=
  chainsAt_atom (by simp [prec]) fun ts p k hsp _ => by
    rw [lexemes_int] at hsp ⊢
    have hnext := hsp.next
    obtain ⟨hk, htext, -⟩ := hsp
    refine ⟨.number .int (ts.tokenAt p).span, ?_, reads_int htext⟩
    rw [atom.eq_2]
    simp [hk, Lexeme.kind, hnext, Except.bind, Except.map]

/-! ## Displays -/

/-- **The items of a display after the first** are each a comma and an element read at
level 0, up to the closing bracket, which no comma follows. -/
lemma moreElements_of_readsAt {close : Punct} (hclose : close = .rparen ∨ close = .rbracket) :
    ∀ (us : List Term) (acc : Array Expr) {q k : Nat}, (∀ u ∈ us, u.ReadsAt 0) →
      acc.size + us.length ≤ ParseM.maxListLength →
      ts.Spells q ((us.flatMap fun u => .punct .comma :: u.lexemes) ++ [.punct close]) →
      32 * (us.flatMap fun u => .punct .comma :: u.lexemes).length + 1 ≤ k →
      ∃ es, moreElements (.punct close) acc k ts q =
        .ok (acc ++ es.toArray, q + (us.flatMap fun u => .punct .comma :: u.lexemes).length) ∧
        List.Forall₂ (Reads ts.src) us es
  | [], acc, q, k, _, hfit, hsp, hk => by
    obtain ⟨k, rfl⟩ : ∃ j, k = j + 1 := ⟨k - 1, by omega⟩
    simp only [List.flatMap_nil, List.nil_append, spells_cons, Lexeme.kind] at hsp
    simp only [List.length_nil, Nat.add_zero] at hfit
    refine ⟨[], ?_, .nil⟩
    rw [moreElements.eq_2]
    rcases hclose with rfl | rfl <;> simp [hsp.1, hfit, Except.bind, Except.map]
  | u :: us, acc, q, k, hall, hfit, hsp, hk => by
    obtain ⟨k, rfl⟩ : ∃ j, k = j + 1 := ⟨k - 1, by omega⟩
    have hnext := hsp.next
    simp only [List.flatMap_cons, List.cons_append, List.append_assoc, spells_cons,
      Lexeme.kind] at hsp hnext
    obtain ⟨hcomma, -, hrest⟩ := hsp
    rw [spells_append] at hrest
    obtain ⟨husp, hmore⟩ := hrest
    simp only [List.flatMap_cons, List.length_append, List.length_cons] at hk ⊢
    obtain ⟨xs, hxs⟩ := head_sep_or_close us close
    have hafter : (ts.tokenAt (q + 1 + u.lexemes.length)).kind = .punct .comma ∨
        (ts.tokenAt (q + 1 + u.lexemes.length)).kind = .punct close := by
      rcases hxs with hxs | hxs <;> rw [hxs] at hmore
      exacts [.inl hmore.1, .inr hmore.1]
    obtain ⟨e, hrun, hreads⟩ := element_of_readsAt (n := k) (hall u List.mem_cons_self) husp
      (stops_zero_of_closer (by rcases hafter with h | h <;> rcases hclose with rfl | rfl <;> simp [h]))
      (by rcases hafter with h | h <;> rcases hclose with rfl | rfl <;> simp [h])
      (by simp only [budget]; omega)
    obtain ⟨es, hes, hfa⟩ := moreElements_of_readsAt hclose us (acc.push e) (k := k)
      (fun x hx => hall x (List.mem_cons_of_mem _ hx)) (by simp only [List.length_cons] at hfit; simp; omega)
      hmore (by omega)
    refine ⟨e :: es, ?_, .cons hreads hfa⟩
    have hb := TokenKind.beq_eq_false_of_beginsTerm (beginsTerm_of_spells husp)
      (show (TokenKind.punct close).beginsTerm = false by rcases hclose with rfl | rfl <;> rfl)
    rw [moreElements.eq_2, show q + (u.lexemes.length + 1 + (us.flatMap fun u =>
      .punct .comma :: u.lexemes).length) = q + 1 + u.lexemes.length + (us.flatMap fun u =>
      .punct .comma :: u.lexemes).length by omega]
    simp [hcomma, hnext, hb, hrun, hes, Except.bind]

lemma atom_lbracket (hk : (ts.tokenAt p).kind = .punct .lbracket) (k : Nat) :
    atom (k + 1) ts p = listForm k ts p := by
  rw [atom.eq_2]
  simp [hk, Except.bind]

lemma listForm_succ (k : Nat) : listForm (k + 1) ts p =
    withContext .display (listContents (ts.tokenAt p).span k) ts (ts.next p) := by
  rw [listForm.eq_2]
  simp [Except.bind]

/-- The inside of a tuple display: nothing, one item and its comma, or items separated by
commas, then the closing parenthesis. -/
lemma parenContents_tuple (items : List Term) (h : ∀ u ∈ items, u.ReadsAt 0)
    (hfit : items.length ≤ ParseM.maxListLength) (hsp : ts.Spells q (tupleLexemes items ++ [.punct .rparen]))
    (hk : 32 * (tupleLexemes items).length + 32 ≤ k) (opening : Span) :
    ∃ e, parenContents opening k ts q = .ok (e, q + (tupleLexemes items).length + 1) ∧
      (tuple items).Reads ts.src e := by
  obtain ⟨k, rfl⟩ : ∃ j, k = j + 1 := ⟨k - 1, by omega⟩
  match items, h, hfit, hsp, hk with
  | [], _, _, hsp, _ =>
    rw [tupleLexemes_of_ne (by simp), commaLexemes_nil] at hsp ⊢
    have hnext := hsp.next
    simp only [List.nil_append, spells_cons, Lexeme.kind] at hsp
    refine ⟨.tuple [] (opening.merge (ts.tokenAt q).span), ?_, reads_tuple .nil⟩
    rw [parenContents.eq_2]
    simp [hsp.1, hnext, Except.bind, Except.map]
  | [t], h, _, hsp, hk =>
    rw [tupleLexemes_single, List.append_assoc, spells_append] at hsp
    simp only [tupleLexemes_single, List.length_append, List.length_singleton] at hk ⊢
    obtain ⟨htsp, hrest⟩ := hsp
    have hnext1 := hrest.next
    obtain ⟨hcomma, -, hclose⟩ := hrest
    have hnext2 := hclose.next
    obtain ⟨hrparen, -, -⟩ := hclose
    simp only [Lexeme.kind] at hcomma hrparen
    obtain ⟨e, hrun, hreads⟩ := element_of_readsAt (n := k) (h t List.mem_cons_self) htsp
      (stops_zero_of_closer (by simp [hcomma])) (by simp [hcomma]) (by simp only [budget]; omega)
    obtain ⟨k, rfl⟩ : ∃ j, k = j + 1 := ⟨k - 1, by omega⟩
    have hb := beginsTerm_of_spells htsp
    refine ⟨.tuple [e] (opening.merge (ts.tokenAt (q + t.lexemes.length + 1)).span), ?_,
      reads_tuple (.cons hreads .nil)⟩
    rw [parenContents.eq_2]
    simp only [moreElements.eq_2]
    simp only [Nat.add_assoc] at hnext1 hrparen hnext2 ⊢
    simp [TokenKind.beq_eq_false_of_beginsTerm hb (rfl : (TokenKind.punct .rparen).beginsTerm = false),
      TokenKind.beq_eq_false_of_beginsTerm hb (rfl : (TokenKind.keyword .yield).beginsTerm = false),
      hrun, atClause, hcomma, hnext1, hrparen, hnext2,
      run_storeList_of_le _ _ (by decide : 1 ≤ ParseM.maxListLength), Except.bind, Except.map]
  | t :: u :: us, h, hfit, hsp, hk =>
    rw [tupleLexemes_of_ne (by simp), commaLexemes_cons, List.append_assoc, spells_append] at hsp
    rw [tupleLexemes_of_ne (by simp), commaLexemes_cons] at hk ⊢
    obtain ⟨htsp, hrest⟩ := hsp
    have hcomma : (ts.tokenAt (q + t.lexemes.length)).kind = .punct .comma := by
      simp only [List.flatMap_cons, List.cons_append, spells_cons] at hrest
      exact hrest.1
    have hclose := (spells_append.1 hrest).2
    have hnext := hclose.next
    simp only [spells_cons, Lexeme.kind] at hclose
    simp only [List.length_append] at hk hnext hclose ⊢
    obtain ⟨e, hrun, hreads⟩ := element_of_readsAt (n := k) (h t List.mem_cons_self) htsp
      (stops_zero_of_closer (by simp [hcomma])) (by simp [hcomma])
      (by simp only [budget, List.flatMap_cons, List.length_append, List.length_cons] at hk ⊢; omega)
    obtain ⟨es, hes, hfa⟩ := moreElements_of_readsAt (.inl rfl) (u :: us) #[e] (k := k)
      (fun x hx => h x (List.mem_cons_of_mem _ hx)) (by simp only [List.length_cons] at hfit ⊢; simp; omega)
      hrest (by omega)
    have hb := beginsTerm_of_spells htsp
    refine ⟨.tuple (e :: es) (opening.merge (ts.tokenAt (q + t.lexemes.length +
      ((u :: us).flatMap fun u => .punct .comma :: u.lexemes).length)).span), ?_,
      reads_tuple (.cons hreads hfa)⟩
    -- the rest of the items is read as a block; keep its length opaque to simp
    generalize ((u :: us).flatMap fun u => .punct .comma :: u.lexemes).length = L at hes hclose hnext ⊢
    rw [parenContents.eq_2]
    simp [TokenKind.beq_eq_false_of_beginsTerm hb (rfl : (TokenKind.punct .rparen).beginsTerm = false),
      TokenKind.beq_eq_false_of_beginsTerm hb (rfl : (TokenKind.keyword .yield).beginsTerm = false),
      hrun, atClause, hcomma, hes, hclose.1, hnext, Except.bind, Except.map]
    omega

/-- A tuple is an atom: its items in parentheses. -/
lemma chainsAt_tuple (items : List Term) (h : ∀ u ∈ items, u.ReadsAt 0)
    (hfit : items.length ≤ ParseM.maxListLength) : (tuple items).ChainsAt 14 :=
  chainsAt_atom (by simp [prec]) fun ts p k hsp hk => by
    rw [lexemes_tuple, Lexeme.paren] at hsp hk ⊢
    have hnext := hsp.next
    simp only [List.cons_append, spells_cons, Lexeme.kind, List.length_cons, List.length_append,
      List.length_nil] at hsp hk ⊢
    obtain ⟨hlp, -, hin⟩ := hsp
    obtain ⟨k, rfl⟩ : ∃ j, k = j + 1 := ⟨k - 1, by omega⟩
    obtain ⟨e, hrun, hreads⟩ := parenContents_tuple (k := k) items h hfit hin (by omega)
      (ts.tokenAt p).span
    refine ⟨e, ?_, hreads⟩
    rw [atom_lparen hlp, parenthesized_succ, hnext, (run_withContext_eq_ok _ _ _ _ _).2 hrun,
      show p + 1 + (tupleLexemes items).length + 1 = p + ((tupleLexemes items).length + 1 + 1) by omega]

/-- The inside of a list display: nothing, or items separated by commas, then the closing
bracket. -/
lemma listContents_of_readsAt (items : List Term) (h : ∀ u ∈ items, u.ReadsAt 0)
    (hfit : items.length ≤ ParseM.maxListLength) (hsp : ts.Spells q (commaLexemes items ++ [.punct .rbracket]))
    (hk : 32 * (commaLexemes items).length + 33 ≤ k) (opening : Span) :
    ∃ e, listContents opening k ts q = .ok (e, q + (commaLexemes items).length + 1) ∧
      (list items).Reads ts.src e := by
  obtain ⟨k, rfl⟩ : ∃ j, k = j + 1 := ⟨k - 1, by omega⟩
  match items, h, hfit, hsp, hk with
  | [], _, _, hsp, _ =>
    rw [commaLexemes_nil] at hsp ⊢
    have hnext := hsp.next
    simp only [List.nil_append, spells_cons, Lexeme.kind] at hsp
    refine ⟨.list [] (opening.merge (ts.tokenAt q).span), ?_, reads_list .nil⟩
    rw [listContents.eq_2]
    simp [hsp.1, hnext, Except.bind, Except.map]
  | t :: us, h, hfit, hsp, hk =>
    rw [commaLexemes_cons, List.append_assoc, spells_append] at hsp
    rw [commaLexemes_cons] at hk ⊢
    obtain ⟨htsp, hrest⟩ := hsp
    obtain ⟨xs, hxs⟩ := head_sep_or_close us .rbracket
    have hafter : (ts.tokenAt (q + t.lexemes.length)).kind = .punct .comma ∨
        (ts.tokenAt (q + t.lexemes.length)).kind = .punct .rbracket := by
      have hrest' := hrest
      rcases hxs with hxs | hxs <;> rw [hxs] at hrest'
      exacts [.inl hrest'.1, .inr hrest'.1]
    have hclose := (spells_append.1 hrest).2
    have hnext := hclose.next
    simp only [spells_cons, Lexeme.kind] at hclose
    simp only [List.length_append] at hk hnext hclose ⊢
    obtain ⟨e, hrun, hreads⟩ := element_of_readsAt (n := k) (h t List.mem_cons_self) htsp
      (stops_zero_of_closer (by rcases hafter with h | h <;> simp [h]))
      (by rcases hafter with h | h <;> simp [h])
      (by simp only [budget]; omega)
    obtain ⟨es, hes, hfa⟩ := moreElements_of_readsAt (.inr rfl) us #[e] (k := k)
      (fun x hx => h x (List.mem_cons_of_mem _ hx)) (by simp only [List.length_cons] at hfit; simp; omega)
      hrest (by omega)
    have hb := beginsTerm_of_spells htsp
    have hnoclause : (ts.tokenAt (q + t.lexemes.length)).kind ≠ .keyword .for ∧
        (ts.tokenAt (q + t.lexemes.length)).kind ≠ .keyword .async := by
      rcases hafter with h | h <;> simp [h]
    refine ⟨.list (e :: es) (opening.merge (ts.tokenAt (q + t.lexemes.length +
      (us.flatMap fun u => .punct .comma :: u.lexemes).length)).span), ?_,
      reads_list (.cons hreads hfa)⟩
    generalize (us.flatMap fun u => .punct .comma :: u.lexemes).length = L at hes hclose hnext ⊢
    rw [listContents.eq_2]
    simp [TokenKind.beq_eq_false_of_beginsTerm hb (rfl : (TokenKind.punct .rbracket).beginsTerm = false),
      hrun, atClause, hnoclause, hes, hclose.1, hnext, Except.bind, Except.map]
    omega

/-- A list is an atom: its items in brackets. -/
lemma chainsAt_list (items : List Term) (h : ∀ u ∈ items, u.ReadsAt 0)
    (hfit : items.length ≤ ParseM.maxListLength) : (list items).ChainsAt 14 :=
  chainsAt_atom (by simp [prec]) fun ts p k hsp hk => by
    rw [lexemes_list] at hsp hk ⊢
    have hnext := hsp.next
    simp only [List.cons_append, spells_cons, Lexeme.kind, List.length_cons, List.length_append,
      List.length_nil] at hsp hk ⊢
    obtain ⟨hlb, -, hin⟩ := hsp
    obtain ⟨k, rfl⟩ : ∃ j, k = j + 1 := ⟨k - 1, by omega⟩
    obtain ⟨e, hrun, hreads⟩ := listContents_of_readsAt (k := k) items h hfit hin (by omega)
      (ts.tokenAt p).span
    refine ⟨e, ?_, hreads⟩
    rw [atom_lbracket hlb, listForm_succ, hnext, (run_withContext_eq_ok _ _ _ _ _).2 hrun,
      show p + 1 + (commaLexemes items).length + 1 = p + ((commaLexemes items).length + 1 + 1) by omega]

/-! ## Trailers -/

lemma arguments_positional {acc : Array Arg} (hb : (ts.tokenAt q).kind.beginsTerm = true)
    (hkw : (ts.tokenAt (q + 1)).kind ≠ .punct .eq)
    {v : Expr} {q' : Nat} (hv : namedExpression k ts q = .ok (v, q'))
    (hclause : (ts.tokenAt q').kind ≠ .keyword .for ∧ (ts.tokenAt q').kind ≠ .keyword .async) :
    arguments acc false false (k + 1) ts q =
      if (ts.tokenAt q').kind = .punct .comma then
        arguments (acc.push (.positional v)) false false k ts (ts.next q')
      else .ok (acc.push (.positional v), q') := by
  have hrp := TokenKind.beq_eq_false_of_beginsTerm hb (rfl : (TokenKind.punct .rparen).beginsTerm = false)
  rw [arguments.eq_2]
  simp only [run_bind, run_check, hrp, Bool.false_eq_true, if_false, run_currentSpan,
    run_currentKind, run_peekKind, Except.bind]
  generalize hk1 : (ts.tokenAt q).kind = k1 at hb ⊢
  generalize hk2 : (ts.tokenAt (q + 1)).kind = k2 at hkw ⊢
  split
  · simp [TokenKind.beginsTerm] at hb
  · simp [TokenKind.beginsTerm] at hb
  · exact absurd rfl hkw
  · simp [hv, atClause, hclause, Except.bind]
    split_ifs <;> rfl

/-- A positional argument: a term read at level 0 that a comma or the closing parenthesis
follows. -/
lemma arguments_cons {t : Term} (h : t.ReadsAt 0) (acc : Array Arg) {xs : List Lexeme}
    (hsp : ts.Spells q (t.lexemes ++ xs)) (hxs : xs.head? = some (.punct .comma) ∨ xs.head? = some (.punct .rparen))
    (hk : budget 0 t.lexemes.length + 1 ≤ k) :
    ∃ v, t.Reads ts.src v ∧ arguments acc false false (k + 1) ts q =
      if (ts.tokenAt (q + t.lexemes.length)).kind = .punct .comma then
        arguments (acc.push (.positional v)) false false k ts (q + t.lexemes.length + 1)
      else .ok (acc.push (.positional v), q + t.lexemes.length) := by
  rw [spells_append] at hsp
  obtain ⟨htsp, hrest⟩ := hsp
  obtain ⟨x, xs, rfl⟩ := List.exists_cons_of_ne_nil (by rintro rfl; simp at hxs : xs ≠ [])
  have hx : x = .punct .comma ∨ x = .punct .rparen := by simpa using hxs
  have hnext := hrest.next
  obtain ⟨hkind, -, -⟩ := hrest
  have hafter : (ts.tokenAt (q + t.lexemes.length)).kind = .punct .comma ∨
      (ts.tokenAt (q + t.lexemes.length)).kind = .punct .rparen := by
    rcases hx with rfl | rfl <;> simp [hkind, Lexeme.kind]
  obtain ⟨v, hrun, hreads⟩ := namedExpression_of_readsAt (n := k) h htsp
    (stops_zero_of_closer (by rcases hafter with h | h <;> simp [h]))
    (by rcases hafter with h | h <;> simp [h]) hk
  have hkw := second_ne_of_spells htsp (fun x hx => (plain_of_mem_lexemes t x hx).1)
    (by rcases hafter with h | h <;> simp [h])
  refine ⟨v, hreads, ?_⟩
  rw [arguments_positional (beginsTerm_of_spells htsp) hkw hrun
    (by rcases hafter with h | h <;> simp [h]), hnext]

/-- **Positional arguments** separated by commas, up to the closing parenthesis: each is a term
read at level 0. -/
lemma arguments_of_readsAt : ∀ (args : List Term) (acc : Array Arg) {q k : Nat},
    (∀ u ∈ args, u.ReadsAt 0) → ts.Spells q (commaLexemes args ++ [.punct .rparen]) →
    32 * (commaLexemes args).length + 32 ≤ k →
    ∃ es, arguments acc false false k ts q =
      .ok (acc ++ (es.map .positional).toArray, q + (commaLexemes args).length) ∧
      List.Forall₂ (Reads ts.src) args es
  | [], acc, q, k, _, hsp, hk => by
    obtain ⟨k, rfl⟩ : ∃ j, k = j + 1 := ⟨k - 1, by omega⟩
    simp only [commaLexemes_nil, List.nil_append, spells_cons, Lexeme.kind] at hsp
    refine ⟨[], ?_, .nil⟩
    rw [arguments.eq_2]
    simp [hsp.1, Except.bind]
  | [t], acc, q, k, h, hsp, hk => by
    obtain ⟨k, rfl⟩ : ∃ j, k = j + 1 := ⟨k - 1, by omega⟩
    rw [commaLexemes_single] at hsp hk ⊢
    obtain ⟨v, hreads, hrun⟩ := arguments_cons (k := k) (h t List.mem_cons_self) acc hsp (.inr rfl)
      (by simp only [budget]; omega)
    have hclose := (spells_append.1 hsp).2
    simp only [spells_cons, Lexeme.kind] at hclose
    refine ⟨[v], ?_, .cons hreads .nil⟩
    simp [hrun, hclose.1]
  | t :: u :: us, acc, q, k, h, hsp, hk => by
    obtain ⟨k, rfl⟩ : ∃ j, k = j + 1 := ⟨k - 1, by omega⟩
    rw [commaLexemes_cons_cons, List.append_assoc] at hsp
    rw [commaLexemes_cons_cons] at hk ⊢
    simp only [List.length_append, List.length_cons] at hk ⊢
    obtain ⟨v, hreads, hrun⟩ := arguments_cons (k := k) (h t List.mem_cons_self) acc hsp (.inl rfl)
      (by simp only [budget]; omega)
    have hrest := (spells_append.1 hsp).2
    simp only [List.cons_append, spells_cons, Lexeme.kind] at hrest
    obtain ⟨es, hes, hfa⟩ := arguments_of_readsAt (u :: us) (acc.push (.positional v)) (k := k)
      (fun x hx => h x (List.mem_cons_of_mem _ hx)) hrest.2.2 (by omega)
    refine ⟨v :: es, ?_, .cons hreads hfa⟩
    rw [hrun, if_pos hrest.1, hes]
    rw [show q + t.lexemes.length + 1 + (commaLexemes (u :: us)).length =
      q + (t.lexemes.length + ((commaLexemes (u :: us)).length + 1)) by omega]
    simp

/-- A call's parenthesized arguments. -/
lemma call_of_readsAt (args : List Term) (h : ∀ u ∈ args, u.ReadsAt 0)
    (hfit : args.length ≤ ParseM.maxListLength) (ev : Expr) (hsp : ts.Spells q (Lexeme.paren (commaLexemes args)))
    (hk : 32 * (commaLexemes args).length + 33 ≤ k) :
    ∃ es sp, Grammar.call ev k ts q =
      .ok (Expr.call ev (es.map .positional) sp, q + (Lexeme.paren (commaLexemes args)).length) ∧
      List.Forall₂ (Reads ts.src) args es := by
  obtain ⟨k, rfl⟩ : ∃ j, k = j + 1 := ⟨k - 1, by omega⟩
  rw [Lexeme.paren] at hsp ⊢
  have hnext := hsp.next
  simp only [List.cons_append, spells_cons, Lexeme.kind] at hsp
  obtain ⟨-, -, hin⟩ := hsp
  obtain ⟨es, hargs, hfa⟩ := arguments_of_readsAt (k := k) args #[] h hin (by omega)
  have hclose := (spells_append.1 hin).2
  have hnext2 := hclose.next
  obtain ⟨hrparen, -, -⟩ := hclose
  simp only [Lexeme.kind] at hrparen
  have hargs' := (run_withContext_eq_ok _ _ .callArguments _ _).2 hargs
  have hclose' := (run_withContext_eq_ok _ _ .callArguments (expect (.punct .rparen)) _).2
    (show expect (.punct .rparen) ts (q + 1 + (commaLexemes args).length) = _ by
      rw [run_expect, hrparen, beq_self_eq_true, if_pos rfl])
  have hstore : (#[] ++ (es.map Arg.positional).toArray).size ≤ ParseM.maxListLength := by
    simpa [← hfa.length_eq] using hfit
  refine ⟨es, ev.span.merge (ts.tokenAt (q + 1 + (commaLexemes args).length)).span, ?_, hfa⟩
  rw [Grammar.call.eq_2]
  simp only [run_bind, run_discard, run_advance, Except.map, hnext, Except.bind, hargs', hclose',
    hnext2, run_storeList_of_le _ _ hstore]
  simp
  omega

/-- A subscript's index is a lone slice: a term read at level 0 that the closing bracket
follows. -/
lemma slices_of_readsAt {i : Term} (h : i.ReadsAt 0) (hsp : ts.Spells q (i.lexemes ++ [.punct .rbracket]))
    (hk : budget 0 i.lexemes.length + 3 ≤ k) :
    ∃ ei, slices k ts q = .ok (ei, q + i.lexemes.length) ∧ i.Reads ts.src ei := by
  obtain ⟨j, rfl⟩ : ∃ j, k = j + 2 := ⟨k - 2, by omega⟩
  rw [spells_append] at hsp
  obtain ⟨hin, hclose⟩ := hsp
  obtain ⟨hrb, -, -⟩ := hclose
  simp only [Lexeme.kind] at hrb
  obtain ⟨ei, hrun, hreads⟩ := namedExpression_of_readsAt (n := j) h hin
    (stops_zero_of_closer (by simp [hrb])) (by simp [hrb]) (by omega)
  have hb := beginsTerm_of_spells hin
  refine ⟨ei, ?_, hreads⟩
  rw [slices.eq_2, run_bind, slice.eq_2]
  simp [TokenKind.beq_eq_false_of_beginsTerm hb (rfl : (TokenKind.punct .star).beginsTerm = false),
    TokenKind.beq_eq_false_of_beginsTerm hb (rfl : (TokenKind.punct .colon).beginsTerm = false),
    hrun, hrb, Except.bind]

/-- A subscript's bracketed index. -/
lemma subscript_of_readsAt {i : Term} (h : i.ReadsAt 0) (ev : Expr)
    (hsp : ts.Spells q (.punct .lbracket :: i.lexemes ++ [.punct .rbracket]))
    (hk : budget 0 i.lexemes.length + 4 ≤ k) :
    ∃ ei sp, Grammar.subscript ev k ts q =
      .ok (Expr.subscript ev ei sp, q + (Lexeme.punct .lbracket :: i.lexemes ++ [Lexeme.punct .rbracket]).length) ∧
      i.Reads ts.src ei := by
  obtain ⟨k, rfl⟩ : ∃ j, k = j + 1 := ⟨k - 1, by omega⟩
  have hnext := hsp.next
  simp only [List.cons_append, spells_cons] at hsp
  obtain ⟨-, -, hin⟩ := hsp
  obtain ⟨ei, hrun, hreads⟩ := slices_of_readsAt (k := k) h hin (by omega)
  have hclose := (spells_append.1 hin).2
  have hnext2 := hclose.next
  obtain ⟨hrb, -, -⟩ := hclose
  simp only [Lexeme.kind] at hrb
  have hrun' := (run_withContext_eq_ok _ _ .subscript _ _).2 hrun
  have hclose' := (run_withContext_eq_ok _ _ .subscript (expect (.punct .rbracket)) _).2
    (show expect (.punct .rbracket) ts (q + 1 + i.lexemes.length) = _ by
      rw [run_expect, hrb, beq_self_eq_true, if_pos rfl])
  refine ⟨ei, ev.span.merge (ts.tokenAt (q + 1 + i.lexemes.length)).span, ?_, hreads⟩
  rw [Grammar.subscript.eq_2]
  simp only [run_bind, run_discard, run_advance, Except.map, hnext, Except.bind, hrun', hclose',
    hnext2]
  simp
  omega

lemma trailers_dot (hdot : (ts.tokenAt q).kind = .punct .dot) (hname : (ts.tokenAt (q + 1)).kind = .name)
    (hnext : ts.next q = q + 1) (hnext' : ts.next (q + 1) = q + 2) (v : Expr) :
    trailers v (m + 1) ts q =
      trailers (.attribute v (ts.tokenAt (q + 1)).span (v.span.merge (ts.tokenAt (q + 1)).span)) m ts
        (q + 2) := by
  rw [trailers.eq_2]
  simp [hdot, hname, hnext, hnext', Except.bind, Except.map]

lemma trailers_lparen (hk : (ts.tokenAt q).kind = .punct .lparen) {v e : Expr} {q' : Nat}
    (hcall : Grammar.call v m ts q = .ok (e, q')) : trailers v (m + 1) ts q = trailers e m ts q' := by
  rw [trailers.eq_2]
  simp [hk, hcall, Except.bind]

lemma trailers_lbracket (hk : (ts.tokenAt q).kind = .punct .lbracket) {v e : Expr} {q' : Nat}
    (hsub : Grammar.subscript v m ts q = .ok (e, q')) : trailers v (m + 1) ts q = trailers e m ts q' := by
  rw [trailers.eq_2]
  simp [hk, hsub, Except.bind]

/-- **A trailer after a value** chained at the trailers' level is one more turn of their loop,
which leaves the node chained there. -/
lemma chainsAt_trailer {v node : Term} {xs : List Lexeme} (hprec : node.prec = 14) (hxs : xs ≠ [])
    (hlex : node.lexemes = v.lexemesAt 14 ++ xs)
    (hstep : ∀ (ts : TokenStream) q m ev, ts.Spells q xs → 32 * xs.length + 1 ≤ m →
      v.Reads ts.src ev → ∃ e, trailers ev (m + 1) ts q = trailers e m ts (q + xs.length) ∧
        node.Reads ts.src e)
    (hv : v.ChainsAt 14) : node.ChainsAt 14 := by
  intro ts p n hsp _ hn
  rw [lexemesAt_of_le hprec.ge, hlex] at hsp hn ⊢
  rw [spells_append] at hsp
  obtain ⟨hvsp, hxsp⟩ := hsp
  simp only [List.length_append, budget] at hn ⊢
  obtain ⟨ev, m, hrun, hm, hreads⟩ := hv ts p n hvsp (stops_fifteen _)
    (by simp only [budget]; omega)
  obtain ⟨m, rfl⟩ : ∃ j, m = j + 1 := ⟨m - 1, by omega⟩
  obtain ⟨e, hturn, hreads'⟩ := hstep ts _ m ev hxsp (by omega) hreads
  have hlen := List.length_pos_of_ne_nil hxs
  refine ⟨e, m, ?_, by omega, hreads'⟩
  rw [hrun, ← Nat.add_assoc]
  exact hturn

lemma chainsAt_attribute {v : Term} (a : Ident) (hv : v.ChainsAt 14) : (Term.attribute v a).ChainsAt 14 :=
  chainsAt_trailer (by simp [prec]) (by simp) (lexemes_attribute v a)
    (fun ts q m ev hsp _ hr => by
      have hnext := hsp.next
      obtain ⟨hdot, -, hrest⟩ := hsp
      have hnext' := hrest.next
      obtain ⟨hname, htext, -⟩ := hrest
      simp only [Lexeme.kind] at hdot hname
      exact ⟨_, trailers_dot hdot hname hnext hnext' ev, reads_attribute hr htext⟩) hv

lemma chainsAt_call {f : Term} (args : List Term) (h : ∀ u ∈ args, u.ReadsAt 0)
    (hfit : args.length ≤ ParseM.maxListLength) (hf : f.ChainsAt 14) : (call f args).ChainsAt 14 :=
  chainsAt_trailer (by simp [prec]) (by simp [Lexeme.paren]) (lexemes_call f args)
    (fun ts q m ev hsp hm hr => by
      have hlp : (ts.tokenAt q).kind = .punct .lparen := by
        rw [Lexeme.paren] at hsp
        exact hsp.1
      obtain ⟨es, sp, hcall, hfa⟩ := call_of_readsAt (k := m) args h hfit ev hsp
        (by simp only [Lexeme.paren, List.length_cons, List.length_append, List.length_nil] at hm; omega)
      exact ⟨_, trailers_lparen hlp hcall, reads_call hr hfa⟩) hf

lemma chainsAt_subscript {v i : Term} (hi : i.ReadsAt 0) (hv : v.ChainsAt 14) :
    (subscript v i).ChainsAt 14 :=
  chainsAt_trailer (by simp [prec]) (by simp)
    (show _ = _ ++ (.punct .lbracket :: i.lexemes ++ [.punct .rbracket]) by
      rw [lexemes_subscript, List.append_assoc])
    (fun ts q m ev hsp hm hr => by
      have hlb : (ts.tokenAt q).kind = .punct .lbracket := hsp.1
      obtain ⟨ei, sp, hsub, hreads⟩ := subscript_of_readsAt (k := m) hi ev hsp
        (by simp only [budget, List.length_cons, List.length_append, List.length_nil] at hm ⊢; omega)
      exact ⟨_, trailers_lbracket hlb hsub, reads_subscript hr hreads⟩) hv

/-! ## Every term -/

/-- A term chained at a loop level that is its own is read at every level. -/
lemma parses_of_chainsAt {t : Term} {L : Nat} (hL : IsLoop L) (hle : L ≤ t.prec)
    (htop : L < 14 → t.prec = L) (h : t.ChainsAt L) : t.Parses :=
  parses_of_own hL.le hle htop (.of_chainsAt hL h) fun _ => h

/-- A term read at a level with no loop that is its own is read at every level. -/
lemma parses_of_readsAt {t : Term} {L : Nat} (hL : ¬IsLoop L) (hL14 : L ≤ 14) (hprec : t.prec = L)
    (h : t.ReadsAt L) : t.Parses :=
  parses_of_own hL14 hprec.ge (fun _ => hprec) h fun h' => absurd h' hL

mutual

/-- **Every term whose lists fit in the arena is read back at every level of the ladder**, by
recursion on the term: each node is read at its own level from its children read at theirs. -/
theorem parses : ∀ t : Term, t.fits = true → t.Parses
  | .name x, _ => parses_of_chainsAt isLoop_trailers (by simp [prec]) (by omega) (chainsAt_name x)
  | .int j, _ => parses_of_chainsAt isLoop_trailers (by simp [prec]) (by omega) (chainsAt_int j)
  | .binary op l r, hfit => by
    simp only [fits, Bool.and_eq_true] at hfit
    by_cases hop : op = .pow
    · subst hop
      exact parses_of_readsAt (L := 12) (by simp [IsLoop]) (by omega) rfl
        (readsAt_pow ((parses l hfit.1).reads 13 (by omega)) ((parses r hfit.2).reads 11 (by omega)))
    · have hloop : IsLoop op.prec := by
        cases op <;> simp_all [IsLoop, BinaryOp.prec]
      have hle := hloop.le
      exact parses_of_chainsAt hloop le_rfl (fun _ => rfl)
        (chainsAt_binary hop ((parses l hfit.1).chains op.prec hloop)
          ((parses r hfit.2).reads (op.prec + 1) (by cases op <;> simp_all [BinaryOp.prec])))
  | .unary op a, hfit => by
    have hle : op.prec ≤ 14 := by cases op <;> simp [UnaryOp.prec]
    exact parses_of_readsAt (by cases op <;> simp [IsLoop, UnaryOp.prec]) hle rfl
      (readsAt_unary op ((parses a hfit).reads op.prec hle))
  | .boolOp op l r, hfit => by
    simp only [fits, Bool.and_eq_true] at hfit
    have hloop : IsLoop op.prec := by cases op <;> simp [IsLoop, BoolOp.prec]
    exact parses_of_chainsAt hloop le_rfl (fun _ => rfl)
      (chainsAt_boolOp op ((parses l hfit.1).chains op.prec hloop)
        ((parses r hfit.2).reads (op.prec + 1) (by cases op <;> simp [BoolOp.prec])))
  | .compare l op r links, hfit => by
    simp only [fits, Bool.and_eq_true, decide_eq_true_eq] at hfit
    obtain ⟨⟨⟨hlen, hl⟩, hr⟩, hlinks⟩ := hfit
    exact parses_of_readsAt (L := 4) (by simp [IsLoop]) (by omega) rfl
      (readsAt_compare op links ((parses l hl).reads 5 (by omega)) ((parses r hr).reads 5 (by omega))
        (fun x hx => (parses_of_mem_links links hlinks x hx).reads 5 (by omega)) hlen)
  | .ifElse test body orelse, hfit => by
    simp only [fits, Bool.and_eq_true] at hfit
    obtain ⟨⟨ht, hb⟩, ho⟩ := hfit
    exact parses_of_readsAt (L := 0) (by simp [IsLoop]) (by omega) rfl
      (readsAt_ifElse ((parses test ht).reads 1 (by omega)) ((parses body hb).reads 1 (by omega))
        ((parses orelse ho).reads 0 (by omega)))
  | .await v, hfit =>
    parses_of_readsAt (L := 13) (by simp [IsLoop]) (by omega) rfl
      (readsAt_await ((parses v hfit).reads 14 le_rfl))
  | .attribute v a, hfit =>
    parses_of_chainsAt isLoop_trailers (by simp [prec]) (by omega)
      (chainsAt_attribute a ((parses v hfit).chains 14 isLoop_trailers))
  | .call f args, hfit => by
    simp only [fits, Bool.and_eq_true, decide_eq_true_eq] at hfit
    obtain ⟨⟨hlen, hf⟩, hargs⟩ := hfit
    exact parses_of_chainsAt isLoop_trailers (by simp [prec]) (by omega)
      (chainsAt_call args (fun u hu => (parses_of_mem args hargs u hu).reads 0 (by omega)) hlen
        ((parses f hf).chains 14 isLoop_trailers))
  | .subscript v i, hfit => by
    simp only [fits, Bool.and_eq_true] at hfit
    exact parses_of_chainsAt isLoop_trailers (by simp [prec]) (by omega)
      (chainsAt_subscript ((parses i hfit.2).reads 0 (by omega))
        ((parses v hfit.1).chains 14 isLoop_trailers))
  | .tuple items, hfit => by
    simp only [fits, Bool.and_eq_true, decide_eq_true_eq] at hfit
    exact parses_of_chainsAt isLoop_trailers (by simp [prec]) (by omega)
      (chainsAt_tuple items (fun u hu => (parses_of_mem items hfit.2 u hu).reads 0 (by omega)) hfit.1)
  | .list items, hfit => by
    simp only [fits, Bool.and_eq_true, decide_eq_true_eq] at hfit
    exact parses_of_chainsAt isLoop_trailers (by simp [prec]) (by omega)
      (chainsAt_list items (fun u hu => (parses_of_mem items hfit.2 u hu).reads 0 (by omega)) hfit.1)

theorem parses_of_mem : ∀ ts : List Term, allFit ts = true → ∀ u ∈ ts, u.Parses
  | [], _, u, hu => absurd hu List.not_mem_nil
  | t :: ts, hfit, u, hu => by
    simp only [allFit, Bool.and_eq_true] at hfit
    rcases List.mem_cons.1 hu with h | hu
    · rw [h]
      exact parses t hfit.1
    · exact parses_of_mem ts hfit.2 u hu

theorem parses_of_mem_links : ∀ links : List (CmpOp × Term), linksFit links = true →
    ∀ x ∈ links, x.2.Parses
  | [], _, x, hx => absurd hx List.not_mem_nil
  | (op, r) :: links, hfit, x, hx => by
    simp only [linksFit, Bool.and_eq_true] at hfit
    rcases List.mem_cons.1 hx with h | hx
    · rw [h]
      exact parses r hfit.1
    · exact parses_of_mem_links links hfit.2 x hx

end

end Term

end ExprFront
