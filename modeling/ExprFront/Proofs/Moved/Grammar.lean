import Mathlib
import ExprFront.Proofs.Moved.Runs
import ExprFront.Proofs.FirstSet.Descent

/-!
# Every production runs alike on a moved stream

On a stream as the lexer gives it (`TokenStream.Ordered`) and the same stream moved `k` bytes
on (`TokenStream.Moved`), every production of the grammar, at every fuel, runs alike
(`Grammar.shifts`): from every position inside the stream the two runs fail with the same error,
moved, or end at the same place with the value moved (`Expr.shift` and its kin).

The proof is one induction on the fuel over the record `Grammar.Shifts`, with a step lemma per
production (`*_shifts`), in the way of `Grammar.Steadies`: a production at fuel `n + 1` is built
from reading steps, each followed on both streams by the lemmas of `ParseM.Moves`, and from
productions at fuel `n`, which run alike by the record.

One reading step does not move with the stream: before the first token the span of the token
before is `0..0` on both streams. The grammar reads that span only after it has taken a token of
the production that reads it, so each production that reads it is followed from a position past
the first (`ShiftedAfter`), or from a token it takes first (`ShiftedPast`).
-/

namespace ExprFront

/-! ## Moving the trees the grammar builds -/

section Trees

variable (k : Nat) (sp sp' : Span) (e l r : Expr) (es : List Expr)

@[simp] lemma Expr.shift_name : (Expr.name sp).shift k = .name (sp.shift k) := rfl

@[simp] lemma Expr.shift_number (kind : NumberKind) :
    (Expr.number kind sp).shift k = .number kind (sp.shift k) := rfl

@[simp] lemma Expr.shift_constant (c : Constant) :
    (Expr.constant c sp).shift k = .constant c (sp.shift k) := rfl

@[simp] lemma Expr.shift_str (d : Delimiter) :
    (Expr.str d sp sp').shift k = .str d (sp.shift k) (sp'.shift k) := rfl

@[simp] lemma Expr.shift_fstring (d : Delimiter) (parts : List FPart) :
    (Expr.fstring d parts sp).shift k = .fstring d (parts.map (FPart.shift k)) (sp.shift k) := by
  rw [← FPart.shiftAll_eq]
  rfl

@[simp] lemma Expr.shift_concat : (Expr.concat es sp).shift k = .concat (es.map (Expr.shift k)) (sp.shift k) := by
  rw [← Expr.shiftAll_eq]
  rfl

@[simp] lemma Expr.shift_attribute :
    (Expr.attribute e sp sp').shift k = .attribute (e.shift k) (sp.shift k) (sp'.shift k) := rfl

@[simp] lemma Expr.shift_call (args : List Arg) :
    (Expr.call e args sp).shift k = .call (e.shift k) (args.map (Arg.shift k)) (sp.shift k) := by
  rw [← Arg.shiftAll_eq]
  rfl

@[simp] lemma Expr.shift_subscript :
    (Expr.subscript l r sp).shift k = .subscript (l.shift k) (r.shift k) (sp.shift k) := rfl

@[simp] lemma Expr.shift_slice (lower upper step : Option Expr) :
    (Expr.slice lower upper step sp).shift k =
      .slice (lower.map (Expr.shift k)) (upper.map (Expr.shift k)) (step.map (Expr.shift k))
        (sp.shift k) := by
  rw [← Expr.shift?_eq, ← Expr.shift?_eq, ← Expr.shift?_eq]
  rfl

@[simp] lemma Expr.shift_binary (op : BinaryOp) :
    (Expr.binary op l r sp).shift k = .binary op (l.shift k) (r.shift k) (sp.shift k) := rfl

@[simp] lemma Expr.shift_unary (op : UnaryOp) :
    (Expr.unary op e sp).shift k = .unary op (e.shift k) (sp.shift k) := rfl

@[simp] lemma Expr.shift_boolOp (op : BoolOp) :
    (Expr.boolOp op l r sp).shift k = .boolOp op (l.shift k) (r.shift k) (sp.shift k) := rfl

@[simp] lemma Expr.shift_compare (links : List Link) :
    (Expr.compare e links sp).shift k =
      .compare (e.shift k) (links.map (Link.shift k)) (sp.shift k) := by
  rw [← Link.shiftAll_eq]
  rfl

@[simp] lemma Expr.shift_ifElse (o : Expr) :
    (Expr.ifElse e l o sp).shift k = .ifElse (e.shift k) (l.shift k) (o.shift k) (sp.shift k) :=
  rfl

@[simp] lemma Expr.shift_lambda (ps : List Param) :
    (Expr.lambda ps e sp).shift k = .lambda (ps.map (Param.shift k)) (e.shift k) (sp.shift k) := by
  rw [← Param.shiftAll_eq]
  rfl

@[simp] lemma Expr.shift_namedExpr :
    (Expr.namedExpr l r sp).shift k = .namedExpr (l.shift k) (r.shift k) (sp.shift k) := rfl

@[simp] lemma Expr.shift_starred : (Expr.starred e sp).shift k = .starred (e.shift k) (sp.shift k) :=
  rfl

@[simp] lemma Expr.shift_yield (v : Option Expr) :
    (Expr.yield v sp).shift k = .yield (v.map (Expr.shift k)) (sp.shift k) := by
  rw [← Expr.shift?_eq]
  rfl

@[simp] lemma Expr.shift_yieldFrom :
    (Expr.yieldFrom e sp).shift k = .yieldFrom (e.shift k) (sp.shift k) := rfl

@[simp] lemma Expr.shift_await : (Expr.await e sp).shift k = .await (e.shift k) (sp.shift k) := rfl

@[simp] lemma Expr.shift_tuple : (Expr.tuple es sp).shift k = .tuple (es.map (Expr.shift k)) (sp.shift k) := by
  rw [← Expr.shiftAll_eq]
  rfl

@[simp] lemma Expr.shift_list : (Expr.list es sp).shift k = .list (es.map (Expr.shift k)) (sp.shift k) := by
  rw [← Expr.shiftAll_eq]
  rfl

@[simp] lemma Expr.shift_set : (Expr.set es sp).shift k = .set (es.map (Expr.shift k)) (sp.shift k) := by
  rw [← Expr.shiftAll_eq]
  rfl

@[simp] lemma Expr.shift_dict (ds : List DictEntry) :
    (Expr.dict ds sp).shift k = .dict (ds.map (DictEntry.shift k)) (sp.shift k) := by
  rw [← DictEntry.shiftAll_eq]
  rfl

@[simp] lemma Expr.shift_listComp (cs : List Clause) :
    (Expr.listComp e cs sp).shift k = .listComp (e.shift k) (cs.map (Clause.shift k)) (sp.shift k) := by
  rw [← Clause.shiftAll_eq]
  rfl

@[simp] lemma Expr.shift_setComp (cs : List Clause) :
    (Expr.setComp e cs sp).shift k = .setComp (e.shift k) (cs.map (Clause.shift k)) (sp.shift k) := by
  rw [← Clause.shiftAll_eq]
  rfl

@[simp] lemma Expr.shift_generator (cs : List Clause) :
    (Expr.generator e cs sp).shift k =
      .generator (e.shift k) (cs.map (Clause.shift k)) (sp.shift k) := by
  rw [← Clause.shiftAll_eq]
  rfl

@[simp] lemma Expr.shift_dictComp (cs : List Clause) :
    (Expr.dictComp l r cs sp).shift k =
      .dictComp (l.shift k) (r.shift k) (cs.map (Clause.shift k)) (sp.shift k) := by
  rw [← Clause.shiftAll_eq]
  rfl

@[simp] lemma FPart.shift_literal : (FPart.literal sp).shift k = .literal (sp.shift k) := rfl

@[simp] lemma FPart.shift_field (f : Field) : (FPart.field f).shift k = .field (f.shift k) := rfl

@[simp] lemma Field.shift_mk (dbg : Option Span) (conv : Option Conversion)
    (spec : Option (List FPart)) :
    (Field.mk e dbg conv spec sp).shift k =
      .mk (e.shift k) (dbg.map (Span.shift k)) conv (spec.map (List.map (FPart.shift k)))
        (sp.shift k) := by
  rw [← FPart.shiftAll?_eq]
  rfl

@[simp] lemma Arg.shift_positional : (Arg.positional e).shift k = .positional (e.shift k) := rfl

@[simp] lemma Arg.shift_star : (Arg.star e).shift k = .star (e.shift k) := rfl

@[simp] lemma Arg.shift_doubleStar : (Arg.doubleStar e).shift k = .doubleStar (e.shift k) := rfl

@[simp] lemma Arg.shift_keyword : (Arg.keyword sp e).shift k = .keyword (sp.shift k) (e.shift k) :=
  rfl

@[simp] lemma Link.shift_mk (op : CmpOp) : (Link.mk op e).shift k = .mk op (e.shift k) := rfl

@[simp] lemma Param.shift_mk (kind : ParamKind) (d : Option Expr) :
    (Param.mk kind sp d).shift k = .mk kind (sp.shift k) (d.map (Expr.shift k)) := by
  rw [← Expr.shift?_eq]
  rfl

@[simp] lemma DictEntry.shift_pair : (DictEntry.pair l r).shift k = .pair (l.shift k) (r.shift k) :=
  rfl

@[simp] lemma DictEntry.shift_unpack : (DictEntry.unpack e).shift k = .unpack (e.shift k) := rfl

@[simp] lemma Clause.shift_mk (isAsync : Bool) (ifs : List Expr) :
    (Clause.mk isAsync l r ifs).shift k =
      .mk isAsync (l.shift k) (r.shift k) (ifs.map (Expr.shift k)) := by
  rw [← Expr.shiftAll_eq]
  rfl

end Trees

namespace ParseM

variable {α α' β β' : Type} {k : Nat} {ts ts' : TokenStream} {p : Nat}
  {S : β → β' → Prop} {m : ParseM α} {m' : ParseM α'}

/-- A step whose value on the moved stream is its value moved by `F`, and what follows it. -/
lemma Moves.bind_map {F : α → α'} {g : α → ParseM β} {g' : α' → ParseM β'}
    (h : Moves k ts ts' (fun a a' => a' = F a) m m' p)
    (hg : ∀ a q, m ts p = .ok (a, q) → q < ts.tokens.size → Moves k ts ts' S (g a) (g' (F a)) q) :
    Moves k ts ts' S (m >>= g) (m' >>= g') p :=
  h.bind fun a _ q ha hm hq => ha ▸ hg a q hm hq

/-- A context added on both streams. -/
lemma Moves.withContext_bind_map {F : α → α'} {c : ErrorContext} {g : α → ParseM β}
    {g' : α' → ParseM β'} (h : Moves k ts ts' (fun a a' => a' = F a) m m' p)
    (hg : ∀ a q, m ts p = .ok (a, q) → q < ts.tokens.size → Moves k ts ts' S (g a) (g' (F a)) q) :
    Moves k ts ts' S (ParseM.withContext c m >>= g) (ParseM.withContext c m' >>= g') p :=
  h.withContext.bind_map fun a q hm hq => hg a q ((run_withContext_eq_ok ts p c m _).mp hm) hq

/-- A token that is taken on both streams and read on the moved one as moved. -/
lemma moves_advance_bind_moved (hM : ts.Moved k ts') {g : Token → ParseM β} {g' : Token → ParseM β'}
    (h : Moves k ts ts' S (g (ts.tokenAt p))
      (g' ⟨(ts.tokenAt p).kind.shift k, (ts.tokenAt p).span.shift k, (ts'.tokenAt p).pos⟩)
      (ts.next p)) :
    Moves k ts ts' S (advance >>= g) (advance >>= g') p := by
  refine moves_advance_bind hM ?_
  have ht : ts'.tokenAt p = ⟨(ts.tokenAt p).kind.shift k, (ts.tokenAt p).span.shift k,
      (ts'.tokenAt p).pos⟩ := by
    rw [← hM.kind, ← hM.span]
  rw [ht]
  exact h

lemma Moves.ite_pos {R : α → α' → Prop} {c : Prop} [Decidable c] {x y : ParseM α} {x' y' : ParseM α'}
    (hc : c) (h : Moves k ts ts' R x x' p) :
    Moves k ts ts' R (if c then x else y) (if c then x' else y') p := by
  rw [if_pos hc, if_pos hc]
  exact h

lemma Moves.ite_neg {R : α → α' → Prop} {c : Prop} [Decidable c] {x y : ParseM α} {x' y' : ParseM α'}
    (hc : ¬ c) (h : Moves k ts ts' R y y' p) :
    Moves k ts ts' R (if c then x else y) (if c then x' else y') p := by
  rw [if_neg hc, if_neg hc]
  exact h

/-- An expected token with no span is taken on both streams, the token there moved, or missed
alike. -/
lemma moves_expect (hM : ts.Moved k ts') {kind : TokenKind} (hkind : ∀ text, kind ≠ .fstringEnd text)
    (hp : p < ts.tokens.size) : Moves k ts ts' (Token.Moved k) (expect kind) (expect kind) p := by
  have hbeq : ((ts'.tokenAt p).kind == kind) = ((ts.tokenAt p).kind == kind) := by
    rw [hM.kind, TokenKind.shift_beq k hkind]
  by_cases hk : (ts.tokenAt p).kind = kind
  · have h : expect kind ts p = .ok (ts.tokenAt p, ts.next p) := by simp [run_expect, hk]
    have h' : expect kind ts' p = .ok (ts'.tokenAt p, ts.next p) := by
      simp [run_expect, hbeq, hk, hM.next]
    exact moves_ok h h' (hM.token p) (TokenStream.next_lt hp)
  · refine moves_error (e := ⟨(ts.tokenAt p).span, "expected " ++ kind.displayName ++ ", found " ++
      (ts.tokenAt p).kind.displayName, none, false⟩) ?_ ?_
    · simp [run_expect, hk]
    · simp [run_expect, hk, SyntaxError.shift, hM.span, hM.kind, TokenKind.shift_eq_iff k hkind]

/-- An optional token with no span, taken or not, followed alike from wherever it leaves the
run. -/
lemma moves_eat_bind_any (hM : ts.Moved k ts') {kind : TokenKind}
    (hkind : ∀ text, kind ≠ .fstringEnd text) (hp : p < ts.tokens.size)
    {g : Bool → ParseM β} {g' : Bool → ParseM β'}
    (h : ∀ b q, q < ts.tokens.size → Moves k ts ts' S (g b) (g' b) q) :
    Moves k ts ts' S (eat kind >>= g) (eat kind >>= g') p :=
  moves_eat_bind hM hkind (fun _ => h true _ (TokenStream.next_lt hp)) fun _ => h false p hp

/-- A failure at a span, on the moved stream at the moved span, whatever would follow it. -/
lemma moves_failAt_bind {sp : Span} {msg : String} {g : α → ParseM β} {g' : α → ParseM β'} :
    Moves k ts ts' S (failAt sp msg >>= g) (failAt (sp.shift k) msg >>= g') p :=
  moves_error rfl rfl

/-- The arena's check on lists of one length on both streams: passed alike, or a panic at the
current token, moved. -/
lemma moves_storeList_bind (hM : ts.Moved k ts') {n n' : Nat} (hn : n' = n) {g : PUnit → ParseM β}
    {g' : PUnit → ParseM β'} (h : n ≤ maxListLength → Moves k ts ts' S (g ()) (g' ()) p) :
    Moves k ts ts' S (storeList n >>= g) (storeList n' >>= g') p := by
  subst hn
  by_cases hle : n' ≤ maxListLength
  · exact Moves.of_ok_bind (run_storeList_of_le ts p hle) (run_storeList_of_le ts' p hle) (h hle)
  · refine moves_error (e := ⟨(ts.tokenAt p).span, "arena list exceeds u16::MAX entries", none, true⟩)
      ?_ ?_
    · simp [run_storeList, hle, Except.bind]
    · simp [run_storeList, hle, Except.bind, SyntaxError.shift, hM.span]

end ParseM

namespace TokenKind

variable (k : Nat) (kind : TokenKind)

/-- The operator of a level is read alike from a moved kind. -/
@[simp] lemma operator?_shift (level : Grammar.BinLevel) :
    level.operator? (kind.shift k) = level.operator? kind := by
  rcases shift_cases k kind with hs | ⟨text, rfl⟩
  · rw [hs]
  · cases level <;> rfl

@[simp] lemma unaryOperator?_shift : Grammar.unaryOperator? (kind.shift k) = Grammar.unaryOperator? kind := by
  rcases shift_cases k kind with hs | ⟨text, rfl⟩
  · rw [hs]
  · rfl

end TokenKind

namespace Grammar

open ParseM

/-! ## Shifted runs -/

section

variable {α α' : Type} (k : Nat) (ts ts' : TokenStream)

/-- A run of `m` on the stream and of `m'` on the stream moved `k` bytes on, from every
position inside the stream: the same failure moved, or at the same end the value moved by `F`. -/
def Shifted (F : α → α') (m : ParseM α) (m' : ParseM α') : Prop :=
  ∀ p, p < ts.tokens.size → Moves k ts ts' (fun a a' => a' = F a) m m' p

/-- The same, from every position past the first. -/
def ShiftedAfter (F : α → α') (m : ParseM α) (m' : ParseM α') : Prop :=
  ∀ p, 0 < p → p < ts.tokens.size → Moves k ts ts' (fun a a' => a' = F a) m m' p

/-- The same, from every token but the end of input. -/
def ShiftedPast (F : α → α') (m : ParseM α) (m' : ParseM α') : Prop :=
  ∀ p, p < ts.tokens.size → (ts.tokenAt p).kind ≠ .eof →
    Moves k ts ts' (fun a a' => a' = F a) m m' p

end

/-- Every production of the grammar at fuel `n` runs alike on a stream and on the stream moved
`k` bytes on, its arguments moved with it. -/
structure Shifts (k : Nat) (ts ts' : TokenStream) (n : Nat) : Prop where
  fieldExpression : Shifted k ts ts' (Expr.shift k) (fieldExpression n) (fieldExpression n)
  sequence : ∀ item, Shifted k ts ts' (Expr.shift k) (sequence item n) (sequence item n)
  sequenceRest : ∀ item acc, Shifted k ts ts' (Array.map (Expr.shift k))
    (sequenceRest item acc n) (sequenceRest item (acc.map (Expr.shift k)) n)
  element : ∀ item, Shifted k ts ts' (Expr.shift k) (element item n) (element item n)
  starred : Shifted k ts ts' (Expr.shift k) (starred n) (starred n)
  namedExpression : Shifted k ts ts' (Expr.shift k) (namedExpression n) (namedExpression n)
  expression : Shifted k ts ts' (Expr.shift k) (expression n) (expression n)
  yieldExpr : Shifted k ts ts' (Expr.shift k) (yieldExpr n) (yieldExpr n)
  lambda : Shifted k ts ts' (Expr.shift k) (lambda n) (lambda n)
  lambdaParams : ∀ acc, Shifted k ts ts' (Array.map (Param.shift k))
    (lambdaParams acc n) (lambdaParams (acc.map (Param.shift k)) n)
  lambdaParam : Shifted k ts ts' (Param.shift k) (lambdaParam n) (lambdaParam n)
  disjunction : Shifted k ts ts' (Expr.shift k) (disjunction n) (disjunction n)
  disjunctionRest : ∀ left, Shifted k ts ts' (Expr.shift k)
    (disjunctionRest left n) (disjunctionRest (left.shift k) n)
  conjunction : Shifted k ts ts' (Expr.shift k) (conjunction n) (conjunction n)
  conjunctionRest : ∀ left, Shifted k ts ts' (Expr.shift k)
    (conjunctionRest left n) (conjunctionRest (left.shift k) n)
  inversion : Shifted k ts ts' (Expr.shift k) (inversion n) (inversion n)
  comparison : Shifted k ts ts' (Expr.shift k) (comparison n) (comparison n)
  comparisonLinks : ∀ acc, Shifted k ts ts' (Array.map (Link.shift k))
    (comparisonLinks acc n) (comparisonLinks (acc.map (Link.shift k)) n)
  operatorChain : ∀ level, Shifted k ts ts' (Expr.shift k) (operatorChain level n)
    (operatorChain level n)
  chainRest : ∀ level left, Shifted k ts ts' (Expr.shift k)
    (chainRest level left n) (chainRest level (left.shift k) n)
  operand : ∀ level, Shifted k ts ts' (Expr.shift k) (operand level n) (operand level n)
  factor : Shifted k ts ts' (Expr.shift k) (factor n) (factor n)
  power : Shifted k ts ts' (Expr.shift k) (power n) (power n)
  awaitPrimary : Shifted k ts ts' (Expr.shift k) (awaitPrimary n) (awaitPrimary n)
  primary : Shifted k ts ts' (Expr.shift k) (primary n) (primary n)
  trailers : ∀ value, Shifted k ts ts' (Expr.shift k)
    (trailers value n) (trailers (value.shift k) n)
  call : ∀ func, ShiftedPast k ts ts' (Expr.shift k) (call func n) (call (func.shift k) n)
  arguments : ∀ acc seenKeyword seenDoubleStar, ShiftedAfter k ts ts' (Array.map (Arg.shift k))
    (arguments acc seenKeyword seenDoubleStar n)
    (arguments (acc.map (Arg.shift k)) seenKeyword seenDoubleStar n)
  loneGenerator : ∀ elt isFirst, ShiftedAfter k ts ts' (Expr.shift k)
    (loneGenerator elt isFirst n) (loneGenerator (elt.shift k) isFirst n)
  subscript : ∀ value, Shifted k ts ts' (Expr.shift k)
    (subscript value n) (subscript (value.shift k) n)
  slices : Shifted k ts ts' (Expr.shift k) (slices n) (slices n)
  slicesRest : ∀ acc, Shifted k ts ts' (Array.map (Expr.shift k))
    (slicesRest acc n) (slicesRest (acc.map (Expr.shift k)) n)
  slice : Shifted k ts ts' (Expr.shift k) (slice n) (slice n)
  sliceTail : ∀ start lower, ShiftedPast k ts ts' (Expr.shift k)
    (sliceTail start lower n) (sliceTail (start.shift k) (lower.map (Expr.shift k)) n)
  bound : Shifted k ts ts' (Option.map (Expr.shift k)) (bound n) (bound n)
  atom : Shifted k ts ts' (Expr.shift k) (atom n) (atom n)
  strings : ∀ start parts bytes p, p < ts.tokens.size →
    (0 < p ∨ (∃ d, (ts.tokenAt p).kind = .string d) ∨ ∃ d, (ts.tokenAt p).kind = .fstringStart d) →
    Moves k ts ts' (fun a a' => a' = a.shift k) (strings start parts bytes n)
      (strings (start.shift k) (parts.map (Expr.shift k)) bytes n) p
  parenthesized : Shifted k ts ts' (Expr.shift k) (parenthesized n) (parenthesized n)
  parenContents : ∀ opening, Shifted k ts ts' (Expr.shift k)
    (parenContents opening n) (parenContents (opening.shift k) n)
  listForm : Shifted k ts ts' (Expr.shift k) (listForm n) (listForm n)
  listContents : ∀ opening, Shifted k ts ts' (Expr.shift k)
    (listContents opening n) (listContents (opening.shift k) n)
  braceForm : Shifted k ts ts' (Expr.shift k) (braceForm n) (braceForm n)
  braceContents : ∀ opening, Shifted k ts ts' (Expr.shift k)
    (braceContents opening n) (braceContents (opening.shift k) n)
  dictEntries : ∀ opening acc, Shifted k ts ts' (Expr.shift k)
    (dictEntries opening acc n) (dictEntries (opening.shift k) (acc.map (DictEntry.shift k)) n)
  entry : Shifted k ts ts' (DictEntry.shift k) (entry n) (entry n)
  moreElements : ∀ close acc, (∀ text, close ≠ .fstringEnd text) →
    Shifted k ts ts' (Array.map (Expr.shift k))
      (moreElements close acc n) (moreElements close (acc.map (Expr.shift k)) n)
  clauses : ∀ acc, Shifted k ts ts' (Array.map (Clause.shift k))
    (clauses acc n) (clauses (acc.map (Clause.shift k)) n)
  clause : Shifted k ts ts' (Clause.shift k) (clause n) (clause n)
  conditions : ∀ acc, Shifted k ts ts' (Array.map (Expr.shift k))
    (conditions acc n) (conditions (acc.map (Expr.shift k)) n)
  forTarget : Shifted k ts ts' (Expr.shift k) (forTarget n) (forTarget n)
  forTargetRest : ∀ acc, Shifted k ts ts' (Array.map (Expr.shift k))
    (forTargetRest acc n) (forTargetRest (acc.map (Expr.shift k)) n)
  forTargetItem : Shifted k ts ts' (Expr.shift k) (forTargetItem n) (forTargetItem n)
  fstring : Shifted k ts ts' (Expr.shift k) (fstring n) (fstring n)
  fstringParts : ∀ d start acc, Shifted k ts ts' (Expr.shift k)
    (fstringParts d start acc n) (fstringParts d (start.shift k) (acc.map (FPart.shift k)) n)
  field : Shifted k ts ts' (Field.shift k) (field n) (field n)
  fieldContents : Shifted k ts ts' (Field.shift k) (fieldContents n) (fieldContents n)
  formatSpec : ∀ acc, Shifted k ts ts' (Array.map (FPart.shift k))
    (formatSpec acc n) (formatSpec (acc.map (FPart.shift k)) n)

/-! ## Loops that take a comma first -/

section Past

variable {ts : TokenStream} (hts : ts.Ordered) {α : Type} {q r n : Nat} {a : α} {items : Array Expr}
include hts

omit hts in
lemma outOfFuel_ne_ok (ts : TokenStream) (q : Nat) (x : α × Nat) :
    (outOfFuel : ParseM α) ts q ≠ .ok x := by
  simp [outOfFuel]

/-- A step that takes the comma standing at `q`, then goes on steadily, ends past it. -/
lemma lt_of_eat_comma {g : Bool → ParseM α}
    (hk : (ts.tokenAt q).kind = .punct .comma) (hg : Steady ts (g true))
    (h : (eat (.punct .comma) >>= g) ts q = .ok (a, r)) : q < r := by
  have hpast := hts.past_next (show (ts.tokenAt q).kind ≠ .eof by simp [hk])
  have heat : eat (.punct .comma) ts q = .ok (true, ts.next q) := by simp [run_eat, hk]
  rw [bind_of_ok ts q g heat] at h
  exact lt_of_lt_of_le hpast.1 ((hg _ hpast.2).1 a r h).1

/-- The items after a comma end past it. -/
lemma sequenceRest_past {item : ListItem} {acc : Array Expr}
    (hk : (ts.tokenAt q).kind = .punct .comma) (h : sequenceRest item acc n ts q = .ok (items, r)) :
    q < r := by
  cases n with
  | zero => exact absurd h (outOfFuel_ne_ok ts q _)
  | succ n =>
    rw [sequenceRest.eq_2] at h
    have hst := steadies hts n
    exact lt_of_eat_comma hts hk (Steady.ite (steady_currentKind.bind fun _ =>
      Steady.ite ((hst.element item).bind fun _ => hst.sequenceRest item _) (steady_pure _))
      (steady_pure _)) h

/-- The slices after a comma end past it. -/
lemma slicesRest_past {acc : Array Expr} (hk : (ts.tokenAt q).kind = .punct .comma)
    (h : slicesRest acc n ts q = .ok (items, r)) : q < r := by
  cases n with
  | zero => exact absurd h (outOfFuel_ne_ok ts q _)
  | succ n =>
    rw [slicesRest.eq_2] at h
    have hst := steadies hts n
    exact lt_of_eat_comma hts hk (Steady.ite ((steady_check _).bind fun _ =>
      steady_currentKind.bind fun _ => Steady.ite (hst.slice.bind fun _ => hst.slicesRest _)
        (steady_pure _)) (steady_pure _)) h

/-- The targets after a comma end past it. -/
lemma forTargetRest_past {acc : Array Expr} (hk : (ts.tokenAt q).kind = .punct .comma)
    (h : forTargetRest acc n ts q = .ok (items, r)) : q < r := by
  cases n with
  | zero => exact absurd h (outOfFuel_ne_ok ts q _)
  | succ n =>
    rw [forTargetRest.eq_2] at h
    have hst := steadies hts n
    exact lt_of_eat_comma hts hk ((steady_check _).bind fun _ =>
      Steady.ite (hst.forTargetItem.bind fun _ => hst.forTargetRest _) (steady_pure _)) h

end Past

variable {k : Nat} {ts ts' : TokenStream} (hM : ts.Moved k ts')
include hM

section

variable {α α' : Type} {F : α → α'}

lemma shifted_outOfFuel : Shifted k ts ts' F outOfFuel outOfFuel := fun _ _ =>
  moves_failUnexpected hM

lemma shiftedAfter_outOfFuel : ShiftedAfter k ts ts' F outOfFuel outOfFuel := fun _ _ _ =>
  moves_failUnexpected hM

lemma shiftedPast_outOfFuel : ShiftedPast k ts ts' F outOfFuel outOfFuel := fun _ _ _ =>
  moves_failUnexpected hM

end

/-- Without fuel every production fails at its token, on both streams alike. -/
lemma shifts_zero : Shifts k ts ts' 0 where
  fieldExpression := shifted_outOfFuel hM
  sequence _ := shifted_outOfFuel hM
  sequenceRest _ _ := shifted_outOfFuel hM
  element _ := shifted_outOfFuel hM
  starred := shifted_outOfFuel hM
  namedExpression := shifted_outOfFuel hM
  expression := shifted_outOfFuel hM
  yieldExpr := shifted_outOfFuel hM
  lambda := shifted_outOfFuel hM
  lambdaParams _ := shifted_outOfFuel hM
  lambdaParam := shifted_outOfFuel hM
  disjunction := shifted_outOfFuel hM
  disjunctionRest _ := shifted_outOfFuel hM
  conjunction := shifted_outOfFuel hM
  conjunctionRest _ := shifted_outOfFuel hM
  inversion := shifted_outOfFuel hM
  comparison := shifted_outOfFuel hM
  comparisonLinks _ := shifted_outOfFuel hM
  operatorChain _ := shifted_outOfFuel hM
  chainRest _ _ := shifted_outOfFuel hM
  operand _ := shifted_outOfFuel hM
  factor := shifted_outOfFuel hM
  power := shifted_outOfFuel hM
  awaitPrimary := shifted_outOfFuel hM
  primary := shifted_outOfFuel hM
  trailers _ := shifted_outOfFuel hM
  call _ := shiftedPast_outOfFuel hM
  arguments _ _ _ := shiftedAfter_outOfFuel hM
  loneGenerator _ _ := shiftedAfter_outOfFuel hM
  subscript _ := shifted_outOfFuel hM
  slices := shifted_outOfFuel hM
  slicesRest _ := shifted_outOfFuel hM
  slice := shifted_outOfFuel hM
  sliceTail _ _ := shiftedPast_outOfFuel hM
  bound := shifted_outOfFuel hM
  atom := shifted_outOfFuel hM
  strings _ _ _ _ _ _ := moves_failUnexpected hM
  parenthesized := shifted_outOfFuel hM
  parenContents _ := shifted_outOfFuel hM
  listForm := shifted_outOfFuel hM
  listContents _ := shifted_outOfFuel hM
  braceForm := shifted_outOfFuel hM
  braceContents _ := shifted_outOfFuel hM
  dictEntries _ _ := shifted_outOfFuel hM
  entry := shifted_outOfFuel hM
  moreElements _ _ _ := shifted_outOfFuel hM
  clauses _ := shifted_outOfFuel hM
  clause := shifted_outOfFuel hM
  conditions _ := shifted_outOfFuel hM
  forTarget := shifted_outOfFuel hM
  forTargetRest _ := shifted_outOfFuel hM
  forTargetItem := shifted_outOfFuel hM
  fstring := shifted_outOfFuel hM
  fstringParts _ _ _ := shifted_outOfFuel hM
  field := shifted_outOfFuel hM
  fieldContents := shifted_outOfFuel hM
  formatSpec _ := shifted_outOfFuel hM

/-! ## The steps that take no fuel -/

section Steps

variable {β β' : Type} {S : β → β' → Prop} {p : Nat}

omit hM in
/-- A starred expression is refused on both streams alike, at its moved span. -/
lemma moves_refuseStarred_bind (e : Expr) {g : Unit → ParseM β} {g' : Unit → ParseM β'}
    (h : e.isStarred = false → Moves k ts ts' S (g ()) (g' ()) p) :
    Moves k ts ts' S (refuseStarred e >>= g) (refuseStarred (e.shift k) >>= g') p := by
  unfold refuseStarred
  rw [Expr.isStarred_shift]
  cases he : e.isStarred
  · exact Moves.of_ok_bind rfl rfl (h he)
  · exact moves_error rfl (by simp [SyntaxError.shift, Except.bind])

omit hM in
/-- A starred element of a comprehension is refused on both streams alike. -/
lemma moves_refuseUnpacking_bind (e : Expr) {g : Unit → ParseM β} {g' : Unit → ParseM β'}
    (h : e.isStarred = false → Moves k ts ts' S (g ()) (g' ()) p) :
    Moves k ts ts' S (refuseUnpacking e >>= g) (refuseUnpacking (e.shift k) >>= g') p := by
  unfold refuseUnpacking
  rw [Expr.isStarred_shift]
  cases he : e.isStarred
  · exact Moves.of_ok_bind rfl rfl (h he)
  · exact moves_error rfl (by simp [SyntaxError.shift, Except.bind])

lemma moves_atClause_bind {g : Bool → ParseM β} {g' : Bool → ParseM β'}
    (h : Moves k ts ts' S (g ([TokenKind.keyword .for, .keyword .async].contains (ts.tokenAt p).kind))
      (g' ([TokenKind.keyword .for, .keyword .async].contains (ts.tokenAt p).kind)) p) :
    Moves k ts ts' S (atClause >>= g) (atClause >>= g') p :=
  moves_checkAny_bind hM (by simp) h

/-- A comparison operator is read alike on both streams: the kinds it reads carry no span. -/
lemma moves_comparisonOp (hp : p < ts.tokens.size) :
    Moves k ts ts' (fun a a' => a' = a) comparisonOp? comparisonOp? p := by
  have hp₁ := TokenStream.next_lt hp
  have hp₂ := TokenStream.next_lt hp₁
  unfold comparisonOp?
  refine moves_currentKind_bind hM ?_
  rcases TokenKind.shift_cases k (ts.tokenAt p).kind with hs | ⟨text, ht⟩
  · rw [hs]
    split <;> dsimp only
    iterate 7 exact moves_discard_advance_bind hM (moves_pure hp₁ rfl)
    refine moves_currentKind_bind hM (moves_peekKind_bind hM ?_)
    rw [hs]
    rcases TokenKind.shift_cases k (ts.tokenAt (p + 1)).kind with hs₁ | ⟨text₁, ht₁⟩
    · rw [hs₁]
      split
      · exact moves_discard_advance_bind hM (moves_discard_advance_bind hM (moves_pure hp₂ rfl))
      · exact moves_discard_advance_bind hM (moves_discard_advance_bind hM (moves_pure hp₂ rfl))
      · exact moves_discard_advance_bind hM (moves_pure hp₁ rfl)
      · exact moves_pure hp rfl
    · rw [ht₁, TokenKind.shift_fstringEnd]
      -- an f-string end completes neither `not in` nor `is not`: only `is` is read
      by_cases his : (ts.tokenAt p).kind = .keyword .is
      · rw [his]
        exact moves_discard_advance_bind hM (moves_pure hp₁ rfl)
      · split
        · rename_i hin
          cases hin
        · rename_i hnot
          cases hnot
        · exact absurd ‹(ts.tokenAt p).kind = .keyword .is› his
        · split
          · rename_i hin
            cases hin
          · rename_i hnot
            cases hnot
          · exact absurd ‹(ts.tokenAt p).kind = .keyword .is› his
          · exact moves_pure hp rfl
  · rw [ht, TokenKind.shift_fstringEnd]
    dsimp only
    refine moves_currentKind_bind hM (moves_peekKind_bind hM ?_)
    rw [ht, TokenKind.shift_fstringEnd]
    exact moves_pure hp rfl

/-- The conversion of a field is read alike on both streams: its letter from the moved text, and
the test that it follows the `!` directly on moved spans. -/
lemma moves_conversion (hp : p < ts.tokens.size) :
    Moves k ts ts' (fun a a' => a' = a) conversion conversion p := by
  have hq := TokenStream.next_lt hp
  unfold conversion
  refine moves_advance_bind hM (moves_current_bind ?_)
  rw [hM.kind, hM.span, hM.span, TokenKind.shift_beq_punct, TokenKind.shift_beq_punct,
    TokenKind.shift_bne_name]
  refine Moves.ite (fun _ => moves_failAt) fun _ => ?_
  have hadj : ((((ts.tokenAt (ts.next p)).span.shift k).start !=
      ((ts.tokenAt p).span.shift k).stop)) = ((ts.tokenAt (ts.next p)).span.start !=
        (ts.tokenAt p).span.stop) := by
    rw [Bool.eq_iff_iff]
    simp
  rw [hadj]
  refine Moves.ite (fun _ => moves_failAt) fun _ => ?_
  refine Moves.of_ok_bind (run_read ts _) (run_read ts' _) ?_
  rw [hM.src.slice]
  dsimp only
  split
  · exact moves_discard_advance_bind hM (moves_pure (TokenStream.next_lt hq) rfl)
  · exact moves_failAt

end Steps

/-! ## Expression lists and expressions -/

section Step

variable (hts : ts.Ordered) {n : Nat} (ih : Shifts k ts ts' n)
include ih

lemma fieldExpression_shifts :
    Shifted k ts ts' (Expr.shift k) (fieldExpression (n + 1)) (fieldExpression (n + 1)) := by
  intro p hp
  rw [fieldExpression.eq_2]
  exact moves_check_bind hM (by simp)
    (Moves.ite (fun _ => ih.yieldExpr p hp) fun _ => ih.sequence _ p hp)

include hts in
lemma sequence_shifts :
    ∀ item, Shifted k ts ts' (Expr.shift k) (sequence item (n + 1)) (sequence item (n + 1)) := by
  intro item p hp
  rw [sequence.eq_2]
  refine (ih.element item p hp).bind_map fun first q _ hq => moves_check_bind hM (by simp) ?_
  refine Moves.ite (fun _ => moves_refuseStarred_bind first fun _ => moves_pure hq rfl)
    fun hc => ?_
  have hcomma : (ts.tokenAt q).kind = .punct .comma := by simpa using hc
  have hrest := ih.sequenceRest item #[first] q hq
  rw [Array.map_singleton] at hrest
  refine hrest.bind_map fun items r hitems hr => ?_
  have hpos : 0 < r := Nat.lt_of_le_of_lt (Nat.zero_le q) (sequenceRest_past hts hcomma hitems)
  exact moves_previousSpan_bind hM hpos hr
    (moves_storeList_bind hM (by simp) fun _ => moves_pure hr (by simp))

lemma sequenceRest_shifts : ∀ item acc, Shifted k ts ts' (Array.map (Expr.shift k))
    (sequenceRest item acc (n + 1)) (sequenceRest item (acc.map (Expr.shift k)) (n + 1)) := by
  intro item acc p hp
  rw [sequenceRest.eq_2, sequenceRest.eq_2]
  refine moves_eat_bind hM (by simp) (fun _ => Moves.ite_pos rfl ?_)
    (fun _ => Moves.ite_neg (by decide) (moves_pure hp rfl))
  have hq := TokenStream.next_lt hp
  refine moves_currentKind_bind hM ?_
  rw [TokenKind.canStartExpr_shift]
  refine Moves.ite (fun _ => ?_) fun _ => moves_pure hq rfl
  refine (ih.element item _ hq).bind_map fun e r _ hr => ?_
  rw [← Array.map_push]
  exact ih.sequenceRest item _ r hr

lemma element_shifts :
    ∀ item, Shifted k ts ts' (Expr.shift k) (element item (n + 1)) (element item (n + 1)) := by
  intro item p hp
  cases item with
  | star =>
    rw [element.eq_2]
    exact moves_check_bind hM (by simp)
      (Moves.ite (fun _ => ih.starred p hp) fun _ => ih.expression p hp)
  | starNamed =>
    rw [element.eq_3]
    exact moves_check_bind hM (by simp)
      (Moves.ite (fun _ => ih.starred p hp) fun _ => ih.namedExpression p hp)

lemma starred_shifts : Shifted k ts ts' (Expr.shift k) (starred (n + 1)) (starred (n + 1)) := by
  intro p hp
  rw [starred.eq_2]
  refine moves_advance_bind_moved hM ?_
  exact (ih.operatorChain _ _ (TokenStream.next_lt hp)).bind_map fun _ r _ hr =>
    moves_pure hr (by simp)

lemma namedExpression_shifts :
    Shifted k ts ts' (Expr.shift k) (namedExpression (n + 1)) (namedExpression (n + 1)) := by
  intro p hp
  rw [namedExpression.eq_2]
  refine moves_check_bind hM (by simp) (moves_peekKind_bind hM ?_)
  rw [TokenKind.shift_beq_punct]
  refine Moves.ite (fun _ => ?_) fun _ => ?_
  · have hq := TokenStream.next_lt hp
    refine moves_advance_bind_moved hM (moves_discard_advance_bind hM ?_)
    exact (ih.expression _ (TokenStream.next_lt hq)).bind_map fun _ r _ hr =>
      moves_pure hr (by simp)
  · refine (ih.expression p hp).bind_map fun e q _ hq => moves_check_bind hM (by simp) ?_
    refine Moves.ite (fun _ => ?_) fun _ => moves_pure hq rfl
    rw [Expr.span_shift]
    exact moves_failAt

lemma expression_shifts :
    Shifted k ts ts' (Expr.shift k) (expression (n + 1)) (expression (n + 1)) := by
  intro p hp
  rw [expression.eq_2]
  refine moves_check_bind hM (by simp) (Moves.ite (fun _ => ih.lambda p hp) fun _ => ?_)
  refine (ih.disjunction p hp).bind_map fun body q _ hq => ?_
  refine moves_eat_bind hM (by simp) (fun _ => Moves.ite_neg (by decide) ?_)
    (fun _ => Moves.ite_pos rfl (moves_pure hq rfl))
  refine (ih.disjunction _ (TokenStream.next_lt hq)).bind_map fun test r _ hr =>
    moves_check_bind hM (by simp) ?_
  refine Moves.ite (fun _ => moves_failUnexpected hM) fun _ => moves_discard_advance_bind hM ?_
  exact (ih.expression _ (TokenStream.next_lt hr)).bind_map fun _ s _ hs =>
    moves_pure hs (by simp)

lemma yieldExpr_shifts : Shifted k ts ts' (Expr.shift k) (yieldExpr (n + 1)) (yieldExpr (n + 1)) := by
  intro p hp
  have hq := TokenStream.next_lt hp
  rw [yieldExpr.eq_2]
  refine moves_advance_bind_moved hM (moves_eat_bind hM (by simp) (fun _ => Moves.ite_pos rfl ?_)
    (fun _ => Moves.ite_neg (by decide) ?_))
  · exact (ih.expression _ (TokenStream.next_lt hq)).bind_map fun _ r _ hr =>
      moves_pure hr (by simp)
  · refine moves_currentKind_bind hM ?_
    rw [TokenKind.canStartExpr_shift]
    refine Moves.ite (fun _ => ?_) fun _ => moves_pure hq (by simp)
    exact (ih.sequence _ _ hq).bind_map fun _ r _ hr => moves_pure hr (by simp)

lemma lambda_shifts : Shifted k ts ts' (Expr.shift k) (lambda (n + 1)) (lambda (n + 1)) := by
  intro p hp
  have hq := TokenStream.next_lt hp
  rw [lambda.eq_2]
  refine moves_advance_bind_moved hM ?_
  have hparams := ih.lambdaParams #[] _ hq
  rw [Array.map_empty] at hparams
  refine hparams.bind_map fun _ r _ hr => ?_
  refine ((moves_expect hM (by simp) hr).withContext.discard).bind fun _ _ s _ _ hs => ?_
  exact (ih.expression _ hs).bind_map fun _ t _ ht =>
    moves_storeList_bind hM (by simp) fun _ => moves_pure ht (by simp)

lemma lambdaParams_shifts : ∀ acc, Shifted k ts ts' (Array.map (Param.shift k))
    (lambdaParams acc (n + 1)) (lambdaParams (acc.map (Param.shift k)) (n + 1)) := by
  intro acc p hp
  rw [lambdaParams.eq_2, lambdaParams.eq_2]
  refine moves_check_bind hM (by simp) (Moves.ite (fun _ => moves_pure hp rfl) fun _ => ?_)
  refine (ih.lambdaParam p hp).withContext_bind_map fun prm q _ hq => ?_
  rw [← Array.map_push]
  exact moves_eat_bind hM (by simp)
    (fun _ => Moves.ite_pos rfl (ih.lambdaParams _ _ (TokenStream.next_lt hq)))
    (fun _ => Moves.ite_neg (by decide) (moves_pure hq rfl))

lemma lambdaParam_shifts :
    Shifted k ts ts' (Param.shift k) (lambdaParam (n + 1)) (lambdaParam (n + 1)) := by
  intro p hp
  have hq := TokenStream.next_lt hp
  rw [lambdaParam.eq_2]
  refine moves_current_bind ?_
  rw [hM.kind, hM.span]
  rcases TokenKind.shift_cases k (ts.tokenAt p).kind with hs | ⟨text, ht⟩
  · rw [hs]
    split
    · exact moves_discard_advance_bind hM (moves_pure hq (by simp))
    · refine moves_discard_advance_bind hM (moves_check_bind hM (by simp) ?_)
      refine Moves.ite (fun _ => moves_advance_bind_moved hM ?_) fun _ => moves_pure hq (by simp)
      exact moves_pure (TokenStream.next_lt hq) (by simp)
    · refine moves_discard_advance_bind hM (moves_expect_bind hM (by simp) fun _ => ?_)
      rw [hM.span]
      exact moves_pure (TokenStream.next_lt hq) (by simp)
    · refine moves_discard_advance_bind hM (moves_eat_bind hM (by simp) (fun _ => ?_) fun _ => ?_)
      · refine Moves.ite_pos rfl ?_
        exact (ih.expression _ (TokenStream.next_lt hq)).bind_map fun _ r _ hr =>
          moves_pure hr (by simp)
      · exact Moves.ite_neg (by decide) (moves_pure hq (by simp))
    · exact moves_failUnexpected hM
  · rw [ht, TokenKind.shift_fstringEnd]
    exact moves_failUnexpected hM

/-! ## The Boolean operators and comparisons -/

omit hM in
lemma disjunction_shifts :
    Shifted k ts ts' (Expr.shift k) (disjunction (n + 1)) (disjunction (n + 1)) := by
  intro p hp
  rw [disjunction.eq_2]
  exact (ih.conjunction p hp).bind_map fun left q _ hq => ih.disjunctionRest left q hq

lemma disjunctionRest_shifts : ∀ left, Shifted k ts ts' (Expr.shift k)
    (disjunctionRest left (n + 1)) (disjunctionRest (left.shift k) (n + 1)) := by
  intro left p hp
  rw [disjunctionRest.eq_2, disjunctionRest.eq_2]
  refine moves_eat_bind hM (by simp) (fun _ => Moves.ite_pos rfl ?_)
    (fun _ => Moves.ite_neg (by decide) (moves_pure hp rfl))
  refine (ih.conjunction _ (TokenStream.next_lt hp)).bind_map fun right q _ hq => ?_
  have h := ih.disjunctionRest (.boolOp .or left right (left.span.merge right.span)) q hq
  simpa using h

omit hM in
lemma conjunction_shifts :
    Shifted k ts ts' (Expr.shift k) (conjunction (n + 1)) (conjunction (n + 1)) := by
  intro p hp
  rw [conjunction.eq_2]
  exact (ih.inversion p hp).bind_map fun left q _ hq => ih.conjunctionRest left q hq

lemma conjunctionRest_shifts : ∀ left, Shifted k ts ts' (Expr.shift k)
    (conjunctionRest left (n + 1)) (conjunctionRest (left.shift k) (n + 1)) := by
  intro left p hp
  rw [conjunctionRest.eq_2, conjunctionRest.eq_2]
  refine moves_eat_bind hM (by simp) (fun _ => Moves.ite_pos rfl ?_)
    (fun _ => Moves.ite_neg (by decide) (moves_pure hp rfl))
  refine (ih.inversion _ (TokenStream.next_lt hp)).bind_map fun right q _ hq => ?_
  have h := ih.conjunctionRest (.boolOp .and left right (left.span.merge right.span)) q hq
  simpa using h

lemma inversion_shifts : Shifted k ts ts' (Expr.shift k) (inversion (n + 1)) (inversion (n + 1)) := by
  intro p hp
  rw [inversion.eq_2]
  refine moves_check_bind hM (by simp) (Moves.ite (fun _ => ?_) fun _ => ih.comparison p hp)
  refine moves_advance_bind_moved hM ?_
  exact (ih.inversion _ (TokenStream.next_lt hp)).bind_map fun _ q _ hq => moves_pure hq (by simp)

lemma comparison_shifts :
    Shifted k ts ts' (Expr.shift k) (comparison (n + 1)) (comparison (n + 1)) := by
  intro p hp
  rw [comparison.eq_2]
  refine (ih.operatorChain _ p hp).bind_map fun left q _ hq => ?_
  have hlinks := ih.comparisonLinks #[] q hq
  rw [Array.map_empty] at hlinks
  refine hlinks.bind_map fun links r _ hr => ?_
  rw [Array.back?_map]
  cases hlast : links.back? with
  | none => exact moves_pure hr rfl
  | some link =>
    cases link
    exact moves_storeList_bind hM (by simp) fun _ => moves_pure hr (by simp)

lemma comparisonLinks_shifts : ∀ acc, Shifted k ts ts' (Array.map (Link.shift k))
    (comparisonLinks acc (n + 1)) (comparisonLinks (acc.map (Link.shift k)) (n + 1)) := by
  intro acc p hp
  rw [comparisonLinks.eq_2, comparisonLinks.eq_2]
  refine (moves_comparisonOp hM hp).bind_map (F := id) fun op q _ hq => ?_
  cases op with
  | none => exact moves_pure hq rfl
  | some op =>
    refine (ih.operatorChain _ q hq).bind_map fun right r _ hr => ?_
    rw [← Link.shift_mk, ← Array.map_push]
    exact ih.comparisonLinks _ r hr

/-! ## The binary operators, the prefix operators and powers -/

omit hM in
lemma operatorChain_shifts : ∀ level,
    Shifted k ts ts' (Expr.shift k) (operatorChain level (n + 1)) (operatorChain level (n + 1)) := by
  intro level p hp
  rw [operatorChain.eq_2]
  exact (ih.operand level p hp).bind_map fun left q _ hq => ih.chainRest level left q hq

lemma chainRest_shifts : ∀ level left, Shifted k ts ts' (Expr.shift k)
    (chainRest level left (n + 1)) (chainRest level (left.shift k) (n + 1)) := by
  intro level left p hp
  rw [chainRest.eq_2, chainRest.eq_2]
  refine moves_currentKind_bind hM ?_
  rw [TokenKind.operator?_shift]
  split
  · refine moves_discard_advance_bind hM ?_
    refine (ih.operand level _ (TokenStream.next_lt hp)).bind_map fun right q _ hq => ?_
    have h := ih.chainRest level (.binary ‹_› left right (left.span.merge right.span)) q hq
    simpa using h
  · exact moves_pure hp rfl

omit hM in
lemma operand_shifts :
    ∀ level, Shifted k ts ts' (Expr.shift k) (operand level (n + 1)) (operand level (n + 1)) := by
  intro level p hp
  rw [operand.eq_2]
  split
  · exact ih.operatorChain _ p hp
  · exact ih.factor p hp

lemma factor_shifts : Shifted k ts ts' (Expr.shift k) (factor (n + 1)) (factor (n + 1)) := by
  intro p hp
  rw [factor.eq_2]
  refine moves_currentKind_bind hM ?_
  rw [TokenKind.unaryOperator?_shift]
  split
  · refine moves_advance_bind_moved hM ?_
    exact (ih.factor _ (TokenStream.next_lt hp)).bind_map fun _ q _ hq => moves_pure hq (by simp)
  · exact ih.power p hp

lemma power_shifts : Shifted k ts ts' (Expr.shift k) (power (n + 1)) (power (n + 1)) := by
  intro p hp
  rw [power.eq_2]
  refine (ih.awaitPrimary p hp).bind_map fun base q _ hq => ?_
  refine moves_eat_bind hM (by simp) (fun _ => Moves.ite_pos rfl ?_)
    (fun _ => Moves.ite_neg (by decide) (moves_pure hq rfl))
  exact (ih.factor _ (TokenStream.next_lt hq)).bind_map fun _ r _ hr => moves_pure hr (by simp)

lemma awaitPrimary_shifts :
    Shifted k ts ts' (Expr.shift k) (awaitPrimary (n + 1)) (awaitPrimary (n + 1)) := by
  intro p hp
  rw [awaitPrimary.eq_2]
  refine moves_check_bind hM (by simp) (Moves.ite (fun _ => ?_) fun _ => ih.primary p hp)
  refine moves_advance_bind_moved hM ?_
  exact (ih.primary _ (TokenStream.next_lt hp)).bind_map fun _ q _ hq => moves_pure hq (by simp)

omit hM in
lemma primary_shifts : Shifted k ts ts' (Expr.shift k) (primary (n + 1)) (primary (n + 1)) := by
  intro p hp
  rw [primary.eq_2]
  exact (ih.atom p hp).bind_map fun value q _ hq => ih.trailers value q hq

end Step

end Grammar

end ExprFront
