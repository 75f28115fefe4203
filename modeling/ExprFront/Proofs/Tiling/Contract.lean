import Mathlib
import ExprFront.Proofs.Spans.Contract
import ExprFront.Proofs.Tiling.Joined

/-!
# The parts of an f-string tile its body

An f-string's parts lie end to end (`PartsTile`): from the end of its opener to the start of its
closing quotes, each part stops where the next starts. A piece of text is the text of one text
token or the text an end token carries, never empty, and never next to another piece of text; a
field runs from its `{` to the `}` that matches it, and the parts of its format spec tile in turn
from just after its top-level `:` to that `}` (`FieldTiles`). `Expr.Tiled` says this of every
f-string of a tree.

The grammar gives tiled trees, production by production, as the contracts of `Grammar.Tiles`
say: each production takes a bracketed stretch of tokens (`TokenStream.Took`) and gives tiled
expressions. The productions of an f-string's text keep what the text read so far satisfies:
`TokenStream.LiteralAt` for the parts of a literal, `TokenStream.SpecAt` for those of a format
spec.
-/

namespace ExprFront

/-- The span of a field, from its `{` to its `}`. -/
def Field.span : Field → Span
  | .mk _ _ _ _ sp => sp

@[simp] lemma Field.span_mk (e : Expr) (debug : Option Span) (conv : Option Conversion)
    (spec : Option (List FPart)) (sp : Span) : (Field.mk e debug conv spec sp).span = sp := rfl

namespace TokenStream

/-- A piece of f-string text: a non-empty span that a text token covers, or the text an end
token carries. -/
def TextPiece (ts : TokenStream) (sp : Span) : Prop :=
  sp.start < sp.stop ∧ ∃ k < ts.tokens.size,
    (ts.tokenAt k).kind = .fstringMiddle ∧ (ts.tokenAt k).span = sp ∨
      (ts.tokenAt k).kind = .fstringEnd sp

/-- The span `sp` runs from the `{` at position `a` to the `}` at position `b` that matches it. -/
structure Braced (ts : TokenStream) (a : Nat) (sp : Span) (b : Nat) : Prop where
  paired : ts.Matches a b
  lt_size : b < ts.tokens.size
  opening : (ts.tokenAt a).kind = .punct .lbrace
  closing : (ts.tokenAt b).kind = .punct .rbrace
  start_eq : sp.start = ts.startAt a
  stop_eq : sp.stop = (ts.tokenAt b).span.stop

end TokenStream

mutual

/-- `PartsTile ts lo parts hi`: the parts lie end to end from the offset `lo` to the offset `hi`;
each piece of text is a `TextPiece` with no piece of text right after it, and each field tiles. -/
inductive PartsTile (ts : TokenStream) : Nat → List FPart → Nat → Prop
  | nil (lo : Nat) : PartsTile ts lo [] lo
  | literal {sp : Span} {rest : List FPart} {hi : Nat} (piece : ts.TextPiece sp)
      (apart : ∀ sp', rest.head? ≠ some (.literal sp')) (tail : PartsTile ts sp.stop rest hi) :
      PartsTile ts sp.start (.literal sp :: rest) hi
  | field {a b : Nat} {f : Field} {rest : List FPart} {hi : Nat} (tiles : FieldTiles ts a f b)
      (tail : PartsTile ts f.span.stop rest hi) : PartsTile ts f.span.start (.field f :: rest) hi

/-- `FieldTiles ts a f b`: the field `f` runs from the `{` at position `a` to the `}` at position
`b` that matches it, and the parts of its format spec tile from just after the `:` at position
`c`, outside every bracket of the field, to the start of that `}`. -/
inductive FieldTiles (ts : TokenStream) : Nat → Field → Nat → Prop
  | plain {a b : Nat} {e : Expr} {debug : Option Span} {conv : Option Conversion} {sp : Span}
      (braced : ts.Braced a sp b) : FieldTiles ts a (.mk e debug conv none sp) b
  | spec {a b c : Nat} {e : Expr} {debug : Option Span} {conv : Option Conversion}
      {parts : List FPart} {sp : Span} (braced : ts.Braced a sp b) (colon_lt : c < b)
      (colon : (ts.tokenAt c).kind = .punct .colon) (top : ts.Balanced (a + 1) c)
      (tiles : PartsTile ts (ts.tokenAt c).span.stop parts (ts.startAt b)) :
      FieldTiles ts a (.mk e debug conv (some parts) sp) b

end

/-- The parts of an f-string tile its body, from the end of its opener to the start of its
closing quotes; a node of another kind asks nothing. -/
def Expr.BodyTiled (ts : TokenStream) : Expr → Prop
  | .fstring d parts sp => PartsTile ts (sp.start + d.openLength) parts (sp.stop - d.closeLength)
  | _ => True

/-- Every f-string of a tree has its parts tile its body. -/
inductive Expr.Tiled (ts : TokenStream) : Expr → Prop
  | intro {e : Expr} (body : e.BodyTiled ts) (kids : ∀ c ∈ e.children, c.Tiled ts) : e.Tiled ts

namespace Expr

variable {ts : TokenStream} {e d : Expr}

lemma Tiled.kids (h : e.Tiled ts) : ∀ c ∈ e.children, c.Tiled ts := by
  cases h with
  | intro _ hkids => exact hkids

/-- **Every f-string below a tiled tree has its parts tile its body.** -/
lemma Tiled.reachable (h : e.Tiled ts) (hd : d.Below e) : d.BodyTiled ts := by
  induction hd with
  | refl => cases h with
    | intro hbody _ => exact hbody
  | child hc _ ih => exact ih (h.kids _ hc)

end Expr

/-- A field's span covers its braces, so it is not empty. -/
lemma TokenStream.Braced.lt {ts : TokenStream} {a b : Nat} {sp : Span} (hts : ts.Ordered)
    (h : ts.Braced a sp b) : sp.start < sp.stop := by
  have hab := h.paired.1
  have h₁ := hts.solid_at (show a < ts.tokens.size by have := h.lt_size; omega)
    (by simp [h.opening])
  have h₂ := hts.stop_le_start hab h.lt_size
  have h₃ := hts.wf_at h.lt_size
  unfold Span.WF at h₃
  rw [h.start_eq, h.stop_eq]
  unfold TokenStream.startAt
  omega

/-- A field tiles between braces that pair up. -/
lemma FieldTiles.braced {ts : TokenStream} {a b : Nat} {f : Field} (h : FieldTiles ts a f b) :
    ts.Braced a f.span b := by
  cases h with
  | plain braced => exact braced
  | spec braced => exact braced

/-- The expressions of parts and one more: those of the parts, then those of the new part. -/
lemma FPart.tiled_append {ts : TokenStream} {acc : List FPart} {p : FPart}
    (h : ∀ x ∈ FPart.listExprs acc, x.Tiled ts) (hp : ∀ x ∈ p.exprs, x.Tiled ts) :
    ∀ x ∈ FPart.listExprs (acc ++ [p]), x.Tiled ts := by
  intro x hx
  simp only [FPart.listExprs_append, FPart.listExprs_cons, FPart.listExprs_nil, List.append_nil,
    List.mem_append] at hx
  rcases hx with hx | hx
  · exact h x hx
  · exact hp x hx

namespace PartsTile

variable {ts : TokenStream}

/-- One piece of text, from where it starts to where it stops. -/
lemma piece {sp : Span} {lo hi : Nat} (h : ts.TextPiece sp) (hlo : sp.start = lo)
    (hhi : sp.stop = hi) : PartsTile ts lo [.literal sp] hi := by
  subst hlo hhi
  exact .literal h (by simp) (.nil _)

/-- One field, from its `{` to its `}`. -/
lemma single_field {a b lo hi : Nat} {f : Field} (h : FieldTiles ts a f b)
    (hlo : f.span.start = lo) (hhi : f.span.stop = hi) : PartsTile ts lo [.field f] hi := by
  subst hlo hhi
  exact .field h (.nil _)

/-- One more part after parts that tile: it starts where they stop, and no two pieces of text
meet there. -/
lemma snoc {mid hi : Nat} {p : FPart} (hp : PartsTile ts mid [p] hi) :
    ∀ {lo : Nat} {parts : List FPart}, PartsTile ts lo parts mid →
      (∀ sp sp', parts.getLast? = some (.literal sp) → p ≠ .literal sp') →
      PartsTile ts lo (parts ++ [p]) hi
  | _, [], h, _ => by
    cases h
    simpa using hp
  | _, .literal sp :: rest, h, hapart => by
    cases h with
    | literal piece apart tail =>
      refine .literal piece ?_ (snoc hp tail fun s s' hs => hapart s s' ?_)
      · intro sp' hhead
        rcases rest with _ | ⟨q, rest⟩
        · exact hapart sp sp' rfl (by simpa using hhead)
        · exact apart sp' (by simpa using hhead)
      · rcases rest with _ | ⟨q, rest⟩
        · simp at hs
        · simpa [List.getLast?_cons_cons] using hs
  | _, .field f :: rest, h, hapart => by
    cases h with
    | field tiles tail =>
      refine .field tiles (snoc hp tail fun s s' hs => hapart s s' ?_)
      rcases rest with _ | ⟨q, rest⟩
      · simp at hs
      · simpa [List.getLast?_cons_cons] using hs

/-- Parts that tile stop no earlier than they start, and later when there are any: no piece of
text is empty, and a field covers its braces. -/
lemma le_of_tiles (hts : ts.Ordered) {hi : Nat} :
    ∀ {lo : Nat} {parts : List FPart}, PartsTile ts lo parts hi → lo ≤ hi ∧ (parts ≠ [] → lo < hi)
  | _, [], h => by
    cases h
    simp
  | _, .literal sp :: rest, h => by
    cases h with
    | literal piece _ tail =>
      have := (le_of_tiles hts tail).1
      have := piece.1
      exact ⟨by omega, fun _ => by omega⟩
  | _, .field f :: rest, h => by
    cases h with
    | field tiles tail =>
      have := (le_of_tiles hts tail).1
      have := tiles.braced.lt hts
      exact ⟨by omega, fun _ => by omega⟩

/-- **Parts tile an empty stretch exactly when there are none.** -/
lemma nil_iff (hts : ts.Ordered) {lo hi : Nat} {parts : List FPart} (h : PartsTile ts lo parts hi) :
    parts = [] ↔ lo = hi := by
  constructor
  · rintro rfl
    cases h
    rfl
  · intro hlohi
    by_contra hne
    have := (le_of_tiles hts h).2 hne
    omega

end PartsTile

namespace TokenStream

variable (ts : TokenStream)

/-- A read from position `i` to position `j` took a bracketed stretch and stopped inside the
stream. -/
def Took (i j : Nat) : Prop := ts.Balanced i j ∧ j < ts.tokens.size

/-- Items read from position `lo` up to position `j`: a bracketed stretch, and every expression of
the items, as `exprs` lists them, tiled. -/
def ItemsRead {α : Type} (exprs : α → List Expr) (lo : Nat) (xs : List α) (j : Nat) : Prop :=
  ts.Took lo j ∧ ∀ x ∈ xs, ∀ y ∈ exprs x, y.Tiled ts

/-- Where the parts of a literal are read: after its start token with delimiter `d` at position
`i0`, at position `i`, with the parts `acc` read so far. The tokens after the start are bracketed,
the reader is in the literal's text and has marked it as having a piece once a part was read, a
piece of text read last leaves the reader after it, and the parts tile from the end of the start
token up to the end of the token before `i`. -/
structure LiteralAt (d : Delimiter) (i0 : Nat) (acc : List FPart) (i : Nat) : Prop where
  start : (ts.tokenAt i0).kind = .fstringStart d
  after : i0 < i
  lt_size : i < ts.tokens.size
  balanced : ts.Balanced (i0 + 1) i
  reader : ∃ st hasPiece rest, ts.stateAt i = some st ∧
    st.frames = .literal d (ts.tokenAt i0).span hasPiece :: rest ∧
    (hasPiece = false → acc = []) ∧ ∀ sp, acc.getLast? = some (.literal sp) → st.afterMiddle = true
  tiles : PartsTile ts (ts.tokenAt i0).span.stop acc (ts.stopBefore i)
  tiled : ∀ x ∈ FPart.listExprs acc, x.Tiled ts

/-- Where the parts of a format spec are read: at position `i`, with the parts `acc` read from
the offset `lo` on, and a bracketed stretch from position `base`. The reader is in the spec's
text, and a piece of text read last leaves the reader after it. -/
structure SpecAt (base lo : Nat) (acc : List FPart) (i : Nat) : Prop where
  pos : 0 < i
  lt_size : i < ts.tokens.size
  balanced : ts.Balanced base i
  reader : ∃ st rest, ts.stateAt i = some st ∧ st.frames = .spec :: rest ∧
    ∀ sp, acc.getLast? = some (.literal sp) → st.afterMiddle = true
  tiles : PartsTile ts lo acc (ts.stopBefore i)
  tiled : ∀ x ∈ FPart.listExprs acc, x.Tiled ts

/-- A field read from the `{` at position `i` up to position `j`: it tiles up to the `}` just
before `j`, and the expressions in it are tiled. -/
def FieldRead (i : Nat) (f : Field) (j : Nat) : Prop :=
  ∃ b, j = b + 1 ∧ FieldTiles ts i f b ∧ ∀ x ∈ f.exprs, x.Tiled ts

/-- The format spec of the field whose `{` is at position `a`, read before the `}` at position `b`:
if there is one, its parts tile from just after a `:` outside every bracket of the field up to
that `}`, and their expressions are tiled. -/
def SpecRead (a : Nat) (spec : Option (List FPart)) (b : Nat) : Prop :=
  ∀ ps ∈ spec, ∃ c, c < b ∧ (ts.tokenAt c).kind = .punct .colon ∧ ts.Balanced (a + 1) c ∧
    PartsTile ts (ts.tokenAt c).span.stop ps (ts.startAt b) ∧ ∀ x ∈ FPart.listExprs ps, x.Tiled ts

variable {ts} {i j k lo i0 : Nat}

/-- Taking a token that neither opens nor closes keeps a stretch bracketed. -/
lemma balanced_next (hi : i < ts.tokens.size) (ho : (ts.tokenAt i).kind.opens = false)
    (hc : (ts.tokenAt i).kind.closes = false) : ts.Balanced i (ts.next i) := by
  unfold next
  split
  · exact Balanced.plain hi ho hc
  · exact Balanced.refl i

namespace Took

lemma refl (hi : i < ts.tokens.size) : ts.Took i i := ⟨Balanced.refl i, hi⟩

/-- Two reads, one after the other. -/
lemma join (hij : ts.Took i j) (hjk : ts.Took j k) : ts.Took i k := ⟨hij.1.trans hjk.1, hjk.2⟩

/-- A read, then one more token of a kind that neither opens nor closes. -/
lemma next {t : TokenKind} (h : ts.Took i j) (hk : (ts.tokenAt j).kind = t) (ho : t.opens = false)
    (hc : t.closes = false) : ts.Took i (ts.next j) :=
  ⟨h.1.trans (balanced_next h.2 (hk ▸ ho) (hk ▸ hc)), next_lt h.2⟩

/-- A read, then two more tokens of kinds that neither open nor close, the first no end of
input. -/
lemma next₂ (hts : ts.Ordered) {t t' : TokenKind} (h : ts.Took i j) (hk : (ts.tokenAt j).kind = t)
    (hk' : (ts.tokenAt (j + 1)).kind = t') (hne : t ≠ .eof) (ho : t.opens = false)
    (hc : t.closes = false) (ho' : t'.opens = false) (hc' : t'.closes = false) :
    ts.Took i (ts.next (ts.next j)) := by
  have hk'' : (ts.tokenAt (ts.next j)).kind = t' := by
    rw [hts.next_eq h.2 (hk ▸ hne)]
    exact hk'
  exact (h.next hk ho hc).next hk'' ho' hc'

/-- A read from just after an opener at `i0`, then the closer. -/
lemma close (hts : ts.Ordered) (ho : (ts.tokenAt i0).kind.opens = true) (h : ts.Took (i0 + 1) k)
    (hc : (ts.tokenAt k).kind.closes = true) : ts.Took i0 (ts.next k) := by
  have hne : (ts.tokenAt k).kind ≠ .eof := fun he => by simp [he, TokenKind.closes] at hc
  rw [hts.next_eq h.2 hne]
  exact ⟨Matches.balanced ⟨by have := h.1.1; omega, ho, hc, h.1⟩ h.2, hts.succ_lt h.2 hne⟩

end Took

/-- The token after an opener is still inside the stream. -/
lemma succ_lt_of_opens (hts : ts.Ordered) (hi0 : i0 < ts.tokens.size)
    (ho : (ts.tokenAt i0).kind.opens = true) : i0 + 1 < ts.tokens.size :=
  hts.succ_lt hi0 fun he => by simp [he, TokenKind.opens] at ho


namespace ItemsRead

variable {α : Type} {exprs : α → List Expr} {xs : List α} {x : α}

lemma nil (h : ts.Took lo i) : ts.ItemsRead exprs lo [] i := ⟨h, by simp⟩

lemma took (h : ts.ItemsRead exprs lo xs i) : ts.Took lo i := h.1

/-- Items read, then more tokens taken. -/
lemma later (h : ts.ItemsRead exprs lo xs i) (hij : ts.Took i j) : ts.ItemsRead exprs lo xs j :=
  ⟨h.1.join hij, h.2⟩

/-- Items read, then one more from a later position. -/
lemma snoc (h : ts.ItemsRead exprs lo xs i) (hik : ts.Took i k) (hx : ts.ItemsRead exprs k [x] j) :
    ts.ItemsRead exprs lo (xs ++ [x]) j := by
  refine ⟨(h.1.join hik).join hx.1, fun y hy => ?_⟩
  rcases List.mem_append.mp hy with hy | hy
  · exact h.2 y hy
  · exact hx.2 y hy

end ItemsRead

lemma itemsRead_singleton {e : Expr} :
    ts.ItemsRead (fun e : Expr => [e]) i [e] j ↔ ts.Took i j ∧ e.Tiled ts := by
  simp [ItemsRead]

end TokenStream

namespace Grammar.Tiling

open TokenStream ParseM

variable (ts : TokenStream)

/-- A production that reads an expression of its own, from any position inside the stream. -/
def Fresh (m : ParseM Expr) : Prop :=
  ∀ i, i < ts.tokens.size → OkAt ts m i fun e j => ts.Took i j ∧ e.Tiled ts

/-- A production that reads an expression of its own from a token of kind `k`, which it takes
without looking. -/
def FreshAt (k : TokenKind) (m : ParseM Expr) : Prop :=
  ∀ i, i < ts.tokens.size → (ts.tokenAt i).kind = k →
    OkAt ts m i fun e j => ts.Took i j ∧ e.Tiled ts

/-- A production that goes on after a tiled expression read from position `i0`. -/
def Continues (m : Expr → ParseM Expr) : Prop :=
  ∀ i0 left i, ts.Took i0 i → left.Tiled ts →
    OkAt ts (m left) i fun e j => ts.Took i0 j ∧ e.Tiled ts

/-- A production that goes on after a tiled expression read from position `i0`, from a token of
kind `k`, which it takes without looking. -/
def ContinuesAt (k : TokenKind) (m : Expr → ParseM Expr) : Prop :=
  ∀ i0 left i, ts.Took i0 i → left.Tiled ts → (ts.tokenAt i).kind = k →
    OkAt ts (m left) i fun e j => ts.Took i0 j ∧ e.Tiled ts

/-- A production that goes on after the opening bracket at position `i0`. -/
def Opens (m : Span → ParseM Expr) : Prop :=
  ∀ opening i0, i0 < ts.tokens.size → (ts.tokenAt i0).kind.opens = true →
    OkAt ts (m opening) (i0 + 1) fun e j => ts.Took i0 j ∧ e.Tiled ts

/-- A production that adds items to a list read from position `lo`. -/
def Extends {α : Type} (exprs : α → List Expr) (m : Array α → ParseM (Array α)) : Prop :=
  ∀ lo acc i, ts.ItemsRead exprs lo acc.toList i →
    OkAt ts (m acc) i fun res j => ts.ItemsRead exprs lo res.toList j

/-- A production that reads one item of its own, from any position inside the stream. -/
def Item {α : Type} (exprs : α → List Expr) (m : ParseM α) : Prop :=
  ∀ i, i < ts.tokens.size → OkAt ts m i fun x j => ts.ItemsRead exprs i [x] j

end Grammar.Tiling

namespace Grammar

open TokenStream ParseM

/-- The contracts of the productions of the grammar with fuel `n`, as to the tiling of the
f-strings they read. -/
structure Tiles (ts : TokenStream) (n : Nat) : Prop where
  fieldExpression : Tiling.Fresh ts (fieldExpression n)
  sequence : ∀ item, Tiling.Fresh ts (sequence item n)
  sequenceRest : ∀ item, Tiling.Extends ts (fun e : Expr => [e]) (sequenceRest item · n)
  element : ∀ item, Tiling.Fresh ts (element item n)
  starred : Tiling.FreshAt ts (.punct .star) (starred n)
  namedExpression : Tiling.Fresh ts (namedExpression n)
  expression : Tiling.Fresh ts (expression n)
  yieldExpr : Tiling.FreshAt ts (.keyword .yield) (yieldExpr n)
  lambda : Tiling.FreshAt ts (.keyword .lambda) (lambda n)
  lambdaParams : Tiling.Extends ts (fun p : Param => p.default.toList) (lambdaParams · n)
  lambdaParam : Tiling.Item ts (fun p : Param => p.default.toList) (lambdaParam n)
  disjunction : Tiling.Fresh ts (disjunction n)
  disjunctionRest : Tiling.Continues ts (disjunctionRest · n)
  conjunction : Tiling.Fresh ts (conjunction n)
  conjunctionRest : Tiling.Continues ts (conjunctionRest · n)
  inversion : Tiling.Fresh ts (inversion n)
  comparison : Tiling.Fresh ts (comparison n)
  comparisonLinks : Tiling.Extends ts (fun l : Link => [l.right]) (comparisonLinks · n)
  operatorChain : ∀ level, Tiling.Fresh ts (operatorChain level n)
  chainRest : ∀ level, Tiling.Continues ts (chainRest level · n)
  operand : ∀ level, Tiling.Fresh ts (operand level n)
  factor : Tiling.Fresh ts (factor n)
  power : Tiling.Fresh ts (power n)
  awaitPrimary : Tiling.Fresh ts (awaitPrimary n)
  primary : Tiling.Fresh ts (primary n)
  trailers : Tiling.Continues ts (trailers · n)
  call : Tiling.ContinuesAt ts (.punct .lparen) (call · n)
  arguments : ∀ seenKeyword seenDoubleStar,
    Tiling.Extends ts (fun a : Arg => [a.value]) (arguments · seenKeyword seenDoubleStar n)
  loneGenerator : ∀ isFirst, Tiling.Continues ts (loneGenerator · isFirst n)
  subscript : Tiling.ContinuesAt ts (.punct .lbracket) (subscript · n)
  slices : Tiling.Fresh ts (slices n)
  slicesRest : Tiling.Extends ts (fun e : Expr => [e]) (slicesRest · n)
  slice : Tiling.Fresh ts (slice n)
  sliceTail : ∀ start lower i0 i, (ts.tokenAt i).kind = .punct .colon → ts.Took i0 i →
    (∀ l ∈ lower, Expr.Tiled ts l) →
    OkAt ts (sliceTail start lower n) i fun e j => ts.Took i0 j ∧ e.Tiled ts
  bound : ∀ i, i < ts.tokens.size →
    OkAt ts (bound n) i fun res j => ts.ItemsRead (fun e : Expr => [e]) i res.toList j
  atom : Tiling.Fresh ts (atom n)
  strings : ∀ start parts bytes i0 i, ts.ItemsRead (fun e : Expr => [e]) i0 parts.toList i →
    OkAt ts (strings start parts bytes n) i fun e j => ts.Took i0 j ∧ e.Tiled ts
  parenthesized : Tiling.FreshAt ts (.punct .lparen) (parenthesized n)
  parenContents : Tiling.Opens ts (parenContents · n)
  listForm : Tiling.FreshAt ts (.punct .lbracket) (listForm n)
  listContents : Tiling.Opens ts (listContents · n)
  braceForm : Tiling.FreshAt ts (.punct .lbrace) (braceForm n)
  braceContents : Tiling.Opens ts (braceContents · n)
  dictEntries : ∀ opening i0 acc i, (ts.tokenAt i0).kind.opens = true →
    ts.ItemsRead DictEntry.exprs (i0 + 1) acc.toList i →
    OkAt ts (dictEntries opening acc n) i fun e j => ts.Took i0 j ∧ e.Tiled ts
  entry : Tiling.Item ts DictEntry.exprs (entry n)
  moreElements : ∀ close, Tiling.Extends ts (fun e : Expr => [e]) (moreElements close · n)
  clauses : Tiling.Extends ts Clause.exprs (clauses · n)
  clause : Tiling.Item ts Clause.exprs (clause n)
  conditions : Tiling.Extends ts (fun e : Expr => [e]) (conditions · n)
  forTarget : Tiling.Fresh ts (forTarget n)
  forTargetRest : Tiling.Extends ts (fun e : Expr => [e]) (forTargetRest · n)
  forTargetItem : Tiling.Fresh ts (forTargetItem n)
  fstring : Tiling.Fresh ts (fstring n)
  fstringParts : ∀ d i0 acc i, ts.LiteralAt d i0 acc.toList i →
    OkAt ts (fstringParts d (ts.tokenAt i0).span acc n) i fun e j => ts.Took i0 j ∧ e.Tiled ts
  field : ∀ i st, i < ts.tokens.size → (ts.tokenAt i).kind = .punct .lbrace →
    ts.stateAt i = some st → Frame.inText st.frames = true → OkAt ts (field n) i (ts.FieldRead i)
  fieldContents : ∀ i st, i < ts.tokens.size → (ts.tokenAt i).kind = .punct .lbrace →
    ts.stateAt i = some st → Frame.inText st.frames = true →
    OkAt ts (fieldContents n) i (ts.FieldRead i)
  formatSpec : ∀ base lo acc i, ts.SpecAt base lo acc.toList i →
    OkAt ts (formatSpec acc n) i fun res j =>
      ts.Took base j ∧ PartsTile ts lo res.toList (ts.startAt j) ∧
        ∀ x ∈ FPart.listExprs res.toList, x.Tiled ts

variable {ts : TokenStream}

/-- An optional token of a kind that neither opens nor closes: taken, it is the token there. -/
lemma okAt_eat_took {t : TokenKind} {i : Nat} (hi : i < ts.tokens.size) (ho : t.opens = false)
    (hc : t.closes = false) :
    OkAt ts (eat t) i fun b j =>
      ts.Took i j ∧ (b = true → (ts.tokenAt i).kind = t ∧ j = ts.next i) := by
  simp only [okAt_eat]
  split_ifs with hk
  · exact ⟨(Took.refl hi).next hk ho hc, by simp [hk]⟩
  · exact ⟨Took.refl hi, by simp⟩

/-- Without fuel every production fails, so every contract holds. -/
lemma tiles_zero : Tiles ts 0 where
  fieldExpression _ _ := okAt_outOfFuel
  sequence _ _ _ := okAt_outOfFuel
  sequenceRest _ _ _ _ _ := okAt_outOfFuel
  element _ _ _ := okAt_outOfFuel
  starred _ _ _ := okAt_outOfFuel
  namedExpression _ _ := okAt_outOfFuel
  expression _ _ := okAt_outOfFuel
  yieldExpr _ _ _ := okAt_outOfFuel
  lambda _ _ _ := okAt_outOfFuel
  lambdaParams _ _ _ _ := okAt_outOfFuel
  lambdaParam _ _ := okAt_outOfFuel
  disjunction _ _ := okAt_outOfFuel
  disjunctionRest _ _ _ _ _ := okAt_outOfFuel
  conjunction _ _ := okAt_outOfFuel
  conjunctionRest _ _ _ _ _ := okAt_outOfFuel
  inversion _ _ := okAt_outOfFuel
  comparison _ _ := okAt_outOfFuel
  comparisonLinks _ _ _ _ := okAt_outOfFuel
  operatorChain _ _ _ := okAt_outOfFuel
  chainRest _ _ _ _ _ _ := okAt_outOfFuel
  operand _ _ _ := okAt_outOfFuel
  factor _ _ := okAt_outOfFuel
  power _ _ := okAt_outOfFuel
  awaitPrimary _ _ := okAt_outOfFuel
  primary _ _ := okAt_outOfFuel
  trailers _ _ _ _ _ := okAt_outOfFuel
  call _ _ _ _ _ _ := okAt_outOfFuel
  arguments _ _ _ _ _ _ := okAt_outOfFuel
  loneGenerator _ _ _ _ _ _ := okAt_outOfFuel
  subscript _ _ _ _ _ _ := okAt_outOfFuel
  slices _ _ := okAt_outOfFuel
  slicesRest _ _ _ _ := okAt_outOfFuel
  slice _ _ := okAt_outOfFuel
  sliceTail _ _ _ _ _ _ _ := okAt_outOfFuel
  bound _ _ := okAt_outOfFuel
  atom _ _ := okAt_outOfFuel
  strings _ _ _ _ _ _ := okAt_outOfFuel
  parenthesized _ _ _ := okAt_outOfFuel
  parenContents _ _ _ _ := okAt_outOfFuel
  listForm _ _ _ := okAt_outOfFuel
  listContents _ _ _ _ := okAt_outOfFuel
  braceForm _ _ _ := okAt_outOfFuel
  braceContents _ _ _ _ := okAt_outOfFuel
  dictEntries _ _ _ _ _ _ := okAt_outOfFuel
  entry _ _ := okAt_outOfFuel
  moreElements _ _ _ _ _ := okAt_outOfFuel
  clauses _ _ _ _ := okAt_outOfFuel
  clause _ _ := okAt_outOfFuel
  conditions _ _ _ _ := okAt_outOfFuel
  forTarget _ _ := okAt_outOfFuel
  forTargetRest _ _ _ _ := okAt_outOfFuel
  forTargetItem _ _ := okAt_outOfFuel
  fstring _ _ := okAt_outOfFuel
  fstringParts _ _ _ _ _ := okAt_outOfFuel
  field _ _ _ _ _ _ := okAt_outOfFuel
  fieldContents _ _ _ _ _ _ := okAt_outOfFuel
  formatSpec _ _ _ _ _ := okAt_outOfFuel

end Grammar

end ExprFront
