import Mathlib
import ExprFront.Token.Kind
import ExprFront.Syntax.Expr

/-!
# Moving trees and tokens along the text

A piece of text that stands at offset `k` of a larger text is read there as it is read alone,
only every offset is `k` bytes further on. This module says what "further on" means for the
things the parser reads and builds:

* `Span.shift` moves a span; merging and the empty test commute with it;
* `Expr.shift` moves every span of an expression tree, and of the f-string parts, fields, call
  arguments, comparison links, lambda parameters, dict entries and comprehension clauses in it;
* `TokenKind.shift` moves the text span that an f-string end carries, and `Token.Moved` relates
  a token to the same token further on: same kind, moved span, whatever its line and column.
-/

namespace ExprFront

namespace Span

/-- The span `k` bytes further on. -/
def shift (k : Nat) (sp : Span) : Span := ⟨sp.start + k, sp.stop + k⟩

variable (k : Nat) (a b : Span)

@[simp] lemma start_shift : (a.shift k).start = a.start + k := rfl

@[simp] lemma stop_shift : (a.shift k).stop = a.stop + k := rfl

@[simp] lemma shift_merge : (a.merge b).shift k = (a.shift k).merge (b.shift k) := by
  simp only [shift, merge, min_add_add_right, max_add_add_right]

@[simp] lemma shift_point (n : Nat) : (point n).shift k = point (n + k) := rfl

@[simp] lemma isEmpty_shift : (a.shift k).isEmpty = a.isEmpty := by
  simp [shift, isEmpty]

end Span

mutual

/-- The tree with every span `k` bytes further on. -/
def Expr.shift (k : Nat) : Expr → Expr
  | .name sp => .name (sp.shift k)
  | .number kind sp => .number kind (sp.shift k)
  | .constant c sp => .constant c (sp.shift k)
  | .str d body sp => .str d (body.shift k) (sp.shift k)
  | .fstring d parts sp => .fstring d (FPart.shiftAll k parts) (sp.shift k)
  | .concat items sp => .concat (Expr.shiftAll k items) (sp.shift k)
  | .attribute v attr sp => .attribute (v.shift k) (attr.shift k) (sp.shift k)
  | .call f args sp => .call (f.shift k) (Arg.shiftAll k args) (sp.shift k)
  | .subscript v i sp => .subscript (v.shift k) (i.shift k) (sp.shift k)
  | .slice l u s sp => .slice (Expr.shift? k l) (Expr.shift? k u) (Expr.shift? k s) (sp.shift k)
  | .binary op l r sp => .binary op (l.shift k) (r.shift k) (sp.shift k)
  | .unary op e sp => .unary op (e.shift k) (sp.shift k)
  | .boolOp op l r sp => .boolOp op (l.shift k) (r.shift k) (sp.shift k)
  | .compare l links sp => .compare (l.shift k) (Link.shiftAll k links) (sp.shift k)
  | .ifElse t b o sp => .ifElse (t.shift k) (b.shift k) (o.shift k) (sp.shift k)
  | .lambda ps body sp => .lambda (Param.shiftAll k ps) (body.shift k) (sp.shift k)
  | .namedExpr t v sp => .namedExpr (t.shift k) (v.shift k) (sp.shift k)
  | .starred v sp => .starred (v.shift k) (sp.shift k)
  | .yield v sp => .yield (Expr.shift? k v) (sp.shift k)
  | .yieldFrom v sp => .yieldFrom (v.shift k) (sp.shift k)
  | .await v sp => .await (v.shift k) (sp.shift k)
  | .tuple items sp => .tuple (Expr.shiftAll k items) (sp.shift k)
  | .list items sp => .list (Expr.shiftAll k items) (sp.shift k)
  | .set items sp => .set (Expr.shiftAll k items) (sp.shift k)
  | .dict entries sp => .dict (DictEntry.shiftAll k entries) (sp.shift k)
  | .listComp elt cs sp => .listComp (elt.shift k) (Clause.shiftAll k cs) (sp.shift k)
  | .setComp elt cs sp => .setComp (elt.shift k) (Clause.shiftAll k cs) (sp.shift k)
  | .generator elt cs sp => .generator (elt.shift k) (Clause.shiftAll k cs) (sp.shift k)
  | .dictComp key value cs sp =>
    .dictComp (key.shift k) (value.shift k) (Clause.shiftAll k cs) (sp.shift k)

/-- Every tree of a list moved; `Expr.shiftAll_eq` reads it as a map. -/
def Expr.shiftAll (k : Nat) : List Expr → List Expr
  | [] => []
  | e :: es => e.shift k :: Expr.shiftAll k es

/-- An optional tree moved; `Expr.shift?_eq` reads it as a map. -/
def Expr.shift? (k : Nat) : Option Expr → Option Expr
  | none => none
  | some e => some (e.shift k)

/-- An f-string part moved. -/
def FPart.shift (k : Nat) : FPart → FPart
  | .literal sp => .literal (sp.shift k)
  | .field f => .field (f.shift k)

/-- Every part of a list moved. -/
def FPart.shiftAll (k : Nat) : List FPart → List FPart
  | [] => []
  | p :: ps => p.shift k :: FPart.shiftAll k ps

/-- The parts of an optional format spec moved. -/
def FPart.shiftAll? (k : Nat) : Option (List FPart) → Option (List FPart)
  | none => none
  | some ps => some (FPart.shiftAll k ps)

/-- A field moved: its expression, the text a `=` echoes, its format spec and its span. -/
def Field.shift (k : Nat) : Field → Field
  | .mk e dbg conv spec sp =>
    .mk (e.shift k) (dbg.map (Span.shift k)) conv (FPart.shiftAll? k spec) (sp.shift k)

/-- A call argument moved. -/
def Arg.shift (k : Nat) : Arg → Arg
  | .positional v => .positional (v.shift k)
  | .star v => .star (v.shift k)
  | .doubleStar v => .doubleStar (v.shift k)
  | .keyword name v => .keyword (name.shift k) (v.shift k)

/-- Every argument of a list moved. -/
def Arg.shiftAll (k : Nat) : List Arg → List Arg
  | [] => []
  | a :: as => a.shift k :: Arg.shiftAll k as

/-- A comparison link moved. -/
def Link.shift (k : Nat) : Link → Link
  | .mk op r => .mk op (r.shift k)

/-- Every link of a list moved. -/
def Link.shiftAll (k : Nat) : List Link → List Link
  | [] => []
  | l :: ls => l.shift k :: Link.shiftAll k ls

/-- A lambda parameter moved. -/
def Param.shift (k : Nat) : Param → Param
  | .mk kind name d => .mk kind (name.shift k) (Expr.shift? k d)

/-- Every parameter of a list moved. -/
def Param.shiftAll (k : Nat) : List Param → List Param
  | [] => []
  | p :: ps => p.shift k :: Param.shiftAll k ps

/-- A dict entry moved. -/
def DictEntry.shift (k : Nat) : DictEntry → DictEntry
  | .pair key v => .pair (key.shift k) (v.shift k)
  | .unpack v => .unpack (v.shift k)

/-- Every entry of a list moved. -/
def DictEntry.shiftAll (k : Nat) : List DictEntry → List DictEntry
  | [] => []
  | d :: ds => d.shift k :: DictEntry.shiftAll k ds

/-- A comprehension clause moved. -/
def Clause.shift (k : Nat) : Clause → Clause
  | .mk a t i ifs => .mk a (t.shift k) (i.shift k) (Expr.shiftAll k ifs)

/-- Every clause of a list moved. -/
def Clause.shiftAll (k : Nat) : List Clause → List Clause
  | [] => []
  | c :: cs => c.shift k :: Clause.shiftAll k cs

end

section Lists

variable (k : Nat)

@[simp] lemma Expr.shiftAll_eq (es : List Expr) : Expr.shiftAll k es = es.map (Expr.shift k) := by
  induction es with
  | nil => rfl
  | cons e es ih => simp [Expr.shiftAll, ih]

@[simp] lemma Expr.shift?_eq (e? : Option Expr) : Expr.shift? k e? = e?.map (Expr.shift k) := by
  cases e? <;> rfl

@[simp] lemma FPart.shiftAll_eq (ps : List FPart) : FPart.shiftAll k ps = ps.map (FPart.shift k) := by
  induction ps with
  | nil => rfl
  | cons p ps ih => simp [FPart.shiftAll, ih]

@[simp] lemma FPart.shiftAll?_eq (ps? : Option (List FPart)) :
    FPart.shiftAll? k ps? = ps?.map (List.map (FPart.shift k)) := by
  cases ps? <;> simp [FPart.shiftAll?]

@[simp] lemma Arg.shiftAll_eq (as : List Arg) : Arg.shiftAll k as = as.map (Arg.shift k) := by
  induction as with
  | nil => rfl
  | cons a as ih => simp [Arg.shiftAll, ih]

@[simp] lemma Link.shiftAll_eq (ls : List Link) : Link.shiftAll k ls = ls.map (Link.shift k) := by
  induction ls with
  | nil => rfl
  | cons l ls ih => simp [Link.shiftAll, ih]

@[simp] lemma Param.shiftAll_eq (ps : List Param) : Param.shiftAll k ps = ps.map (Param.shift k) := by
  induction ps with
  | nil => rfl
  | cons p ps ih => simp [Param.shiftAll, ih]

@[simp] lemma DictEntry.shiftAll_eq (ds : List DictEntry) :
    DictEntry.shiftAll k ds = ds.map (DictEntry.shift k) := by
  induction ds with
  | nil => rfl
  | cons d ds ih => simp [DictEntry.shiftAll, ih]

@[simp] lemma Clause.shiftAll_eq (cs : List Clause) : Clause.shiftAll k cs = cs.map (Clause.shift k) := by
  induction cs with
  | nil => rfl
  | cons c cs ih => simp [Clause.shiftAll, ih]

end Lists

namespace Expr

variable (k : Nat) (e : Expr)

/-- A moved tree covers the moved span. -/
@[simp] lemma span_shift : (e.shift k).span = e.span.shift k := by
  cases e <;> rfl

@[simp] lemma isStarred_shift : (e.shift k).isStarred = e.isStarred := by
  cases e <;> rfl

end Expr

/-- The kind of a token further on: only an f-string end carries a span. -/
def TokenKind.shift (k : Nat) : TokenKind → TokenKind
  | .fstringEnd text => .fstringEnd (text.shift k)
  | kind => kind

namespace TokenKind

variable (k : Nat)

@[simp] lemma shift_fstringEnd (text : Span) : (fstringEnd text).shift k = .fstringEnd (text.shift k) :=
  rfl

@[simp] lemma shift_punct (p : Punct) : (punct p).shift k = .punct p := rfl

@[simp] lemma shift_keyword (w : Keyword) : (keyword w).shift k = .keyword w := rfl

@[simp] lemma shift_eof : eof.shift k = .eof := rfl

@[simp] lemma shift_name : name.shift k = .name := rfl

@[simp] lemma shift_fstringMiddle : fstringMiddle.shift k = .fstringMiddle := rfl

@[simp] lemma canStartExpr_shift (kind : TokenKind) : (kind.shift k).canStartExpr = kind.canStartExpr := by
  cases kind <;> rfl

/-- Comparing a moved kind with a kind that carries no span is comparing the kind. -/
lemma shift_beq {kind kind' : TokenKind} (h : ∀ text, kind' ≠ .fstringEnd text) :
    (kind.shift k == kind') = (kind == kind') := by
  cases kind with
  | fstringEnd text =>
    have h₁ := h (text.shift k)
    have h₂ := h text
    have : (fstringEnd (text.shift k) == kind') = false := by simpa using fun e => h₁ e.symm
    rw [shift_fstringEnd, this]
    simpa using fun e => h₂ e.symm
  | _ => rfl

end TokenKind

/-- A token and the same token `k` bytes further on: the same kind, moved, and the moved span,
whatever the line and column. -/
structure Token.Moved (k : Nat) (t t' : Token) : Prop where
  kind : t'.kind = t.kind.shift k
  span : t'.span = t.span.shift k

end ExprFront
