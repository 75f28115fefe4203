import Mathlib
import ExprFront.Syntax.Expr
import ExprFront.Literal.Delimiter

/-!
# Spans that nest

What it means for the spans of an expression tree to be well formed and nested.

* `Span.Follow lo hi ss`: the spans `ss` are well formed and follow one another in the text,
  from `lo` on and up to `hi`;
* `Expr.children`: the expressions directly under a node, in the order of the text: operands,
  items, call-argument values, dict keys and values, comparison operands, the parts of a
  comprehension, lambda defaults, slice bounds, and the expressions of an f-string's fields,
  those of nested format-spec fields included;
* `Expr.LocalSpans`: what a node's other spans satisfy: a string's body lies between its quotes,
  the parts of an f-string fit in it (`FPart.Fits`), an attribute name, the keyword names of a
  call and the names of a lambda's parameters lie inside the node;
* `Expr.Nested`: every node of the tree has a non-empty span, its children lie inside it, one
  after another and so pairwise disjoint, and its other spans are as `Expr.LocalSpans` says.

`Expr.Nested.reachable` reads the definition back for every expression reachable from a node.
-/

namespace ExprFront

namespace Span

/-- A span that starts no later than it stops. -/
def WF (a : Span) : Prop := a.start ≤ a.stop

/-- The span `a` lies inside the span `b`. -/
def Inside (a b : Span) : Prop := b.start ≤ a.start ∧ a.stop ≤ b.stop

/-- Well-formed spans that follow one another in the text, the first from `lo` on, each from the
end of the one before, and the last up to `hi`. -/
def Follow : Nat → Nat → List Span → Prop
  | lo, hi, [] => lo ≤ hi
  | lo, hi, s :: ss => lo ≤ s.start ∧ s.start ≤ s.stop ∧ Follow s.stop hi ss

@[simp] lemma follow_nil {lo hi : Nat} : Follow lo hi [] ↔ lo ≤ hi := Iff.rfl

@[simp] lemma follow_cons {lo hi : Nat} {s : Span} {ss : List Span} :
    Follow lo hi (s :: ss) ↔ lo ≤ s.start ∧ s.start ≤ s.stop ∧ Follow s.stop hi ss := Iff.rfl

@[simp] lemma start_merge (a b : Span) : (a.merge b).start = min a.start b.start := rfl

@[simp] lemma stop_merge (a b : Span) : (a.merge b).stop = max a.stop b.stop := rfl

lemma Follow.le {lo hi : Nat} : ∀ {ss : List Span}, Follow lo hi ss → lo ≤ hi
  | [], h => h
  | _ :: _, ⟨h₁, h₂, h₃⟩ => by have := h₃.le; omega

/-- Following spans stay so between wider bounds. -/
lemma Follow.mono {lo hi lo' hi' : Nat} (hlo : lo' ≤ lo) (hhi : hi ≤ hi') :
    ∀ {ss : List Span}, Follow lo hi ss → Follow lo' hi' ss
  | [], h => by simp only [follow_nil] at h ⊢; omega
  | _ :: _, ⟨h₁, h₂, h₃⟩ => ⟨by omega, h₂, h₃.mono le_rfl hhi⟩

lemma follow_append {lo hi : Nat} {xs ys : List Span} :
    Follow lo hi (xs ++ ys) ↔ ∃ m, Follow lo m xs ∧ Follow m hi ys := by
  induction xs generalizing lo with
  | nil => exact ⟨fun h => ⟨lo, le_rfl, h⟩, fun ⟨m, hm, h⟩ => h.mono hm le_rfl⟩
  | cons x xs ih =>
    simp only [List.cons_append, follow_cons, ih]
    constructor
    · rintro ⟨h₁, h₂, m, hm, h⟩
      exact ⟨m, ⟨h₁, h₂, hm⟩, h⟩
    · rintro ⟨m, ⟨h₁, h₂, hm⟩, h⟩
      exact ⟨h₁, h₂, m, hm, h⟩

/-- One more span after following ones. -/
lemma Follow.snoc {lo m hi : Nat} {ss : List Span} {s : Span} (h : Follow lo m ss)
    (hs : m ≤ s.start) (hwf : s.start ≤ s.stop) (hhi : s.stop ≤ hi) : Follow lo hi (ss ++ [s]) :=
  follow_append.mpr ⟨m, h, hs, hwf, hhi⟩

/-- Following spans reach no further than their last one. -/
lemma Follow.to_last {lo hi : Nat} {ss : List Span} {s : Span} (h : Follow lo hi (ss ++ [s])) :
    Follow lo s.stop (ss ++ [s]) := by
  obtain ⟨m, hm, h₁, h₂, -⟩ := follow_append.mp h
  exact follow_append.mpr ⟨m, hm, h₁, h₂, le_rfl⟩

/-- Each of following spans lies between the bounds. -/
lemma Follow.inside {lo hi : Nat} : ∀ {ss : List Span}, Follow lo hi ss →
    ∀ s ∈ ss, s.WF ∧ s.Inside ⟨lo, hi⟩
  | [], _ => by simp
  | t :: ts, ⟨h₁, h₂, h₃⟩ => by
    intro s hs
    rcases List.mem_cons.mp hs with rfl | hs
    · exact ⟨h₂, h₁, h₃.le⟩
    · obtain ⟨hwf, hlo, hhi⟩ := h₃.inside s hs
      refine ⟨hwf, ?_, hhi⟩
      dsimp only at hlo ⊢
      omega

/-- Following spans come one after another, so no two of them overlap. -/
lemma Follow.pairwise {lo hi : Nat} : ∀ {ss : List Span}, Follow lo hi ss →
    ss.Pairwise fun a b => a.stop ≤ b.start
  | [], _ => List.Pairwise.nil
  | _ :: _, ⟨_, _, h₃⟩ =>
    List.Pairwise.cons (fun b hb => (h₃.inside b hb).2.1) h₃.pairwise

lemma inside_merge_right (a b : Span) : b.Inside (a.merge b) :=
  ⟨min_le_right _ _, le_max_right _ _⟩

/-- What lies between two offsets lies inside a merge that starts no later and stops no
earlier. -/
lemma Inside.merge_of_le {s a b : Span} {lo hi : Nat} (h : s.Inside ⟨lo, hi⟩)
    (hlo : a.start ≤ lo) (hhi : hi ≤ b.stop) : s.Inside (a.merge b) :=
  ⟨min_le_of_left_le (hlo.trans h.1), h.2.trans (hhi.trans (le_max_right _ _))⟩

lemma Inside.trans {a b c : Span} (hab : a.Inside b) (hbc : b.Inside c) : a.Inside c :=
  ⟨hbc.1.trans hab.1, hab.2.trans hbc.2⟩

end Span

/-! ## The parts of a tree -/

/-- The value of a call argument. -/
def Arg.value : Arg → Expr
  | .positional v | .star v | .doubleStar v | .keyword _ v => v

/-- The name of a keyword argument. -/
def Arg.keyword? : Arg → Option Span
  | .keyword name _ => some name
  | _ => none

/-- The name of a lambda parameter, a point at the marker for `*` and `/`. -/
def Param.name : Param → Span
  | .mk _ name _ => name

/-- The default of a lambda parameter. -/
def Param.default : Param → Option Expr
  | .mk _ _ d => d

/-- The right operand of a comparison link. -/
def Link.right : Link → Expr
  | .mk _ r => r

/-- The expressions of a dict entry: its key and value, or the unpacked value. -/
def DictEntry.exprs : DictEntry → List Expr
  | .pair key value => [key, value]
  | .unpack value => [value]

/-- The expressions of a comprehension clause: target, iterable and conditions. -/
def Clause.exprs : Clause → List Expr
  | .mk _ target iter ifs => target :: iter :: ifs

mutual

/-- The expressions of the fields of an f-string part, nested format-spec fields included. -/
def FPart.exprs : FPart → List Expr
  | .literal _ => []
  | .field f => f.exprs

/-- The field expressions of a list of parts. -/
def FPart.listExprs : List FPart → List Expr
  | [] => []
  | p :: ps => p.exprs ++ FPart.listExprs ps

/-- The expression of a field, then those of the fields of its format spec. -/
def Field.exprs : Field → List Expr
  | .mk e _ _ none _ => [e]
  | .mk e _ _ (some ps) _ => e :: FPart.listExprs ps

end

@[simp] lemma FPart.listExprs_nil : FPart.listExprs [] = [] := rfl

@[simp] lemma FPart.listExprs_cons (p : FPart) (ps : List FPart) :
    FPart.listExprs (p :: ps) = p.exprs ++ FPart.listExprs ps := rfl

lemma FPart.listExprs_append (ps qs : List FPart) :
    FPart.listExprs (ps ++ qs) = FPart.listExprs ps ++ FPart.listExprs qs := by
  induction ps with
  | nil => rfl
  | cons p ps ih => simp [ih]

/-- The expressions directly under a node, in the order of the text. -/
def Expr.children : Expr → List Expr
  | .name _ | .number .. | .constant .. | .str .. => []
  | .fstring _ parts _ => FPart.listExprs parts
  | .concat items _ => items
  | .attribute value _ _ => [value]
  | .call func args _ => func :: args.map Arg.value
  | .subscript value index _ => [value, index]
  | .slice lower upper step _ => lower.toList ++ upper.toList ++ step.toList
  | .binary _ l r _ | .boolOp _ l r _ => [l, r]
  | .unary _ e _ => [e]
  | .compare left links _ => left :: links.map Link.right
  | .ifElse test body orelse _ => [body, test, orelse]
  | .lambda params body _ => params.filterMap Param.default ++ [body]
  | .namedExpr target value _ => [target, value]
  | .starred value _ | .yieldFrom value _ | .await value _ => [value]
  | .yield value _ => value.toList
  | .tuple items _ | .list items _ | .set items _ => items
  | .dict entries _ => entries.flatMap DictEntry.exprs
  | .listComp elt cs _ | .setComp elt cs _ | .generator elt cs _ => elt :: cs.flatMap Clause.exprs
  | .dictComp key value cs _ => key :: value :: cs.flatMap Clause.exprs

mutual

/-- An f-string part fits in the span `outer`: a piece of text is well formed and lies inside
it, a field fits in it. -/
inductive FPart.Fits : Span → FPart → Prop
  | literal {outer sp : Span} (wf : sp.WF) (inside : sp.Inside outer) :
      FPart.Fits outer (.literal sp)
  | field {outer : Span} {f : Field} (fits : Field.Fits outer f) : FPart.Fits outer (.field f)

/-- A field fits in the span `outer`: its span lies inside `outer` and holds its expression, the
text its `=` echoes, and the parts of its format spec. -/
inductive Field.Fits : Span → Field → Prop
  | mk {outer sp : Span} {e : Expr} {debug : Option Span} {conv : Option Conversion}
      {spec : Option (List FPart)} (inside : sp.Inside outer) (expr : e.span.Inside sp)
      (debugFits : ∀ d ∈ debug, d.WF ∧ d.Inside sp)
      (specFits : ∀ ps ∈ spec, ∀ p ∈ ps, FPart.Fits sp p) :
      Field.Fits outer (.mk e debug conv spec sp)

end

/-- What the spans of a node other than those of its children satisfy. -/
def Expr.LocalSpans : Expr → Prop
  | .str d body sp =>
    body.start = sp.start + d.openLength ∧ body.start ≤ body.stop ∧
      body.stop = sp.stop - d.closeLength
  | .fstring _ parts sp => ∀ p ∈ parts, p.Fits sp
  | .attribute _ attr sp => attr.WF ∧ attr.Inside sp
  | .call _ args sp => ∀ a ∈ args, ∀ name ∈ a.keyword?, name.WF ∧ name.Inside sp
  | .lambda params _ sp => ∀ p ∈ params, p.name.WF ∧ p.name.Inside sp
  | _ => True

/-- The spans of a tree nest: every node has a non-empty span, its children lie inside it one
after another, so that no two overlap, its other spans are as `Expr.LocalSpans` says, and its
children nest in turn. -/
inductive Expr.Nested : Expr → Prop
  | intro {e : Expr} (nonempty : e.span.start < e.span.stop)
      (inside : ∀ c ∈ e.children, c.span.Inside e.span)
      (ordered : e.children.Pairwise fun a b => a.span.stop ≤ b.span.start)
      (spans : e.LocalSpans) (nested : ∀ c ∈ e.children, c.Nested) : e.Nested

/-- The expressions reachable from a node through its children, the node included. -/
inductive Expr.Below : Expr → Expr → Prop
  | refl (e : Expr) : Expr.Below e e
  | child {c e d : Expr} (hc : c ∈ e.children) (hd : Expr.Below d c) : Expr.Below d e

namespace Expr

/-- Children that follow one another inside a node's span make them lie inside it in order. -/
lemma Nested.of_follow {e : Expr} (hne : e.span.start < e.span.stop)
    (hfollow : Span.Follow e.span.start e.span.stop (e.children.map Expr.span))
    (hloc : e.LocalSpans) (hrec : ∀ c ∈ e.children, c.Nested) : e.Nested := by
  refine .intro hne (fun c hc => (hfollow.inside c.span (List.mem_map_of_mem hc)).2) ?_ hloc hrec
  exact List.pairwise_map.mp hfollow.pairwise

lemma Nested.nonempty {e : Expr} (h : e.Nested) : e.span.start < e.span.stop := by
  cases h
  assumption

/-- **Every expression reachable from a node whose spans nest** has a non-empty span inside the
node's, nests, and has its children inside it pairwise disjoint. -/
lemma Nested.reachable {e : Expr} (h : e.Nested) {d : Expr} (hd : d.Below e) :
    d.Nested ∧ d.span.Inside e.span := by
  induction hd with
  | refl => exact ⟨h, le_rfl, le_rfl⟩
  | @child c e d hc _ ih =>
    obtain ⟨_, hin, _, _, hrec⟩ := h
    obtain ⟨hd, hdc⟩ := ih (hrec c hc)
    exact ⟨hd, hdc.trans (hin c hc)⟩

end Expr

end ExprFront
