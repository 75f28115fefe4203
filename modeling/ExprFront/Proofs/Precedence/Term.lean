import Mathlib
import ExprFront.Syntax.Cursor
import ExprFront.Syntax.Dump
import ExprFront.Token.Kind

/-!
# Expression trees written with the fewest parentheses

A `Term` is an expression tree of the operator grammar: names, integers, the binary, prefix,
short-circuit and comparison operators, the conditional, `await`, attribute access, calls with
positional arguments, subscripts, and parenthesized tuple and list displays. It is written out
(`Term.render`) one space between lexemes, with parentheses around a child exactly where the
child binds more loosely than its place in the parent allows.

How tightly a node binds is its level (`Term.prec`), loosest first:

```
 0 conditional       5 |        10 * / // % @   14 trailers: . ( [
 1 or                6 ^        11 prefix + - ~ 15 atoms: names, numbers, displays
 2 and               7 &        12 **
 3 not               8 << >>    13 await
 4 comparisons       9 + -
```

A binary operator takes its left operand at its own level and its right one a level tighter,
so it associates to the left; `**` takes an `await` operand on its left and a prefix operand on
its right, so it associates to the right and binds tighter than a prefix operator on its left
only. A comparison chain takes all its operands at level 5, the conditional its body and test
at level 1 and what follows `else` at level 0. Inside brackets every place is at level 0.

`Term.dump` writes a term in the S-expression form of `Expr.dump`.
-/

namespace ExprFront

/-- A character of an ASCII name: a letter, a digit or `_`. -/
def isNameChar (c : Char) : Bool := c.isAlphanum || c == '_'

/-- Whether a text is an ASCII name that spells no keyword: a letter or `_`, then letters,
digits and `_`. -/
def isPlainName (s : String) : Bool :=
  match s.toList with
  | [] => false
  | c :: cs => (c.isAlpha || c == '_') && cs.all isNameChar && (Keyword.ofWord? s).isNone

/-- A name as a term holds it: ASCII, and no keyword. -/
structure Ident where
  /-- The name as written. -/
  text : String
  plain : isPlainName text = true

/-- The level of a binary operator. -/
def BinaryOp.prec : BinaryOp → Nat
  | .bitOr => 5 | .bitXor => 6 | .bitAnd => 7 | .shl | .shr => 8 | .add | .sub => 9
  | .mul | .matMul | .div | .floorDiv | .mod => 10 | .pow => 12

/-- The level a binary operator takes its left operand at. -/
def BinaryOp.leftPrec : BinaryOp → Nat
  | .pow => 13
  | op => op.prec

/-- The level a binary operator takes its right operand at. -/
def BinaryOp.rightPrec : BinaryOp → Nat
  | .pow => 11
  | op => op.prec + 1

/-- The level of a prefix operator, which is also the level of its operand. -/
def UnaryOp.prec : UnaryOp → Nat
  | .not => 3
  | _ => 11

/-- The level of a short-circuit operator. -/
def BoolOp.prec : BoolOp → Nat
  | .or => 1
  | .and => 2

/-- An expression tree of the operator grammar. A comparison chain has at least one link. -/
inductive Term where
  | name (x : Ident)
  | int (n : Nat)
  | binary (op : BinaryOp) (left right : Term)
  | unary (op : UnaryOp) (operand : Term)
  | boolOp (op : BoolOp) (left right : Term)
  | compare (left : Term) (op : CmpOp) (right : Term) (links : List (CmpOp × Term))
  | ifElse (test body orelse : Term)
  | await (value : Term)
  | attribute (value : Term) (attr : Ident)
  | call (func : Term) (args : List Term)
  | subscript (value index : Term)
  | tuple (items : List Term)
  | list (items : List Term)

namespace Term

/-- How tightly a term binds. -/
def prec : Term → Nat
  | .name _ | .int _ | .tuple _ | .list _ => 15
  | .attribute .. | .call .. | .subscript .. => 14
  | .await _ => 13
  | .binary op _ _ => op.prec
  | .unary op _ => op.prec
  | .boolOp op _ _ => op.prec
  | .compare .. => 4
  | .ifElse .. => 0

end Term

/-- A lexeme of a written term. -/
inductive Lexeme where
  | name (x : Ident)
  | int (n : Nat)
  | keyword (k : Keyword)
  | punct (p : Punct)

/-- How a punctuation token is spelled. -/
def Punct.spelling : Punct → String
  | .plus => "+" | .minus => "-" | .star => "*" | .doubleStar => "**" | .slash => "/"
  | .doubleSlash => "//" | .percent => "%" | .at => "@" | .shl => "<<" | .shr => ">>"
  | .amp => "&" | .pipe => "|" | .caret => "^" | .tilde => "~" | .lt => "<" | .gt => ">"
  | .ltEq => "<=" | .gtEq => ">=" | .eqEq => "==" | .notEq => "!=" | .eq => "="
  | .colonEq => ":=" | .augAssign => "+=" | .dot => "." | .ellipsis => "..." | .comma => ","
  | .colon => ":" | .semicolon => ";" | .arrow => "->" | .bang => "!" | .lparen => "("
  | .rparen => ")" | .lbracket => "[" | .rbracket => "]" | .lbrace => "\x7b"
  | .rbrace => "\x7d"

namespace Lexeme

/-- The kind of the token a lexeme is read as. -/
def kind : Lexeme → TokenKind
  | .name _ => .name
  | .int _ => .int
  | .keyword k => .keyword k
  | .punct p => .punct p

/-- How a lexeme is written. -/
def text : Lexeme → String
  | .name x => x.text
  | .int n => toString n
  | .keyword k => k.word
  | .punct p => p.spelling

end Lexeme

/-- The token a binary operator is written as. -/
def BinaryOp.punct : BinaryOp → Punct
  | .add => .plus | .sub => .minus | .mul => .star | .matMul => .at | .div => .slash
  | .floorDiv => .doubleSlash | .mod => .percent | .pow => .doubleStar | .shl => .shl
  | .shr => .shr | .bitAnd => .amp | .bitOr => .pipe | .bitXor => .caret

/-- The lexeme a prefix operator is written as. -/
def UnaryOp.lexeme : UnaryOp → Lexeme
  | .pos => .punct .plus | .neg => .punct .minus | .invert => .punct .tilde
  | .not => .keyword .not

/-- The keyword a short-circuit operator is written as. -/
def BoolOp.keyword : BoolOp → Keyword
  | .and => .and | .or => .or

/-- The lexemes of a comparison operator; `not in` and `is not` take two. -/
def CmpOp.lexemes : CmpOp → List Lexeme
  | .eq => [.punct .eqEq] | .notEq => [.punct .notEq] | .lt => [.punct .lt]
  | .ltEq => [.punct .ltEq] | .gt => [.punct .gt] | .gtEq => [.punct .gtEq]
  | .isIn => [.keyword .in] | .notIn => [.keyword .not, .keyword .in] | .is => [.keyword .is]
  | .isNot => [.keyword .is, .keyword .not]

/-- Lexemes in parentheses. -/
def Lexeme.paren (xs : List Lexeme) : List Lexeme := .punct .lparen :: xs ++ [.punct .rparen]

namespace Term

mutual

/-- The lexemes of a term, each child in parentheses where it binds more loosely than its place
allows. -/
def lexemes : Term → List Lexeme
  | .name x => [.name x]
  | .int n => [.int n]
  | .binary op l r =>
    (if l.prec < op.leftPrec then Lexeme.paren l.lexemes else l.lexemes) ++ .punct op.punct ::
      (if r.prec < op.rightPrec then Lexeme.paren r.lexemes else r.lexemes)
  | .unary op e => op.lexeme :: (if e.prec < op.prec then Lexeme.paren e.lexemes else e.lexemes)
  | .boolOp op l r =>
    (if l.prec < op.prec then Lexeme.paren l.lexemes else l.lexemes) ++ .keyword op.keyword ::
      (if r.prec < op.prec + 1 then Lexeme.paren r.lexemes else r.lexemes)
  | .compare l op r links =>
    (if l.prec < 5 then Lexeme.paren l.lexemes else l.lexemes) ++ op.lexemes ++
      (if r.prec < 5 then Lexeme.paren r.lexemes else r.lexemes) ++ linkLexemes links
  | .ifElse test body orelse =>
    (if body.prec < 1 then Lexeme.paren body.lexemes else body.lexemes) ++ .keyword .if ::
      (if test.prec < 1 then Lexeme.paren test.lexemes else test.lexemes) ++ .keyword .else ::
        orelse.lexemes
  | .await v => .keyword .await :: (if v.prec < 14 then Lexeme.paren v.lexemes else v.lexemes)
  | .attribute v a =>
    (if v.prec < 14 then Lexeme.paren v.lexemes else v.lexemes) ++ [.punct .dot, .name a]
  | .call f args =>
    (if f.prec < 14 then Lexeme.paren f.lexemes else f.lexemes) ++ Lexeme.paren (commaLexemes args)
  | .subscript v i =>
    (if v.prec < 14 then Lexeme.paren v.lexemes else v.lexemes) ++
      .punct .lbracket :: i.lexemes ++ [.punct .rbracket]
  | .tuple items => Lexeme.paren (tupleLexemes items)
  | .list items => .punct .lbracket :: commaLexemes items ++ [.punct .rbracket]

/-- Terms separated by commas. -/
def commaLexemes : List Term → List Lexeme
  | [] => []
  | t :: ts => t.lexemes ++ commaTail ts

/-- Terms each after a comma. -/
def commaTail : List Term → List Lexeme
  | [] => []
  | t :: ts => .punct .comma :: t.lexemes ++ commaTail ts

/-- The items of a tuple: one item takes a comma after it. -/
def tupleLexemes : List Term → List Lexeme
  | [] => []
  | [t] => t.lexemes ++ [.punct .comma]
  | t :: ts => t.lexemes ++ commaTail ts

/-- The links of a comparison chain after the first. -/
def linkLexemes : List (CmpOp × Term) → List Lexeme
  | [] => []
  | (op, r) :: links =>
    op.lexemes ++ (if r.prec < 5 then Lexeme.paren r.lexemes else r.lexemes) ++ linkLexemes links

end

/-- The lexemes of a term in a place at level `L`: in parentheses if it binds more loosely. -/
def lexemesAt (L : Nat) (t : Term) : List Lexeme :=
  if t.prec < L then Lexeme.paren t.lexemes else t.lexemes

/-- A term as text: its lexemes, one space between each two. -/
def render (t : Term) : String := " ".intercalate (t.lexemes.map Lexeme.text)

mutual

/-- Whether every list a term stores in the arena fits there: a chain's links, a call's
arguments and a display's items, at most `ParseM.maxListLength` each. -/
def fits : Term → Bool
  | .name _ | .int _ => true
  | .binary _ l r | .boolOp _ l r | .subscript l r => l.fits && r.fits
  | .unary _ e | .await e | .attribute e _ => e.fits
  | .compare l _ r links =>
    decide (links.length + 1 ≤ ParseM.maxListLength) && l.fits && r.fits && linksFit links
  | .ifElse test body orelse => test.fits && body.fits && orelse.fits
  | .call f args => decide (args.length ≤ ParseM.maxListLength) && f.fits && allFit args
  | .tuple items | .list items => decide (items.length ≤ ParseM.maxListLength) && allFit items

/-- Whether every term of a list fits. -/
def allFit : List Term → Bool
  | [] => true
  | t :: ts => t.fits && allFit ts

/-- Whether the right operand of every link fits. -/
def linksFit : List (CmpOp × Term) → Bool
  | [] => true
  | (_, r) :: links => r.fits && linksFit links

end

mutual

/-- The S-expression form of a term, as `Expr.dump` writes the tree of its text. -/
def dump : Term → String
  | .name x => x.text
  | .int n => toString n
  | .binary op l r => "(" ++ op.symbol ++ " " ++ l.dump ++ " " ++ r.dump ++ ")"
  | .unary op e => "(" ++ op.symbol ++ " " ++ e.dump ++ ")"
  | .boolOp op l r => "(" ++ op.symbol ++ " " ++ l.dump ++ " " ++ r.dump ++ ")"
  | .compare l op r links =>
    "(cmp " ++ l.dump ++ " " ++ op.symbol ++ " " ++ r.dump ++ dumpLinks links ++ ")"
  | .ifElse test body orelse =>
    "(if " ++ test.dump ++ " " ++ body.dump ++ " " ++ orelse.dump ++ ")"
  | .await v => "(await " ++ v.dump ++ ")"
  | .attribute v a => "(. " ++ v.dump ++ " " ++ a.text ++ ")"
  | .call f args => "(call " ++ f.dump ++ dumpItems args ++ ")"
  | .subscript v i => "(index " ++ v.dump ++ " " ++ i.dump ++ ")"
  | .tuple items => "(tuple" ++ dumpItems items ++ ")"
  | .list items => "(list" ++ dumpItems items ++ ")"

/-- Terms each after a space. -/
def dumpItems : List Term → String
  | [] => ""
  | t :: ts => " " ++ t.dump ++ dumpItems ts

/-- Comparison links each after a space. -/
def dumpLinks : List (CmpOp × Term) → String
  | [] => ""
  | (op, r) :: links => " " ++ op.symbol ++ " " ++ r.dump ++ dumpLinks links

end

/-! The dump of each node, by unfolding. -/

section DumpNodes

variable {op : BinaryOp} {l r : Term}

lemma dump_name (x : Ident) : (name x).dump = x.text := rfl

lemma dump_int (k : Nat) : (int k).dump = toString k := rfl

lemma dump_binary : (binary op l r).dump = "(" ++ op.symbol ++ " " ++ l.dump ++ " " ++ r.dump ++ ")" := rfl

lemma dump_unary (op : UnaryOp) (a : Term) : (unary op a).dump = "(" ++ op.symbol ++ " " ++ a.dump ++ ")" :=
  rfl

lemma dump_boolOp (op : BoolOp) : (boolOp op l r).dump = "(" ++ op.symbol ++ " " ++ l.dump ++ " " ++ r.dump ++ ")" :=
  rfl

lemma dump_compare (op : CmpOp) (links : List (CmpOp × Term)) :
    (compare l op r links).dump = "(cmp " ++ l.dump ++ " " ++ op.symbol ++ " " ++ r.dump ++ dumpLinks links ++ ")" :=
  rfl

lemma dump_ifElse (test body orelse : Term) :
    (ifElse test body orelse).dump = "(if " ++ test.dump ++ " " ++ body.dump ++ " " ++ orelse.dump ++ ")" := rfl

lemma dump_await (v : Term) : (await v).dump = "(await " ++ v.dump ++ ")" := rfl

lemma dump_attribute (v : Term) (a : Ident) : (Term.attribute v a).dump = "(. " ++ v.dump ++ " " ++ a.text ++ ")" :=
  rfl

lemma dump_call (f : Term) (args : List Term) : (call f args).dump = "(call " ++ f.dump ++ dumpItems args ++ ")" :=
  rfl

lemma dump_subscript (v i : Term) : (subscript v i).dump = "(index " ++ v.dump ++ " " ++ i.dump ++ ")" := rfl

lemma dump_tuple (items : List Term) : (tuple items).dump = "(tuple" ++ dumpItems items ++ ")" := rfl

lemma dump_list (items : List Term) : (list items).dump = "(list" ++ dumpItems items ++ ")" := rfl

lemma dumpItems_nil : dumpItems [] = "" := rfl

lemma dumpItems_cons (t : Term) (ts : List Term) : dumpItems (t :: ts) = " " ++ t.dump ++ dumpItems ts := rfl

lemma dumpLinks_nil : dumpLinks [] = "" := rfl

lemma dumpLinks_cons (op : CmpOp) (links : List (CmpOp × Term)) :
    dumpLinks ((op, r) :: links) = " " ++ op.symbol ++ " " ++ r.dump ++ dumpLinks links := rfl

end DumpNodes

variable {t : Term} {L : Nat}

lemma lexemesAt_of_le (h : L ≤ t.prec) : t.lexemesAt L = t.lexemes := by
  simp [lexemesAt, Nat.not_lt.mpr h]

lemma lexemesAt_of_lt (h : t.prec < L) : t.lexemesAt L = Lexeme.paren t.lexemes := by
  simp [lexemesAt, h]

@[simp] lemma lexemesAt_zero (t : Term) : t.lexemesAt 0 = t.lexemes := lexemesAt_of_le (Nat.zero_le _)

/-! The lexemes of each node, its children written at their places. -/

section Lexemes

variable {op : BinaryOp} {l r : Term}

@[simp] lemma lexemes_name (x : Ident) : (name x).lexemes = [.name x] := rfl

@[simp] lemma lexemes_int (k : Nat) : (int k).lexemes = [.int k] := rfl

@[simp] lemma lexemes_binary :
    (binary op l r).lexemes = l.lexemesAt op.leftPrec ++ .punct op.punct :: r.lexemesAt op.rightPrec :=
  rfl

@[simp] lemma lexemes_unary (op : UnaryOp) (a : Term) :
    (unary op a).lexemes = op.lexeme :: a.lexemesAt op.prec :=
  rfl

@[simp] lemma lexemes_boolOp (op : BoolOp) :
    (boolOp op l r).lexemes = l.lexemesAt op.prec ++ .keyword op.keyword :: r.lexemesAt (op.prec + 1) :=
  rfl

@[simp] lemma lexemes_compare (op : CmpOp) (links : List (CmpOp × Term)) :
    (compare l op r links).lexemes = l.lexemesAt 5 ++ op.lexemes ++ r.lexemesAt 5 ++ linkLexemes links :=
  rfl

@[simp] lemma lexemes_ifElse (test body orelse : Term) :
    (ifElse test body orelse).lexemes =
      body.lexemesAt 1 ++ .keyword .if :: test.lexemesAt 1 ++ .keyword .else :: orelse.lexemes :=
  rfl

@[simp] lemma lexemes_await (v : Term) : (await v).lexemes = .keyword .await :: v.lexemesAt 14 :=
  rfl

@[simp] lemma lexemes_attribute (v : Term) (a : Ident) :
    (Term.attribute v a).lexemes = v.lexemesAt 14 ++ [.punct .dot, .name a] :=
  rfl

@[simp] lemma lexemes_call (f : Term) (args : List Term) :
    (call f args).lexemes = f.lexemesAt 14 ++ Lexeme.paren (commaLexemes args) :=
  rfl

@[simp] lemma lexemes_subscript (v i : Term) :
    (subscript v i).lexemes = v.lexemesAt 14 ++ .punct .lbracket :: i.lexemes ++ [.punct .rbracket] :=
  rfl

@[simp] lemma lexemes_tuple (items : List Term) : (tuple items).lexemes = Lexeme.paren (tupleLexemes items) :=
  rfl

@[simp] lemma lexemes_list (items : List Term) :
    (list items).lexemes = .punct .lbracket :: commaLexemes items ++ [.punct .rbracket] :=
  rfl

@[simp] lemma commaLexemes_nil : commaLexemes [] = [] := rfl

@[simp] lemma commaLexemes_single (t : Term) : commaLexemes [t] = t.lexemes :=
  List.append_nil _

@[simp] lemma commaLexemes_cons_cons (t u : Term) (us : List Term) :
    commaLexemes (t :: u :: us) = t.lexemes ++ .punct .comma :: commaLexemes (u :: us) :=
  rfl

@[simp] lemma tupleLexemes_single (t : Term) : tupleLexemes [t] = t.lexemes ++ [.punct .comma] :=
  rfl

lemma tupleLexemes_of_ne {items : List Term} (h : ∀ t, items ≠ [t]) :
    tupleLexemes items = commaLexemes items := by
  match items, h with
  | [], _ => rfl
  | [t], h => exact absurd rfl (h t)
  | _ :: _ :: _, _ => rfl

@[simp] lemma linkLexemes_nil : linkLexemes [] = [] := rfl

@[simp] lemma linkLexemes_cons (op : CmpOp) (links : List (CmpOp × Term)) :
    linkLexemes ((op, r) :: links) = op.lexemes ++ r.lexemesAt 5 ++ linkLexemes links :=
  rfl

end Lexemes

end Term

namespace Dump

/-! The writer's functions for lists take an item off and go on with the rest; these equations
say so by unfolding the definitions, which is quicker than having their equations generated. -/

lemma exprs_cons (src : Source) (out : String) (e : Expr) (es : List Expr) :
    exprs src out (e :: es) = exprs src (expr src (out ++ " ") e) es := rfl

lemma arguments_nil (src : Source) (out : String) : arguments src out [] = out := rfl

lemma arguments_positional (src : Source) (out : String) (e : Expr) (args : List Arg) :
    arguments src out (.positional e :: args) = arguments src (expr src (out ++ " ") e) args := rfl

lemma chain_nil (src : Source) (out : String) : chain src out [] = out := rfl

lemma chain_cons (src : Source) (out : String) (op : CmpOp) (r : Expr) (links : List Link) :
    chain src out (.mk op r :: links) = chain src (expr src (out ++ " " ++ op.symbol ++ " ") r) links :=
  rfl

/-! So do these, for each node a term is read as. -/

section Nodes

variable (src : Source) (out : String) (sp : Span)

lemma expr_name : expr src out (.name sp) = out ++ src.slice sp := rfl

lemma expr_number (k : NumberKind) : expr src out (.number k sp) = out ++ src.slice sp := rfl

lemma expr_binary (op : BinaryOp) (l r : Expr) :
    expr src out (.binary op l r sp) = expr src (expr src (out ++ "(" ++ op.symbol ++ " ") l ++ " ") r ++ ")" :=
  rfl

lemma expr_unary (op : UnaryOp) (e : Expr) :
    expr src out (.unary op e sp) = expr src (out ++ "(" ++ op.symbol ++ " ") e ++ ")" := rfl

lemma expr_boolOp (op : BoolOp) (l r : Expr) :
    expr src out (.boolOp op l r sp) = expr src (expr src (out ++ "(" ++ op.symbol ++ " ") l ++ " ") r ++ ")" :=
  rfl

lemma expr_compare (l : Expr) (links : List Link) :
    expr src out (.compare l links sp) = chain src (expr src (out ++ "(cmp ") l) links ++ ")" := rfl

lemma expr_ifElse (test body orelse : Expr) :
    expr src out (.ifElse test body orelse sp) =
      expr src (expr src (expr src (out ++ "(if ") test ++ " ") body ++ " ") orelse ++ ")" := rfl

lemma expr_await (v : Expr) : expr src out (.await v sp) = expr src (out ++ "(await ") v ++ ")" := rfl

lemma expr_attribute (v : Expr) (attr : Span) :
    expr src out (.attribute v attr sp) = expr src (out ++ "(. ") v ++ " " ++ src.slice attr ++ ")" := rfl

lemma expr_call (f : Expr) (args : List Arg) :
    expr src out (.call f args sp) = arguments src (expr src (out ++ "(call ") f) args ++ ")" := rfl

lemma expr_subscript (v i : Expr) :
    expr src out (.subscript v i sp) = expr src (expr src (out ++ "(index ") v ++ " ") i ++ ")" := rfl

lemma expr_tuple (items : List Expr) : expr src out (.tuple items sp) = exprs src (out ++ "(tuple") items ++ ")" :=
  rfl

lemma expr_list (items : List Expr) : expr src out (.list items sp) = exprs src (out ++ "(list") items ++ ")" :=
  rfl

lemma exprs_nil : exprs src out [] = out := rfl

end Nodes

end Dump

namespace Term

variable {t : Term} {L : Nat}

/-! ## Trees that read as a term

A tree the grammar builds holds spans into its source, not names; it reads as a term when its
dump over the source is the term's. The lemmas below build that up node by node. -/

/-- A tree reads as a term: it is no starred expression, and its dump over the source, after
any text, is that text followed by the term's dump. -/
def Reads (src : Source) (t : Term) (e : Expr) : Prop :=
  e.isStarred = false ∧ ∀ out, Dump.expr src out e = out ++ t.dump

variable {src : Source} {sp : Span}

lemma reads_name {x : Ident} (h : src.slice sp = x.text) : (Term.name x).Reads src (.name sp) :=
  ⟨rfl, fun out => by rw [Dump.expr_name, dump_name, h]⟩

lemma reads_int {k : Nat} (h : src.slice sp = toString k) :
    (Term.int k).Reads src (.number .int sp) :=
  ⟨rfl, fun out => by rw [Dump.expr_number, dump_int, h]⟩

lemma reads_binary {op : BinaryOp} {l r : Term} {el er : Expr} (hl : l.Reads src el)
    (hr : r.Reads src er) : (binary op l r).Reads src (.binary op el er sp) :=
  ⟨rfl, fun out => by
    simp only [Dump.expr_binary, dump_binary, hl.2, hr.2, String.append_assoc]⟩

lemma reads_unary {op : UnaryOp} {a : Term} {ea : Expr} (ha : a.Reads src ea) :
    (unary op a).Reads src (.unary op ea sp) :=
  ⟨rfl, fun out => by simp only [Dump.expr_unary, dump_unary, ha.2, String.append_assoc]⟩

lemma reads_boolOp {op : BoolOp} {l r : Term} {el er : Expr} (hl : l.Reads src el)
    (hr : r.Reads src er) : (boolOp op l r).Reads src (.boolOp op el er sp) :=
  ⟨rfl, fun out => by
    simp only [Dump.expr_boolOp, dump_boolOp, hl.2, hr.2, String.append_assoc]⟩

lemma reads_ifElse {test body orelse : Term} {et eb eo : Expr} (ht : test.Reads src et)
    (hb : body.Reads src eb) (ho : orelse.Reads src eo) :
    (ifElse test body orelse).Reads src (.ifElse et eb eo sp) :=
  ⟨rfl, fun out => by
    simp only [Dump.expr_ifElse, dump_ifElse, ht.2, hb.2, ho.2, String.append_assoc]⟩

lemma reads_await {v : Term} {ev : Expr} (hv : v.Reads src ev) :
    (await v).Reads src (.await ev sp) :=
  ⟨rfl, fun out => by simp only [Dump.expr_await, dump_await, hv.2, String.append_assoc]⟩

lemma reads_attribute {v : Term} {a : Ident} {ev : Expr} {sa : Span} (hv : v.Reads src ev)
    (ha : src.slice sa = a.text) : (Term.attribute v a).Reads src (.attribute ev sa sp) :=
  ⟨rfl, fun out => by
    simp only [Dump.expr_attribute, dump_attribute, hv.2, ha, String.append_assoc]⟩

lemma reads_subscript {v i : Term} {ev ei : Expr} (hv : v.Reads src ev) (hi : i.Reads src ei) :
    (subscript v i).Reads src (.subscript ev ei sp) :=
  ⟨rfl, fun out => by
    simp only [Dump.expr_subscript, dump_subscript, hv.2, hi.2, String.append_assoc]⟩

/-- Trees that read as terms one by one: their dumps, each after a space. -/
lemma exprs_of_forall₂ {ts : List Term} {es : List Expr} (h : List.Forall₂ (Reads src) ts es)
    (out : String) : Dump.exprs src out es = out ++ dumpItems ts := by
  induction h generalizing out with
  | nil => rw [Dump.exprs_nil, dumpItems_nil, String.append_empty]
  | cons hx _ ih =>
    rw [Dump.exprs_cons, ih, hx.2, dumpItems_cons]
    simp only [String.append_assoc]

/-- Positional arguments that read as terms one by one. -/
lemma arguments_of_forall₂ {ts : List Term} {es : List Expr} (h : List.Forall₂ (Reads src) ts es)
    (out : String) : Dump.arguments src out (es.map .positional) = out ++ dumpItems ts := by
  induction h generalizing out with
  | nil => rw [List.map_nil, Dump.arguments_nil, dumpItems_nil, String.append_empty]
  | cons hx _ ih =>
    rw [List.map_cons, Dump.arguments_positional, ih, hx.2, dumpItems_cons]
    simp only [String.append_assoc]

lemma reads_call {f : Term} {args : List Term} {ef : Expr} {es : List Expr} (hf : f.Reads src ef)
    (hargs : List.Forall₂ (Reads src) args es) :
    (call f args).Reads src (.call ef (es.map .positional) sp) :=
  ⟨rfl, fun out => by
    simp only [Dump.expr_call, dump_call, hf.2, arguments_of_forall₂ hargs, String.append_assoc]⟩

lemma reads_tuple {items : List Term} {es : List Expr} (h : List.Forall₂ (Reads src) items es) :
    (tuple items).Reads src (.tuple es sp) :=
  ⟨rfl, fun out => by simp only [Dump.expr_tuple, dump_tuple, exprs_of_forall₂ h, String.append_assoc]⟩

lemma reads_list {items : List Term} {es : List Expr} (h : List.Forall₂ (Reads src) items es) :
    (list items).Reads src (.list es sp) :=
  ⟨rfl, fun out => by simp only [Dump.expr_list, dump_list, exprs_of_forall₂ h, String.append_assoc]⟩

/-- A comparison link reads as an operator and a term. -/
def LinkReads (src : Source) (x : CmpOp × Term) (lk : Link) : Prop :=
  lk = .mk x.1 (match lk with | .mk _ r => r) ∧ x.2.Reads src (match lk with | .mk _ r => r)

/-- Links that read one by one: each operator and right operand after a space. -/
lemma chain_of_forall₂ {xs : List (CmpOp × Term)} {ls : List Link}
    (h : List.Forall₂ (LinkReads src) xs ls) (out : String) :
    Dump.chain src out ls = out ++ dumpLinks xs := by
  induction h generalizing out with
  | nil => rw [Dump.chain_nil, dumpLinks_nil, String.append_empty]
  | @cons x lk _ _ hx _ ih =>
    obtain ⟨op, r⟩ := x
    obtain ⟨op', er⟩ := lk
    obtain ⟨heq, hr⟩ := hx
    simp only [Link.mk.injEq] at heq
    obtain ⟨rfl, -⟩ := heq
    rw [Dump.chain_cons, ih, hr.2, dumpLinks_cons]
    simp only [String.append_assoc]

lemma reads_compare {l r : Term} {op : CmpOp} {links : List (CmpOp × Term)} {el : Expr}
    {ls : List Link} (hl : l.Reads src el) (hls : List.Forall₂ (LinkReads src) ((op, r) :: links) ls) :
    (compare l op r links).Reads src (.compare el ls sp) := by
  refine ⟨rfl, fun out => ?_⟩
  rw [Dump.expr_compare, chain_of_forall₂ hls, hl.2, dumpLinks_cons, dump_compare]
  simp only [String.append_assoc]

end Term

end ExprFront
