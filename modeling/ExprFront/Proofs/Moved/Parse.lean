import Mathlib
import ExprFront.Proofs.Moved.Brackets
import ExprFront.Proofs.Spans.Lexed

/-!
# A byte-order mark only moves what is parsed

A text behind a byte-order mark is lexed to its own tokens three bytes on
(`tokenize_byteOrderMark`). Over such a stream the whole input is parsed as over the stream
alone, with every span of the tree moved (`Grammar.wholeInput_shifts`, from `Grammar.shifts`),
and the dump of a moved tree over the moved text reads the same bytes at the moved spans
(`Expr.dump_shift`). Together: the mark changes no dump, and moves the site of every error by
its three bytes (`byteOrderMark_only_moves`).
-/

namespace ExprFront

/-! ## The dump of a moved tree -/

namespace Dump

/-! Unfolding the writer of call arguments is quicker than having its equations generated. -/

lemma arguments_star (src : Source) (out : String) (e : Expr) (args : List Arg) :
    arguments src out (.star e :: args) = arguments src (expr src (out ++ " " ++ "(* ") e ++ ")") args :=
  rfl

lemma arguments_doubleStar (src : Source) (out : String) (e : Expr) (args : List Arg) :
    arguments src out (.doubleStar e :: args) =
      arguments src (expr src (out ++ " " ++ "(** ") e ++ ")") args :=
  rfl

lemma arguments_keyword (src : Source) (out : String) (name : Span) (e : Expr) (args : List Arg) :
    arguments src out (.keyword name e :: args) =
      arguments src (expr src (out ++ " " ++ "(kw " ++ src.slice name ++ " ") e ++ ")") args :=
  rfl

variable {k : Nat} {src src' : Source}

/-! The writer reads the text only through the slices of the spans it meets; a moved tree over
the moved text meets the moved spans, whose slices are the same. One statement per writer, by
recursion along the tree as the writers recurse. -/

mutual

theorem expr_shift (h : src.Moved k src') (out : String) :
    ∀ e : Expr, expr src' out (e.shift k) = expr src out e
  | .name sp => by simp only [Expr.shift_name, expr, h.slice]
  | .number _ sp => by simp only [Expr.shift_number, expr, h.slice]
  | .constant c _ => by simp only [Expr.shift_constant, expr]
  | .str _ body _ => by simp only [Expr.shift_str, expr, h.slice]
  | .fstring _ parts _ => by simp only [Expr.shift_fstring, expr, fparts_shift h]
  | .concat items _ => by simp only [Expr.shift_concat, expr, exprs_shift h]
  | .attribute value attr _ => by simp only [Expr.shift_attribute, expr, expr_shift h, h.slice]
  | .call func args _ => by simp only [Expr.shift_call, expr, expr_shift h, arguments_shift h]
  | .subscript value index _ => by simp only [Expr.shift_subscript, expr, expr_shift h]
  | .slice lower upper step _ => by simp only [Expr.shift_slice, expr, optional_shift h]
  | .binary op l r _ => by simp only [Expr.shift_binary, expr, expr_shift h]
  | .unary op e _ => by simp only [Expr.shift_unary, expr, expr_shift h]
  | .boolOp op l r _ => by simp only [Expr.shift_boolOp, expr, expr_shift h]
  | .compare left links _ => by simp only [Expr.shift_compare, expr, expr_shift h, chain_shift h]
  | .ifElse test body orelse _ => by simp only [Expr.shift_ifElse, expr, expr_shift h]
  | .lambda params body _ => by
    simp only [Expr.shift_lambda, expr, expr_shift h, parameters_shift h]
  | .namedExpr target value _ => by simp only [Expr.shift_namedExpr, expr, expr_shift h]
  | .starred value _ => by simp only [Expr.shift_starred, expr, expr_shift h]
  | .yield value _ => by simp only [Expr.shift_yield, expr, optionalYield_shift h]
  | .yieldFrom value _ => by simp only [Expr.shift_yieldFrom, expr, expr_shift h]
  | .await value _ => by simp only [Expr.shift_await, expr, expr_shift h]
  | .tuple items _ => by simp only [Expr.shift_tuple, expr, exprs_shift h]
  | .list items _ => by simp only [Expr.shift_list, expr, exprs_shift h]
  | .set items _ => by simp only [Expr.shift_set, expr, exprs_shift h]
  | .dict es _ => by simp only [Expr.shift_dict, expr, entries_shift h]
  | .listComp elt cs _ => by simp only [Expr.shift_listComp, expr, expr_shift h, clauses_shift h]
  | .setComp elt cs _ => by simp only [Expr.shift_setComp, expr, expr_shift h, clauses_shift h]
  | .generator elt cs _ => by simp only [Expr.shift_generator, expr, expr_shift h, clauses_shift h]
  | .dictComp key value cs _ => by
    simp only [Expr.shift_dictComp, expr, expr_shift h, clauses_shift h]

theorem exprs_shift (h : src.Moved k src') (out : String) :
    ∀ es : List Expr, exprs src' out (es.map (Expr.shift k)) = exprs src out es
  | [] => rfl
  | e :: rest => by simp only [List.map_cons, exprs, expr_shift h, exprs_shift h]

theorem optionalYield_shift (h : src.Moved k src') (out : String) :
    ∀ e? : Option Expr, optionalYield src' out (e?.map (Expr.shift k)) = optionalYield src out e?
  | some e => by simp only [Option.map_some, optionalYield, expr_shift h]
  | none => rfl

theorem optional_shift (h : src.Moved k src') (out : String) :
    ∀ e? : Option Expr, optional src' out (e?.map (Expr.shift k)) = optional src out e?
  | some e => by simp only [Option.map_some, optional, expr_shift h]
  | none => rfl

theorem fparts_shift (h : src.Moved k src') (out : String) :
    ∀ ps : List FPart, fparts src' out (ps.map (FPart.shift k)) = fparts src out ps
  | [] => rfl
  | .literal sp :: rest => by
    simp only [List.map_cons, FPart.shift_literal, fparts, h.slice, fparts_shift h]
  | .field f :: rest => by
    simp only [List.map_cons, FPart.shift_field, fparts, field_shift h, fparts_shift h]

theorem field_shift (h : src.Moved k src') (out : String) :
    ∀ f : Field, field src' out (f.shift k) = field src out f
  | .mk e debug conv spec _ => by
    cases debug <;> cases spec <;>
      simp only [Field.shift_mk, field, expr_shift h, fparts_shift h, h.slice, Option.map_some,
        Option.map_none]

theorem arguments_shift (h : src.Moved k src') (out : String) :
    ∀ as : List Arg, arguments src' out (as.map (Arg.shift k)) = arguments src out as
  | [] => rfl
  | .positional v :: rest => by
    rw [List.map_cons, Arg.shift_positional, arguments_positional, arguments_positional, expr_shift h,
      arguments_shift h]
  | .star v :: rest => by
    rw [List.map_cons, Arg.shift_star, arguments_star, arguments_star, expr_shift h, arguments_shift h]
  | .doubleStar v :: rest => by
    rw [List.map_cons, Arg.shift_doubleStar, arguments_doubleStar, arguments_doubleStar, expr_shift h,
      arguments_shift h]
  | .keyword name v :: rest => by
    rw [List.map_cons, Arg.shift_keyword, arguments_keyword, arguments_keyword, h.slice, expr_shift h,
      arguments_shift h]

theorem chain_shift (h : src.Moved k src') (out : String) :
    ∀ ls : List Link, chain src' out (ls.map (Link.shift k)) = chain src out ls
  | [] => rfl
  | .mk op right :: rest => by
    simp only [List.map_cons, Link.shift_mk, chain, expr_shift h, chain_shift h]

theorem parameters_shift (h : src.Moved k src') (out : String) (first : Bool) :
    ∀ ps : List Param, parameters src' out first (ps.map (Param.shift k)) = parameters src out first ps
  | [] => rfl
  | .mk kind name default :: rest => by
    cases default <;>
      simp only [List.map_cons, Param.shift_mk, parameters, expr_shift h, parameters_shift h, h.slice,
        Option.map_some, Option.map_none]

theorem entries_shift (h : src.Moved k src') (out : String) :
    ∀ ds : List DictEntry, entries src' out (ds.map (DictEntry.shift k)) = entries src out ds
  | [] => rfl
  | .pair key v :: rest => by
    simp only [List.map_cons, DictEntry.shift_pair, entries, expr_shift h, entries_shift h]
  | .unpack v :: rest => by
    simp only [List.map_cons, DictEntry.shift_unpack, entries, expr_shift h, entries_shift h]

theorem clauses_shift (h : src.Moved k src') (out : String) :
    ∀ cs : List Clause, clauses src' out (cs.map (Clause.shift k)) = clauses src out cs
  | [] => rfl
  | .mk isAsync target iter ifs :: rest => by
    simp only [List.map_cons, Clause.shift_mk, clauses, expr_shift h, conditions_shift h,
      clauses_shift h]

theorem conditions_shift (h : src.Moved k src') (out : String) :
    ∀ cs : List Expr, conditions src' out (cs.map (Expr.shift k)) = conditions src out cs
  | [] => rfl
  | c :: rest => by simp only [List.map_cons, conditions, expr_shift h, conditions_shift h]

end

end Dump

/-- **A moved tree dumps over the moved text as the tree over the text.** -/
theorem Expr.dump_shift {k : Nat} {src src' : Source} (h : src.Moved k src') (e : Expr) :
    (e.shift k).dump src' = e.dump src :=
  Dump.expr_shift h "" e

/-! ## The whole input on a moved stream -/

@[simp] lemma TokenKind.shift_bne_eof (k : Nat) (kind : TokenKind) :
    (kind.shift k != .eof) = (kind != .eof) := by
  simp only [bne, TokenKind.shift_beq k (show ∀ text, TokenKind.eof ≠ .fstringEnd text by simp)]

namespace Grammar

open ParseM

variable {k : Nat} {ts ts' : TokenStream}

/-- The whole input runs alike on a stream and on the stream moved, from its first token. -/
lemma wholeInput_shifts (hM : ts.Moved k ts') (hts : ts.Ordered) (n : Nat) :
    Moves k ts ts' (fun a a' => a' = a.shift k) (wholeInput n) (wholeInput n) 0 := by
  have hst := shifts hM hts n
  have hmod : ∀ (t : TokenStream) q, (modify fun pos => skipNewlines t pos : ParseM PUnit) t q =
      .ok ((), skipNewlines t q) := fun _ _ => rfl
  have hp := skipNewlines_lt hts.nonempty
  rw [wholeInput]
  refine Moves.of_ok_bind rfl rfl (Moves.of_ok_bind (hmod ts 0) (by rw [hmod, hM.skipNewlines])
    (moves_check_bind hM (by simp) ?_))
  extract_lets jp jp'
  have hjp : ∀ root q, q < ts.tokens.size →
      Moves k ts ts' (fun a a' => a' = a.shift k) (jp root) (jp' (root.shift k)) q := by
    intro root q hq
    simp only [jp, jp']
    refine Moves.of_ok_bind (hmod ts q) (by rw [hmod, hM.skipNewlines]) (moves_currentKind_bind hM ?_)
    rw [TokenKind.shift_bne_eof]
    exact Moves.ite (fun _ => moves_failUnexpected hM) fun _ => moves_pure (skipNewlines_lt hq) rfl
  clear_value jp jp'
  exact Moves.ite (fun _ => (hst.yieldExpr _ hp).bind_map fun root q _ hq => hjp root q hq)
    fun _ => (hst.sequence .star _ hp).bind_map fun root q _ hq => hjp root q hq

end Grammar

/-- **The tokens of a moved stream parse to the tree moved**, or fail with the error moved. -/
theorem Expr.ofTokens_moved {k : Nat} {src src' : Source} {tokens tokens' : Array Token}
    (hM : TokenStream.Moved k ⟨src, tokens⟩ ⟨src', tokens'⟩) (hts : TokenStream.Ordered ⟨src, tokens⟩) :
    Expr.ofTokens src' tokens' =
      ((Expr.ofTokens src tokens).map (Expr.shift k)).mapError (SyntaxError.shift k) := by
  have h := Grammar.wholeInput_shifts hM hts (64 * (tokens.size + 1))
  have hsize : tokens'.size = tokens.size := hM.size
  unfold ParseM.Moves at h
  simp only [Expr.ofTokens, ReaderT.run, StateT.run, hsize]
  cases hw : Grammar.wholeInput (64 * (tokens.size + 1)) ⟨src, tokens⟩ 0 with
  | error e =>
    cases hw' : Grammar.wholeInput (64 * (tokens.size + 1)) ⟨src', tokens'⟩ 0 with
    | error e' =>
      rw [hw, hw'] at h
      simp [h, Except.map, Except.mapError]
    | ok r' =>
      rw [hw, hw'] at h
      exact h.elim
  | ok r =>
    obtain ⟨a, q⟩ := r
    cases hw' : Grammar.wholeInput (64 * (tokens.size + 1)) ⟨src', tokens'⟩ 0 with
    | error e' =>
      rw [hw, hw'] at h
      exact h.elim
    | ok r' =>
      obtain ⟨a', q'⟩ := r'
      rw [hw, hw'] at h
      obtain ⟨ha, -, -⟩ := h
      simp [ha, Except.map, Except.mapError]

/-! ## The text behind the mark -/

/-- A parse error `k` bytes further on: a lexical or a syntax error moved; a panic has no place. -/
def ParseError.shift (k : Nat) : ParseError → ParseError
  | .lexical e => .lexical (e.shift k)
  | .syntactic e => .syntactic (e.shift k)
  | .aborted m => .aborted m

/-- A failure of the parser moved stands for the parse error it stood for, moved. -/
lemma ParseError.ofSyntax_shift (k : Nat) (e : SyntaxError) :
    ParseError.ofSyntax (e.shift k) = (ParseError.ofSyntax e).shift k := by
  cases h : e.aborts <;> simp [ParseError.ofSyntax, SyntaxError.shift, ParseError.shift, h]

/-- A lexical error moved stands for the parse error it stood for, moved. -/
lemma ParseError.ofLex_shift (k : Nat) (e : LexError) :
    ParseError.ofLex (e.shift k) = (ParseError.ofLex e).shift k := by
  cases hc : e.kind.category <;>
    simp [ParseError.ofLex, LexError.shift, hc, ParseError.shift, SyntaxError.shift]

/-- The token at a position of a stream whose tokens are all mapped is the mapped token. -/
lemma TokenStream.tokenAt_map {src src' : Source} {tokens : Array Token} (hne : 0 < tokens.size)
    (f : Token → Token) (i : Nat) :
    (⟨src', tokens.map f⟩ : TokenStream).tokenAt i = f ((⟨src, tokens⟩ : TokenStream).tokenAt i) := by
  by_cases hi : i < tokens.size
  · simp [TokenStream.tokenAt, hi]
  · have hlast : tokens.back? = some tokens[tokens.size - 1] := by
      rw [Array.back?_eq_getElem?, Array.getElem?_eq_getElem (by omega)]
    simp [TokenStream.tokenAt, hi, hlast]

/-- A stream whose tokens are all moved, over the moved text, is the stream moved. -/
lemma TokenStream.moved_map {k : Nat} {g : LineCol → LineCol} {src src' : Source} {tokens : Array Token}
    (hsrc : src.Moved k src') (hne : 0 < tokens.size) :
    TokenStream.Moved k ⟨src, tokens⟩ ⟨src', tokens.map (Token.moveBy k g)⟩ :=
  ⟨hsrc, Array.size_map .., fun i => by
    rw [TokenStream.tokenAt_map hne]
    exact ⟨rfl, rfl⟩⟩

/-- **A byte-order mark changes no dump.** A text that does not start with the mark, parsed
behind it, gives a tree with the same dump, or the same error three bytes on. -/
theorem Expr.parse_byteOrderMark {s : String} (hs : s.startsWith "\uFEFF" = false)
    (hsize : s.utf8ByteSize + 3 ≤ maxSourceSize) (limits : ScanLimits) :
    (Expr.parse ("\uFEFF" ++ s) limits).map (Expr.dump (Source.ofString ("\uFEFF" ++ s))) =
      ((Expr.parse s limits).map (Expr.dump (Source.ofString s))).mapError (ParseError.shift 3) := by
  have hmark := Source.moved_byteOrderMark s
  unfold Expr.parse
  rw [tokenize_byteOrderMark hs hsize limits]
  cases hlex : tokenize s limits with
  | error e => simp [Except.map, Except.mapError, ParseError.ofLex_shift]
  | ok tokens =>
    have hts := tokenize_ordered hlex
    have hM := TokenStream.moved_map (g := LineCol.afterMark 1) hmark hts.nonempty
    simp only [Except.map, Except.mapError]
    rw [Expr.ofTokens_moved hM hts]
    cases Expr.ofTokens (Source.ofString s) tokens with
    | error e => simp [Except.map, Except.mapError, ParseError.ofSyntax_shift]
    | ok e => simp [Except.map, Except.mapError, Expr.dump_shift hmark]

/-- **A byte-order mark only moves positions**, in a text whose offsets with the mark and the
five-byte opener lookahead stay within 32 bits: the same tokens, tree or error, three bytes on. -/
theorem byteOrderMark_only_moves {s : String} (hs : s.startsWith "\uFEFF" = false)
    (hsize : s.utf8ByteSize + 8 ≤ maxSourceSize) (limits : ScanLimits) :
    tokenize ("\uFEFF" ++ s) limits =
        ((tokenize s limits).map (·.map (Token.moveBy 3 (LineCol.afterMark 1)))).mapError
          (LexError.shift 3) ∧
      (Expr.parse ("\uFEFF" ++ s) limits).map (Expr.dump (Source.ofString ("\uFEFF" ++ s))) =
        ((Expr.parse s limits).map (Expr.dump (Source.ofString s))).mapError (ParseError.shift 3) :=
  have hmark : s.utf8ByteSize + 3 ≤ maxSourceSize := Nat.le_trans (by omega) hsize
  ⟨tokenize_byteOrderMark hs hmark limits, Expr.parse_byteOrderMark hs hmark limits⟩

/-- The mark before an f-string and a string literal that run together. -/
theorem byteOrderMark_only_moves_concat :
    "f\"{a}\" \"b\"".startsWith "\uFEFF" = false ∧
      "f\"{a}\" \"b\"".utf8ByteSize + 8 ≤ maxSourceSize ∧
      (tokenize ("\uFEFF" ++ "f\"{a}\" \"b\"") {} =
          ((tokenize "f\"{a}\" \"b\"" {}).map (·.map (Token.moveBy 3 (LineCol.afterMark 1)))).mapError
            (LexError.shift 3) ∧
        (Expr.parse ("\uFEFF" ++ "f\"{a}\" \"b\"") {}).map
            (Expr.dump (Source.ofString ("\uFEFF" ++ "f\"{a}\" \"b\""))) =
          ((Expr.parse "f\"{a}\" \"b\"" {}).map (Expr.dump (Source.ofString "f\"{a}\" \"b\""))).mapError
            (ParseError.shift 3)) :=
  ⟨by simp, by decide, byteOrderMark_only_moves (by simp) (by decide) {}⟩

end ExprFront
