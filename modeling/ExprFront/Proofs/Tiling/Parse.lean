import Mathlib
import ExprFront.Proofs.Spans.Sound
import ExprFront.Proofs.Tiling.Operators
import ExprFront.Proofs.Tiling.Trailers
import ExprFront.Proofs.Tiling.Expressions
import ExprFront.Proofs.Tiling.Displays
import ExprFront.Proofs.Tiling.Literals

/-!
# The parts of every f-string of a parsed expression tile its body

The step lemmas of the productions give, by induction on the fuel, that every production keeps
its tiling contract at every fuel (`Grammar.tiles`), on the tokens of any text, which are laid
(`tokenize_laid`). So the expression of a text is tiled, and every f-string in it has parts that
lie end to end over its body (`parse_fstring_parts_tile`).
-/

namespace ExprFront

namespace Grammar

open TokenStream ParseM

variable {ts : TokenStream}

/-- Every production with one more unit of fuel keeps its tiling contract when those it calls
keep theirs. -/
lemma tiles_succ (hts : ts.Laid) {n : Nat} (ih : Tiles ts n) : Tiles ts (n + 1) where
  fieldExpression := fieldExpression_tiles ih
  sequence := sequence_tiles ih
  sequenceRest := sequenceRest_tiles ih
  element := element_tiles ih
  starred := starred_tiles ih
  namedExpression := namedExpression_tiles hts ih
  expression := expression_tiles ih
  yieldExpr := yieldExpr_tiles ih
  lambda := lambda_tiles ih
  lambdaParams := lambdaParams_tiles ih
  lambdaParam := lambdaParam_tiles ih
  disjunction := disjunction_tiles ih
  disjunctionRest := disjunctionRest_tiles ih
  conjunction := conjunction_tiles ih
  conjunctionRest := conjunctionRest_tiles ih
  inversion := inversion_tiles ih
  comparison := comparison_tiles ih
  comparisonLinks := comparisonLinks_tiles hts ih
  operatorChain := operatorChain_tiles ih
  chainRest := chainRest_tiles ih
  operand := operand_tiles ih
  factor := factor_tiles ih
  power := power_tiles ih
  awaitPrimary := awaitPrimary_tiles ih
  primary := primary_tiles ih
  trailers := trailers_tiles ih
  call := call_tiles hts ih
  arguments := arguments_tiles hts ih
  loneGenerator := loneGenerator_tiles ih
  subscript := subscript_tiles hts ih
  slices := slices_tiles ih
  slicesRest := slicesRest_tiles ih
  slice := slice_tiles ih
  sliceTail := sliceTail_tiles ih
  bound := bound_tiles ih
  atom := atom_tiles ih
  strings := strings_tiles ih
  parenthesized := parenthesized_tiles hts ih
  parenContents := parenContents_tiles hts ih
  listForm := listForm_tiles hts ih
  listContents := listContents_tiles hts ih
  braceForm := braceForm_tiles hts ih
  braceContents := braceContents_tiles hts ih
  dictEntries := dictEntries_tiles hts ih
  entry := entry_tiles ih
  moreElements := moreElements_tiles ih
  clauses := clauses_tiles ih
  clause := clause_tiles ih
  conditions := conditions_tiles ih
  forTarget := forTarget_tiles ih
  forTargetRest := forTargetRest_tiles ih
  forTargetItem := forTargetItem_tiles ih
  fstring := fstring_tiles hts ih
  fstringParts := fstringParts_tiles hts ih
  field := field_tiles ih
  fieldContents := fieldContents_tiles hts ih
  formatSpec := formatSpec_tiles hts ih

/-- On laid tokens every production keeps its tiling contract, whatever its fuel. -/
theorem tiles (hts : ts.Laid) : ∀ n, Tiles ts n
  | 0 => tiles_zero
  | n + 1 => tiles_succ hts (tiles hts n)

/-- A whole input is one expression, read from the first token that is not a newline: it is
tiled. -/
lemma wholeInput_tiled (hts : ts.Laid) (fuel : Nat) :
    OkAt ts (wholeInput fuel) 0 fun e _ => e.Tiled ts := by
  have hp : skipNewlines ts 0 < ts.tokens.size := skipNewlines_lt hts.ordered.nonempty
  unfold wholeInput
  simp only [okAt_read_bind, okAt_modify_bind, okAt_check_bind]
  have hrest : ∀ (root : Expr) j, ts.Took (skipNewlines ts 0) j ∧ root.Tiled ts →
      OkAt ts (do
        modify fun pos => skipNewlines ts pos
        if (← currentKind) != .eof then failUnexpected "invalid syntax" else pure root) j
        fun (e : Expr) _ => e.Tiled ts := by
    rintro root j ⟨-, hroot⟩
    simp only [okAt_modify_bind, okAt_currentKind_bind]
    split
    · exact okAt_failUnexpected
    · simpa only [okAt_pure] using hroot
  split
  · rename_i hyield
    exact OkAt.bind ((tiles hts fuel).yieldExpr _ hp (beq_iff_eq.mp hyield)) hrest
  · exact OkAt.bind ((tiles hts fuel).sequence .star _ hp) hrest

end Grammar

/-- The expression that laid tokens hold is tiled. -/
theorem Expr.ofTokens_tiled {ts : TokenStream} (hts : ts.Laid) {e : Expr}
    (h : Expr.ofTokens ts.src ts.tokens = .ok e) : e.Tiled ts := by
  obtain ⟨j, hrun⟩ : ∃ j, Grammar.wholeInput (64 * (ts.tokens.size + 1)) ts 0 = .ok (e, j) := by
    unfold Expr.ofTokens at h
    cases hw : Grammar.wholeInput (64 * (ts.tokens.size + 1)) ts 0 with
    | error err => simp [ReaderT.run, StateT.run, hw, Except.map] at h
    | ok r =>
      obtain ⟨e', j⟩ := r
      simp only [ReaderT.run, StateT.run, hw, Except.map, Except.ok.injEq] at h
      exact ⟨j, h ▸ rfl⟩
  exact Grammar.wholeInput_tiled hts _ e j hrun

/-- **The parts of every f-string of a parsed expression tile its body.** Over the tokens of the
text, the parts of each f-string in the expression lie end to end from the end of its opener to
the start of its closing quotes (`PartsTile`): each piece of text is a text token's span or the
text of the end token, not empty, and never next to another; each field runs from its `{` to the
`}` that matches it, the parts of its format spec tiling in turn from just after its top-level
`:` to that `}`. An f-string has no parts exactly when its body is empty. -/
theorem parse_fstring_parts_tile {text : String} {limits : ScanLimits} {e : Expr}
    (h : Expr.parse text limits = .ok e) :
    ∃ toks, tokenize text limits = .ok toks ∧
      ∀ dl parts sp, (Expr.fstring dl parts sp).Below e →
        PartsTile ⟨Source.ofString text, toks⟩ (sp.start + dl.openLength) parts
            (sp.stop - dl.closeLength) ∧
          (parts = [] ↔ sp.start + dl.openLength = sp.stop - dl.closeLength) := by
  unfold Expr.parse at h
  split at h
  · cases h
  · next toks htoks =>
    split at h
    · next e' he =>
      cases h
      have hts := tokenize_laid htoks
      refine ⟨toks, htoks, fun dl parts sp hd => ?_⟩
      have htiles : PartsTile _ _ parts _ := (Expr.ofTokens_tiled hts he).reachable hd
      exact ⟨htiles, htiles.nil_iff hts.ordered⟩
    · cases h

/-- Whether a parse gives the f-string of text then a field with a format spec of a nested field
and text, as written in `f'a{x:{y}z}'`. -/
def isSpecFieldFString : Except ParseError Expr → Bool
  | .ok (.fstring ⟨.single, .single, ⟨false, false, false, true⟩, 1⟩
      [.literal ⟨2, 3⟩, .field (.mk (.name ⟨4, 5⟩) none none
        (some [.field (.mk (.name ⟨7, 8⟩) none none none ⟨6, 9⟩), .literal ⟨9, 10⟩]) ⟨3, 11⟩)]
      ⟨0, 12⟩) => true
  | _ => false

theorem parse_fstring_parts_tile_spec_field :
    ∃ toks, tokenize "f'a\x7bx:\x7by\x7dz\x7d'" {} = .ok toks ∧
      PartsTile ⟨Source.ofString "f'a\x7bx:\x7by\x7dz\x7d'", toks⟩ 2
        [.literal ⟨2, 3⟩, .field (.mk (.name ⟨4, 5⟩) none none
          (some [.field (.mk (.name ⟨7, 8⟩) none none none ⟨6, 9⟩), .literal ⟨9, 10⟩]) ⟨3, 11⟩)]
        11 := by
  have hcheck : isSpecFieldFString (Expr.parse "f'a\x7bx:\x7by\x7dz\x7d'" {}) = true := by
    decide +kernel
  have h : Expr.parse "f'a\x7bx:\x7by\x7dz\x7d'" {} =
      .ok (.fstring ⟨.single, .single, { formatted := true }, 1⟩
        [.literal ⟨2, 3⟩, .field (.mk (.name ⟨4, 5⟩) none none
          (some [.field (.mk (.name ⟨7, 8⟩) none none none ⟨6, 9⟩), .literal ⟨9, 10⟩]) ⟨3, 11⟩)]
        ⟨0, 12⟩) := by
    unfold isSpecFieldFString at hcheck
    split at hcheck
    · assumption
    · cases hcheck
  obtain ⟨toks, htoks, htile⟩ := parse_fstring_parts_tile h
  exact ⟨toks, htoks, (htile _ _ _ (.refl _)).1⟩

end ExprFront
