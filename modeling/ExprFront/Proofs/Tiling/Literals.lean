import Mathlib
import ExprFront.Proofs.Tiling.Contract

/-!
# Tiling through atoms, strings and f-strings

The f-string productions read the text of a literal or of a format spec one token at a time, and
the shape reader says what each token there can be. A piece of text comes only where no piece
came just before it, and is not empty (`ShapeState.read_middle`); a `{` opens a field, whose `}`
brings the reader back to the text it left, marked as having a piece (`stateAt_matches`); an end
token closes the literal as `Frame.EndFits` says, with text of its own only when nothing of the
literal was read before it (`ShapeState.read_end`). Every token read in text starts where the
one before it stops (`TokenStream.Laid.glued`), so the parts read so far tile up to the end of
the token before the one read next (`tiles_push_middle`, `tiles_push_field`), and at the end
token they tile the literal's body (`tiles_close`).
-/

namespace ExprFront

namespace ShapeState

variable {src : Source} {st st' : ShapeState} {t : Token}

/-- In text the reader reads a token as text. -/
lemma read_of_inText (htext : Frame.inText st.frames = true) :
    st.read src t = (Frame.readText src st.afterMiddle t st.frames).map
      fun frames => ⟨frames, t.kind == .fstringMiddle⟩ := by
  simp [read, htext]

/-- A piece of text is read only where no piece came just before it, and is not empty; the
innermost literal then has a piece. -/
lemma read_middle (htext : Frame.inText st.frames = true) (hk : t.kind = .fstringMiddle)
    (hr : st.read src t = some st') :
    st.afterMiddle = false ∧ t.span.start < t.span.stop ∧
      st'.frames = Frame.markPiece st.frames ∧ st'.afterMiddle = true := by
  rw [read_of_inText htext, Option.map_eq_some_iff] at hr
  obtain ⟨frames, hframes, rfl⟩ := hr
  unfold Frame.readText at hframes
  rw [hk] at hframes
  simp only at hframes
  split_ifs at hframes with hgo
  cases hframes
  simp only [Bool.and_eq_true, Bool.not_eq_true', decide_eq_true_eq] at hgo
  exact ⟨hgo.1, hgo.2, rfl, by simp [hk]⟩

/-- A `{` in text opens a field. -/
lemma read_lbrace (htext : Frame.inText st.frames = true) (hk : t.kind = .punct .lbrace) :
    st.read src t = some ⟨.field :: Frame.markPiece st.frames, false⟩ := by
  rw [read_of_inText htext]
  unfold Frame.readText
  rw [hk]
  rfl

/-- An end token closes the innermost literal, as `Frame.EndFits` says. -/
lemma read_end {d : Delimiter} {o text : Span} {p : Bool} {rest : List Frame}
    (hk : t.kind = .fstringEnd text) (hframes : st.frames = .literal d o p :: rest)
    (hr : st.read src t = some st') : Frame.EndFits src d o p t text ∧ st'.frames = rest := by
  rw [read_of_inText (by rw [hframes]; rfl), Option.map_eq_some_iff] at hr
  obtain ⟨frames, hread, rfl⟩ := hr
  unfold Frame.readText at hread
  rw [hk, hframes] at hread
  simp only at hread
  split_ifs at hread with hfits
  cases hread
  exact ⟨hfits, rfl⟩

/-- A start token, read in code, opens a literal with no piece yet. -/
lemma read_fstringStart {d : Delimiter} (hk : t.kind = .fstringStart d)
    (hr : st.read src t = some st') : st'.frames = .literal d t.span false :: st.frames := by
  simp only [read, Option.map_eq_some_iff] at hr
  obtain ⟨frames, hframes, rfl⟩ := hr
  split at hframes
  · unfold Frame.readText at hframes
    rw [hk] at hframes
    cases hframes
  · unfold Frame.readCode at hframes
    rw [hk] at hframes
    cases hframes
    rfl

end ShapeState

namespace TokenStream

variable {ts : TokenStream} {i j : Nat} {st st' : ShapeState}

namespace Laid

variable (hts : ts.Laid)
include hts

/-- The reader reads the token at `i`, no end of input, from where it stands. -/
lemma stateAt_succ_some (hi : i < ts.tokens.size) (hne : (ts.tokenAt i).kind ≠ .eof)
    (hst : ts.stateAt i = some st) :
    ∃ st', ts.stateAt (i + 1) = some st' ∧ st.read ts.src (ts.tokenAt i) = some st' := by
  obtain ⟨st', hst'⟩ := hts.stateAt_some (hts.ordered.succ_lt hi hne)
  refine ⟨st', hst', ?_⟩
  rw [stateAt_succ hi, hst, Option.bind_some] at hst'
  exact hst'

/-- **A `:` outside every bracket of a field starts its format spec.** Below the field's frame
the stack stays as the `{` left it, and the field's frame is still the expression's: a format
spec would have refused the `:`. -/
lemma stateAt_colon {a c : Nat} {frames : List Frame}
    (h₁ : ts.stateAt (a + 1) = some ⟨.field :: frames, false⟩) (hac : ts.Balanced (a + 1) c)
    (hc : c < ts.tokens.size) (hcolon : (ts.tokenAt c).kind = .punct .colon) :
    ∃ st', ts.stateAt (c + 1) = some st' ∧ st'.frames = .spec :: frames := by
  obtain ⟨sc, hsc⟩ := hts.stateAt_some hc
  obtain ⟨g, hg, hgrow⟩ := (keeps_stateAt h₁ hac hsc).cons_left
  obtain ⟨st', hst', hr⟩ := hts.stateAt_succ_some hc (by simp [hcolon]) hsc
  refine ⟨st', hst', ?_⟩
  simp only [ShapeState.read, Option.map_eq_some_iff] at hr
  obtain ⟨frames', hread, rfl⟩ := hr
  cases hgrow with
  | refl =>
    rw [hg] at hread
    unfold Frame.readCode at hread
    simp only [Frame.inText, Bool.false_eq_true, ↓reduceIte, hcolon] at hread
    cases hread
    rfl
  | spec =>
    rw [hg] at hread
    unfold Frame.readText at hread
    simp [Frame.inText, hcolon] at hread

/-- The span of a field, from its `{` at `a` to its `}` at `b`. -/
lemma merge_braces {a b : Nat} (hab : a < b) (hb : b < ts.tokens.size) :
    (ts.tokenAt a).span.merge (ts.tokenAt b).span =
      ⟨(ts.tokenAt a).span.start, (ts.tokenAt b).span.stop⟩ := by
  have h₁ := hts.ordered.stop_le_start hab hb
  have h₂ := hts.ordered.wf_at (show a < ts.tokens.size by omega)
  have h₃ := hts.ordered.wf_at hb
  unfold Span.WF at h₂ h₃
  simp only [Span.merge]
  congr 1
  · omega
  · omega

/-- **A field closes at its `}`.** With the stretch from just after its `{` at `a` taken up to
the `}` at `b`, its expression tiled and its format spec read, the field runs from that `{` to
that `}`. -/
lemma fieldRead_close {a b : Nat} {e : Expr} {debug : Option Span} {conv : Option Conversion}
    {spec : Option (List FPart)} (hbrace : (ts.tokenAt a).kind = .punct .lbrace)
    (hb : ts.Took (a + 1) b) (hclose : (ts.tokenAt b).kind = .punct .rbrace) (he : e.Tiled ts)
    (hspec : ts.SpecRead a spec b) :
    ts.FieldRead a (.mk e debug conv spec ((ts.tokenAt a).span.merge (ts.tokenAt b).span))
      (b + 1) := by
  have hab : a < b := by have := hb.1.1; omega
  have hbraced : ts.Braced a ((ts.tokenAt a).span.merge (ts.tokenAt b).span) b :=
    ⟨⟨hab, hbrace ▸ rfl, hclose ▸ rfl, hb.1⟩, hb.2, hbrace, hclose,
      by rw [hts.merge_braces hab hb.2]; rfl, by rw [hts.merge_braces hab hb.2]⟩
  cases spec with
  | none => exact ⟨b, rfl, .plain hbraced, by simpa [Field.exprs] using he⟩
  | some ps =>
    obtain ⟨c, hc, hcolon, htop, htiles, hexprs⟩ := hspec ps rfl
    refine ⟨b, rfl, .spec hbraced hc hcolon htop htiles, ?_⟩
    simp only [Field.exprs, List.mem_cons]
    rintro x (rfl | hx)
    · exact he
    · exact hexprs x hx

/-- **One more piece of text**, the token at `i`, read in text: the parts tile up to its end,
and the reader marks a piece and stands just after one. -/
lemma tiles_push_middle {lo : Nat} {acc : List FPart} (hst : ts.stateAt i = some st)
    (htext : Frame.inText st.frames = true) (h0 : 0 < i) (hi : i < ts.tokens.size)
    (hmid : (ts.tokenAt i).kind = .fstringMiddle) (htiles : PartsTile ts lo acc (ts.stopBefore i))
    (hlast : ∀ sp, acc.getLast? = some (.literal sp) → st.afterMiddle = true) :
    ∃ st', ts.stateAt (i + 1) = some st' ∧ st'.frames = Frame.markPiece st.frames ∧
      st'.afterMiddle = true ∧
      PartsTile ts lo (acc ++ [.literal (ts.tokenAt i).span]) (ts.stopBefore (i + 1)) := by
  obtain ⟨st', hst', hr⟩ := hts.stateAt_succ_some hi (by simp [hmid]) hst
  obtain ⟨hafter, hsolid, hframes, hafter'⟩ := ShapeState.read_middle htext hmid hr
  refine ⟨st', hst', hframes, hafter', PartsTile.snoc ?_ htiles ?_⟩
  · exact PartsTile.piece ⟨hsolid, i, hi, .inl ⟨hmid, rfl⟩⟩ (hts.glued hst htext h0 hi)
      (stopBefore_succ hi).symm
  · intro sp sp' hl _
    simp [hlast sp hl] at hafter

/-- **One more field**, from the `{` at `i` to the `}` at `b`, read in text: the parts tile up to
its end, and the reader is back in the text, marked as having a piece. -/
lemma tiles_push_field {lo b : Nat} {acc : List FPart} {f : Field} (hst : ts.stateAt i = some st)
    (htext : Frame.inText st.frames = true) (h0 : 0 < i) (hi : i < ts.tokens.size)
    (hf : FieldTiles ts i f b) (htiles : PartsTile ts lo acc (ts.stopBefore i)) :
    ∃ st', ts.stateAt (b + 1) = some st' ∧ st'.frames = Frame.markPiece st.frames ∧
      PartsTile ts lo (acc ++ [.field f]) (ts.stopBefore (b + 1)) := by
  have hbr := hf.braced
  obtain ⟨st', hst'⟩ := hts.stateAt_some (hts.ordered.succ_lt hbr.lt_size (by simp [hbr.closing]))
  refine ⟨st', hst', ?_, PartsTile.snoc (PartsTile.single_field hf ?_ ?_) htiles (by simp)⟩
  · rw [stateAt_matches hst hbr.paired hbr.lt_size hst']
    simp [Frame.beneath, htext]
  · rw [hbr.start_eq]
    exact hts.glued hst htext h0 hi
  · rw [hbr.stop_eq, stopBefore_succ hbr.lt_size]

/-- **The end token closes the literal**, read in its text: the parts read since the start token
at `i0`, with the end token's text after them when it is not empty, tile from the end of the
opener to the start of the closing quotes. -/
lemma tiles_close {d : Delimiter} {i0 : Nat} {text : Span} {p : Bool} {rest : List Frame}
    {acc : Array FPart} (hst : ts.stateAt i = some st)
    (hframes : st.frames = .literal d (ts.tokenAt i0).span p :: rest)
    (hpiece : p = false → acc.toList = []) (hi0 : i0 < i) (hi : i < ts.tokens.size)
    (hstart : (ts.tokenAt i0).kind = .fstringStart d) (hend : (ts.tokenAt i).kind = .fstringEnd text)
    (htiles : PartsTile ts (ts.tokenAt i0).span.stop acc.toList (ts.stopBefore i)) :
    PartsTile ts ((ts.tokenAt i0).span.start + d.openLength)
      (if text.isEmpty then acc else acc.push (.literal text)).toList
      ((ts.tokenAt i).span.stop - d.closeLength) := by
  have htext : Frame.inText st.frames = true := by rw [hframes]; rfl
  obtain ⟨st', hst', hr⟩ := hts.stateAt_succ_some hi (by simp [hend]) hst
  obtain ⟨⟨htext_eq, hlen, -, hnonempty⟩, -⟩ := ShapeState.read_end hend hframes hr
  have hglue := hts.glued hst htext (by omega) hi
  rw [← hts.opener (show i0 < ts.tokens.size by omega) hstart]
  split
  · rename_i hempty
    have : text.start = text.stop := by simpa [Span.isEmpty] using hempty
    rw [htext_eq] at this
    dsimp only at this ⊢
    have : ts.stopBefore i = (ts.tokenAt i).span.stop - d.closeLength := by
      unfold startAt at hglue
      omega
    rwa [← this]
  · rename_i hempty
    have hsolid : text.start < text.stop := by
      rw [htext_eq] at hempty ⊢
      simp [Span.isEmpty] at hempty
      dsimp only
      omega
    obtain ⟨hp0, hat, -⟩ := hnonempty hsolid
    rw [Array.toList_push, hpiece hp0, List.nil_append]
    exact PartsTile.piece ⟨hsolid, i, hi, .inr hend⟩ (by rw [htext_eq, hat]) (by rw [htext_eq])

end Laid

end TokenStream

namespace Grammar

open TokenStream ParseM

variable {ts : TokenStream} {n : Nat}

/-- A conversion takes its `!` and the name after it, neither of which opens or closes. -/
lemma okAt_conversion_took {i : Nat} (hi : i < ts.tokens.size)
    (hbang : (ts.tokenAt i).kind = .punct .bang) : OkAt ts conversion i fun _ k => ts.Took i k := by
  unfold conversion
  simp only [okAt_advance_bind, okAt_current_bind]
  split
  · simp
  split
  · simp
  rename_i hname
  simp only [Bool.or_eq_true, bne_iff_ne, ne_eq, not_or, Decidable.not_not] at hname
  simp only [okAt_read_bind]
  split
  · simp only [okAt_discard_advance_bind, okAt_pure]
    exact ((Took.refl hi).next hbang rfl rfl).next hname.1 rfl rfl
  · simp

variable (hts : ts.Laid) (ih : Tiles ts n)
include hts ih

omit hts in
lemma atom_tiles : Tiling.Fresh ts (atom (n + 1)) := by
  intro i hi
  rw [atom.eq_2]
  simp only [okAt_current_bind]
  split
  · rename_i e hleaf
    -- a leaf: a name, a number or a constant, over one token that neither opens nor closes
    have hspec : e.Tiled ts ∧ (ts.tokenAt i).kind.opens = false ∧
        (ts.tokenAt i).kind.closes = false := by
      split at hleaf <;> simp only [Option.some.injEq, reduceCtorEq] at hleaf <;> subst hleaf <;>
        rename_i hkind <;>
        exact ⟨.intro trivial (by simp [Expr.children]), hkind ▸ rfl, hkind ▸ rfl⟩
    obtain ⟨htiled, ho, hc⟩ := hspec
    simp only [okAt_discard_advance_bind, okAt_pure]
    exact ⟨(Took.refl hi).next rfl ho hc, htiled⟩
  split
  · exact ih.strings _ #[] none i i (ItemsRead.nil (Took.refl hi))
  · exact ih.strings _ #[] none i i (ItemsRead.nil (Took.refl hi))
  · rename_i hk
    exact ih.parenthesized i hi hk
  · rename_i hk
    exact ih.listForm i hi hk
  · rename_i hk
    exact ih.braceForm i hi hk
  · simp

omit hts in
lemma strings_tiles : ∀ start parts bytes i0 i,
    ts.ItemsRead (fun e : Expr => [e]) i0 parts.toList i →
    OkAt ts (strings start parts bytes (n + 1)) i fun e j => ts.Took i0 j ∧ e.Tiled ts := by
  intro start parts bytes i0 i hparts
  have hi := hparts.took.2
  rw [strings.eq_2]
  simp -zeta only [okAt_current_bind]
  extract_lets jp
  -- after the literal at `i`, if any: on to the next, or the concatenation of those read
  have hjp : ∀ next k, (∀ e isBytes, next = some (e, isBytes) → ts.Took i k ∧ e.Tiled ts) →
      (next = none → k = i) → OkAt ts (jp next) k fun e j => ts.Took i0 j ∧ e.Tiled ts := by
    intro next k hsome hnone
    simp only [jp]
    split
    · rename_i e isBytes
      split
      · simp
      · obtain ⟨hk, he⟩ := hsome e isBytes rfl
        exact ih.strings start _ _ i0 k
          (by simpa using hparts.snoc (Took.refl hi) (itemsRead_singleton.mpr ⟨hk, he⟩))
    · obtain rfl := hnone rfl
      have hall : ∀ x ∈ parts.toList, x.Tiled ts := by simpa [ItemsRead] using hparts.2
      split
      · rename_i single hsingle
        simpa using ⟨hparts.took, hall single (by simp [hsingle])⟩
      · simp only [okAt_previousSpan_bind, okAt_storeList_bind, okAt_pure]
        exact fun _ => ⟨hparts.took, .intro trivial (by simpa [Expr.children] using hall)⟩
  clear_value jp
  split
  · rename_i d hstr
    simp only [okAt_discard_advance_bind, okAt_pure_bind]
    refine hjp _ _ (fun e isBytes h => ?_) (by simp)
    simp only [Option.some.injEq, Prod.mk.injEq] at h
    rw [← h.1]
    exact ⟨(Took.refl hi).next hstr rfl rfl, .intro trivial (by simp [Expr.children])⟩
  · rw [okAt_bind]
    intro e k he
    simp only [okAt_pure_bind]
    refine hjp _ _ (fun e' isBytes h => ?_) (by simp)
    simp only [Option.some.injEq, Prod.mk.injEq] at h
    rw [← h.1]
    exact ih.fstring i hi e k he
  · simp only [okAt_pure_bind]
    exact hjp _ _ (by simp) fun _ => rfl

lemma fstring_tiles : Tiling.Fresh ts (fstring (n + 1)) := by
  intro i hi
  rw [fstring.eq_2]
  simp only [okAt_advance_bind]
  split
  · rename_i d hd
    have hne : (ts.tokenAt i).kind ≠ .eof := by simp [hd]
    obtain ⟨st₀, hst₀⟩ := hts.stateAt_some hi
    obtain ⟨st₁, hst₁, hr⟩ := hts.stateAt_succ_some hi hne hst₀
    rw [hts.ordered.next_eq hi hne]
    refine ih.fstringParts d i #[] (i + 1) ⟨hd, by omega, hts.ordered.succ_lt hi hne,
      Balanced.refl _, ⟨st₁, false, st₀.frames, hst₁, ShapeState.read_fstringStart hd hr,
        fun _ => rfl, by simp⟩, ?_, by simp⟩
    rw [stopBefore_succ hi]
    exact .nil _
  · simp

lemma fstringParts_tiles : ∀ d i0 acc i, ts.LiteralAt d i0 acc.toList i →
    OkAt ts (fstringParts d (ts.tokenAt i0).span acc (n + 1)) i fun e j =>
      ts.Took i0 j ∧ e.Tiled ts := by
  intro d i0 acc i hlit
  obtain ⟨hstart, hi0, hi, hbal, ⟨st, hp, rest, hst, hframes, hpiece, hlast⟩, htiles, htiled⟩ :=
    hlit
  have htext : Frame.inText st.frames = true := by rw [hframes]; rfl
  rw [fstringParts.eq_2]
  simp only [okAt_current_bind]
  split
  · rename_i hmid
    have hne : (ts.tokenAt i).kind ≠ .eof := by simp [hmid]
    obtain ⟨st', hst', hframes', hafter', htiles'⟩ :=
      hts.tiles_push_middle hst htext (by omega) hi hmid htiles hlast
    simp only [okAt_discard_advance_bind]
    rw [hts.ordered.next_eq hi hne]
    refine ih.fstringParts d i0 _ (i + 1) ⟨hstart, by omega, hts.ordered.succ_lt hi hne,
      hbal.trans (Balanced.plain hi (hmid ▸ rfl) (hmid ▸ rfl)),
      ⟨st', true, rest, hst', by rw [hframes', hframes]; rfl, by simp, fun _ _ => hafter'⟩,
      by simpa using htiles', by simpa using FPart.tiled_append htiled (by simp [FPart.exprs])⟩
  · rename_i hbrace
    rw [okAt_bind]
    intro f j hf
    obtain ⟨b, rfl, hft, hexprs⟩ := ih.field i st hi hbrace hst htext f j hf
    have hbr := hft.braced
    obtain ⟨st', hst', hframes', htiles'⟩ := hts.tiles_push_field hst htext (by omega) hi hft htiles
    refine ih.fstringParts d i0 _ (b + 1) ⟨hstart, by have := hbr.paired.1; omega,
      hts.ordered.succ_lt hbr.lt_size (by simp [hbr.closing]),
      hbal.trans (hbr.paired.balanced hbr.lt_size),
      ⟨st', true, rest, hst', by rw [hframes', hframes]; rfl, by simp, by simp⟩,
      by simpa using htiles',
      by simpa using FPart.tiled_append htiled (by simpa [FPart.exprs] using hexprs)⟩
  · rename_i text hend
    have hne : (ts.tokenAt i).kind ≠ .eof := by simp [hend]
    simp only [okAt_discard_advance_bind, okAt_storeList_bind, okAt_pure]
    intro _
    rw [hts.ordered.next_eq hi hne, hts.merge_braces hi0 hi]
    refine ⟨⟨(Matches.balanced ⟨hi0, hstart ▸ rfl, hend ▸ rfl, hbal⟩ hi),
      hts.ordered.succ_lt hi hne⟩, .intro ?_ ?_⟩
    · exact hts.tiles_close hst hframes hpiece hi0 hi hstart hend htiles
    · split
      · simpa [Expr.children] using htiled
      · simpa [Expr.children, FPart.listExprs_append, FPart.exprs] using htiled
  · simp

omit hts in
lemma field_tiles : ∀ i st, i < ts.tokens.size → (ts.tokenAt i).kind = .punct .lbrace →
    ts.stateAt i = some st → Frame.inText st.frames = true →
    OkAt ts (field (n + 1)) i (ts.FieldRead i) := by
  intro i st hi hk hst htext
  rw [field.eq_2]
  simp only [okAt_withContext]
  exact ih.fieldContents i st hi hk hst htext

lemma fieldContents_tiles : ∀ i st, i < ts.tokens.size → (ts.tokenAt i).kind = .punct .lbrace →
    ts.stateAt i = some st → Frame.inText st.frames = true →
    OkAt ts (fieldContents (n + 1)) i (ts.FieldRead i) := by
  intro a st ha hbrace hst htext
  have hne : (ts.tokenAt a).kind ≠ .eof := by simp [hbrace]
  have ha₁ := hts.ordered.succ_lt ha hne
  -- after the `{` the reader is in the field's expression
  have hst₁ : ts.stateAt (a + 1) = some ⟨.field :: Frame.markPiece st.frames, false⟩ := by
    rw [stateAt_succ ha, hst, Option.bind_some]
    exact ShapeState.read_lbrace htext hbrace
  rw [fieldContents.eq_2]
  simp -zeta only [okAt_advance_bind, okAt_check_bind]
  split
  · simp [okAt_currentSpan_bind]
  rw [hts.ordered.next_eq ha hne, okAt_bind]
  intro e k he
  obtain ⟨hek, he⟩ := ih.fieldExpression _ ha₁ e k he
  refine OkAt.bind (okAt_eat_took hek.2 rfl rfl) ?_
  rintro - k₁ ⟨hk₁, -⟩
  extract_lets jp₁
  have hjp₁ : ∀ debug k₂, ts.Took (a + 1) k₂ → OkAt ts (jp₁ debug) k₂ (ts.FieldRead a) := by
    intro debug k₂ hk₂
    simp -zeta only [jp₁, okAt_check_bind]
    extract_lets jp₂
    have hjp₂ : ∀ conv k₃, ts.Took (a + 1) k₃ → OkAt ts (jp₂ conv) k₃ (ts.FieldRead a) := by
      intro conv k₃ hk₃
      simp -zeta only [jp₂]
      refine OkAt.bind (okAt_eat_took hk₃.2 rfl rfl) ?_
      rintro colon k₄ ⟨hk₃₄, hcolon⟩
      extract_lets jp₃
      have hjp₃ : ∀ spec k₅, ts.Took (a + 1) k₅ → ts.SpecRead a (spec.map Array.toList) k₅ →
          OkAt ts (jp₃ spec) k₅ (ts.FieldRead a) := by
        intro spec k₅ hk₅ hspec
        simp only [jp₃, okAt_current_bind]
        split
        · simp
        rename_i hclose
        simp only [bne_iff_ne, ne_eq, Decidable.not_not] at hclose
        simp only [okAt_discard_advance_bind, okAt_pure]
        rw [hts.ordered.next_eq hk₅.2 (by simp [hclose])]
        exact hts.fieldRead_close hbrace hk₅ hclose he hspec
      split
      · rename_i htrue
        obtain ⟨hk₃c, rfl⟩ := hcolon htrue
        have hne₃ : (ts.tokenAt k₃).kind ≠ .eof := by simp [hk₃c]
        obtain ⟨st', hst', hframes'⟩ := hts.stateAt_colon hst₁ hk₃.1 hk₃.2 hk₃c
        rw [hts.ordered.next_eq hk₃.2 hne₃] at hk₃₄ ⊢
        refine OkAt.bind
          (R := fun spec k₅ => ts.Took (a + 1) k₅ ∧ ts.SpecRead a (spec.map Array.toList) k₅) ?_ ?_
        · refine okAt_map.mpr ((ih.formatSpec (k₃ + 1) (ts.tokenAt k₃).span.stop #[] (k₃ + 1)
            ⟨by omega, hts.ordered.succ_lt hk₃.2 hne₃, Balanced.refl _,
              ⟨st', _, hst', hframes', by simp⟩, by rw [stopBefore_succ hk₃.2]; exact .nil _,
              by simp⟩).mono ?_)
          rintro res k₅ ⟨hk₅, htiles, hexprs⟩
          refine ⟨(hk₃.join hk₃₄).join hk₅, ?_⟩
          simp only [SpecRead, Option.map_some, Option.mem_def, Option.some.injEq, forall_eq']
          exact ⟨k₃, by have := hk₅.1.1; omega, hk₃c, hk₃.1, htiles, hexprs⟩
        rintro spec k₅ ⟨hk₅, hspec⟩
        exact hjp₃ spec k₅ hk₅ hspec
      · simp only [okAt_pure_bind]
        exact hjp₃ none k₄ (hk₃.join hk₃₄) (by simp [SpecRead])
    split
    · rename_i hbang
      refine OkAt.bind (R := fun _ k₃ => ts.Took (a + 1) k₃)
        (okAt_map.mpr ((okAt_conversion_took hk₂.2 (beq_iff_eq.mp hbang)).mono
          fun _ k₃ hk₃ => hk₂.join hk₃)) ?_
      intro conv k₃ hk₃
      exact hjp₂ conv k₃ hk₃
    · simp only [okAt_pure_bind]
      exact hjp₂ none k₂ hk₂
  split
  · simp only [okAt_currentSpan_bind, okAt_pure_bind]
    exact hjp₁ _ _ (hek.join hk₁)
  · simp only [okAt_pure_bind]
    exact hjp₁ none k₁ (hek.join hk₁)

lemma formatSpec_tiles : ∀ base lo acc i, ts.SpecAt base lo acc.toList i →
    OkAt ts (formatSpec acc (n + 1)) i fun res j =>
      ts.Took base j ∧ PartsTile ts lo res.toList (ts.startAt j) ∧
        ∀ x ∈ FPart.listExprs res.toList, x.Tiled ts := by
  intro base lo acc i hspec
  obtain ⟨hpos, hi, hbal, ⟨st, rest, hst, hframes, hlast⟩, htiles, htiled⟩ := hspec
  have htext : Frame.inText st.frames = true := by rw [hframes]; rfl
  rw [formatSpec.eq_2]
  simp only [okAt_current_bind]
  split
  · rename_i hmid
    have hne : (ts.tokenAt i).kind ≠ .eof := by simp [hmid]
    obtain ⟨st', hst', hframes', hafter', htiles'⟩ :=
      hts.tiles_push_middle hst htext hpos hi hmid htiles hlast
    simp only [okAt_discard_advance_bind]
    rw [hts.ordered.next_eq hi hne]
    refine ih.formatSpec base lo _ (i + 1) ⟨by omega, hts.ordered.succ_lt hi hne,
      hbal.trans (Balanced.plain hi (hmid ▸ rfl) (hmid ▸ rfl)),
      ⟨st', rest, hst', by rw [hframes', hframes]; rfl, fun _ _ => hafter'⟩,
      by simpa using htiles', by simpa using FPart.tiled_append htiled (by simp [FPart.exprs])⟩
  · rename_i hbrace
    rw [okAt_bind]
    intro f j hf
    obtain ⟨b, rfl, hft, hexprs⟩ := ih.field i st hi hbrace hst htext f j hf
    have hbr := hft.braced
    obtain ⟨st', hst', hframes', htiles'⟩ := hts.tiles_push_field hst htext hpos hi hft htiles
    refine ih.formatSpec base lo _ (b + 1) ⟨by omega,
      hts.ordered.succ_lt hbr.lt_size (by simp [hbr.closing]),
      hbal.trans (hbr.paired.balanced hbr.lt_size),
      ⟨st', rest, hst', by rw [hframes', hframes]; rfl, by simp⟩, by simpa using htiles',
      by simpa using FPart.tiled_append htiled (by simpa [FPart.exprs] using hexprs)⟩
  · refine OkAt.after_storeList ?_
    simp only [okAt_pure]
    exact ⟨⟨hbal, hi⟩, by rwa [hts.glued hst htext hpos hi], htiled⟩

end Grammar

end ExprFront
