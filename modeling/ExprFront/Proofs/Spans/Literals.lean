import Mathlib
import ExprFront.Proofs.Spans.Contract

/-!
# Spans of atoms, strings and f-strings

A name, a number or a constant is a leaf over its token, and a string literal one whose body
lies between its quotes: the lexer gives a string token at least as long as its quotes
(`TokenStream.Ordered.strings`). Adjacent literals make a concatenation over all of them.

An f-string spans its start and end tokens. Its parts fit in it (`FPart.Fits`): pieces of text
are tokens read, or the text the end token carries; a field spans its braces, and holds its
expression, the text a `=` echoes and the parts of its format spec.
-/

namespace ExprFront

/-- Fitting in a span, a part fits in any span around it. -/
lemma FPart.Fits.mono {outer outer' : Span} {p : FPart} (h : p.Fits outer)
    (hout : outer.Inside outer') : p.Fits outer' := by
  cases h with
  | literal wf inside => exact .literal wf (inside.trans hout)
  | field hf =>
    cases hf with
    | mk inside expr debugFits specFits => exact .field (.mk (inside.trans hout) expr debugFits specFits)

namespace TokenStream

variable {ts : TokenStream} {lo i j : Nat} {ps : List FPart}

namespace PartsRead

lemma nil (hi : i < ts.tokens.size) (hlo : lo ≤ ts.stopBefore i) : ts.PartsRead lo [] i :=
  ⟨by simp, ReadsAll.nil hi hlo⟩

/-- Parts read one after another, then more from a position no earlier. -/
lemma append (hts : ts.Ordered) {ps' : List FPart} {i' : Nat} (h : ts.PartsRead lo ps i)
    (h' : ts.PartsRead (ts.startAt i') ps' j) (hii' : i ≤ i') (hi'j : i' < j) :
    ts.PartsRead lo (ps ++ ps') j := by
  have hj := h'.exprs.lt_size
  have h₁ := hts.stopBefore_le_startAt h.exprs.lt_size
  have h₂ := hts.startAt_mono hii' (by omega)
  have h₃ := hts.stopBefore_mono (show i ≤ j by omega) hj.le
  have hlo := h.exprs.le
  refine ⟨fun p hp => ?_, ?_⟩
  · rcases List.mem_append.mp hp with hp | hp
    · exact (h.fits p hp).mono ⟨le_rfl, h₃⟩
    · exact (h'.fits p hp).mono ⟨by dsimp only; omega, le_rfl⟩
  · rw [FPart.listExprs_append]
    exact h.exprs.append h'.exprs (by omega)

/-- One more piece of text: the token at `i`, which is no end of input. -/
lemma snoc_token (hts : ts.Ordered) (h : ts.PartsRead lo ps i)
    (hne : (ts.tokenAt i).kind ≠ .eof) :
    ts.PartsRead lo (ps ++ [.literal (ts.tokenAt i).span]) (i + 1) := by
  have hi := h.exprs.lt_size
  have hsucc := hts.succ_lt hi hne
  have h₁ := hts.stopBefore_le_startAt hi
  have h₂ := hts.stopBefore_mono (Nat.le_succ i) hsucc.le
  have hlo := h.exprs.le
  refine ⟨fun p hp => ?_, ?_⟩
  · rcases List.mem_append.mp hp with hp | hp
    · exact (h.fits p hp).mono ⟨le_rfl, h₂⟩
    · rw [List.mem_singleton.mp hp]
      refine .literal (hts.wf_at hi) ⟨?_, ?_⟩
      · dsimp only
        unfold startAt at h₁
        omega
      · rw [stopBefore_succ hi]
  · rw [FPart.listExprs_append]
    simpa [FPart.exprs] using h.exprs.later hts (Nat.le_succ i) hsucc

end PartsRead

end TokenStream

namespace Grammar

open TokenStream ParseM

variable {ts : TokenStream} {n : Nat}

/-- Reading a conversion moves forward and stays inside the stream. -/
lemma okAt_conversion {i : Nat} (hi : i < ts.tokens.size) :
    OkAt ts conversion i fun _ k => i ≤ k ∧ k < ts.tokens.size := by
  unfold conversion
  simp only [okAt_advance_bind, okAt_current_bind]
  split
  · simp
  split
  · simp
  simp only [okAt_read_bind]
  split
  · simp only [okAt_discard_advance_bind, okAt_pure]
    exact ⟨(le_next i).trans (le_next _), next_lt (next_lt hi)⟩
  · simp

variable (hts : ts.Ordered)
include hts

/-- A field from its opening brace at `i` to its closing brace at `k'`: its expression, read from
past the opening brace, the text a `=` echoes and the parts of its format spec lie inside it. -/
lemma reads_field {i k k' k₂ lo : Nat} {e : Expr} {debug : Option Span}
    {conv : Option Conversion} {spec : Option (List FPart)} (hex : ts.Reads (ts.next i) e k)
    (hlo : ts.stopBefore k ≤ lo) (hkk₂ : k ≤ k₂) (hk₂ : k₂ ≤ k') (hk' : k' < ts.tokens.size)
    (hclose : (ts.tokenAt k').kind = .punct .rbrace)
    (hdebug : ∀ d ∈ debug, d.WF ∧ d.Inside ⟨(ts.tokenAt i).span.start, ts.startAt k₂⟩)
    (hspec : ∀ ps ∈ spec, ts.PartsRead lo ps k') :
    i < ts.next k' ∧ ts.PartsRead (ts.startAt i)
      [.field (.mk e debug conv spec ((ts.tokenAt i).span.merge (ts.tokenAt k').span))]
      (ts.next k') := by
  have hne : (ts.tokenAt k').kind ≠ .eof := by simp [hclose]
  have hsucc := hts.succ_lt hk' hne
  rw [hts.next_eq hk' hne]
  have hik : i < k := by have := (le_next i : i ≤ ts.next i); have := hex.lt; omega
  have hstart := hex.startAt_le hts (le_next i)
  have hexprs : ts.ReadsAll (ts.startAt i)
      (FPart.listExprs [.field (.mk e debug conv spec
        ((ts.tokenAt i).span.merge (ts.tokenAt k').span))]) (k' + 1) := by
    cases spec with
    | none =>
      simpa [FPart.exprs, Field.exprs] using ((ReadsAll.singleton hex).later hts
        (show k ≤ k' + 1 by omega) hsucc).weaken (hts.startAt_mono (le_next i) (next_lt (hik.trans hex.lt_size)))
    | some ps =>
      have hrest := ((hspec ps rfl).exprs.weaken hlo).later hts (Nat.le_succ k') hsucc
      simpa [FPart.exprs, Field.exprs] using (ReadsAll.cons hex hrest).weaken hstart
  have hopen := hts.token_inside le_rfl (show i < k' + 1 by omega) hsucc.le
  have hclose' := hts.token_inside (show i ≤ k' by omega) (Nat.lt_succ_self k') hsucc.le
  have hk₂k' := hts.startAt_mono hk₂ hk'
  have hkk' := hts.stopBefore_mono (show k ≤ k' by omega) hk'.le
  have hbefore := hts.stopBefore_le_startAt hk'
  have hopen_k := hts.startAt_le_stopBefore hik hex.lt_size.le
  have hwf := hts.wf_at hk'
  have hestop := hex.stop_le
  have hewf := hex.span_wf
  have hstop := stopBefore_succ hk'
  unfold startAt at *
  unfold Span.WF at hwf
  refine ⟨by omega, fun p hp => ?_, hexprs⟩
  · rw [List.mem_singleton.mp hp]
    refine .field (.mk ⟨?_, ?_⟩ ⟨?_, ?_⟩ ?_ ?_)
    · simp only [Span.start_merge]
      omega
    · simp only [Span.stop_merge]
      omega
    · simp only [Span.start_merge]
      omega
    · simp only [Span.stop_merge]
      omega
    · intro d hd
      refine (hdebug d hd).imp_right fun h => h.merge_of_le le_rfl ?_
      omega
    · intro ps hps q hq
      have := (hspec ps hps).exprs.le
      exact ((hspec ps hps).fits q hq).mono (Span.Inside.merge_of_le ⟨le_rfl, le_rfl⟩
        (by omega) (by omega))

variable (ih : Sound ts n)
include ih

lemma atom_step : Fresh ts (atom (n + 1)) := by
  intro i hi
  rw [atom.eq_2]
  simp only [okAt_current_bind]
  split
  · rename_i e hleaf
    have hspec : e.children = [] ∧ e.span = (ts.tokenAt i).span ∧ e.LocalSpans ∧
        (ts.tokenAt i).kind ≠ .eof := by
      split at hleaf <;> simp only [Option.some.injEq, reduceCtorEq] at hleaf <;> subst hleaf <;>
        rename_i hkind <;> exact ⟨rfl, rfl, trivial, by simp [hkind]⟩
    obtain ⟨hkids, hspan, hloc, hne⟩ := hspec
    simp only [okAt_discard_advance_bind, okAt_pure]
    rw [hts.next_eq hi hne]
    exact Reads.leaf hts hi hne hkids hspan hloc
  split
  · rename_i d hstr
    exact ih.strings i #[] none i (.inl ⟨rfl, rfl, hi, .inl ⟨d, hstr⟩⟩)
  · rename_i d hstart
    exact ih.strings i #[] none i (.inl ⟨rfl, rfl, hi, .inr ⟨d, hstart⟩⟩)
  · exact ih.parenthesized i hi
  · exact ih.listForm i hi
  · exact ih.braceForm i hi
  · simp

lemma strings_step : ∀ i0 parts bytes i,
    (parts.toList = [] ∧ i = i0 ∧ i < ts.tokens.size ∧
      ((∃ d, (ts.tokenAt i).kind = .string d) ∨ ∃ d, (ts.tokenAt i).kind = .fstringStart d)) ∨
    (i0 < i ∧ parts.toList ≠ [] ∧ ts.ReadsAll (ts.startAt i0) parts.toList i) →
    OkAt ts (strings (ts.tokenAt i0).span parts bytes (n + 1)) i (ts.Reads i0) := by
  intro i0 parts bytes i hpre
  have hi : i < ts.tokens.size := by
    rcases hpre with ⟨-, -, hi, -⟩ | ⟨-, -, hread⟩
    · exact hi
    · exact hread.lt_size
  have hpush : ∀ e k, ts.Reads i e k →
      i0 < k ∧ (parts.push e).toList ≠ [] ∧ ts.ReadsAll (ts.startAt i0) (parts.push e).toList k := by
    intro e k he
    rcases hpre with ⟨hnil, rfl, -, -⟩ | ⟨hi0, -, hread⟩
    · simpa [hnil] using ⟨he.lt, ReadsAll.singleton he⟩
    · simpa using ⟨by have := he.lt; omega, hread.snoc hts he le_rfl⟩
  rw [strings.eq_2]
  simp -zeta only [okAt_current_bind]
  extract_lets jp
  have hjp : ∀ next k, (∀ e isBytes, next = some (e, isBytes) → ts.Reads i e k) →
      (next = none → k = i ∧ i0 < i ∧ parts.toList ≠ [] ∧
        ts.ReadsAll (ts.startAt i0) parts.toList i) →
      OkAt ts (jp next) k (ts.Reads i0) := by
    intro next k hsome hnone
    simp only [jp]
    split
    · rename_i e isBytes
      split
      · simp
      · exact ih.strings i0 _ _ k (.inr (hpush e k (hsome e isBytes rfl)))
    · obtain ⟨rfl, hi0, -, hread⟩ := hnone rfl
      split
      · rename_i single hsingle
        rw [hsingle] at hread
        simpa using hread.reads_single hi0
      · simp only [okAt_previousSpan_bind, okAt_storeList_bind, okAt_pure]
        exact fun _ => Reads.spanning hts hi0 hread le_rfl (hts.token_inside le_rfl hi0 hi.le).2 rfl trivial
  clear_value jp
  split
  · rename_i d hstr
    have hne : (ts.tokenAt i).kind ≠ .eof := by simp [hstr]
    have hlen := hts.strings i hi d (by rw [← tokenAt_eq hi]; exact hstr)
    rw [← tokenAt_eq hi] at hlen
    simp only [okAt_discard_advance_bind, okAt_pure_bind]
    refine hjp _ _ (fun e isBytes h => ?_) ?_
    · simp only [Option.some.injEq, Prod.mk.injEq] at h
      rw [← h.1, hts.next_eq hi hne]
      exact Reads.leaf hts hi hne rfl rfl ⟨rfl, by dsimp only; omega, rfl⟩
    · simp
  · rw [okAt_bind]
    intro e k he
    simp only [okAt_pure_bind]
    refine hjp _ _ (fun e' isBytes h => ?_) ?_
    · simp only [Option.some.injEq, Prod.mk.injEq] at h
      rw [← h.1]
      exact ih.fstring i hi e k he
    · simp
  · rename_i hstr hstart
    simp only [okAt_pure_bind]
    refine hjp _ _ ?_ fun _ => ⟨rfl, ?_⟩
    · simp
    rcases hpre with ⟨-, -, -, ⟨d, hd⟩ | ⟨d, hd⟩⟩ | hread
    · exact absurd hd (hstr d)
    · exact absurd hd (hstart d)
    · exact hread

lemma fstring_step : Fresh ts (fstring (n + 1)) := by
  intro i hi
  rw [fstring.eq_2]
  simp only [okAt_advance_bind]
  split
  · rename_i d hd
    have hne : (ts.tokenAt i).kind ≠ .eof := by simp [hd]
    have hsucc := hts.next_eq hi hne
    have hlt := hts.succ_lt hi hne
    refine ih.fstringParts d i #[] (ts.next i) (by omega) (PartsRead.nil (next_lt hi) ?_)
    rw [hsucc]
    exact hts.startAt_le_stopBefore (Nat.lt_succ_self i) hlt.le
  · simp

lemma fstringParts_step : ∀ d i0 acc i, i0 < i → ts.PartsRead (ts.startAt i0) acc.toList i →
    OkAt ts (fstringParts d (ts.tokenAt i0).span acc (n + 1)) i (ts.Reads i0) := by
  intro d i0 acc i hi0 hacc
  have hi := hacc.exprs.lt_size
  rw [fstringParts.eq_2]
  simp only [okAt_current_bind]
  split
  · rename_i hmid
    have hne : (ts.tokenAt i).kind ≠ .eof := by simp [hmid]
    simp only [okAt_discard_advance_bind]
    rw [hts.next_eq hi hne]
    exact ih.fstringParts d i0 _ (i + 1) (by omega) (by simpa using hacc.snoc_token hts hne)
  · rw [okAt_bind]
    intro f k hf
    obtain ⟨hik, hfr⟩ := ih.field i hi f k hf
    exact ih.fstringParts d i0 _ k (by omega) (by simpa using hacc.append hts hfr le_rfl hik)
  · rename_i text hend
    have hne : (ts.tokenAt i).kind ≠ .eof := by simp [hend]
    have hends := hts.ends i hi text (by rw [← tokenAt_eq hi]; exact hend)
    rw [← tokenAt_eq hi] at hends
    have hinside : (⟨ts.startAt i0, ts.stopBefore i⟩ : Span).Inside
        ((ts.tokenAt i0).span.merge (ts.tokenAt i).span) := by
      refine Span.Inside.merge_of_le ⟨le_rfl, le_rfl⟩ le_rfl ?_
      have := hts.stopBefore_le_startAt hi
      have := hts.wf_at hi
      unfold startAt Span.WF at *
      omega
    have hnode : ∀ parts : List FPart, FPart.listExprs parts = FPart.listExprs acc.toList →
        (∀ p ∈ parts, p.Fits ((ts.tokenAt i0).span.merge (ts.tokenAt i).span)) →
        ts.Reads i0 (.fstring d parts ((ts.tokenAt i0).span.merge (ts.tokenAt i).span))
          (ts.next i) := by
      intro parts hexprs hfits
      exact Reads.bracketed hts hacc.exprs le_rfl hi0 hne hexprs rfl hfits
    simp only [okAt_discard_advance_bind, okAt_storeList_bind, okAt_pure]
    intro _
    split
    · exact hnode _ rfl fun p hp => (hacc.fits p hp).mono hinside
    · refine hnode _ (by simp [FPart.listExprs_append, FPart.exprs]) fun p hp => ?_
      simp only [Array.toList_push, List.mem_append, List.mem_singleton] at hp
      rcases hp with hp | rfl
      · exact (hacc.fits p hp).mono hinside
      · exact .literal hends.1 (hends.2.trans (Span.inside_merge_right _ _))
  · simp

omit hts in
lemma field_step : ∀ i, i < ts.tokens.size →
    OkAt ts (field (n + 1)) i fun f j => i < j ∧ ts.PartsRead (ts.startAt i) [.field f] j := by
  intro i hi
  rw [field.eq_2]
  simp only [okAt_withContext]
  exact ih.fieldContents i hi

lemma fieldContents_step : ∀ i, i < ts.tokens.size →
    OkAt ts (fieldContents (n + 1)) i fun f j => i < j ∧ ts.PartsRead (ts.startAt i) [.field f] j := by
  intro i hi
  rw [fieldContents.eq_2]
  simp -zeta only [okAt_advance_bind, okAt_check_bind]
  split
  · simp [okAt_currentSpan_bind]
  rw [okAt_bind]
  intro e k he
  have hex := ih.fieldExpression _ (next_lt hi) e k he
  have hk := hex.lt_size
  refine OkAt.bind (okAt_eat_within hk) ?_
  rintro b k₁ ⟨hkk₁, hk₁, hb⟩
  extract_lets jp₁
  have hjp₁ : ∀ debug k₂, k₁ ≤ k₂ → k₂ < ts.tokens.size →
      (∀ d ∈ debug, d.WF ∧ d.Inside ⟨(ts.tokenAt i).span.start, ts.startAt k₂⟩) →
      OkAt ts (jp₁ debug) k₂ fun f j => i < j ∧ ts.PartsRead (ts.startAt i) [.field f] j := by
    intro debug k₂ hk₁₂ hk₂ hdebug
    simp -zeta only [jp₁, okAt_check_bind]
    extract_lets jp₂
    have hjp₂ : ∀ conv k₃, k₂ ≤ k₃ → k₃ < ts.tokens.size →
        OkAt ts (jp₂ conv) k₃ fun f j => i < j ∧ ts.PartsRead (ts.startAt i) [.field f] j := by
      intro conv k₃ hk₂₃ hk₃
      simp -zeta only [jp₂]
      refine OkAt.bind (okAt_eat_within hk₃) ?_
      rintro b' k₄ ⟨hk₃₄, hk₄, -⟩
      extract_lets jp₃
      have hjp₃ : ∀ spec k₅, k₄ ≤ k₅ →
          (∀ ps ∈ spec, ts.PartsRead (ts.stopBefore k₃) (Array.toList ps) k₅) →
          k₅ < ts.tokens.size →
          OkAt ts (jp₃ spec) k₅ fun f j => i < j ∧ ts.PartsRead (ts.startAt i) [.field f] j := by
        intro spec k₅ hk₄₅ hspec hk₅
        simp only [jp₃, okAt_current_bind]
        split
        · simp
        rename_i hclose
        simp only [bne_iff_ne, ne_eq, Decidable.not_not] at hclose
        simp only [okAt_discard_advance_bind, okAt_pure]
        refine reads_field hts hex (hts.stopBefore_mono (show k ≤ k₃ by omega) hk₃.le)
          (show k ≤ k₂ by omega) (show k₂ ≤ k₅ by omega) hk₅ hclose hdebug ?_
        intro ps hps
        obtain ⟨a, ha, rfl⟩ := Option.mem_map.mp hps
        exact hspec a ha
      split
      · refine OkAt.bind (R := fun spec k₅ => k₄ ≤ k₅ ∧ k₅ < ts.tokens.size ∧
          ∀ ps ∈ spec, ts.PartsRead (ts.stopBefore k₃) (Array.toList ps) k₅) ?_ ?_
        · refine okAt_map.mpr ((ih.formatSpec (ts.stopBefore k₃) #[] k₄
            (PartsRead.nil hk₄ (hts.stopBefore_mono hk₃₄ hk₄.le))).mono ?_)
          rintro res k₅ ⟨hk₄₅, hres⟩
          exact ⟨hk₄₅, hres.exprs.lt_size, by simpa using hres⟩
        rintro spec k₅ ⟨hk₄₅, hk₅, hspec⟩
        exact hjp₃ spec k₅ hk₄₅ hspec hk₅
      · simp only [okAt_pure_bind]
        exact hjp₃ none k₄ le_rfl (by simp) hk₄
    split
    · refine OkAt.bind (R := fun _ k₃ => k₂ ≤ k₃ ∧ k₃ < ts.tokens.size)
        (okAt_map.mpr (okAt_conversion hk₂)) ?_
      rintro conv k₃ ⟨hk₂₃, hk₃⟩
      exact hjp₂ conv k₃ hk₂₃ hk₃
    · simp only [okAt_pure_bind]
      exact hjp₂ none k₂ le_rfl hk₂
  split
  · rename_i hbt
    simp only [okAt_currentSpan_bind, okAt_pure_bind]
    refine hjp₁ _ _ le_rfl hk₁ ?_
    simp only [Option.mem_def, Option.some.injEq, forall_eq']
    have hik₁ : i < k₁ := by
      have := (le_next i : i ≤ ts.next i)
      have := hex.lt
      omega
    have := hts.stop_le_start hik₁ hk₁
    have := hts.wf_at hi
    unfold startAt Span.WF at *
    refine ⟨by dsimp only; omega, ?_, ?_⟩ <;> dsimp only <;> omega
  · simp only [okAt_pure_bind]
    exact hjp₁ none k₁ le_rfl hk₁ (by simp)

lemma formatSpec_step : ∀ lo acc i, ts.PartsRead lo acc.toList i →
    OkAt ts (formatSpec acc (n + 1)) i fun res j => i ≤ j ∧ ts.PartsRead lo res.toList j := by
  intro lo acc i hacc
  have hi := hacc.exprs.lt_size
  rw [formatSpec.eq_2]
  simp only [okAt_current_bind]
  split
  · rename_i hmid
    have hne : (ts.tokenAt i).kind ≠ .eof := by simp [hmid]
    simp only [okAt_discard_advance_bind]
    rw [hts.next_eq hi hne]
    exact (ih.formatSpec lo _ (i + 1) (by simpa using hacc.snoc_token hts hne)).from_le
      (Nat.le_succ i)
  · rw [okAt_bind]
    intro f k hf
    obtain ⟨hik, hfr⟩ := ih.field i hi f k hf
    exact (ih.formatSpec lo _ k (by simpa using hacc.append hts hfr le_rfl hik)).from_le hik.le
  · exact OkAt.after_storeList (by simpa using hacc)

end Grammar

end ExprFront
