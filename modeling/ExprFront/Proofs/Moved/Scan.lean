import Mathlib
import ExprFront.Proofs.Moved.Text
import ExprFront.Proofs.ScanMonad

/-!
# A scan further on

Scanning a text that stands `k` bytes into a larger one, with nothing after it, from `k` bytes
further on, takes the same steps: every piece has the same tag and length, and the scanner
after each step holds the same nesting with every offset moved by `k` (`Scanner.Moved`: the
open brackets, the braces of open fields, the starts of open f-strings and the fault site).

`ScanM.Moves k m m'` says that `m'` from a moved scanner does what `m` does from the scanner
itself. It is built up along the `do` blocks of the scanner (`Moves.bind`, `Moves.get_bind`,
`Moves.advance_bind`, `Moves.ite`, …), one lemma per scanning step, up to `codeStep_moves` and
`textStep_moves`; `Moved.run` follows a whole run by induction on it, and `scanText_moved`
gives the pieces of the whole text.
-/

namespace ExprFront

/-- A bracket opened `k` bytes further on. -/
def OpenBracket.shift (k : Nat) (ob : OpenBracket) : OpenBracket := { ob with pos := ob.pos + k }

@[simp] lemma OpenBracket.shift_mk (kind : Bracket) (pos k : Nat) :
    OpenBracket.shift k ⟨kind, pos⟩ = ⟨kind, pos + k⟩ := rfl

/-- A field opened `k` bytes further on: its brace and its brackets move. -/
def FieldProgress.shift (k : Nat) (fl : FieldProgress) : FieldProgress :=
  { fl with brace := fl.brace + k, brackets := fl.brackets.map (OpenBracket.shift k) }

/-- An f-string's record `k` bytes further on: its fields move. -/
def LiteralProgress.shift (k : Nat) (st : LiteralProgress) : LiteralProgress :=
  { st with fields := st.fields.map (FieldProgress.shift k) }

@[simp] lemma LiteralProgress.shift_default (k : Nat) : LiteralProgress.shift k {} = {} := rfl

namespace DelimiterStack

variable {α : Type}

/-- The stack of literals opened `k` bytes further on, each state moved by `f`. -/
def shift (k : Nat) (f : α → α) (st : DelimiterStack α) : DelimiterStack α :=
  ⟨st.entries.map fun e => ⟨e.delimiter, e.start + k, f e.state⟩⟩

variable (k : Nat) (f : α → α) (st : DelimiterStack α)

@[simp] lemma shift_push (d : Delimiter) (start : Nat) (s : α) :
    (st.push d start s).shift k f = (st.shift k f).push d (start + k) (f s) := rfl

@[simp] lemma depth_shift : (st.shift k f).depth = st.depth := by
  simp [shift, depth]

@[simp] lemma current?_shift : (st.shift k f).current? = st.current? := by
  rcases st with ⟨_ | ⟨e, rest⟩⟩ <;> rfl

@[simp] lemma currentStart?_shift : (st.shift k f).currentStart? = st.currentStart?.map (· + k) := by
  rcases st with ⟨_ | ⟨e, rest⟩⟩ <;> rfl

@[simp] lemma state?_shift : (st.shift k f).state? = st.state?.map f := by
  rcases st with ⟨_ | ⟨e, rest⟩⟩ <;> rfl

/-- Changing the innermost state commutes with moving, when the change does. -/
lemma modifyState_shift {g g' : α → α} (hg : ∀ s, f (g s) = g' (f s)) :
    (st.shift k f).modifyState g' = (st.modifyState g).shift k f := by
  rcases st with ⟨_ | ⟨e, rest⟩⟩
  · rfl
  · simp [shift, modifyState, hg]

@[simp] lemma close_shift (q : Quote) (z : QuoteSize) :
    (st.shift k f).close q z = ((st.close q z).map fun r => (r.1, r.2.shift k f)) := by
  rcases st with ⟨_ | ⟨e, rest⟩⟩
  · rfl
  · simp only [shift, close, List.map_cons]
    split <;> rfl

end DelimiterStack

namespace Scanner

/-- The scanner of a text `k` bytes into `src'`: every offset it holds moves by `k`. -/
structure Moved (k : Nat) (sc sc' : Scanner) : Prop where
  src : sc.src.Moved k sc'.src
  limits : sc'.limits = sc.limits
  pos : sc'.pos = sc.pos + k
  literals : sc'.literals = sc.literals.shift k (LiteralProgress.shift k)
  brackets : sc'.brackets = sc.brackets.map (OpenBracket.shift k)
  errorSite : sc'.errorSite = sc.errorSite.map (Span.shift k)
  stopped : sc'.stopped = sc.stopped

variable {k : Nat} {sc sc' : Scanner}

lemma Moved.innerField? (hm : sc.Moved k sc') :
    sc'.innerField? = sc.innerField?.map (FieldProgress.shift k) := by
  unfold Scanner.innerField?
  rw [hm.literals, DelimiterStack.state?_shift]
  cases sc.literals.state? with
  | none => rfl
  | some st => cases st with | mk fields rep => cases fields <;> rfl

lemma Moved.fieldAtTop? (hm : sc.Moved k sc') :
    sc'.fieldAtTop? = sc.fieldAtTop?.map (FieldProgress.shift k) := by
  unfold Scanner.fieldAtTop?
  rw [hm.innerField?]
  cases sc.innerField? with
  | none => rfl
  | some fl => simp [Option.filter, FieldProgress.shift]

lemma Moved.openBrackets (hm : sc.Moved k sc') :
    sc'.openBrackets = sc.openBrackets.map (OpenBracket.shift k) := by
  unfold Scanner.openBrackets
  rw [hm.innerField?]
  cases sc.innerField? with
  | none => exact hm.brackets
  | some fl => rfl

lemma Moved.inSingleQuoted (hm : sc.Moved k sc') : sc'.inSingleQuoted = sc.inSingleQuoted := by
  unfold Scanner.inSingleQuoted
  rw [hm.literals, DelimiterStack.current?_shift]

lemma Moved.textDelimiter? (hm : sc.Moved k sc') : sc'.textDelimiter? = sc.textDelimiter? := by
  unfold Scanner.textDelimiter?
  rw [hm.literals, DelimiterStack.state?_shift, DelimiterStack.current?_shift]
  cases sc.literals.state? with
  | none => rfl
  | some st => cases st with | mk fields rep => cases fields <;> rfl

/-! ### Updates -/

lemma Moved.setPos' (hm : sc.Moved k sc') {p p' : Nat} (hp : p' = p + k) :
    ({ sc with pos := p } : Scanner).Moved k { sc' with pos := p' } :=
  { hm with pos := hp }

lemma Moved.setErrorSite (hm : sc.Moved k sc') (site : Span) :
    ({ sc with errorSite := some site } : Scanner).Moved k
      { sc' with errorSite := some (site.shift k) } :=
  { hm with errorSite := rfl }

lemma Moved.stop (hm : sc.Moved k sc') :
    ({ sc with stopped := true } : Scanner).Moved k { sc' with stopped := true } :=
  { hm with stopped := rfl }

lemma Moved.setLiterals (hm : sc.Moved k sc') (lits : DelimiterStack LiteralProgress) :
    ({ sc with literals := lits } : Scanner).Moved k
      { sc' with literals := lits.shift k (LiteralProgress.shift k) } :=
  { hm with literals := rfl }

lemma Moved.modifyLiteral (hm : sc.Moved k sc') {g g' : LiteralProgress → LiteralProgress}
    (hg : ∀ st, (g st).shift k = g' (st.shift k)) :
    ({ sc with literals := sc.literals.modifyState g } : Scanner).Moved k
      { sc' with literals := sc'.literals.modifyState g' } := by
  refine { hm with literals := ?_ }
  rw [hm.literals, DelimiterStack.modifyState_shift _ _ _ hg]

lemma Moved.modifyField (hm : sc.Moved k sc') {f f' : FieldProgress → FieldProgress}
    (hf : ∀ fl, (f fl).shift k = f' (fl.shift k)) :
    (sc.modifyField f).Moved k (sc'.modifyField f') :=
  hm.modifyLiteral fun st => by
    rcases st with ⟨_ | ⟨fl, rest⟩, rep⟩
    · rfl
    · simp [LiteralProgress.shift, hf]

lemma Moved.setOpenBrackets (hm : sc.Moved k sc') (bs : List OpenBracket) :
    (sc.setOpenBrackets bs).Moved k (sc'.setOpenBrackets (bs.map (OpenBracket.shift k))) := by
  unfold Scanner.setOpenBrackets
  rw [hm.innerField?]
  cases sc.innerField? with
  | none => exact { hm with brackets := rfl }
  | some fl => exact hm.modifyField fun fl => rfl

end Scanner

namespace ScanM

variable {k : Nat} {α β : Type}

/-- A scanning step from a scanner and the same step from the scanner moved by `k`: the same
result, and moved scanners after. -/
def MovesAt (k : Nat) (sc sc' : Scanner) (m m' : ScanM α) : Prop :=
  (m'.run sc').1 = (m.run sc).1 ∧ (m.run sc).2.Moved k (m'.run sc').2

/-- A scanning step and the same step `k` bytes further on, from every pair of moved
scanners. -/
def Moves (k : Nat) (m m' : ScanM α) : Prop :=
  ∀ ⦃sc sc' : Scanner⦄, sc.Moved k sc' → MovesAt k sc sc' m m'

variable {m m' : ScanM α} {f f' : α → ScanM β}

lemma Moves.at {sc sc' : Scanner} (h : Moves k m m') (hm : sc.Moved k sc') : MovesAt k sc sc' m m' :=
  h hm

lemma Moves.bind (hm : Moves k m m') (hf : ∀ a, Moves k (f a) (f' a)) :
    Moves k (m >>= f) (m' >>= f') := by
  intro sc sc' h
  obtain ⟨h₁, h₂⟩ := hm h
  simp only [MovesAt, run_bind, h₁]
  exact hf _ h₂

lemma Moves.get_bind {f f' : Scanner → ScanM β}
    (h : ∀ sc sc', sc.Moved k sc' → MovesAt k sc sc' (f sc) (f' sc')) :
    Moves k (get >>= f) (get >>= f') :=
  fun sc sc' hm => h sc sc' hm

lemma Moves.modify_bind {g g' : Scanner → Scanner} {f f' : PUnit → ScanM β}
    (hg : ∀ sc sc', sc.Moved k sc' → (g sc).Moved k (g' sc')) (h : Moves k (f ()) (f' ())) :
    Moves k (modify g >>= f) (modify g' >>= f') :=
  fun _ _ hm => h (hg _ _ hm)

lemma Moves.advance_bind {f f' : Unit → ScanM β} (n : Nat) (h : Moves k (f ()) (f' ())) :
    Moves k (advance n >>= f) (advance n >>= f') := by
  intro sc sc' hm
  simp only [MovesAt, run_advance_bind]
  exact h (hm.setPos' (by rw [hm.pos]; omega))

lemma Moves.moveTo_bind {f f' : Unit → ScanM β} {p p' : Nat} (hp : p' = p + k)
    (h : Moves k (f ()) (f' ())) : Moves k (moveTo p >>= f) (moveTo p' >>= f') := by
  intro sc sc' hm
  simp only [MovesAt, run_moveTo_bind]
  exact h (hm.setPos' hp)

lemma Moves.peekAt_bind {f f' : UInt8 → ScanM β} (n : Nat) (h : ∀ b, Moves k (f b) (f' b)) :
    Moves k (peekAt n >>= f) (peekAt n >>= f') := by
  intro sc sc' hm
  simp only [MovesAt, run_peekAt_bind, hm.pos, hm.src.byte_add]
  exact h _ hm

lemma Moves.eatLineBreak_bind {f f' : Unit → ScanM β} (h : Moves k (f ()) (f' ())) :
    Moves k (eatLineBreak >>= f) (eatLineBreak >>= f') := by
  intro sc sc' hm
  simp only [MovesAt, run_eatLineBreak_bind]
  exact h (hm.setPos' (by rw [hm.pos, hm.src.lineBreakEnd]))

lemma Moves.ite {c c' : Prop} [Decidable c] [Decidable c'] {a a' b b' : ScanM α} (hc : c ↔ c')
    (ha : c → Moves k a a') (hb : ¬ c → Moves k b b') :
    Moves k (if c then a else b) (if c' then a' else b') := by
  by_cases h : c
  · rw [if_pos h, if_pos (hc.1 h)]
    exact ha h
  · rw [if_neg h, if_neg (mt hc.2 h)]
    exact hb h

lemma moves_pure (a : α) : Moves k (pure a) (pure a) := fun _ _ hm => ⟨rfl, hm⟩

lemma moves_emit (tag : RawTag) (start : Nat) : Moves k (emit tag start) (emit tag (start + k)) :=
  fun _ _ hm => ⟨by simp [hm.pos, Nat.add_sub_add_right], hm⟩

lemma moves_single (tag : RawTag) (start : Nat) :
    Moves k (single tag start) (single tag (start + k)) :=
  Moves.advance_bind 1 (moves_emit tag start)

lemma moves_fault (f : ScanFault) (start : Nat) {site site' : Span} (hs : site' = site.shift k) :
    Moves k (fault f start site) (fault f (start + k) site') := by
  refine Moves.modify_bind (fun sc sc' hm => ?_) (moves_emit _ _)
  rw [hs]
  exact hm.setErrorSite site

lemma movesAt_set_bind {sc sc' x x' : Scanner} {f f' : PUnit → ScanM β} (hx : x.Moved k x')
    (h : Moves k (f ()) (f' ())) : MovesAt k sc sc' (set x >>= f) (set x' >>= f') :=
  h hx

/-! ## Code mode -/

lemma zeroByte_moves (start : Nat) : Moves k (zeroByte start) (zeroByte (start + k)) := by
  unfold zeroByte
  refine Moves.get_bind fun sc sc' hm => ?_
  rw [hm.innerField?, hm.brackets]
  refine Moves.at (Moves.ite (by rw [hm.pos, hm.src.lt_size_iff]) (fun _ => moves_single _ _)
    fun _ => ?_) hm
  cases sc.innerField? with
  | some fl => exact moves_fault _ _ (by simp [FieldProgress.shift, Span.shift]; omega)
  | none =>
    cases sc.brackets with
    | cons ob rest => exact moves_fault _ _ (by simp [OpenBracket.shift, Span.shift]; omega)
    | nil => exact moves_emit _ _

lemma markExpression_moves (b : UInt8) : Moves k (markExpression b) (markExpression b) := by
  intro sc sc' hm
  refine ⟨rfl, hm.modifyField fun fl => ?_⟩
  by_cases hc : (beginsExpr b && !fl.markerSeen) = true <;> simp [hc, FieldProgress.shift]

lemma operatorAt_moves (start n : Nat) (plain : Punct) :
    Moves k (operatorAt start n plain) (operatorAt (start + k) n plain) := by
  unfold operatorAt
  exact Moves.advance_bind n <| Moves.peekAt_bind 0 fun _ =>
    Moves.ite Iff.rfl (fun _ => Moves.advance_bind 1 (moves_emit _ _)) fun _ => moves_emit _ _

lemma pair_moves (start : Nat) (p : Punct) : Moves k (pair start p) (pair (start + k) p) := by
  unfold pair
  exact Moves.advance_bind 2 (moves_emit _ _)

lemma blanks_moves (start : Nat) : Moves k (blanks start) (blanks (start + k)) := by
  unfold blanks
  exact Moves.get_bind fun sc sc' hm =>
    Moves.moveTo_bind (hm.src.findFrom _ start) (moves_emit _ _) hm

lemma lineBreak_moves (start : Nat) : Moves k (lineBreak start) (lineBreak (start + k)) := by
  unfold lineBreak
  refine Moves.eatLineBreak_bind (Moves.get_bind fun sc sc' hm => ?_)
  rw [hm.innerField?]
  cases sc.innerField? with
  | some fl =>
    exact Moves.ite (by rw [hm.inSingleQuoted])
      (fun _ => moves_fault _ _ (by simp [Span.shift]; omega)) (fun _ => moves_emit _ _) hm
  | none =>
    exact Moves.ite (by rw [hm.brackets]; simp) (fun _ => moves_emit _ _)
      (fun _ => moves_emit _ _) hm

lemma comment_moves (start : Nat) : Moves k (comment start) (comment (start + k)) := by
  unfold comment
  refine Moves.get_bind fun sc sc' hm => ?_
  refine Moves.ite (by rw [hm.innerField?, hm.inSingleQuoted]; simp)
    (fun _ => Moves.advance_bind 1 (moves_fault _ _ (by simp [Span.shift]; omega)))
    (fun _ => Moves.moveTo_bind (hm.src.findFrom _ start) (moves_emit _ _)) hm

lemma continuation_moves (start : Nat) :
    Moves k (continuation start) (continuation (start + k)) := by
  unfold continuation
  exact Moves.advance_bind 1 <| Moves.peekAt_bind 0 fun _ =>
    Moves.ite Iff.rfl (fun _ => Moves.eatLineBreak_bind (moves_emit _ _)) fun _ => moves_emit _ _

lemma openFString_moves (start : Nat) (d : Delimiter) :
    Moves k (openFString start d) (openFString (start + k) d) := by
  unfold openFString
  refine Moves.get_bind fun sc sc' hm => ?_
  refine Moves.ite (by rw [hm.literals, hm.limits, DelimiterStack.depth_shift])
    (fun _ => moves_fault _ _ (by simp [Span.shift, hm.pos])) (fun _ => ?_) hm
  intro sc₁ sc₁' hm₁
  refine movesAt_set_bind ?_ (moves_emit _ _)
  have := hm.setLiterals (sc.literals.push d start {})
  rwa [DelimiterStack.shift_push, ← hm.literals, LiteralProgress.shift_default] at this

lemma cutOffString_moves (start : Nat) (d : Delimiter) :
    Moves k (cutOffString start d) (cutOffString (start + k) d) := by
  unfold cutOffString
  refine Moves.get_bind fun sc sc' hm => ?_
  have hstring : Moves k (fault .unterminatedString start ⟨start, start + d.openLength⟩)
      (fault .unterminatedString (start + k) ⟨start + k, start + k + d.openLength⟩) :=
    moves_fault _ _ (by simp [Span.shift]; omega)
  dsimp only
  rw [hm.innerField?, hm.literals, DelimiterStack.current?_shift]
  cases sc.innerField? with
  | none => exact hstring hm
  | some fl =>
    cases sc.literals.current? with
    | none => exact hstring hm
    | some enclosing =>
      exact Moves.ite Iff.rfl (fun _ => moves_fault _ _ (by simp [FieldProgress.shift, Span.shift]; omega))
        (fun _ => hstring) hm

lemma literal_moves (start : Nat) (d : Delimiter) :
    Moves k (literal start d) (literal (start + k) d) := by
  unfold literal
  refine Moves.advance_bind _ (Moves.ite Iff.rfl (fun _ => openFString_moves start d) fun _ => ?_)
  refine Moves.get_bind fun sc sc' hm => ?_
  rw [hm.pos, hm.src.stringBodyEnd]
  cases sc.src.stringBodyEnd d sc.pos with
  | closed j => exact Moves.moveTo_bind rfl (moves_emit _ _) hm
  | unterminated j => exact Moves.moveTo_bind rfl (cutOffString_moves start d) hm

lemma openerAt?_moves (start : Nat) : Moves k (openerAt? start) (openerAt? (start + k)) := by
  intro sc sc' hm
  refine ⟨?_, hm⟩
  simp only [openerAt?, run_get_bind, run_pure, hm.src.size, Nat.add_right_comm start k 5,
    Nat.add_min_add_right, hm.src.window]

lemma quoted_moves (start : Nat) : Moves k (quoted start) (quoted (start + k)) := by
  unfold quoted
  refine (openerAt?_moves start).bind fun o => ?_
  cases o with
  | some d => exact literal_moves start d
  | none => exact moves_single _ _

lemma word_moves (start : Nat) : Moves k (word start) (word (start + k)) := by
  unfold word
  refine (openerAt?_moves start).bind fun o => ?_
  cases o with
  | some d => exact literal_moves start d
  | none =>
    exact Moves.get_bind fun sc sc' hm =>
      Moves.moveTo_bind (by rw [Nat.add_right_comm, hm.src.identEnd]) (moves_emit _ _) hm

lemma unicodeWord_moves (start : Nat) : Moves k (unicodeWord start) (unicodeWord (start + k)) := by
  unfold unicodeWord
  refine Moves.get_bind fun sc sc' hm => ?_
  dsimp only
  rw [hm.src.byte, hm.src.charAtIs]
  exact Moves.ite Iff.rfl
    (fun _ => Moves.moveTo_bind (by rw [Nat.add_right_comm, hm.src.identEnd]) (moves_emit _ _))
    (fun _ => Moves.moveTo_bind (Nat.add_right_comm _ _ _) (moves_emit _ _)) hm

lemma numberEnd_moves (start : Nat) (isFloat : Bool) :
    Moves k (numberEnd start isFloat) (numberEnd (start + k) isFloat) := by
  unfold numberEnd
  exact Moves.peekAt_bind 0 fun _ =>
    Moves.ite Iff.rfl (fun _ => Moves.advance_bind 1 (moves_emit _ _)) fun _ => moves_emit _ _

lemma number_moves (start : Nat) : Moves k (number start) (number (start + k)) := by
  unfold number
  refine Moves.get_bind fun sc sc' hm => ?_
  dsimp only
  simp only [hm.src.byte, ← Nat.add_right_comm start 2 k,
    ← Nat.add_right_comm start 1 k, hm.src.findFrom, hm.src.digitsEnd]
  refine Moves.ite Iff.rfl (fun _ => Moves.moveTo_bind rfl (moves_emit _ _)) (fun _ => ?_) hm
  by_cases hdot : (sc.src.byte (sc.src.digitsEnd (start + 1)) == 46) = true
  · simp only [hdot, if_true, ← Nat.add_right_comm _ 1 k, hm.src.digitsEnd, hm.src.exponentEnd]
    exact Moves.moveTo_bind rfl (numberEnd_moves _ _)
  · simp only [hdot, if_false, Bool.false_eq_true, hm.src.exponentEnd]
    exact Moves.moveTo_bind rfl (numberEnd_moves _ _)

lemma dot_moves (start : Nat) : Moves k (dot start) (dot (start + k)) := by
  unfold dot
  refine Moves.get_bind fun sc sc' hm => ?_
  dsimp only
  simp only [hm.src.byte, ← Nat.add_right_comm start 1 k, ← Nat.add_right_comm start 2 k,
    hm.src.digitsEnd, hm.src.exponentEnd]
  refine Moves.at ?_ hm
  exact Moves.ite Iff.rfl (fun _ => Moves.moveTo_bind rfl (numberEnd_moves _ _))
    (fun _ => Moves.ite Iff.rfl (fun _ => Moves.advance_bind 3 (moves_emit _ _))
      fun _ => moves_single _ _)

lemma endExpression_moves (start : Nat) (p : Punct) :
    Moves k (endExpression start p) (endExpression (start + k) p) := by
  unfold endExpression
  refine Moves.get_bind fun sc sc' hm => ?_
  rw [hm.fieldAtTop?]
  cases sc.fieldAtTop? with
  | none => exact moves_emit _ _ hm
  | some fl =>
    refine Moves.at ?_ hm
    exact Moves.ite Iff.rfl (fun _ => moves_fault _ _ (by simp [FieldProgress.shift, Span.shift, hm.pos]))
      (fun _ => Moves.modify_bind (fun _ _ h => h.modifyField fun _ => rfl) (moves_emit _ _))

lemma colon_moves (start : Nat) : Moves k (colon start) (colon (start + k)) := by
  unfold colon
  refine Moves.advance_bind 1 (Moves.get_bind fun sc sc' hm => ?_)
  rw [hm.fieldAtTop?]
  cases sc.fieldAtTop? with
  | some fl =>
    refine Moves.at ?_ hm
    exact Moves.ite Iff.rfl (fun _ => moves_fault _ _ (by simp [FieldProgress.shift, Span.shift, hm.pos]))
      (fun _ => Moves.modify_bind (fun _ _ h => h.modifyField fun _ => rfl) (moves_emit _ _))
  | none =>
    exact Moves.peekAt_bind 0 (fun _ => Moves.ite Iff.rfl
      (fun _ => Moves.advance_bind 1 (moves_emit _ _)) fun _ => moves_emit _ _) hm

lemma pushBracket_moves (start : Nat) (kind : Bracket) (p : Punct) :
    Moves k (pushBracket start kind p) (pushBracket (start + k) kind p) := by
  unfold pushBracket
  refine Moves.advance_bind 1 (Moves.modify_bind (fun sc sc' hm => ?_) (moves_emit _ _))
  have := hm.setOpenBrackets (⟨kind, start⟩ :: sc.openBrackets)
  rwa [List.map_cons, OpenBracket.shift_mk, ← hm.openBrackets] at this

lemma endField_moves (start : Nat) : Moves k (endField start) (endField (start + k)) := by
  unfold endField
  refine Moves.advance_bind 1 (Moves.get_bind fun sc sc' hm => ?_)
  rw [hm.innerField?]
  cases sc.innerField? with
  | none => exact moves_emit _ _ hm
  | some fl =>
    refine Moves.at ?_ hm
    refine Moves.modify_bind (fun _ _ h => h.modifyLiteral fun st => ?_)
      (Moves.ite Iff.rfl (fun _ => moves_fault _ _ (by simp [FieldProgress.shift, Span.shift, hm.pos]))
        (fun _ => moves_emit _ _))
    simp [LiteralProgress.shift, List.map_tail]

lemma popBracket_moves (start : Nat) (kind : Bracket) (p : Punct) :
    Moves k (popBracket start kind p) (popBracket (start + k) kind p) := by
  unfold popBracket
  refine Moves.get_bind fun sc sc' hm => ?_
  refine Moves.ite (by rw [hm.fieldAtTop?]; simp) (fun _ => endField_moves start) (fun _ => ?_) hm
  refine Moves.advance_bind 1 ?_
  dsimp only
  rw [hm.openBrackets]
  cases sc.openBrackets with
  | nil => exact moves_fault _ _ (by simp [Span.shift]; omega)
  | cons ob rest =>
    exact Moves.ite Iff.rfl
      (fun _ => Moves.modify_bind (fun _ _ h => h.setOpenBrackets rest) (moves_emit _ _))
      (fun _ => moves_fault _ _ (by simp [Span.shift]; omega))

/-- One step in code mode, `k` bytes further on, reads the same byte and so takes the same
branch. -/
lemma codeStep_moves : Moves k codeStep codeStep := by
  unfold codeStep
  refine Moves.get_bind fun sc sc' hm => ?_
  dsimp only
  rw [hm.pos, hm.src.byte, hm.src.byte_add]
  refine Moves.at ((markExpression_moves _).bind fun _ => ?_) hm
  split
  all_goals repeat' with_reducible refine Moves.ite Iff.rfl (fun _ => ?_) fun _ => ?_
  all_goals first
    | with_reducible exact zeroByte_moves _
    | with_reducible exact blanks_moves _
    | with_reducible exact lineBreak_moves _
    | with_reducible exact comment_moves _
    | with_reducible exact continuation_moves _
    | with_reducible exact quoted_moves _
    | with_reducible exact dot_moves _
    | with_reducible exact operatorAt_moves _ _ _
    | with_reducible exact pair_moves _ _
    | with_reducible exact moves_single _ _
    | with_reducible exact colon_moves _
    | with_reducible exact pushBracket_moves _ _ _
    | with_reducible exact popBracket_moves _ _ _
    | with_reducible exact word_moves _
    | with_reducible exact number_moves _
    | with_reducible exact unicodeWord_moves _
    | with_reducible refine Moves.advance_bind 1 ?_; exact endExpression_moves _ _

/-! ## Text mode -/

lemma Moves.modifyLiteral_bind {g g' : LiteralProgress → LiteralProgress} {f f' : Unit → ScanM β}
    (hg : ∀ st, (g st).shift k = g' (st.shift k)) (h : Moves k (f ()) (f' ())) :
    Moves k (modifyLiteral g >>= f) (modifyLiteral g' >>= f') :=
  Moves.modify_bind (fun _ _ hm => hm.modifyLiteral hg) h

lemma textPiece_moves (start : Nat) : Moves k (textPiece start) (textPiece (start + k)) := by
  unfold textPiece
  exact Moves.modifyLiteral_bind (fun _ => rfl) (moves_emit _ _)

lemma beginField_moves (start : Nat) : Moves k (beginField start) (beginField (start + k)) := by
  unfold beginField
  refine Moves.advance_bind 1 (Moves.get_bind fun sc sc' hm => ?_)
  rw [hm.literals, DelimiterStack.state?_shift, hm.limits]
  cases sc.literals.state? with
  | none => exact moves_emit _ _ hm
  | some st =>
    refine Moves.at (Moves.ite (by simp [LiteralProgress.shift])
      (fun _ => moves_fault _ _ (by simp [Span.shift]; omega)) fun _ => ?_) hm
    exact Moves.modifyLiteral_bind (fun _ => rfl) (moves_emit _ _)

lemma endSpec_moves (start : Nat) : Moves k (endSpec start) (endSpec (start + k)) := by
  unfold endSpec
  exact Moves.advance_bind 1 <|
    Moves.modifyLiteral_bind (fun _ => by simp [LiteralProgress.shift, List.map_tail]) (moves_emit _ _)

lemma openFieldFault_moves (start : Nat) :
    Moves k (openFieldFault start) (openFieldFault (start + k)) := by
  unfold openFieldFault
  refine Moves.get_bind fun sc sc' hm => ?_
  dsimp only
  rw [hm.innerField?]
  cases sc.innerField? with
  | some fl => exact moves_fault _ _ (by simp [FieldProgress.shift, Span.shift]; omega) hm
  | none => exact moves_fault _ _ (by simp [Span.shift]; omega) hm

lemma closeFString_moves (start : Nat) (d : Delimiter) :
    Moves k (closeFString start d) (closeFString (start + k) d) := by
  unfold closeFString
  refine Moves.get_bind fun sc sc' hm => ?_
  dsimp only
  rw [hm.literals, DelimiterStack.state?_shift]
  refine Moves.at (Moves.ite ?_ (fun _ => textPiece_moves start) fun _ => ?_) hm
  · cases sc.literals.state? <;> simp [LiteralProgress.shift, hm.pos]
  refine Moves.advance_bind _ (Moves.get_bind fun sc₁ sc₁' hm₁ => ?_)
  rw [hm₁.literals, DelimiterStack.close_shift]
  cases sc₁.literals.close d.quote d.size with
  | ok r => exact movesAt_set_bind (hm₁.setLiterals r.2) (moves_emit _ _)
  | error e => exact moves_fault _ _ (by simp [Span.shift, hm₁.pos]) hm₁

/-- One step in text mode, `k` bytes further on, finds the same boundary `k` bytes further on. -/
lemma textStep_moves (d : Delimiter) : Moves k (textStep d) (textStep d) := by
  unfold textStep
  refine Moves.get_bind fun sc sc' hm => ?_
  dsimp only
  rw [hm.innerField?, hm.pos, hm.literals, DelimiterStack.currentStart?_shift]
  cases sc.innerField?
  all_goals
    dsimp only [Option.map, FieldProgress.shift]
    rw [hm.src.textStop]
    refine Moves.at ?_ hm
    cases sc.src.textStop d _ sc.pos with
    | openBrace j =>
      exact Moves.moveTo_bind rfl (Moves.ite (by simp)
        (fun _ => textPiece_moves _) fun _ => beginField_moves _)
    | closeBrace j =>
      exact Moves.moveTo_bind rfl (Moves.ite (by simp)
        (fun _ => textPiece_moves _) fun _ => endSpec_moves _)
    | loneBrace j =>
      exact Moves.moveTo_bind (Nat.add_right_comm _ _ _)
        (moves_fault _ _ (by simp [Span.shift]; omega))
    | lineBreak j => exact Moves.moveTo_bind rfl (moves_fault _ _ (by simp [Span.shift]; omega))
    | eof j =>
      refine Moves.moveTo_bind rfl (Moves.ite Iff.rfl (fun _ => openFieldFault_moves _) fun _ => ?_)
      cases sc.literals.currentStart? <;>
        exact moves_fault _ _ (by simp [Span.shift]; omega)
    | closer j =>
      exact Moves.moveTo_bind rfl (Moves.ite Iff.rfl (fun _ => openFieldFault_moves _)
        fun _ => closeFString_moves _ _)

/-! ## Steps and runs -/

lemma modeStep_moves : Moves k modeStep modeStep := by
  unfold modeStep
  refine Moves.get_bind fun sc sc' hm => ?_
  rw [hm.textDelimiter?]
  cases sc.textDelimiter? with
  | some d => exact textStep_moves d hm
  | none => exact codeStep_moves hm

lemma step_moves : Moves k step step := by
  unfold step
  refine Moves.get_bind fun sc sc' hm => ?_
  refine Moves.at (Moves.ite (by rw [hm.stopped]) (fun _ => moves_pure _) fun _ => ?_) hm
  refine modeStep_moves.bind fun tok => ?_
  dsimp only
  exact Moves.ite Iff.rfl (fun _ => Moves.modify_bind (fun _ _ h => h.stop) (moves_pure _))
    fun _ => moves_pure _

end ScanM

namespace Scanner

variable {k : Nat} {sc sc' : Scanner}

lemma Moved.progress (hm : sc.Moved k sc') : sc'.progress = sc.progress := by
  unfold Scanner.progress
  rw [hm.src.size, hm.pos, hm.stopped]
  omega

/-- A whole run from moved scanners gives the same pieces and moved scanners at the end. -/
theorem Moved.run (hm : sc.Moved k sc') : sc'.run.1 = sc.run.1 ∧ sc.run.2.Moved k sc'.run.2 := by
  have hstep : ∀ {sc sc' : Scanner}, sc.Moved k sc' → ∃ next',
      ScanM.step.run sc' = ((ScanM.step.run sc).1, next') ∧ (ScanM.step.run sc).2.Moved k next' := by
    intro sc sc' hm
    obtain ⟨h₁, h₂⟩ := ScanM.step_moves hm
    exact ⟨(ScanM.step.run sc').2, Prod.ext h₁ rfl, h₂⟩
  fun_induction Scanner.run sc generalizing sc' with
  | case1 sc tok next hrun heof =>
    obtain ⟨next', hrun', hnext⟩ := hstep hm
    rw [hrun] at hrun' hnext
    rw [Scanner.run, hrun']
    simp only [heof, if_true]
    exact ⟨by simp, hnext⟩
  | case2 sc tok next hrun heof hless rest last hrest ih =>
    obtain ⟨next', hrun', hnext⟩ := hstep hm
    rw [hrun] at hrun' hnext
    obtain ⟨h₁, h₂⟩ := ih hnext
    rw [Scanner.run, hrun']
    simp only [heof, if_false, hnext.progress, hm.progress, hless, if_true, Bool.false_eq_true]
    rw [hrest] at h₁ h₂
    exact ⟨by simp [h₁], h₂⟩
  | case3 sc tok next hrun heof hless =>
    obtain ⟨next', hrun', hnext⟩ := hstep hm
    rw [hrun] at hrun' hnext
    rw [Scanner.run, hrun']
    simp only [heof, if_false, hnext.progress, hm.progress, hless, Bool.false_eq_true]
    exact ⟨by simp, hnext⟩

/-- A scan of a text `k` bytes into a larger one starts moved, when the larger one's scan starts
`k` bytes further on. -/
lemma moved_start {src src' : Source} (h : src.Moved k src')
    (hstart : src'.scanStart = src.scanStart + k) (limits : ScanLimits) :
    (start src limits).Moved k (start src' limits) where
  src := h
  limits := rfl
  pos := hstart
  literals := rfl
  brackets := rfl
  errorSite := rfl
  stopped := rfl

end Scanner

/-- The scan of a text `k` bytes into a larger one, whose scan starts `k` bytes further on,
gives the same pieces, and a last scanner moved by `k`. -/
theorem scanText_moved {k : Nat} {src src' : Source} (h : src.Moved k src')
    (hstart : src'.scanStart = src.scanStart + k) (limits : ScanLimits) :
    (scanText src' limits).1 = (scanText src limits).1 ∧
      (scanText src limits).2.Moved k (scanText src' limits).2 :=
  (Scanner.moved_start h hstart limits).run

end ExprFront
