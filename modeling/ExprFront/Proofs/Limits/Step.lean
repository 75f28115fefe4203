import Mathlib
import ExprFront.Proofs.Advance

/-!
# Where a step reads the nesting limits

The scanner carries its nesting limits, and only two of its steps read them: opening an
f-string checks how many are open, and opening a field in f-string text checks how many fields
the literal has open. `Scanner.withLimits` puts a scanner under other limits.

A computation is `ScanM.Blind` when it reads no limit: under other limits it gives the same
value and leaves the same scanner, under those limits. The primitives are blind, and so is
what is built from blind parts (`Blind.bind`, `Blind.get_bind`, …); every helper of the code and
text steps but `openFString` and `beginField` is blind. `ScanM.Checks` says how a computation
that does read them depends on them: it makes one `NestCheck`, and gives one result under the
limits that pass it and another under those that do not.

`ScanM.LimitUse` puts this together for a step, from where it starts: it reads no limit and
opens neither an f-string nor, in text, a field; or it opens an f-string, refused as too deeply
nested exactly when as many are open as the limit allows, and then reported at the opener; or
it opens a field, refused exactly when the literal has more fields open than the limit on
format specs allows, and then reported at the `{`. `Scanner.limitUse_step` proves that every
step from a scanner on a boundary of its text is one of these.
-/

namespace ExprFront

namespace Scanner

/-- The scanner under other limits. -/
def withLimits (sc : Scanner) (L : ScanLimits) : Scanner := { sc with limits := L }

variable (sc : Scanner) (L : ScanLimits)

@[simp] lemma src_withLimits : (sc.withLimits L).src = sc.src := rfl
@[simp] lemma pos_withLimits : (sc.withLimits L).pos = sc.pos := rfl
@[simp] lemma literals_withLimits : (sc.withLimits L).literals = sc.literals := rfl
@[simp] lemma brackets_withLimits : (sc.withLimits L).brackets = sc.brackets := rfl
@[simp] lemma errorSite_withLimits : (sc.withLimits L).errorSite = sc.errorSite := rfl
@[simp] lemma stopped_withLimits : (sc.withLimits L).stopped = sc.stopped := rfl
@[simp] lemma limits_withLimits : (sc.withLimits L).limits = L := rfl
@[simp] lemma withLimits_limits : sc.withLimits sc.limits = sc := rfl

@[simp] lemma withLimits_withLimits (L' : ScanLimits) :
    (sc.withLimits L).withLimits L' = sc.withLimits L' := rfl

/-- How many fields the innermost open literal has open. -/
def fieldCount : Nat :=
  match sc.literals.state? with
  | some st => st.fields.length
  | none => 0

end Scanner

/-- A check a step makes against the limits: none; that an f-string may open where `n` are
open; or that a field may open in a literal with `n` fields open. -/
inductive NestCheck where
  | none
  | literal (n : Nat)
  | field (n : Nat)
  deriving DecidableEq, Repr

/-- Whether limits pass a check: at most `maxFStringDepth` f-strings open once one more has
opened, and at most `maxFormatSpecDepth + 1` fields. -/
def NestCheck.passes (L : ScanLimits) : NestCheck → Bool
  | .none => true
  | .literal n => n < L.maxFStringDepth
  | .field n => n ≤ L.maxFormatSpecDepth

/-- A piece that opens no f-string and refuses none as too deeply nested. -/
@[simp] def RawToken.OpensNoLiteral (t : RawToken) : Prop :=
  t.tag ≠ .fstringStart ∧ t.tag ≠ .fault .tooDeeplyNested

/-- A piece that opens neither an f-string nor a field, and refuses neither. -/
@[simp] def RawToken.OpensNothing (t : RawToken) : Prop :=
  t.OpensNoLiteral ∧ t.tag ≠ .punct .lbrace

@[simp] lemma DelimiterStack.depth_modifyState {α : Type} (st : DelimiterStack α) (f : α → α) :
    (st.modifyState f).depth = st.depth := by
  unfold DelimiterStack.modifyState
  split <;> simp_all [DelimiterStack.depth]

namespace Scanner

variable {sc : Scanner} {L : ScanLimits}

@[simp] lemma depth_modifyField (f : FieldProgress → FieldProgress) :
    (sc.modifyField f).literals.depth = sc.literals.depth := by
  simp [modifyField]

/-- In text mode some f-string is open. -/
lemma exists_state?_of_textDelimiter? {d : Delimiter} (hd : sc.textDelimiter? = some d) :
    ∃ st, sc.literals.state? = some st ∧ sc.fieldCount = st.fields.length := by
  unfold textDelimiter? at hd
  split at hd
  · cases hd
  · next st hst => exact ⟨st, hst, by simp [fieldCount, hst]⟩

@[simp] lemma innerField?_withLimits : (sc.withLimits L).innerField? = sc.innerField? := rfl

@[simp] lemma fieldAtTop?_withLimits : (sc.withLimits L).fieldAtTop? = sc.fieldAtTop? := rfl

@[simp] lemma textDelimiter?_withLimits : (sc.withLimits L).textDelimiter? = sc.textDelimiter? := rfl

lemma modifyField_withLimits (f : FieldProgress → FieldProgress) :
    (sc.withLimits L).modifyField f = (sc.modifyField f).withLimits L := rfl

lemma setOpenBrackets_withLimits (bs : List OpenBracket) :
    (sc.withLimits L).setOpenBrackets bs = (sc.setOpenBrackets bs).withLimits L := by
  simp only [setOpenBrackets, innerField?_withLimits]
  split <;> rfl

end Scanner

namespace ScanM

open Scanner

variable {α β : Type}

/-- A computation that reads no limit, and whose every value satisfies `P`: under other limits
it gives the same value and leaves the same scanner, under those limits. -/
structure Blind (P : α → Prop) (m : ScanM α) : Prop where
  value : ∀ sc, P (m.run sc).1
  run : ∀ sc L, m.run (sc.withLimits L) = ((m.run sc).1, (m.run sc).2.withLimits L)

namespace Blind

variable {P : α → Prop} {Q : β → Prop}

lemma mono {m : ScanM α} {P' : α → Prop} (h : Blind P m) (hP : ∀ a, P a → P' a) : Blind P' m :=
  ⟨fun sc => hP _ (h.value sc), h.run⟩

lemma pure {a : α} (h : P a) : Blind P (Pure.pure a : ScanM α) := ⟨fun _ => h, fun _ _ => rfl⟩

lemma bind {m : ScanM α} {f : α → ScanM β} (hm : Blind (fun _ => True) m) (hf : ∀ a, Blind Q (f a)) :
    Blind Q (m >>= f) := by
  refine ⟨fun sc => (hf _).value _, fun sc L => ?_⟩
  rw [run_bind, hm.run, run_bind]
  exact (hf _).run _ _

/-- A computation that reads the scanner and goes on blindly, reading no limit off it. -/
lemma get_bind {f : Scanner → ScanM α} (hf : ∀ sc, Blind P (f sc))
    (hread : ∀ sc L, f (sc.withLimits L) = f sc) : Blind P (get >>= f) := by
  refine ⟨fun sc => (hf sc).value sc, fun sc L => ?_⟩
  rw [run_get_bind, run_get_bind, hread]
  exact (hf sc).run sc L

lemma of_modify {g : Scanner → Scanner} (hg : ∀ sc L, g (sc.withLimits L) = (g sc).withLimits L) :
    Blind (fun _ => True) (modify g : ScanM PUnit) :=
  ⟨fun _ => trivial, fun sc L => by
    show ((), g (sc.withLimits L)) = ((), (g sc).withLimits L)
    rw [hg]⟩

lemma ite {c : Prop} [Decidable c] {x y : ScanM α} (hx : Blind P x) (hy : Blind P y) :
    Blind P (if c then x else y) := by
  split
  · exact hx
  · exact hy

lemma moveTo (p : Nat) : Blind (fun _ => True) (ScanM.moveTo p) := ⟨fun _ => trivial, fun _ _ => rfl⟩

lemma advance (n : Nat) : Blind (fun _ => True) (ScanM.advance n) := ⟨fun _ => trivial, fun _ _ => rfl⟩

lemma peekAt (k : Nat) : Blind (fun _ => True) (ScanM.peekAt k) := ⟨fun _ => trivial, fun _ _ => rfl⟩

lemma eatLineBreak : Blind (fun _ => True) ScanM.eatLineBreak := ⟨fun _ => trivial, fun _ _ => rfl⟩

lemma modifyLiteral (g : LiteralProgress → LiteralProgress) :
    Blind (fun _ => True) (ScanM.modifyLiteral g) := ⟨fun _ => trivial, fun _ _ => rfl⟩

lemma openerAt? (start : Nat) : Blind (fun _ => True) (ScanM.openerAt? start) :=
  ⟨fun _ => trivial, fun _ _ => rfl⟩

lemma emit {P : RawToken → Prop} {tag : RawTag} (h : ∀ n, P ⟨tag, n⟩) (start : Nat) : Blind P (ScanM.emit tag start) :=
  ⟨fun _ => h _, fun _ _ => rfl⟩

lemma single {P : RawToken → Prop} {tag : RawTag} (h : ∀ n, P ⟨tag, n⟩) (start : Nat) : Blind P (ScanM.single tag start) :=
  ⟨fun _ => h _, fun _ _ => rfl⟩

lemma fault {P : RawToken → Prop} {f : ScanFault} (h : ∀ n, P ⟨.fault f, n⟩) (start : Nat) (site : Span) :
    Blind P (ScanM.fault f start site) :=
  ⟨fun _ => h _, fun _ _ => rfl⟩

lemma textPiece {P : RawToken → Prop} (h : ∀ n, P ⟨.fstringMiddle, n⟩) (start : Nat) :
    Blind P (ScanM.textPiece start) :=
  ⟨fun _ => h _, fun _ _ => rfl⟩

end Blind

/-! ## The helpers that read no limit -/

open RawToken

lemma blind_zeroByte (start : Nat) : Blind OpensNoLiteral (zeroByte start) := by
  refine .get_bind (fun sc => .ite (.single (by simp) _) ?_) fun _ _ => rfl
  split
  · exact .fault (by simp) _ _
  · split
    · exact .fault (by simp) _ _
    · exact .emit (by simp) _

lemma blind_blanks (start : Nat) : Blind OpensNoLiteral (blanks start) :=
  .get_bind (fun _ => .bind (.moveTo _) fun _ => .emit (by simp) _) fun _ _ => rfl

lemma blind_lineBreak (start : Nat) : Blind OpensNoLiteral (lineBreak start) := by
  refine .bind .eatLineBreak fun _ => .get_bind (fun sc => ?_) fun _ _ => rfl
  split
  · exact .ite (.fault (by simp) _ _) (.emit (by simp) _)
  · exact .ite (.emit (by simp) _) (.emit (by simp) _)

lemma blind_comment (start : Nat) : Blind OpensNoLiteral (comment start) :=
  .get_bind (fun _ => .ite (.bind (.advance _) fun _ => .fault (by simp) _ _)
    (.bind (.moveTo _) fun _ => .emit (by simp) _)) fun _ _ => rfl

lemma blind_continuation (start : Nat) : Blind OpensNoLiteral (continuation start) :=
  .bind (.advance _) fun _ => .bind (.peekAt _) fun _ =>
    .ite (.bind .eatLineBreak fun _ => .emit (by simp) _) (.emit (by simp) _)

lemma blind_operatorAt (start n : Nat) (plain : Punct) :
    Blind OpensNoLiteral (operatorAt start n plain) :=
  .bind (.advance _) fun _ => .bind (.peekAt _) fun _ =>
    .ite (.bind (.advance _) fun _ => .emit (by simp) _) (.emit (by simp) _)

lemma blind_pair (start : Nat) (p : Punct) : Blind OpensNoLiteral (pair start p) :=
  .bind (.advance _) fun _ => .emit (by simp) _

lemma blind_cutOffString (start : Nat) (d : Delimiter) : Blind OpensNoLiteral (cutOffString start d) := by
  refine .get_bind (fun sc => ?_) fun _ _ => rfl
  split
  · exact .ite (.fault (by simp) _ _) (.fault (by simp) _ _)
  · exact .fault (by simp) _ _

lemma blind_unicodeWord (start : Nat) : Blind OpensNoLiteral (unicodeWord start) :=
  .get_bind (fun _ => .ite (.bind (.moveTo _) fun _ => .emit (by simp) _)
    (.bind (.moveTo _) fun _ => .emit (by simp) _)) fun _ _ => rfl

lemma blind_numberEnd (start : Nat) (isFloat : Bool) : Blind OpensNoLiteral (numberEnd start isFloat) :=
  .bind (.peekAt _) fun _ => .ite (.bind (.advance _) fun _ => .emit (by simp) _)
    (.emit (by split <;> simp) _)

lemma blind_number (start : Nat) : Blind OpensNoLiteral (number start) := by
  refine .get_bind (fun sc => .ite (.bind (.moveTo _) fun _ => .emit (by simp) _) ?_) fun _ _ => rfl
  dsimp only
  split <;> exact .bind (.moveTo _) fun _ => blind_numberEnd _ _

lemma blind_dot (start : Nat) : Blind OpensNoLiteral (dot start) :=
  .get_bind (fun _ => .ite (.bind (.moveTo _) fun _ => blind_numberEnd _ _)
    (.ite (.bind (.advance _) fun _ => .emit (by simp) _) (.single (by simp) _))) fun _ _ => rfl

lemma blind_endExpression (start : Nat) (p : Punct) : Blind OpensNoLiteral (endExpression start p) := by
  refine .get_bind (fun sc => ?_) fun _ _ => rfl
  split
  · exact .emit (by simp) _
  · exact .ite (.fault (by simp) _ _)
      (.bind (.of_modify fun _ _ => modifyField_withLimits _) fun _ => .emit (by simp) _)

lemma blind_colon (start : Nat) : Blind OpensNoLiteral (colon start) := by
  refine .bind (.advance _) fun _ => .get_bind (fun sc => ?_) fun _ _ => rfl
  split
  · exact .ite (.fault (by simp) _ _)
      (.bind (.of_modify fun _ _ => modifyField_withLimits _) fun _ => .emit (by simp) _)
  · exact .bind (.peekAt _) fun _ =>
      .ite (.bind (.advance _) fun _ => .emit (by simp) _) (.emit (by simp) _)

lemma blind_pushBracket (start : Nat) (kind : Bracket) (p : Punct) :
    Blind OpensNoLiteral (pushBracket start kind p) :=
  .bind (.advance _) fun _ =>
    .bind (.of_modify fun _ _ => setOpenBrackets_withLimits _) fun _ => .emit (by simp) _

lemma blind_endField (start : Nat) : Blind OpensNoLiteral (endField start) := by
  refine .bind (.advance _) fun _ => .get_bind (fun sc => ?_) fun _ _ => rfl
  split
  · exact .emit (by simp) _
  · exact .bind (.modifyLiteral _) fun _ => .ite (.fault (by simp) _ _) (.emit (by simp) _)

lemma blind_popBracket (start : Nat) (kind : Bracket) (p : Punct) :
    Blind OpensNoLiteral (popBracket start kind p) := by
  refine .get_bind (fun sc => .ite (blind_endField _) (.bind (.advance _) fun _ => ?_))
    fun _ _ => rfl
  split
  · exact .ite (.bind (.of_modify fun _ _ => setOpenBrackets_withLimits _) fun _ => .emit (by simp) _)
      (.fault (by simp) _ _)
  · exact .fault (by simp) _ _

lemma blind_markExpression (b : UInt8) : Blind (fun _ => True) (markExpression b) :=
  .of_modify fun _ _ => modifyField_withLimits _

lemma blind_endSpec (start : Nat) : Blind OpensNothing (endSpec start) :=
  .bind (.advance _) fun _ => .bind (.modifyLiteral _) fun _ => .emit (by simp) _

lemma blind_openFieldFault (start : Nat) : Blind OpensNothing (openFieldFault start) :=
  .get_bind (fun _ => .fault (by simp) _ _) fun _ _ => rfl

lemma blind_closeFString (start : Nat) (d : Delimiter) : Blind OpensNothing (closeFString start d) := by
  refine .get_bind (fun _ => .ite (.textPiece (by simp) _) (.bind (.advance _) fun _ => ?_))
    fun _ _ => rfl
  refine ⟨fun sc => ?_, fun sc L => ?_⟩
  · simp only [run_get_bind]
    split <;> simp
  · simp only [run_get_bind, literals_withLimits]
    split <;> rfl

/-! ## Computations that read the limits -/

/-- How `m`, run from `sc`, depends on the limits: it makes the check `c`, and gives `pass`
under limits that pass it and `refuse` under those that do not, each with the scanner under the
limits it ran under. -/
def Checks (m : ScanM α) (sc : Scanner) (c : NestCheck) (pass refuse : α × Scanner) : Prop :=
  ∀ L, m.run (sc.withLimits L) =
    if c.passes L then (pass.1, pass.2.withLimits L) else (refuse.1, refuse.2.withLimits L)

namespace Checks

variable {m : ScanM α} {sc : Scanner} {c : NestCheck} {p r : α × Scanner}

lemma of_blind {P : α → Prop} (h : Blind P m) : m.Checks sc .none (m.run sc) (m.run sc) :=
  fun L => by simp [NestCheck.passes, h.run]

lemma bind {Q : β → Prop} {m : ScanM β} {f : β → ScanM α} (hm : Blind Q m)
    (hf : (f (m.run sc).1).Checks (m.run sc).2 c p r) : (m >>= f).Checks sc c p r := fun L => by
  rw [run_bind, hm.run]
  exact hf L

lemma get_bind {f : Scanner → ScanM α} (hf : (f sc).Checks sc c p r)
    (hread : ∀ L, f (sc.withLimits L) = f sc) : (get >>= f).Checks sc c p r := fun L => by
  rw [run_get_bind, hread]
  exact hf L

/-- A check followed by a computation that reads no limit. -/
lemma then_blind {Q : β → Prop} {f : α → ScanM β} (hm : m.Checks sc c p r) (hf : ∀ a, Blind Q (f a)) :
    (m >>= f).Checks sc c ((f p.1).run p.2) ((f r.1).run r.2) := fun L => by
  rw [run_bind, hm L]
  split <;> exact (hf _).run _ _

end Checks

/-- How a computation within a step depends on the limits: it reads none, or it opens an
f-string or a field, which limits allowing fewer than `depth` f-strings or `count` fields refuse
with a fault `tooDeeplyNested` over the piece. -/
inductive LimitUse (m : ScanM RawToken) (sc : Scanner) (start depth count : Nat) (inText : Bool) :
    Prop
  | blind (hm : m.Checks sc .none (m.run sc) (m.run sc)) (hlit : (m.run sc).1.OpensNoLiteral)
      (hfield : inText = true → (m.run sc).1.tag ≠ .punct .lbrace)
  | literal {n : Nat} {p r : Scanner}
      (hm : m.Checks sc (.literal depth) (⟨.fstringStart, n⟩, p) (⟨.fault .tooDeeplyNested, n⟩, r))
      (hsite : r.errorSite = some ⟨start, start + n⟩)
  | field {n : Nat} {p r : Scanner} (htext : inText = true)
      (hm : m.Checks sc (.field count) (⟨.punct .lbrace, n⟩, p) (⟨.fault .tooDeeplyNested, n⟩, r))
      (hsite : r.errorSite = some ⟨start, start + n⟩)

namespace LimitUse

variable {m x y : ScanM RawToken} {sc : Scanner} {start depth count : Nat} {inText : Bool}

lemma of_blind_code (h : Blind OpensNoLiteral m) : m.LimitUse sc start depth count false :=
  .blind (.of_blind h) (h.value sc) (by simp)

lemma of_blind_text (h : Blind OpensNothing m) : m.LimitUse sc start depth count inText :=
  .blind (.of_blind h) (h.value sc).1 fun _ => (h.value sc).2

lemma bind {Q : β → Prop} {m : ScanM β} {f : β → ScanM RawToken} (hm : Blind Q m)
    (hf : (f (m.run sc).1).LimitUse (m.run sc).2 start depth count inText) :
    (m >>= f).LimitUse sc start depth count inText := by
  cases hf with
  | blind hf hlit hfield => exact .blind (.bind hm hf) hlit hfield
  | literal hf hsite => exact .literal (.bind hm hf) hsite
  | field htext hf hsite => exact .field htext (.bind hm hf) hsite

lemma get_bind {f : Scanner → ScanM RawToken} (hf : (f sc).LimitUse sc start depth count inText)
    (hread : ∀ L, f (sc.withLimits L) = f sc) : (get >>= f).LimitUse sc start depth count inText := by
  cases hf with
  | blind hf hlit hfield => exact .blind (.get_bind hf hread) hlit hfield
  | literal hf hsite => exact .literal (.get_bind hf hread) hsite
  | field htext hf hsite => exact .field htext (.get_bind hf hread) hsite

lemma ite {c : Prop} [Decidable c] (hx : x.LimitUse sc start depth count inText)
    (hy : y.LimitUse sc start depth count inText) :
    (if c then x else y).LimitUse sc start depth count inText := by
  split
  · exact hx
  · exact hy

end LimitUse

/-! ## Opening an f-string or a field -/

/-- Opening an f-string, whose opener runs from `start` to where the scanner stands, checks how
many are open. -/
lemma limitUse_openFString {sc : Scanner} {start : Nat} (d : Delimiter) (hle : start ≤ sc.pos)
    (count : Nat) (inText : Bool) :
    (openFString start d).LimitUse sc start sc.literals.depth count inText := by
  refine .literal (n := sc.pos - start) (p := { sc with literals := sc.literals.push d start {} })
    (r := { sc with errorSite := some ⟨start, sc.pos⟩ }) (fun L => ?_)
    (by rw [Nat.add_sub_cancel' hle])
  simp only [openFString, run_get_bind, run_ite, run_fault, run_set_bind, run_emit]
  split
  · next h =>
    have hno : (NestCheck.literal sc.literals.depth).passes L = false := by
      simp only [NestCheck.passes, decide_eq_false_iff_not]
      simp at h
      omega
    rw [hno]
    rfl
  · next h =>
    have hyes : (NestCheck.literal sc.literals.depth).passes L = true := by
      simp only [NestCheck.passes, decide_eq_true_eq]
      simp at h
      omega
    rw [hyes]
    rfl

/-- Opening a field at the `{` where the scanner stands, in a literal with fields `st.fields`,
checks how many are open. -/
lemma limitUse_beginField {sc : Scanner} {st : LiteralProgress} (hst : sc.literals.state? = some st)
    (depth : Nat) : (beginField sc.pos).LimitUse sc sc.pos depth st.fields.length true := by
  refine .field rfl (n := 1)
    (p := { sc with pos := sc.pos + 1, literals := sc.literals.modifyState fun st =>
      { st with fields := { brace := sc.pos } :: st.fields, reported := true } })
    (r := { sc with pos := sc.pos + 1, errorSite := some ⟨sc.pos, sc.pos + 1⟩ }) (fun L => ?_) rfl
  simp only [beginField, run_advance_bind, run_get_bind]
  rw [show (({ sc.withLimits L with pos := sc.pos + 1 } : Scanner)).literals.state? = some st from hst]
  simp only [run_ite, run_fault, run_modifyLiteral_bind, run_emit]
  split
  · next h =>
    have hno : (NestCheck.field st.fields.length).passes L = false := by
      simp only [NestCheck.passes, decide_eq_false_iff_not]
      simp at h
      omega
    rw [hno]
    simp
    rfl
  · next h =>
    have hyes : (NestCheck.field st.fields.length).passes L = true := by
      simp only [NestCheck.passes, decide_eq_true_eq]
      simp at h
      omega
    rw [hyes]
    simp
    rfl

/-! ## The steps that may open an f-string -/

/-- A string or f-string whose opener starts at `start`. -/
lemma limitUse_literal {sc : Scanner} {start : Nat} (d : Delimiter) (hle : start ≤ sc.pos)
    (count : Nat) : (literal start d).LimitUse sc start sc.literals.depth count false := by
  refine .bind (.advance _) ?_
  refine .ite (limitUse_openFString d (show start ≤ sc.pos + d.openLength by omega) count false)
    (.of_blind_code (.get_bind (fun sc => ?_) fun _ _ => rfl))
  split
  · exact .bind (.moveTo _) fun _ => .emit (by simp) _
  · exact .bind (.moveTo _) fun _ => blind_cutOffString _ _

lemma limitUse_quoted {sc : Scanner} {start depth : Nat} (hle : start ≤ sc.pos)
    (hdepth : sc.literals.depth = depth) (count : Nat) :
    (quoted start).LimitUse sc start depth count false := by
  subst hdepth
  refine .bind (.openerAt? _) ?_
  split
  · exact limitUse_literal _ hle count
  · exact .of_blind_code (.single (by simp) _)

lemma limitUse_word {sc : Scanner} {start depth : Nat} (hle : start ≤ sc.pos)
    (hdepth : sc.literals.depth = depth) (count : Nat) :
    (word start).LimitUse sc start depth count false := by
  subst hdepth
  refine .bind (.openerAt? _) ?_
  split
  · exact limitUse_literal _ hle count
  · exact .of_blind_code (.get_bind (fun _ => .bind (.moveTo _) fun _ => .emit (by simp) _)
      fun _ _ => rfl)

/-- A step in code mode: only a quote, or a letter that may begin a prefix, can open an
f-string; every other byte is read by a helper that reads no limit. -/
lemma limitUse_codeStep (sc : Scanner) :
    codeStep.LimitUse sc sc.pos sc.literals.depth sc.fieldCount false := by
  refine .get_bind ?_ fun _ => rfl
  refine .bind (blind_markExpression _) ?_
  have hle : sc.pos ≤ ((markExpression (sc.src.byte sc.pos)).run sc).2.pos := le_refl _
  have hdepth : ((markExpression (sc.src.byte sc.pos)).run sc).2.literals.depth = sc.literals.depth :=
    depth_modifyField _
  split
  · exact .of_blind_code (blind_zeroByte _)
  · exact .of_blind_code (blind_blanks _)
  · exact .of_blind_code (blind_blanks _)
  · exact .of_blind_code (blind_blanks _)
  · exact .of_blind_code (blind_lineBreak _)
  · exact .of_blind_code (blind_lineBreak _)
  · exact .of_blind_code (blind_comment _)
  · exact .of_blind_code (blind_continuation _)
  · exact limitUse_quoted hle hdepth _
  · exact limitUse_quoted hle hdepth _
  · exact .of_blind_code (blind_dot _)
  · exact .of_blind_code (blind_operatorAt _ _ _)
  · exact .of_blind_code (.ite (blind_pair _ _) (blind_operatorAt _ _ _))
  · exact .of_blind_code (.ite (blind_operatorAt _ _ _) (blind_operatorAt _ _ _))
  · exact .of_blind_code (.ite (blind_operatorAt _ _ _) (blind_operatorAt _ _ _))
  · exact .of_blind_code (blind_operatorAt _ _ _)
  · exact .of_blind_code (blind_operatorAt _ _ _)
  · exact .of_blind_code (blind_operatorAt _ _ _)
  · exact .of_blind_code (blind_operatorAt _ _ _)
  · exact .of_blind_code (blind_operatorAt _ _ _)
  · exact .of_blind_code (.single (by simp) _)
  · exact .of_blind_code (.ite (blind_operatorAt _ _ _) (.ite (blind_pair _ _) (.single (by simp) _)))
  · exact .of_blind_code (.ite (blind_operatorAt _ _ _) (.ite (blind_pair _ _) (.single (by simp) _)))
  · exact .of_blind_code (.ite (blind_pair _ _) (.bind (.advance _) fun _ => blind_endExpression _ _))
  · exact .of_blind_code (.ite (blind_pair _ _) (.bind (.advance _) fun _ => blind_endExpression _ _))
  · exact .of_blind_code (blind_colon _)
  · exact .of_blind_code (.single (by simp) _)
  · exact .of_blind_code (.single (by simp) _)
  · exact .of_blind_code (blind_pushBracket _ _ _)
  · exact .of_blind_code (blind_pushBracket _ _ _)
  · exact .of_blind_code (blind_pushBracket _ _ _)
  · exact .of_blind_code (blind_popBracket _ _ _)
  · exact .of_blind_code (blind_popBracket _ _ _)
  · exact .of_blind_code (blind_popBracket _ _ _)
  · exact .ite (limitUse_word hle hdepth _) (.of_blind_code (.ite (blind_number _)
      (.ite (blind_unicodeWord _) (.single (by simp) _))))

/-! ## Text mode and the whole step -/

/-- A step in text mode: only a `{` where the walk through the text stops at once opens a
field; every other stop is read by a helper that reads no limit. -/
lemma limitUse_textStep {s : String} {sc : Scanner} (hsc : sc.Placed s) {d : Delimiter}
    (hd : sc.textDelimiter? = some d) :
    (textStep d).LimitUse sc sc.pos sc.literals.depth sc.fieldCount true := by
  refine .get_bind ?_ fun _ => rfl
  dsimp only
  split
  · next j heq =>
    refine .bind (.moveTo _) ?_
    split
    · exact .of_blind_text (.textPiece (by simp) _)
    · next hgt =>
      obtain ⟨hle, -, -⟩ := hsc.textStop_fits heq
      obtain rfl : j = sc.pos := by omega
      obtain ⟨st, hst, hcount⟩ := exists_state?_of_textDelimiter? hd
      rw [hcount]
      exact limitUse_beginField hst _
  · exact .bind (.moveTo _) (.of_blind_text (.ite (.textPiece (by simp) _) (blind_endSpec _)))
  · exact .bind (.moveTo _) (.of_blind_text (.fault (by simp) _ _))
  · exact .bind (.moveTo _) (.of_blind_text (.fault (by simp) _ _))
  · exact .bind (.moveTo _) (.of_blind_text (.ite (blind_openFieldFault _) (.fault (by simp) _ _)))
  · exact .bind (.moveTo _)
      (.of_blind_text (.ite (blind_openFieldFault _) (blind_closeFString _ _)))

lemma limitUse_modeStep {s : String} {sc : Scanner} (hsc : sc.Placed s) :
    modeStep.LimitUse sc sc.pos sc.literals.depth sc.fieldCount sc.textDelimiter?.isSome := by
  refine .get_bind ?_ fun _ => rfl
  split
  · next d hd => exact hd ▸ limitUse_textStep hsc hd
  · next hd => exact hd ▸ limitUse_codeStep sc

/-- What follows a check and keeps its piece and the site it reported. -/
lemma LimitUse.then_keep {m : ScanM RawToken} {sc : Scanner} {start depth count : Nat}
    {inText : Bool} {f : RawToken → ScanM RawToken} (hm : m.LimitUse sc start depth count inText)
    (hf : ∀ t, Blind (fun _ => True) (f t)) (hval : ∀ t sc', ((f t).run sc').1 = t)
    (hsite : ∀ t sc', ((f t).run sc').2.errorSite = sc'.errorSite) :
    (m >>= f).LimitUse sc start depth count inText := by
  cases hm with
  | blind hm hlit hfield =>
    refine .blind ?_ ?_ ?_
    · have h := hm.then_blind hf
      rwa [← run_bind] at h
    · rw [run_bind, hval]
      exact hlit
    · rw [run_bind, hval]
      exact hfield
  | @literal n p r hm hr =>
    refine .literal (p := ((f ⟨.fstringStart, n⟩).run p).2)
      (r := ((f ⟨.fault .tooDeeplyNested, n⟩).run r).2) (fun L => ?_) (by rw [hsite]; exact hr)
    rw [hm.then_blind hf L]
    simp only [hval]
  | @field n p r htext hm hr =>
    refine .field htext (p := ((f ⟨.punct .lbrace, n⟩).run p).2)
      (r := ((f ⟨.fault .tooDeeplyNested, n⟩).run r).2) (fun L => ?_) (by rw [hsite]; exact hr)
    rw [hm.then_blind hf L]
    simp only [hval]

end ScanM

namespace Scanner

open ScanM

/-- **How a step depends on the limits.** A step from a placed scanner reads no limit, or opens
an f-string or a field that limits below the scanner's nesting refuse over the piece. -/
lemma limitUse_step {s : String} {sc : Scanner} (hsc : sc.Placed s) :
    step.LimitUse sc sc.pos sc.literals.depth sc.fieldCount sc.textDelimiter?.isSome := by
  refine .get_bind ?_ fun _ => rfl
  split
  · exact .of_blind_text (.pure (by simp))
  · refine (limitUse_modeStep hsc).then_keep (fun _ => ?_) (fun t sc' => ?_) fun t sc' => ?_
    · exact .ite (.bind (.of_modify fun _ _ => rfl) fun _ => .pure trivial) (.pure trivial)
    all_goals
      simp only [run_ite, run_modify_bind, run_pure]
      split <;> rfl

end Scanner

end ExprFront
