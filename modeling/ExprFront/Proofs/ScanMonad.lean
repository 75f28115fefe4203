import Mathlib
import ExprFront.Scan.Run

/-!
# Running scanning steps

A scanning step is a computation in `ScanM`, the state monad over `Scanner`. The lemmas here
say what each primitive computes when it is run on a scanner: `get` hands the scanner to the
rest of the computation, `moveTo` and `advance` change the offset, `emit` reports the piece
from a start offset to the current one. Stated for `m >>= f` with each primitive `m`, they
rewrite a step's `do` block from its first line to its last, so that a step's result on a
given scanner comes out as a term, with its `if`s and `match`es left to split.

The second half gives the frame lemmas of the scanner's own operations: `modifyField` and
`setOpenBrackets` change the nesting and nothing else (`pos_modifyField`,
`pos_setOpenBrackets`, …), and `modifyField` does nothing when no field is open
(`modifyField_of_innerField?_eq_none`).
-/

namespace ExprFront

namespace ScanM

variable {α : Type} {sc : Scanner}

/-! ## Primitives -/

/-- A computation followed by the rest, in general; the lemmas after it are its cases for the
primitives. -/
lemma run_bind {β : Type} (m : ScanM α) (f : α → ScanM β) :
    (m >>= f).run sc = (f (m.run sc).1).run (m.run sc).2 := rfl

@[simp] lemma run_get_bind (f : Scanner → ScanM α) : (get >>= f).run sc = (f sc).run sc := rfl

@[simp] lemma run_set_bind (sc' : Scanner) (f : PUnit → ScanM α) :
    (set sc' >>= f).run sc = (f ()).run sc' := rfl

@[simp] lemma run_modify_bind (g : Scanner → Scanner) (f : PUnit → ScanM α) :
    (modify g >>= f).run sc = (f ()).run (g sc) := rfl

@[simp] lemma run_pure (a : α) : (pure a : ScanM α).run sc = (a, sc) := rfl

@[simp] lemma run_ite {c : Prop} [Decidable c] (x y : ScanM α) :
    (if c then x else y).run sc = if c then x.run sc else y.run sc := by
  split <;> rfl

@[simp] lemma run_moveTo_bind (p : Nat) (f : Unit → ScanM α) :
    (moveTo p >>= f).run sc = (f ()).run { sc with pos := p } := rfl

@[simp] lemma run_advance_bind (n : Nat) (f : Unit → ScanM α) :
    (advance n >>= f).run sc = (f ()).run { sc with pos := sc.pos + n } := rfl

@[simp] lemma run_peekAt_bind (k : Nat) (f : UInt8 → ScanM α) :
    (peekAt k >>= f).run sc = (f (sc.src.byte (sc.pos + k))).run sc := rfl

@[simp] lemma run_eatLineBreak_bind (f : Unit → ScanM α) :
    (eatLineBreak >>= f).run sc = (f ()).run { sc with pos := sc.src.lineBreakEnd sc.pos } := rfl

@[simp] lemma run_emit (tag : RawTag) (start : Nat) :
    (emit tag start).run sc = (⟨tag, sc.pos - start⟩, sc) := rfl

@[simp] lemma run_single (tag : RawTag) (start : Nat) :
    (single tag start).run sc = (⟨tag, sc.pos + 1 - start⟩, { sc with pos := sc.pos + 1 }) := rfl

@[simp] lemma run_fault (f : ScanFault) (start : Nat) (site : Span) :
    (fault f start site).run sc =
      (⟨.fault f, sc.pos - start⟩, { sc with errorSite := some site }) := rfl

/-! ## Steps that other steps begin with -/

@[simp] lemma run_modifyLiteral_bind (g : LiteralProgress → LiteralProgress) (f : Unit → ScanM α) :
    (modifyLiteral g >>= f).run sc =
      (f ()).run { sc with literals := sc.literals.modifyState g } := rfl

@[simp] lemma run_openerAt?_bind (start : Nat) (f : Option Delimiter → ScanM α) :
    (openerAt? start >>= f).run sc =
      (f (Delimiter.ofOpener? (sc.src.window start (min (start + 5) sc.src.size)))).run sc := rfl

@[simp] lemma run_textPiece (start : Nat) :
    (textPiece start).run sc =
      (⟨.fstringMiddle, sc.pos - start⟩,
        { sc with literals := sc.literals.modifyState fun st => { st with reported := true } }) :=
  rfl

end ScanM

/-! ## Frames of the scanner's operations -/

namespace Scanner

variable {sc : Scanner}

section modifyField

variable {f : FieldProgress → FieldProgress}

@[simp] lemma src_modifyField : (sc.modifyField f).src = sc.src := rfl
@[simp] lemma pos_modifyField : (sc.modifyField f).pos = sc.pos := rfl
@[simp] lemma stopped_modifyField : (sc.modifyField f).stopped = sc.stopped := rfl
@[simp] lemma brackets_modifyField : (sc.modifyField f).brackets = sc.brackets := rfl
@[simp] lemma limits_modifyField : (sc.modifyField f).limits = sc.limits := rfl

/-- The innermost field is the one that changes. -/
@[simp] lemma innerField?_modifyField : (sc.modifyField f).innerField? = sc.innerField?.map f := by
  rcases sc with ⟨src, limits, pos, ⟨entries⟩, brackets, site, stopped⟩
  rcases entries with _ | ⟨⟨d, start, ⟨fields, reported⟩⟩, rest⟩
  · rfl
  · rcases fields with _ | ⟨fl, fields⟩ <;> rfl

/-- With no field open, changing the innermost field changes nothing. -/
lemma modifyField_of_innerField?_eq_none (h : sc.innerField? = none) : sc.modifyField f = sc := by
  rcases sc with ⟨src, limits, pos, ⟨entries⟩, brackets, site, stopped⟩
  rcases entries with _ | ⟨⟨d, start, ⟨fields, reported⟩⟩, rest⟩
  · rfl
  · rcases fields with _ | ⟨fl, fields⟩
    · rfl
    · simp [innerField?, DelimiterStack.state?] at h

end modifyField

section setOpenBrackets

variable {bs : List OpenBracket}

@[simp] lemma src_setOpenBrackets : (sc.setOpenBrackets bs).src = sc.src := by
  unfold setOpenBrackets; split <;> rfl
@[simp] lemma pos_setOpenBrackets : (sc.setOpenBrackets bs).pos = sc.pos := by
  unfold setOpenBrackets; split <;> rfl
@[simp] lemma stopped_setOpenBrackets : (sc.setOpenBrackets bs).stopped = sc.stopped := by
  unfold setOpenBrackets; split <;> rfl
@[simp] lemma limits_setOpenBrackets : (sc.setOpenBrackets bs).limits = sc.limits := by
  unfold setOpenBrackets; split <;> rfl

end setOpenBrackets

end Scanner

end ExprFront
