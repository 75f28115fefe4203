import Mathlib
import ExprFront.Proofs.WellFormed.Reading
import ExprFront.Proofs.Frames
import ExprFront.Proofs.Coverage

/-!
# The scanner accepts well-formed f-strings

`Scanner.Reaches sc sc'` says that the scan goes from `sc` to `sc'` in steps that report
neither a fault nor the end. This module proves that the scan of each part of a word of
`FGrammar` reaches the scanner the part should leave:

* a step lemma for each byte a part begins with (`codeStep_name`, `codeStep_digits`, …, and the
  text steps `textStep_piece`, `textStep_beginField`, …), each saying what the step reports and
  where it leaves the scanner;
* from them, by recursion on the grammar, that an expression of a field is read with the
  field marked as holding an expression and nothing else changed (`FieldExpr.reaches`), and a
  word with the f-string it opens closed again (`Word.reaches`);
* `wellFormed_fstring_scans_cleanly`: the whole scan of a word, within the nesting limits it
  needs, reports no fault, its pieces cover the text, and no f-string is left open.
-/

namespace ExprFront

open FGrammar ScanM

namespace Scanner

variable {sc sc₁ sc₂ sc₃ sc' : Scanner} {tag : RawTag} {len : Nat}

/-! ## Runs without a fault -/

/-- The scan goes from `sc` to `sc'`, each step on the way reporting a piece that is neither a
fault nor the end. -/
def Reaches (sc sc' : Scanner) : Prop :=
  ∃ n, sc.after n = sc' ∧ ∀ i < n, (sc.pieceAt i).tag.isFault = false ∧ (sc.pieceAt i).tag ≠ .eof

lemma Reaches.refl (sc : Scanner) : sc.Reaches sc :=
  ⟨0, rfl, fun _ h => absurd h (Nat.not_lt_zero _)⟩

lemma Reaches.trans (h₁ : sc₁.Reaches sc₂) (h₂ : sc₂.Reaches sc₃) : sc₁.Reaches sc₃ := by
  obtain ⟨m, rfl, hm⟩ := h₁
  obtain ⟨n, rfl, hn⟩ := h₂
  refine ⟨m + n, after_add sc₁ m n, fun i hi => ?_⟩
  by_cases him : i < m
  · exact hm i him
  · obtain ⟨k, rfl⟩ := Nat.exists_eq_add_of_le (Nat.le_of_not_lt him)
    rw [pieceAt_add]
    exact hn k (by omega)

/-- A step of a running scan that reports no fault is the step of its mode. -/
lemma step_of_modeStep (hgo : sc.stopped = false) (h : modeStep.run sc = (⟨tag, len⟩, sc'))
    (hf : tag.isFault = false) : step.run sc = (⟨tag, len⟩, sc') := by
  simp only [step, run_get_bind, hgo, Bool.false_eq_true, if_false]
  rw [run_bind, h]
  simp [hf]
  rfl

/-- One step of a running scan that reports a piece other than a fault or the end. -/
lemma Reaches.of_modeStep (hgo : sc.stopped = false) (h : modeStep.run sc = (⟨tag, len⟩, sc'))
    (hf : tag.isFault = false) (he : tag ≠ .eof) : sc.Reaches sc' := by
  have hstep := step_of_modeStep hgo h hf
  refine ⟨1, by simp [after, hstep], fun i hi => ?_⟩
  obtain rfl : i = 0 := by omega
  simp [pieceAt, hstep, hf, he]

/-- A step in code mode. -/
lemma Reaches.code (hgo : sc.stopped = false) (hmode : sc.textDelimiter? = none)
    (h : codeStep.run sc = (⟨tag, len⟩, sc')) (hf : tag.isFault = false) (he : tag ≠ .eof) :
    sc.Reaches sc' :=
  .of_modeStep hgo (by simp only [modeStep, run_get_bind, hmode]; exact h) hf he

/-- A step in text mode. -/
lemma Reaches.text {d : Delimiter} (hgo : sc.stopped = false) (hmode : sc.textDelimiter? = some d)
    (h : (textStep d).run sc = (⟨tag, len⟩, sc')) (hf : tag.isFault = false) (he : tag ≠ .eof) :
    sc.Reaches sc' :=
  .of_modeStep hgo (by simp only [modeStep, run_get_bind, hmode]; exact h) hf he

/-! ## Marking the innermost field -/

/-- The scanner after the first byte `b` of a code token is recorded in the innermost field. -/
def marked (sc : Scanner) (b : UInt8) : Scanner := ((markExpression b).run sc).2

/-- The scanner with the innermost field marked as holding an expression. -/
def markExpr (sc : Scanner) : Scanner := sc.modifyField fun fl => { fl with sawExpression := true }

/-- The innermost field, if one is open, has seen no marker. -/
def Fresh (sc : Scanner) : Prop := ∀ fl, sc.innerField? = some fl → fl.markerSeen = false

lemma modifyField_congr {f g : FieldProgress → FieldProgress}
    (h : ∀ fl, sc.innerField? = some fl → f fl = g fl) : sc.modifyField f = sc.modifyField g := by
  rcases sc with ⟨src, limits, pos, ⟨entries⟩, brackets, site, stopped⟩
  rcases entries with _ | ⟨⟨d, start, ⟨fields, reported⟩⟩, rest⟩
  · rfl
  · rcases fields with _ | ⟨fl, fields⟩
    · rfl
    · simp [modifyField, DelimiterStack.modifyState,
        h fl (by simp [innerField?, DelimiterStack.state?])]

lemma modifyField_id (h : ∀ fl, sc.innerField? = some fl → f fl = fl) : sc.modifyField f = sc := by
  rw [modifyField_congr (g := id) h]
  rcases sc with ⟨src, limits, pos, ⟨entries⟩, brackets, site, stopped⟩
  rcases entries with _ | ⟨⟨d, start, ⟨fields, reported⟩⟩, rest⟩
  · rfl
  · rcases fields with _ | ⟨fl, fields⟩ <;> rfl

/-- A byte that begins an expression marks a fresh field. -/
lemma marked_of_begins {b : UInt8} (hb : beginsExpr b = true) (hfresh : sc.Fresh) :
    sc.marked b = sc.markExpr :=
  modifyField_congr fun fl hfl => by simp [hb, hfresh fl hfl]

/-- A byte that begins no expression marks nothing. -/
lemma marked_of_not {b : UInt8} (hb : beginsExpr b = false) : sc.marked b = sc :=
  modifyField_id fun fl _ => by simp [hb]

/-- After a marker nothing is marked. -/
lemma marked_of_seen {b : UInt8} (hseen : ∀ fl, sc.innerField? = some fl → fl.markerSeen = true) :
    sc.marked b = sc :=
  modifyField_id fun fl hfl => by simp [hseen fl hfl]

/-- The scanner reads code where an expression may begin: it runs, it is in code mode, and the
innermost field, if one is open, has seen no marker. -/
structure AtExpr (sc : Scanner) : Prop where
  running : sc.stopped = false
  code : sc.textDelimiter? = none
  fresh : sc.Fresh

/-! ## Frames of moving on -/

section moveTo

variable (p : Nat)

@[simp] lemma innerField?_moveTo : ({ sc with pos := p } : Scanner).innerField? = sc.innerField? :=
  rfl
@[simp] lemma fieldAtTop?_moveTo : ({ sc with pos := p } : Scanner).fieldAtTop? = sc.fieldAtTop? :=
  rfl
@[simp] lemma textDelimiter?_moveTo :
    ({ sc with pos := p } : Scanner).textDelimiter? = sc.textDelimiter? := rfl
@[simp] lemma openBrackets_moveTo :
    ({ sc with pos := p } : Scanner).openBrackets = sc.openBrackets := rfl
@[simp] lemma inSpec_moveTo : ({ sc with pos := p } : Scanner).inSpec = sc.inSpec := rfl
@[simp] lemma reported_moveTo : ({ sc with pos := p } : Scanner).reported = sc.reported := rfl

end moveTo

@[simp] lemma src_marked (b : UInt8) : (sc.marked b).src = sc.src := rfl
@[simp] lemma pos_marked (b : UInt8) : (sc.marked b).pos = sc.pos := rfl
@[simp] lemma limits_marked (b : UInt8) : (sc.marked b).limits = sc.limits := rfl
@[simp] lemma stopped_marked (b : UInt8) : (sc.marked b).stopped = sc.stopped := rfl

/-! ## The bytes that follow an expression -/

/-- The bytes that follow an expression of a field: `,`, `)` and `]` in a tuple, and `=`, `!`,
`:` and `}` after the field's expression. -/
def Follows (c : UInt8) : Prop := c ∈ [44, 41, 93, 61, 33, 58, 125]

instance : DecidablePred Follows := fun _ => inferInstanceAs (Decidable (_ ∈ _))

set_option maxRecDepth 10000 in
/-- What ends a name ahead of such a byte: it goes on no identifier, is ASCII, is no letter and
no quote. -/
lemma Follows.ends_name : ∀ c, Follows c → isIdentByte c = false ∧ c < 128 ∧
    Delimiter.isAsciiLetter c = false ∧ Quote.ofByte? c = none := by
  decide

set_option maxRecDepth 10000 in
/-- What ends digits ahead of such a byte: no digit, `_`, `.`, exponent or `j` goes on, and no
radix letter follows a leading `0`. -/
lemma Follows.ends_digits : ∀ c, Follows c → (isDigitByte c || c == 95) = false ∧
    (c == 46) = false ∧ (c == 101 || c == 69) = false ∧ (c == 106 || c == 74) = false ∧
    (c == 120 || c == 88 || c == 111 || c == 79 || c == 98 || c == 66) = false := by
  decide

end Scanner

namespace FGrammar.TupleBracket

/-- The bracket the scanner keeps open for a tuple. -/
def kind : TupleBracket → Bracket
  | .paren => .paren
  | .square => .square

/-- The byte of the opening bracket. -/
def openByte : TupleBracket → UInt8
  | .paren => 40
  | .square => 91

/-- The byte of the closing bracket. -/
def closeByte : TupleBracket → UInt8
  | .paren => 41
  | .square => 93

/-- The token of the opening bracket. -/
def openPunct : TupleBracket → Punct
  | .paren => .lparen
  | .square => .lbracket

/-- The token of the closing bracket. -/
def closePunct : TupleBracket → Punct
  | .paren => .rparen
  | .square => .rbracket

@[simp] lemma utf8_opening (k : TupleBracket) : utf8 [k.opening] = [k.openByte] := by
  cases k <;> rfl

@[simp] lemma utf8_closing (k : TupleBracket) : utf8 [k.closing] = [k.closeByte] := by
  cases k <;> rfl

end FGrammar.TupleBracket

namespace ScanM

open Scanner

variable {sc : Scanner} {b c : UInt8} {bs : List UInt8}

set_option maxRecDepth 10000 in
lemma alpha_of_identStart :
    ∀ b : UInt8, isIdentStartByte b = true → (byteChar b).isAlpha = true ∨ byteChar b = '_' := by
  decide

set_option maxRecDepth 10000 in
lemma digit_of_digitByte :
    ∀ b : UInt8, isDigitByte b = true → (byteChar b).isDigit = true ∧ isIdentStartByte b = false := by
  decide

/-- A code token that begins with a letter or `_` is a word. -/
lemma codeStep_word (hb : sc.src.byte sc.pos = b) (hid : isIdentStartByte b = true) :
    codeStep.run sc = (word sc.pos).run (sc.marked b) := by
  simp only [codeStep, markExpression, run_get_bind, run_modify_bind, hb]
  split
  rotate_right
  · simp only [hid, if_true]
    rfl
  all_goals
    rename_i heq
    exact absurd (heq ▸ alpha_of_identStart b hid) (by decide)

/-- A code token that begins with a digit is a number. -/
lemma codeStep_number (hb : sc.src.byte sc.pos = b) (hd : isDigitByte b = true) :
    codeStep.run sc = (number sc.pos).run (sc.marked b) := by
  obtain ⟨hdigit, hnot⟩ := digit_of_digitByte b hd
  simp only [codeStep, markExpression, run_get_bind, run_modify_bind, hb]
  split
  rotate_right
  · simp only [hnot, hd, if_true, Bool.false_eq_true, if_false]
    rfl
  all_goals
    rename_i heq
    exact absurd (heq ▸ hdigit) (by decide)

set_option maxRecDepth 10000 in
lemma quote_of_ident : ∀ y : UInt8, isIdentByte y = true → Quote.ofByte? y = none := by
  decide

set_option maxRecDepth 10000 in
lemma ident_of_identStart : ∀ y : UInt8, isIdentStartByte y = true → isIdentByte y = true := by
  decide

/-- **A name** ahead of a byte that follows an expression is one identifier token. -/
lemma codeStep_name (x : Name) (h : sc.src.Rest sc.pos (utf8 x.chars ++ c :: bs))
    (hc : Follows c) :
    codeStep.run sc = (⟨.ident, (utf8 x.chars).length⟩,
      { sc.marked x.first.toUInt8 with pos := sc.pos + (utf8 x.chars).length }) := by
  obtain ⟨hident, hlt, hletter, hquote⟩ := Follows.ends_name c hc
  rw [Name.utf8_chars] at h ⊢
  have hfirst := ident_of_identStart _ x.identStart
  have hnone : Delimiter.ofOpener?
      ((x.first.toUInt8 :: x.rest.map Char.toUInt8 ++ c :: bs).take 5) = none := by
    rw [Delimiter.ofOpener?_take_five]
    refine Delimiter.ofOpener?_eq_none (fun y hy => quote_of_ident y ?_) hquote hletter
    rcases List.mem_cons.mp hy with rfl | hy
    · exact hfirst
    · exact x.ident_rest y hy
  have hend := h.cons.identEnd_of x.ident_rest hident hlt
  rw [codeStep_word h.byte_cons x.identStart]
  simp only [word, run_openerAt?_bind, src_marked, h.window_five, hnone,
    run_get_bind, run_moveTo_bind, run_emit, hend]
  simp only [List.length_cons, List.length_map]
  congr 2 <;> omega

set_option maxRecDepth 10000 in
lemma radix_of_digit : ∀ y : UInt8, isDigitByte y = true →
    (y == 120 || y == 88 || y == 111 || y == 79 || y == 98 || y == 66) = false := by
  decide

/-- **Digits** ahead of a byte that follows an expression are one integer token. -/
lemma codeStep_digits (d : Digits) (h : sc.src.Rest sc.pos (utf8 d.chars ++ c :: bs))
    (hc : Follows c) :
    codeStep.run sc = (⟨.int, (utf8 d.chars).length⟩,
      { sc.marked d.first.toUInt8 with pos := sc.pos + (utf8 d.chars).length }) := by
  obtain ⟨hstop, hdot, hexp, himag, hradix⟩ := Follows.ends_digits c hc
  rw [Digits.utf8_chars] at h ⊢
  have hdigits : ∀ y ∈ d.rest.map Char.toUInt8, isDigitByte y = true :=
    fun y hy => d.digit_bytes y (by simp only [Digits.chars, List.map_cons]; exact .tail _ hy)
  have hb1 : (sc.src.byte (sc.pos + 1) == 120 || sc.src.byte (sc.pos + 1) == 88 ||
      sc.src.byte (sc.pos + 1) == 111 || sc.src.byte (sc.pos + 1) == 79 ||
      sc.src.byte (sc.pos + 1) == 98 || sc.src.byte (sc.pos + 1) == 66) = false := by
    rw [h.byte_one]
    cases hr : d.rest.map Char.toUInt8 with
    | nil => simpa using hradix
    | cons y ys => exact radix_of_digit y (hdigits y (by simp [hr]))
  have hend := h.cons.digitsEnd_of hdigits hstop
  have hafter := h.cons.append
  rw [codeStep_number h.byte_cons (d.digit_bytes _ (by simp [Digits.chars]))]
  simp only [number, run_get_bind, src_marked, hb1, Bool.and_false, hend,
    hafter.byte_cons, hdot, Source.exponentEnd_of (by rw [hafter.byte_cons]; exact hexp),
    Bool.false_eq_true, if_false, run_moveTo_bind, numberEnd, run_peekAt_bind, Nat.add_zero,
    himag, run_emit]
  simp only [List.length_cons, List.length_map]
  congr 2 <;> omega

/-- **A single-quoted string** is one string token. -/
lemma codeStep_string (body : StrBody)
    (h : sc.src.Rest sc.pos (39 :: (utf8 body.chars ++ 39 :: c :: bs))) (hc : c ≠ 39) :
    codeStep.run sc = (⟨.string, (utf8 body.chars).length + 2⟩,
      { sc.marked 39 with pos := sc.pos + ((utf8 body.chars).length + 2) }) := by
  have hsingle : ¬ ((utf8 body.chars ++ 39 :: c :: bs)[0]? = some 39 ∧
      (utf8 body.chars ++ 39 :: c :: bs)[1]? = some 39) := by
    cases hb : utf8 body.chars with
    | nil => simp [hc]
    | cons y ys =>
      have := Source.bodyTest_utf8 body y (by simp [hb])
      simp only [Bool.or_eq_false_iff, beq_eq_false_iff_ne] at this
      simp [this.1.1]
  have hopen := Delimiter.ofOpener?_string hsingle
  have hbody := h.cons.stringBodyEnd_body body
  simp only [codeStep, markExpression, run_get_bind, run_modify_bind, h.byte_cons,
    show byteChar 39 = '\x27' from rfl]
  simp only [quoted, run_openerAt?_bind, src_modifyField, h.window_five,
    Delimiter.ofOpener?_take_five, hopen, literal, run_advance_bind,
    show Delimiter.plainSingle.openLength = 1 from rfl,
    show Delimiter.plainSingle.flags.formatted = false from rfl, Bool.false_eq_true, if_false,
    run_get_bind, pos_modifyField, hbody, run_moveTo_bind, run_emit]
  congr 2 <;> omega

@[simp] lemma depth_marked (b : UInt8) : (sc.marked b).literals.depth = sc.literals.depth := by
  rcases sc with ⟨src, limits, pos, ⟨entries⟩, brackets, site, stopped⟩
  rcases entries with _ | ⟨⟨d, start, ⟨fields, reported⟩⟩, rest⟩
  · rfl
  · rcases fields with _ | ⟨fl, fields⟩ <;> rfl

/-- **`f"`** opens an f-string, below the nesting limit. -/
lemma codeStep_fstring {x : UInt8} (h : sc.src.Rest sc.pos (102 :: 34 :: x :: bs)) (hx : x ≠ 34)
    (hdepth : sc.literals.depth < sc.limits.maxFStringDepth) :
    codeStep.run sc = (⟨.fstringStart, 2⟩,
      { sc.marked 102 with
        pos := sc.pos + 2
        literals := (sc.marked 102).literals.push .fDouble sc.pos {} }) := by
  rw [codeStep_word h.byte_cons (by decide)]
  have hnot : ¬ (sc.marked 102).literals.depth ≥ (sc.marked 102).limits.maxFStringDepth := by
    simp only [depth_marked, limits_marked]
    omega
  simp only [word, run_openerAt?_bind, src_marked, h.window_five, Delimiter.ofOpener?_take_five,
    Delimiter.ofOpener?_fstring hx, literal, run_advance_bind,
    show Delimiter.fDouble.openLength = 2 from rfl,
    show Delimiter.fDouble.flags.formatted = true from rfl, if_true, openFString, run_get_bind,
    hnot, if_false, run_set_bind, run_emit, pos_marked, Nat.add_sub_cancel_left]

/-- **An opening bracket** of a tuple. -/
lemma codeStep_open (k : TupleBracket) (h : sc.src.Rest sc.pos (k.openByte :: bs)) :
    codeStep.run sc = (⟨.punct k.openPunct, 1⟩,
      ({ sc.marked k.openByte with pos := sc.pos + 1 } : Scanner).setOpenBrackets
        (⟨k.kind, sc.pos⟩ :: (sc.marked k.openByte).openBrackets)) := by
  cases k <;>
    simp only [TupleBracket.openByte, TupleBracket.openPunct, TupleBracket.kind] at h ⊢ <;>
    simp only [codeStep, markExpression, run_get_bind, run_modify_bind, h.byte_cons,
      show byteChar 40 = '(' from rfl, show byteChar 91 = '[' from rfl, pushBracket,
      run_advance_bind, run_emit, pos_setOpenBrackets, pos_modifyField,
      Nat.add_sub_cancel_left] <;>
    rfl

/-- **A closing bracket** that matches the innermost open one. -/
lemma codeStep_close (k : TupleBracket) (h : sc.src.Rest sc.pos (k.closeByte :: bs)) {q : Nat}
    {rest : List OpenBracket}
    (hob : (sc.marked k.closeByte).openBrackets = ⟨k.kind, q⟩ :: rest) :
    codeStep.run sc = (⟨.punct k.closePunct, 1⟩,
      ({ sc.marked k.closeByte with pos := sc.pos + 1 } : Scanner).setOpenBrackets rest) := by
  have hdispatch : codeStep.run sc =
      (popBracket sc.pos k.kind k.closePunct).run (sc.marked k.closeByte) := by
    cases k <;>
      simp only [TupleBracket.closeByte, TupleBracket.closePunct, TupleBracket.kind] at h ⊢ <;>
      simp only [codeStep, markExpression, run_get_bind, run_modify_bind, h.byte_cons,
        show byteChar 41 = ')' from rfl, show byteChar 93 = ']' from rfl] <;>
      rfl
  have hkind : (k.kind == .curly) = false := by cases k <;> rfl
  rw [hdispatch]
  simp only [popBracket, run_get_bind, hkind, Bool.false_and, Bool.false_eq_true, if_false,
    run_advance_bind, hob, beq_self_eq_true, if_true, run_modify_bind, run_emit,
    pos_setOpenBrackets, pos_marked, Nat.add_sub_cancel_left]

/-- **A comma.** -/
lemma codeStep_comma (h : sc.src.Rest sc.pos (44 :: bs)) :
    codeStep.run sc = (⟨.punct .comma, 1⟩, { sc.marked 44 with pos := sc.pos + 1 }) := by
  have hdispatch : codeStep.run sc = (single (.punct .comma) sc.pos).run (sc.marked 44) := by
    simp only [codeStep, markExpression, run_get_bind, run_modify_bind, h.byte_cons,
      show byteChar 44 = ',' from rfl]
    rfl
  rw [hdispatch, run_single, pos_marked, Nat.add_sub_cancel_left]

/-- **A blank** before a byte that is no blank. -/
lemma codeStep_blank (h : sc.src.Rest sc.pos (32 :: c :: bs))
    (hc : (c == 32 || c == 9 || c == 12) = false) :
    codeStep.run sc = (⟨.whitespace, 1⟩, { sc.marked 32 with pos := sc.pos + 1 }) := by
  have hend : sc.src.findFrom (fun b => !(b == 32 || b == 9 || b == 12)) sc.pos = sc.pos + 1 := by
    rw [Source.Rest.findFrom_skip (a := [32]) h (by simp), List.length_singleton,
      h.cons.findFrom_stop (by simp [hc])]
  have hdispatch : codeStep.run sc = (blanks sc.pos).run (sc.marked 32) := by
    simp only [codeStep, markExpression, run_get_bind, run_modify_bind, h.byte_cons,
      show byteChar 32 = ' ' from rfl]
    rfl
  rw [hdispatch]
  simp only [blanks, run_get_bind, src_marked, hend, run_moveTo_bind, run_emit,
    Nat.add_sub_cancel_left]

/-! ### The end of a field's expression -/

variable {fl : FieldProgress}

lemma innerField?_of_fieldAtTop? (hfl : sc.fieldAtTop? = some fl) : sc.innerField? = some fl := by
  simp only [fieldAtTop?, Option.filter_eq_some_iff] at hfl
  exact hfl.1

/-- **A marker `=` or `!`** after a field's expression, at its top level, ends the expression. -/
lemma codeStep_marker {b : UInt8} {p : Punct} (hbp : b = 61 ∧ p = .eq ∨ b = 33 ∧ p = .bang)
    (h : sc.src.Rest sc.pos (b :: c :: bs)) (hc : c ≠ 61) (hfl : sc.fieldAtTop? = some fl)
    (hsaw : fl.sawExpression = true) :
    codeStep.run sc = (⟨.punct p, 1⟩,
      ({ sc with pos := sc.pos + 1 } : Scanner).modifyField fun fl => { fl with markerSeen := true }) := by
  have hdispatch : codeStep.run sc = (do advance 1; endExpression sc.pos p).run (sc.marked b) := by
    rcases hbp with ⟨rfl, rfl⟩ | ⟨rfl, rfl⟩ <;>
      simp only [codeStep, markExpression, run_get_bind, run_modify_bind, h.byte_cons, h.byte_one,
        show byteChar 61 = '=' from rfl, show byteChar 33 = '!' from rfl, List.getD_cons_zero,
        beq_eq_false_iff_ne.mpr hc, Bool.false_eq_true, if_false] <;>
      rfl
  have hbegins : beginsExpr b = false := by rcases hbp with ⟨rfl, -⟩ | ⟨rfl, -⟩ <;> rfl
  rw [hdispatch, marked_of_not hbegins]
  simp only [run_advance_bind, endExpression, run_get_bind, fieldAtTop?_moveTo, hfl, hsaw,
    Bool.not_true, Bool.false_eq_true, if_false, run_modify_bind, run_emit, pos_modifyField,
    Nat.add_sub_cancel_left]

/-- **A colon** after a field's expression, at its top level, begins the format spec. -/
lemma codeStep_colon (h : sc.src.Rest sc.pos (58 :: bs)) (hfl : sc.fieldAtTop? = some fl)
    (hsaw : fl.sawExpression = true) :
    codeStep.run sc = (⟨.punct .colon, 1⟩,
      ({ sc with pos := sc.pos + 1 } : Scanner).modifyField fun fl => { fl with inFormatSpec := true }) := by
  have hdispatch : codeStep.run sc = (colon sc.pos).run (sc.marked 58) := by
    simp only [codeStep, markExpression, run_get_bind, run_modify_bind, h.byte_cons,
      show byteChar 58 = ':' from rfl]
    rfl
  rw [hdispatch, marked_of_not (by decide)]
  simp only [colon, run_advance_bind, run_get_bind, fieldAtTop?_moveTo, hfl, hsaw, Bool.not_true,
    Bool.false_eq_true, if_false, run_modify_bind, run_emit, pos_modifyField,
    Nat.add_sub_cancel_left]

/-- **A `}`** after a field's expression, at its top level, closes the field. -/
lemma codeStep_endField (h : sc.src.Rest sc.pos (125 :: bs)) (hfl : sc.fieldAtTop? = some fl)
    (hsaw : fl.sawExpression = true) :
    codeStep.run sc = (⟨.punct .rbrace, 1⟩, { sc with
      pos := sc.pos + 1
      literals := sc.literals.modifyState fun st => { st with fields := st.fields.tail } }) := by
  have hdispatch : codeStep.run sc = (popBracket sc.pos .curly .rbrace).run (sc.marked 125) := by
    simp only [codeStep, markExpression, run_get_bind, run_modify_bind, h.byte_cons,
      show byteChar 125 = '}' from rfl]
    rfl
  rw [hdispatch, marked_of_not (by decide)]
  simp only [popBracket, endField, run_get_bind, hfl, Option.isSome_some, beq_self_eq_true,
    Bool.and_self, if_true, run_advance_bind, innerField?_moveTo, innerField?_of_fieldAtTop? hfl,
    run_modifyLiteral_bind, hsaw, Bool.not_true, Bool.false_eq_true, if_false, run_emit,
    Nat.add_sub_cancel_left]

/-- **The end of the text**, with no field and no bracket open. -/
lemma codeStep_eof (h : sc.src.Rest sc.pos []) (hin : sc.innerField? = none)
    (hbr : sc.brackets = []) : codeStep.run sc = (⟨.eof, 0⟩, sc) := by
  have h0 : sc.src.byte sc.pos = 0 := by simpa using h.byte 0
  have hdispatch : codeStep.run sc = (zeroByte sc.pos).run (sc.marked 0) := by
    simp only [codeStep, markExpression, run_get_bind, run_modify_bind, h0,
      show byteChar 0 = '\x00' from rfl]
    rfl
  have hsize : ¬ sc.pos < sc.src.size := by simp [h.size_eq]
  rw [hdispatch, marked_of_not (by decide)]
  simp [zeroByte, hsize, hin, hbr]

/-! ### Text mode -/

variable {d : Delimiter} {j : Nat}

/-- **Text before a brace or the closing quotes** is one piece, which the literal records as
reported; before the closing quotes it is one only once a piece came before it. -/
lemma textStep_piece {t : Source.TextStop} (hstop : sc.src.textStop d sc.inSpec sc.pos = t)
    (ht : t = .openBrace j ∨ t = .closeBrace j ∨
      (t = .closer j ∧ sc.inSpec = false ∧ sc.reported = true))
    (hj : sc.pos < j) :
    (textStep d).run sc = (⟨.fstringMiddle, j - sc.pos⟩, { sc with
      pos := j
      literals := sc.literals.modifyState fun st => { st with reported := true } }) := by
  simp only [textStep, run_get_bind]
  rcases ht with rfl | rfl | ⟨rfl, hs, hrep⟩ <;> split <;> rename_i j' heq <;>
    cases hstop.symm.trans heq
  · simp only [run_moveTo_bind, if_pos hj, run_textPiece]
  · simp only [run_moveTo_bind, if_pos hj, run_textPiece]
  · simp only [run_moveTo_bind]
    split_ifs with hspec
    · exact absurd (hs.symm.trans hspec) (by decide)
    · simp only [closeFString, run_get_bind]
      split_ifs with hpiece
      · rfl
      · exact absurd (Bool.and_eq_true_iff.mpr ⟨hrep, decide_eq_true hj⟩) hpiece

/-- **A `{` in text** opens a field, within the limit on fields open in one literal. -/
lemma textStep_beginField {st : LiteralProgress}
    (hstop : sc.src.textStop d sc.inSpec sc.pos = .openBrace sc.pos)
    (hst : sc.literals.state? = some st) (hlen : st.fields.length ≤ sc.limits.maxFormatSpecDepth) :
    (textStep d).run sc = (⟨.punct .lbrace, 1⟩, { sc with
      pos := sc.pos + 1
      literals := sc.literals.modifyState fun st =>
        { st with fields := { brace := sc.pos } :: st.fields, reported := true } }) := by
  simp only [textStep, run_get_bind]
  split <;> rename_i j' heq <;> cases hstop.symm.trans heq
  simp only [run_moveTo_bind, lt_irrefl, if_false, beginField, run_advance_bind, run_get_bind, hst,
    Nat.not_lt.mpr hlen, run_modifyLiteral_bind, run_emit]
  simp

/-- **A `}` in a format spec** ends the spec and its field. -/
lemma textStep_endSpec (hstop : sc.src.textStop d sc.inSpec sc.pos = .closeBrace sc.pos) :
    (textStep d).run sc = (⟨.punct .rbrace, 1⟩, { sc with
      pos := sc.pos + 1
      literals := sc.literals.modifyState fun st => { st with fields := st.fields.tail } }) := by
  simp only [textStep, run_get_bind]
  split <;> rename_i j' heq <;> cases hstop.symm.trans heq
  simp only [run_moveTo_bind, lt_irrefl, if_false, endSpec, run_advance_bind,
    run_modifyLiteral_bind, run_emit]
  simp

/-- **The closing quotes**, right where the text step starts, close the innermost literal. -/
lemma textStep_close {d' : Delimiter} {rest : DelimiterStack LiteralProgress}
    (hstop : sc.src.textStop d sc.inSpec sc.pos = .closer sc.pos) (hs : sc.inSpec = false)
    (hclose : sc.literals.close d.quote d.size = .ok (d', rest)) :
    (textStep d).run sc = (⟨.fstringEnd, d.closeLength⟩,
      { sc with pos := sc.pos + d.closeLength, literals := rest }) := by
  simp only [textStep, run_get_bind]
  split <;> rename_i j' heq <;> cases hstop.symm.trans heq
  simp only [run_moveTo_bind]
  split_ifs with hspec
  · exact absurd (hs.symm.trans hspec) (by decide)
  · simp only [closeFString, run_get_bind]
    split_ifs with hpiece
    · simp at hpiece
    · simp only [run_advance_bind, run_get_bind, hclose, run_set_bind, run_emit]
      simp

end ScanM

end ExprFront
