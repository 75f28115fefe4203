import Mathlib
import ExprFront.Proofs.WellFormed.Scan

/-!
# Well-formed f-strings scan cleanly

The scan of a word of `FGrammar` reports no fault, its pieces cover the whole text, and it ends
with no f-string open (`wellFormed_fstring_scans_cleanly`), as long as the word nests
f-strings and format-spec fields no deeper than the scanner's limits allow.

The scanner inside a word is `Scanner.inLiteral sc p st`: the word opened at `sc.pos` over the
literals of `sc`, it is at `p`, and `st` is its progress. Every part of the grammar is read
from such a scanner into another one:

* `FieldExpr.reaches` — an expression of a field is read with the field marked as holding an
  expression and nothing else changed, whatever encloses the field;
* `Marker.reaches` and `Spec.reaches` — the marker, the format spec and the closing `}` end
  the field;
* `Word.reaches` — a word, from just after its `f"`, is read to its closing quote, which
  closes the f-string again.

The recursion through the grammar is carried by `Scanner.Room`: the limits leave room for
the f-strings and spec fields the part still opens.
-/

namespace ExprFront

open FGrammar ScanM

namespace Scanner

/-! ## The scanner inside a word -/

/-- The scanner at `p` inside the word `f"…"` that opened at `sc.pos` over the literals of
`sc`, with progress `st`. -/
def inLiteral (sc : Scanner) (p : Nat) (st : LiteralProgress) : Scanner :=
  { sc with pos := p, literals := sc.literals.push .fDouble sc.pos st }

/-- The limits leave room for `n` more f-strings over those open in `sc`, and for fields
nested `m` deep in format specs; and the scan runs. -/
structure Room (sc : Scanner) (n m : Nat) : Prop where
  running : sc.stopped = false
  depth : sc.literals.depth + n ≤ sc.limits.maxFStringDepth
  spec : m ≤ sc.limits.maxFormatSpecDepth

variable {sc : Scanner} {p q : Nat} {st : LiteralProgress} {fl : FieldProgress}
  {flds : List FieldProgress} {r : Bool}

section inLiteral

@[simp] lemma src_inLiteral : (sc.inLiteral p st).src = sc.src := rfl
@[simp] lemma limits_inLiteral : (sc.inLiteral p st).limits = sc.limits := rfl
@[simp] lemma pos_inLiteral : (sc.inLiteral p st).pos = p := rfl
@[simp] lemma stopped_inLiteral : (sc.inLiteral p st).stopped = sc.stopped := rfl
@[simp] lemma depth_inLiteral : (sc.inLiteral p st).literals.depth = sc.literals.depth + 1 := rfl

lemma textDelimiter?_outside : (sc.inLiteral p ⟨[], r⟩).textDelimiter? = some .fDouble := rfl

lemma textDelimiter?_spec (h : fl.inFormatSpec = true) :
    (sc.inLiteral p ⟨fl :: flds, r⟩).textDelimiter? = some .fDouble := by
  simp [inLiteral, textDelimiter?, DelimiterStack.state?, DelimiterStack.current?, h]

lemma textDelimiter?_field (h : fl.inFormatSpec = false) :
    (sc.inLiteral p ⟨fl :: flds, r⟩).textDelimiter? = none := by
  simp [inLiteral, textDelimiter?, DelimiterStack.state?, h]

lemma fieldAtTop?_inLiteral (h : fl.brackets = []) :
    (sc.inLiteral p ⟨fl :: flds, r⟩).fieldAtTop? = some fl := by
  simp [fieldAtTop?, innerField?, inLiteral, DelimiterStack.state?, h]

lemma marked_inLiteral (b : UInt8) : (sc.inLiteral p ⟨fl :: flds, r⟩).marked b =
    sc.inLiteral p ⟨(if beginsExpr b && !fl.markerSeen then { fl with sawExpression := true }
      else fl) :: flds, r⟩ := rfl

/-- A byte that begins an expression marks a field that has seen no marker. -/
lemma marked_inLiteral_of_begins {b : UInt8} (hb : beginsExpr b = true)
    (hseen : fl.markerSeen = false) : (sc.inLiteral p ⟨fl :: flds, r⟩).marked b =
      sc.inLiteral p ⟨{ fl with sawExpression := true } :: flds, r⟩ := by
  rw [marked_inLiteral, hb, hseen]
  rfl

lemma room_inLiteral {n m : Nat} (h : sc.Room (n + 1) m) : (sc.inLiteral p st).Room n m :=
  ⟨h.running, by simp only [depth_inLiteral, limits_inLiteral]; have := h.depth; omega, h.spec⟩

/-- Inside a word, the scan of the scanner the word opened over runs. -/
lemma Room.outer_running {n m : Nat} (h : (sc.inLiteral p st).Room n m) : sc.stopped = false :=
  h.running

lemma Room.mono {n m n' m' : Nat} (h : sc.Room n m) (hn : n' ≤ n) (hm : m' ≤ m) :
    sc.Room n' m' :=
  ⟨h.running, le_trans (by omega) h.depth, le_trans hm h.spec⟩

/-- The room that a scanner inside a word leaves does not depend on where it is in the word. -/
lemma Room.inLiteral {n m : Nat} {st' : LiteralProgress} (h : (sc.inLiteral p st).Room n m) :
    (sc.inLiteral q st').Room n m :=
  ⟨h.running, h.depth, h.spec⟩

/-- Outside every f-string the first byte of a token marks nothing. -/
lemma marked_of_outside {b : UInt8} (h : sc.innerField? = none) : sc.marked b = sc :=
  modifyField_id fun _ hfl => by rw [h] at hfl; cases hfl

end inLiteral

end Scanner

/-- The expression of a field has ended: no bracket of the field's own is open, an expression
was read, and the scan has not reached the format spec. A marker, a colon or the closing `}`
may come next. -/
structure FieldProgress.Ended (fl : FieldProgress) : Prop where
  top : fl.brackets = []
  saw : fl.sawExpression = true
  code : fl.inFormatSpec = false

lemma FieldProgress.Ended.seen {fl : FieldProgress} (h : fl.Ended) :
    { fl with markerSeen := true }.Ended :=
  ⟨h.top, h.saw, h.code⟩

lemma FieldProgress.sawExpression_eta {fl : FieldProgress} (h : fl.sawExpression = true) :
    { fl with sawExpression := true } = fl := by
  cases fl
  cases h
  rfl

/-! ## Where a walk through the text stops -/

namespace Source

variable {src : Source} {k : Nat} {c : UInt8} {bs : List UInt8} {sp : Bool}

lemma Rest.textStop_openBrace (h : src.Rest k (123 :: c :: bs)) (hc : sp = false → c ≠ 123) :
    src.textStop .fDouble sp k = .openBrace k :=
  textStop_at_stop (t := .openBrace k) (i := k)
    ⟨le_refl k, h.byte_cons, fun hs => by rw [h.byte_one]; exact hc hs⟩

lemma Rest.textStop_openBrace_spec (h : src.Rest k (123 :: bs)) :
    src.textStop .fDouble true k = .openBrace k :=
  textStop_at_stop (t := .openBrace k) (i := k) ⟨le_refl k, h.byte_cons, nofun⟩

lemma Rest.textStop_closeBrace (h : src.Rest k (125 :: bs)) :
    src.textStop .fDouble true k = .closeBrace k :=
  textStop_at_stop (t := .closeBrace k) (i := k) ⟨le_refl k, h.byte_cons, rfl⟩

lemma Rest.textStop_closer (h : src.Rest k (34 :: bs)) : src.textStop .fDouble sp k = .closer k :=
  textStop_at_stop (t := .closer k) (i := k) ⟨le_refl k, by rw [closesAt, h.byte_cons]; rfl⟩

end Source

/-! ## One step at a time -/

namespace Scanner

variable {sc sc' : Scanner} {p i k : Nat} {fl : FieldProgress} {flds : List FieldProgress}
  {r : Bool} {c : UInt8} {bs : List UInt8} {tag : RawTag} {n : Nat}

/-- A step in the expression of a field. -/
lemma Reaches.inField (h : codeStep.run (sc.inLiteral p ⟨fl :: flds, r⟩) = (⟨tag, n⟩, sc'))
    (hgo : sc.stopped = false) (hfl : fl.inFormatSpec = false) (hf : tag.isFault = false)
    (he : tag ≠ .eof) : (sc.inLiteral p ⟨fl :: flds, r⟩).Reaches sc' :=
  .code hgo (textDelimiter?_field hfl) h hf he

/-- A step through the text of a word. -/
lemma Reaches.inText (h : (textStep .fDouble).run (sc.inLiteral p st) = (⟨tag, n⟩, sc'))
    (hgo : sc.stopped = false) (hmode : (sc.inLiteral p st).textDelimiter? = some .fDouble)
    (hf : tag.isFault = false) (he : tag ≠ .eof) : (sc.inLiteral p st).Reaches sc' :=
  .text hgo hmode h hf he

/-- A token that begins an expression: the field is marked, and the scan moves past it. -/
lemma reaches_token {b : UInt8} (hgo : sc.stopped = false) (hfl : fl.inFormatSpec = false)
    (hseen : fl.markerSeen = false) (hb : beginsExpr b = true)
    (h : codeStep.run (sc.inLiteral p ⟨fl :: flds, r⟩) =
      (⟨tag, n⟩, { (sc.inLiteral p ⟨fl :: flds, r⟩).marked b with pos := p + n }))
    (hf : tag.isFault = false) (he : tag ≠ .eof) :
    (sc.inLiteral p ⟨fl :: flds, r⟩).Reaches
      (sc.inLiteral (p + n) ⟨{ fl with sawExpression := true } :: flds, r⟩) := by
  rw [marked_inLiteral_of_begins hb hseen] at h
  exact .inField h hgo hfl hf he

/-! ### Tuples -/

/-- An opening bracket marks the field and opens a bracket of its own. -/
lemma reaches_open (k : TupleBracket) (hgo : sc.stopped = false) (hfl : fl.inFormatSpec = false)
    (hseen : fl.markerSeen = false) (h : sc.src.Rest p (k.openByte :: bs)) :
    (sc.inLiteral p ⟨fl :: flds, r⟩).Reaches (sc.inLiteral (p + 1)
      ⟨{ fl with sawExpression := true, brackets := ⟨k.kind, p⟩ :: fl.brackets } :: flds, r⟩) := by
  have hstep := codeStep_open k (show (sc.inLiteral p ⟨fl :: flds, r⟩).src.Rest _ _ from h)
  rw [marked_inLiteral_of_begins (by cases k <;> decide) hseen] at hstep
  exact .inField hstep hgo hfl rfl nofun

/-- The matching closing bracket closes it again. -/
lemma reaches_close (k : TupleBracket) (hgo : sc.stopped = false)
    (hfl : fl.inFormatSpec = false) (hseen : fl.markerSeen = false)
    (h : sc.src.Rest p (k.closeByte :: bs)) :
    (sc.inLiteral p
      ⟨{ fl with sawExpression := true, brackets := ⟨k.kind, i⟩ :: fl.brackets } :: flds, r⟩).Reaches
      (sc.inLiteral (p + 1) ⟨{ fl with sawExpression := true } :: flds, r⟩) := by
  have hbegins : beginsExpr k.closeByte = true := by cases k <;> decide
  set fl₁ : FieldProgress :=
    { fl with sawExpression := true, brackets := ⟨k.kind, i⟩ :: fl.brackets }
  have hmark : (sc.inLiteral p ⟨fl₁ :: flds, r⟩).marked k.closeByte =
      sc.inLiteral p ⟨fl₁ :: flds, r⟩ := by
    rw [marked_inLiteral_of_begins hbegins (show fl₁.markerSeen = false from hseen)]
  have hstep := codeStep_close k (show (sc.inLiteral p ⟨fl₁ :: flds, r⟩).src.Rest _ _ from h)
    (by rw [hmark]; rfl)
  rw [hmark] at hstep
  exact .inField hstep hgo hfl rfl nofun

/-- The `, ` between two items. -/
lemma reaches_separator (hgo : sc.stopped = false) (hfl : fl.inFormatSpec = false)
    (hseen : fl.markerSeen = false) (hsaw : fl.sawExpression = true)
    (h : sc.src.Rest p (44 :: 32 :: c :: bs)) (hc : (c == 32 || c == 9 || c == 12) = false) :
    (sc.inLiteral p ⟨fl :: flds, r⟩).Reaches (sc.inLiteral (p + 2) ⟨fl :: flds, r⟩) := by
  have hcomma := codeStep_comma (show (sc.inLiteral p ⟨fl :: flds, r⟩).src.Rest _ _ from h)
  rw [marked_inLiteral_of_begins (by decide) hseen, FieldProgress.sawExpression_eta hsaw] at hcomma
  have hblank :=
    codeStep_blank (show (sc.inLiteral (p + 1) ⟨fl :: flds, r⟩).src.Rest _ _ from h.cons) hc
  rw [marked_of_not (by decide)] at hblank
  exact (Reaches.inField hcomma hgo hfl rfl nofun).trans (.inField hblank hgo hfl rfl nofun)

/-! ### The end of a field -/

/-- A marker `=` or `!` after the expression. -/
lemma reaches_marker {b : UInt8} {pt : Punct} (hbp : b = 61 ∧ pt = .eq ∨ b = 33 ∧ pt = .bang)
    (hgo : sc.stopped = false) (hfl : fl.Ended) (h : sc.src.Rest p (b :: c :: bs))
    (hc : c ≠ 61) :
    (sc.inLiteral p ⟨fl :: flds, r⟩).Reaches
      (sc.inLiteral (p + 1) ⟨{ fl with markerSeen := true } :: flds, r⟩) :=
  .inField (codeStep_marker hbp (show (sc.inLiteral p ⟨fl :: flds, r⟩).src.Rest _ _ from h) hc
    (fieldAtTop?_inLiteral hfl.top) hfl.saw) hgo hfl.code (by rcases hbp with ⟨-, rfl⟩ | ⟨-, rfl⟩ <;> rfl)
    (by rcases hbp with ⟨-, rfl⟩ | ⟨-, rfl⟩ <;> exact nofun)

/-- The name of a conversion after `!`, which marks nothing. -/
lemma reaches_conversion (x : Name) (hgo : sc.stopped = false) (hfl : fl.Ended)
    (hseen : fl.markerSeen = true) (h : sc.src.Rest p (utf8 x.chars ++ c :: bs))
    (hc : Follows c) :
    (sc.inLiteral p ⟨fl :: flds, r⟩).Reaches
      (sc.inLiteral (p + (utf8 x.chars).length) ⟨fl :: flds, r⟩) := by
  have hstep := codeStep_name x (show (sc.inLiteral p ⟨fl :: flds, r⟩).src.Rest _ _ from h) hc
  rw [marked_inLiteral, hseen, Bool.not_true, Bool.and_false, if_neg Bool.false_ne_true] at hstep
  exact .inField hstep hgo hfl.code rfl nofun

/-- A colon begins the format spec. -/
lemma reaches_colon (hgo : sc.stopped = false) (hfl : fl.Ended) (h : sc.src.Rest p (58 :: bs)) :
    (sc.inLiteral p ⟨fl :: flds, r⟩).Reaches
      (sc.inLiteral (p + 1) ⟨{ fl with inFormatSpec := true } :: flds, r⟩) :=
  .inField (codeStep_colon (show (sc.inLiteral p ⟨fl :: flds, r⟩).src.Rest _ _ from h)
    (fieldAtTop?_inLiteral hfl.top) hfl.saw)
    hgo hfl.code rfl nofun

/-- A `}` closes the field. -/
lemma reaches_endField (hgo : sc.stopped = false) (hfl : fl.Ended) (h : sc.src.Rest p (125 :: bs)) :
    (sc.inLiteral p ⟨fl :: flds, r⟩).Reaches (sc.inLiteral (p + 1) ⟨flds, r⟩) :=
  .inField (codeStep_endField (show (sc.inLiteral p ⟨fl :: flds, r⟩).src.Rest _ _ from h)
    (fieldAtTop?_inLiteral hfl.top) hfl.saw)
    hgo hfl.code rfl nofun

/-! ### Text -/

/-- Text up to a `{`, and the field that the `{` opens. -/
lemma reaches_beginField (hgo : sc.stopped = false)
    (hmode : (sc.inLiteral i ⟨flds, r⟩).textDelimiter? = some .fDouble)
    (hwalk : sc.src.textStop .fDouble (sc.inLiteral i ⟨flds, r⟩).inSpec i = .openBrace k)
    (hat : sc.src.textStop .fDouble (sc.inLiteral i ⟨flds, r⟩).inSpec k = .openBrace k)
    (hik : i ≤ k) (hlen : flds.length ≤ sc.limits.maxFormatSpecDepth) :
    (sc.inLiteral i ⟨flds, r⟩).Reaches (sc.inLiteral (k + 1) ⟨{ brace := k } :: flds, true⟩) := by
  have hbegin : ∀ r', (sc.inLiteral k ⟨flds, r'⟩).Reaches
      (sc.inLiteral (k + 1) ⟨{ brace := k } :: flds, true⟩) := fun r' =>
    .inText (textStep_beginField (show (sc.inLiteral k ⟨flds, r'⟩).src.textStop _
      (sc.inLiteral k ⟨flds, r'⟩).inSpec (sc.inLiteral k ⟨flds, r'⟩).pos = _ from hat) rfl hlen)
      hgo hmode rfl nofun
  rcases Nat.lt_or_eq_of_le hik with hlt | rfl
  · exact (Reaches.inText (textStep_piece (show (sc.inLiteral i ⟨flds, r⟩).src.textStop _
      (sc.inLiteral i ⟨flds, r⟩).inSpec (sc.inLiteral i ⟨flds, r⟩).pos = _ from hwalk) (.inl rfl)
      hlt) hgo hmode rfl nofun).trans (hbegin true)
  · exact hbegin r

/-- Spec text up to a `}`, and the end of the spec and of its field at the `}`. -/
lemma reaches_endSpec (hgo : sc.stopped = false) (hspec : fl.inFormatSpec = true)
    (hwalk : sc.src.textStop .fDouble true i = .closeBrace k)
    (hat : sc.src.textStop .fDouble true k = .closeBrace k) (hik : i ≤ k) :
    (sc.inLiteral i ⟨fl :: flds, true⟩).Reaches (sc.inLiteral (k + 1) ⟨flds, true⟩) := by
  have hmode : (sc.inLiteral i ⟨fl :: flds, true⟩).textDelimiter? = some .fDouble :=
    textDelimiter?_spec hspec
  rw [← hspec] at hwalk hat
  have hend : (sc.inLiteral k ⟨fl :: flds, true⟩).Reaches (sc.inLiteral (k + 1) ⟨flds, true⟩) :=
    .inText (textStep_endSpec (show (sc.inLiteral k ⟨fl :: flds, true⟩).src.textStop _
      (sc.inLiteral k ⟨fl :: flds, true⟩).inSpec (sc.inLiteral k ⟨fl :: flds, true⟩).pos = _
      from hat)) hgo hmode rfl nofun
  rcases Nat.lt_or_eq_of_le hik with hlt | rfl
  · exact (Reaches.inText (textStep_piece (show (sc.inLiteral i ⟨fl :: flds, true⟩).src.textStop _
      (sc.inLiteral i ⟨fl :: flds, true⟩).inSpec (sc.inLiteral i ⟨fl :: flds, true⟩).pos = _
      from hwalk) (.inr (.inl rfl)) hlt) hgo hmode rfl nofun).trans hend
  · exact hend

/-- Text up to the closing quote, which closes the word. -/
lemma reaches_closeWord (hgo : sc.stopped = false)
    (hwalk : sc.src.textStop .fDouble false i = .closer k)
    (hat : sc.src.textStop .fDouble false k = .closer k) (hik : i ≤ k) :
    (sc.inLiteral i ⟨[], true⟩).Reaches { sc with pos := k + 1 } := by
  have hmode : (sc.inLiteral i ⟨[], true⟩).textDelimiter? = some .fDouble := textDelimiter?_outside
  have hclose : (sc.inLiteral k ⟨[], true⟩).literals.close .double .single = .ok (.fDouble, sc.literals) :=
    DelimiterStack.close_push _ _ _ _ _ _ (by decide)
  have hend : (sc.inLiteral k ⟨[], true⟩).Reaches { sc with pos := k + 1 } :=
    .inText (textStep_close (show (sc.inLiteral k ⟨[], true⟩).src.textStop _
      (sc.inLiteral k ⟨[], true⟩).inSpec (sc.inLiteral k ⟨[], true⟩).pos = _ from hat) rfl hclose)
      hgo hmode rfl nofun
  rcases Nat.lt_or_eq_of_le hik with hlt | rfl
  · exact (Reaches.inText (textStep_piece (show (sc.inLiteral i ⟨[], true⟩).src.textStop _
      (sc.inLiteral i ⟨[], true⟩).inSpec (sc.inLiteral i ⟨[], true⟩).pos = _ from hwalk)
      (.inr (.inr ⟨rfl, rfl, rfl⟩)) hlt) hgo hmode rfl nofun).trans hend
  · exact hend

end Scanner

/-! ## The bytes around the parts of a word -/

namespace FGrammar

open Scanner

/-- A byte that an expression may begin with, as the walks before it need: no `{`, which after
the `{` of a field would double it, and no blank, which after `, ` would run on. -/
def ExprStart (b : UInt8) : Prop := b ≠ 123 ∧ (b == 32 || b == 9 || b == 12) = false

instance : DecidablePred ExprStart := fun _ => inferInstanceAs (Decidable (_ ∧ _))

set_option maxRecDepth 10000 in
lemma exprStart_of_identStart : ∀ b : UInt8, isIdentStartByte b = true → ExprStart b ∧
    beginsExpr b = true := by
  decide

set_option maxRecDepth 10000 in
lemma exprStart_of_digit : ∀ b : UInt8, isDigitByte b = true → ExprStart b ∧
    beginsExpr b = true := by
  decide

/-- An expression is at least one byte, and its first byte may begin it. -/
lemma FieldExpr.utf8_cons : ∀ e : FieldExpr, ∃ b bs, utf8 e.chars = b :: bs ∧ ExprStart b
  | .name x => ⟨_, _, x.utf8_chars, (exprStart_of_identStart _ x.identStart).1⟩
  | .digits d =>
    ⟨_, _, d.utf8_chars, (exprStart_of_digit _ (d.digit_bytes _ (by simp [Digits.chars]))).1⟩
  | .str _ => ⟨39, _, rfl, by decide⟩
  | .tuple k _ => by cases k <;> exact ⟨_, _, rfl, by decide⟩
  | .fstring w => ⟨102, _, by rw [FieldExpr.chars, utf8_word], by decide⟩

lemma TextPiece.utf8_ne_quote : ∀ t : TextPiece, ∀ x ∈ utf8 t.chars, x ≠ 34
  | .char c hc => fun x hx hq => by
    have := Source.textTest_utf8_of (d := .fDouble) (Source.textTest_textChar .double)
      (show ∀ ch ∈ [c], _ by simpa using hc) x hx
    simp only [Source.textTest, hq, Bool.or_eq_false_iff, beq_eq_false_iff_ne] at this
    exact this.1.1.1.1 rfl
  | .openPair => by simp
  | .closePair => by simp

/-- Text holds no `"`, so the byte after `f"` is no quote. -/
lemma utf8_text_ne_quote : ∀ (ts : List TextPiece), ∀ x ∈ utf8 (textChars ts), x ≠ 34
  | [] => by simp
  | t :: ts => by
    simp only [textChars_cons, utf8_append, List.mem_append]
    rintro x (hx | hx)
    exacts [t.utf8_ne_quote x hx, utf8_text_ne_quote ts x hx]

/-- A word opens with `f"` and a byte that is no quote. -/
lemma Word.utf8_opener (w : Word) (t : List UInt8) :
    ∃ x xs, utf8 w.chars ++ t = 102 :: 34 :: x :: xs ∧ x ≠ 34 := by
  rw [utf8_word]
  cases hb : utf8 (textChars w.before) with
  | nil => exact ⟨123, _, by simp only [List.cons_append, List.nil_append]; rfl, by decide⟩
  | cons y ys =>
    exact ⟨y, _, by simp only [List.cons_append]; rfl, utf8_text_ne_quote w.before y (by simp [hb])⟩

/-- After the expression of a word's field come its marker, its spec or its closing `}`. -/
lemma Marker.utf8_follows (m : Marker) (sp : Spec) (t : List UInt8) :
    ∃ c bs, utf8 m.chars ++ (utf8 sp.chars ++ 125 :: t) = c :: bs ∧ Follows c := by
  cases m <;> cases sp <;> exact ⟨_, _, rfl, by decide⟩

/-- After the marker come the spec's colon or the field's closing `}`. -/
lemma Spec.utf8_follows (sp : Spec) (t : List UInt8) :
    ∃ c bs, utf8 sp.chars ++ 125 :: t = c :: bs ∧ (c = 58 ∨ c = 125) := by
  cases sp <;> exact ⟨_, _, rfl, by decide⟩

/-- After an item of a tuple come a comma or what follows the tuple's items. -/
lemma FieldExpr.tailChars_follows (es : List FieldExpr) {c : UInt8} (hc : Follows c)
    (bs : List UInt8) : ∃ c' bs', utf8 (tailChars es) ++ c :: bs = c' :: bs' ∧ Follows c' := by
  cases es with
  | nil => exact ⟨c, bs, rfl, hc⟩
  | cons e es => exact ⟨44, _, by rw [FieldExpr.tailChars]; rfl, by decide⟩

end FGrammar

/-! ## Reading the parts of a word -/

namespace FGrammar

open Scanner

/-- **A marker** after a field's expression is read, leaving the expression ended; after `!`
the conversion's name marks nothing. -/
lemma Marker.reaches (m : Marker) {sc : Scanner} {p : Nat} {fl : FieldProgress}
    {flds : List FieldProgress} {r : Bool} {c : UInt8} {bs : List UInt8}
    (hgo : sc.stopped = false) (hfl : fl.Ended) (h : sc.src.Rest p (utf8 m.chars ++ c :: bs))
    (hc : c = 58 ∨ c = 125) :
    ∃ fl', fl'.Ended ∧ (sc.inLiteral p ⟨fl :: flds, r⟩).Reaches
      (sc.inLiteral (p + (utf8 m.chars).length) ⟨fl' :: flds, r⟩) := by
  have hc61 : c ≠ 61 := by rcases hc with rfl | rfl <;> decide
  have hcf : Follows c := by rcases hc with rfl | rfl <;> decide
  cases m with
  | none => exact ⟨fl, hfl, .refl _⟩
  | debug => exact ⟨_, hfl.seen, reaches_marker (.inl ⟨rfl, rfl⟩) hgo hfl h hc61⟩
  | repr =>
    have hbang : (sc.inLiteral p ⟨fl :: flds, r⟩).Reaches _ :=
      reaches_marker (.inr ⟨rfl, rfl⟩) hgo hfl h (by decide)
    have hname : (sc.inLiteral (p + 1) ⟨_ :: flds, r⟩).Reaches _ :=
      reaches_conversion ⟨'r', [], by decide, by simp⟩ hgo hfl.seen rfl h.cons hcf
    exact ⟨_, hfl.seen, hbang.trans hname⟩
  | debugStr =>
    have heq : (sc.inLiteral p ⟨fl :: flds, r⟩).Reaches _ :=
      reaches_marker (.inl ⟨rfl, rfl⟩) hgo hfl h (by decide)
    have hbang : (sc.inLiteral (p + 1) ⟨_ :: flds, r⟩).Reaches _ :=
      reaches_marker (.inr ⟨rfl, rfl⟩) hgo hfl.seen h.cons (by decide)
    have hname : (sc.inLiteral (p + 1 + 1) ⟨_ :: flds, r⟩).Reaches _ :=
      reaches_conversion ⟨'s', [], by decide, by simp⟩ hgo hfl.seen.seen rfl h.cons.cons hcf
    exact ⟨_, hfl.seen.seen, (heq.trans hbang).trans hname⟩

mutual

/-- **An expression of a field is read** with the field marked as holding an expression and
nothing else changed, as long as the limits leave room for the f-strings and spec fields it
opens. -/
theorem FieldExpr.reaches : ∀ (e : FieldExpr) {sc : Scanner} {p : Nat} {fl : FieldProgress}
    {flds : List FieldProgress} {c : UInt8} {bs : List UInt8},
    (sc.inLiteral p ⟨fl :: flds, true⟩).Room e.depth e.specDepth → fl.inFormatSpec = false →
    fl.markerSeen = false → sc.src.Rest p (utf8 e.chars ++ c :: bs) → Follows c →
    (sc.inLiteral p ⟨fl :: flds, true⟩).Reaches
      (sc.inLiteral (p + (utf8 e.chars).length) ⟨{ fl with sawExpression := true } :: flds, true⟩)
  | .name x, sc, p, fl, flds, _, _, hroom, hfl, hseen, h, hc =>
    reaches_token hroom.outer_running hfl hseen (exprStart_of_identStart _ x.identStart).2
      (codeStep_name x (show (sc.inLiteral p ⟨fl :: flds, true⟩).src.Rest _ _ from h) hc) rfl nofun
  | .digits d, sc, p, fl, flds, _, _, hroom, hfl, hseen, h, hc =>
    reaches_token hroom.outer_running hfl hseen
      (exprStart_of_digit _ (d.digit_bytes _ (by simp [Digits.chars]))).2
      (codeStep_digits d (show (sc.inLiteral p ⟨fl :: flds, true⟩).src.Rest _ _ from h) hc) rfl nofun
  | .str body, sc, p, fl, flds, c, bs, hroom, hfl, hseen, h, hc => by
    have hbytes : utf8 (FieldExpr.str body).chars = 39 :: (utf8 body.chars ++ [39]) := by
      simp only [FieldExpr.chars, utf8_cons, utf8_append]
      rfl
    rw [hbytes] at h ⊢
    simp only [List.cons_append, List.append_assoc] at h
    have hstep := codeStep_string body (show (sc.inLiteral p ⟨fl :: flds, true⟩).src.Rest _ _ from h)
      (by rintro rfl; exact absurd hc (by decide))
    have hlen : (39 :: (utf8 body.chars ++ [39])).length = (utf8 body.chars).length + 2 := by simp
    rw [hlen]
    exact reaches_token hroom.outer_running hfl hseen (by decide) hstep rfl nofun
  | .tuple k items, sc, p, fl, flds, c, bs, hroom, hfl, hseen, h, hc => by
    have hbytes : utf8 (FieldExpr.tuple k items).chars =
        k.openByte :: (utf8 (FieldExpr.itemChars items) ++ [k.closeByte]) := by
      cases k <;> simp only [FieldExpr.chars, utf8_cons, utf8_append] <;> rfl
    rw [hbytes] at h ⊢
    simp only [List.cons_append, List.append_assoc] at h
    have hopen : (sc.inLiteral p ⟨fl :: flds, true⟩).Reaches _ :=
      reaches_open k hroom.outer_running hfl hseen h
    have hitems : (sc.inLiteral (p + 1)
        ⟨{ fl with sawExpression := true, brackets := ⟨k.kind, p⟩ :: fl.brackets } :: flds,
          true⟩).Reaches _ :=
      FieldExpr.itemsReach items hroom.inLiteral hfl hseen rfl h.cons (by cases k <;> decide)
    have hclose : (sc.inLiteral _
        ⟨{ fl with sawExpression := true, brackets := ⟨k.kind, p⟩ :: fl.brackets } :: flds,
          true⟩).Reaches _ :=
      reaches_close k hroom.outer_running hfl hseen h.cons.append
    have hlen : (k.openByte :: (utf8 (FieldExpr.itemChars items) ++ [k.closeByte])).length =
        1 + (utf8 (FieldExpr.itemChars items)).length + 1 := by simp; omega
    rw [hlen, ← Nat.add_assoc, ← Nat.add_assoc]
    exact (hopen.trans hitems).trans hclose
  | .fstring w, sc, p, fl, flds, c, bs, hroom, hfl, hseen, h, hc => by
    obtain ⟨x, xs, hopener, hx⟩ := Word.utf8_opener w (c :: bs)
    have hdepth : (sc.inLiteral p ⟨fl :: flds, true⟩).literals.depth <
        (sc.inLiteral p ⟨fl :: flds, true⟩).limits.maxFStringDepth := by
      have hroom_depth := hroom.depth
      have hw : 1 ≤ w.depth := by cases w; simp [Word.depth]
      simp only [FieldExpr.depth] at hroom_depth
      omega
    have hstep := codeStep_fstring
      (show (sc.inLiteral p ⟨fl :: flds, true⟩).src.Rest _ _ by rw [← hopener]; exact h) hx hdepth
    rw [marked_inLiteral_of_begins (by decide) hseen] at hstep
    have hword := Word.reaches w
      (show (sc.inLiteral p ⟨{ fl with sawExpression := true } :: flds, true⟩).Room _ _
        from hroom.inLiteral) h
    exact (Reaches.inField hstep hroom.outer_running hfl rfl nofun).trans hword

/-- The items of a tuple are read, the field left as it was. -/
theorem FieldExpr.itemsReach : ∀ (es : List FieldExpr) {sc : Scanner} {p : Nat}
    {fl : FieldProgress} {flds : List FieldProgress} {c : UInt8} {bs : List UInt8},
    (sc.inLiteral p ⟨fl :: flds, true⟩).Room (FieldExpr.itemsDepth es)
      (FieldExpr.itemsSpecDepth es) → fl.inFormatSpec = false → fl.markerSeen = false →
    fl.sawExpression = true → sc.src.Rest p (utf8 (FieldExpr.itemChars es) ++ c :: bs) →
    Follows c → (sc.inLiteral p ⟨fl :: flds, true⟩).Reaches
      (sc.inLiteral (p + (utf8 (FieldExpr.itemChars es)).length) ⟨fl :: flds, true⟩)
  | [], _, _, _, _, _, _, _, _, _, _, _, _ => .refl _
  | e :: es, sc, p, fl, flds, c, bs, hroom, hfl, hseen, hsaw, h, hc => by
    simp only [FieldExpr.itemChars, utf8_append, List.append_assoc, List.length_append] at h ⊢
    obtain ⟨c', bs', hfollow, hc'⟩ := FieldExpr.tailChars_follows es hc bs
    have hitem := FieldExpr.reaches e (hroom.mono (le_max_left _ _) (le_max_left _ _)) hfl hseen
      (by rw [← hfollow]; exact h) hc'
    rw [FieldProgress.sawExpression_eta hsaw] at hitem
    have htail : (sc.inLiteral _ ⟨fl :: flds, true⟩).Reaches _ :=
      FieldExpr.tailReach es (Room.inLiteral (hroom.mono (le_max_right _ _) (le_max_right _ _)))
        hfl hseen hsaw h.append hc
    rw [← Nat.add_assoc]
    exact hitem.trans htail

/-- The items of a tuple after the first are read, each after `, `. -/
theorem FieldExpr.tailReach : ∀ (es : List FieldExpr) {sc : Scanner} {p : Nat}
    {fl : FieldProgress} {flds : List FieldProgress} {c : UInt8} {bs : List UInt8},
    (sc.inLiteral p ⟨fl :: flds, true⟩).Room (FieldExpr.itemsDepth es)
      (FieldExpr.itemsSpecDepth es) → fl.inFormatSpec = false → fl.markerSeen = false →
    fl.sawExpression = true → sc.src.Rest p (utf8 (FieldExpr.tailChars es) ++ c :: bs) →
    Follows c → (sc.inLiteral p ⟨fl :: flds, true⟩).Reaches
      (sc.inLiteral (p + (utf8 (FieldExpr.tailChars es)).length) ⟨fl :: flds, true⟩)
  | [], _, _, _, _, _, _, _, _, _, _, _, _ => .refl _
  | e :: es, sc, p, fl, flds, c, bs, hroom, hfl, hseen, hsaw, h, hc => by
    have hbytes : utf8 (FieldExpr.tailChars (e :: es)) =
        44 :: 32 :: (utf8 e.chars ++ utf8 (FieldExpr.tailChars es)) := by
      simp only [FieldExpr.tailChars, utf8_cons, utf8_append]
      rfl
    rw [hbytes] at h ⊢
    simp only [List.cons_append, List.append_assoc] at h
    obtain ⟨b, bs₀, hb, hstart⟩ := e.utf8_cons
    have hsep : (sc.inLiteral p ⟨fl :: flds, true⟩).Reaches _ :=
      reaches_separator hroom.outer_running hfl hseen hsaw
        (by rw [← List.cons_append, ← hb]; exact h) hstart.2
    obtain ⟨c', bs', hfollow, hc'⟩ := FieldExpr.tailChars_follows es hc bs
    have hitem : (sc.inLiteral _ ⟨fl :: flds, true⟩).Reaches _ :=
      FieldExpr.reaches e (Room.inLiteral (hroom.mono (le_max_left _ _) (le_max_left _ _))) hfl
        hseen (by rw [← hfollow]; exact h.cons.cons) hc'
    rw [FieldProgress.sawExpression_eta hsaw] at hitem
    have htail : (sc.inLiteral _ ⟨fl :: flds, true⟩).Reaches _ :=
      FieldExpr.tailReach es (Room.inLiteral (hroom.mono (le_max_right _ _) (le_max_right _ _)))
        hfl hseen hsaw h.cons.cons.append hc
    have hlen : (44 :: 32 :: (utf8 e.chars ++ utf8 (FieldExpr.tailChars es))).length =
        2 + (utf8 e.chars).length + (utf8 (FieldExpr.tailChars es)).length := by simp; omega
    rw [hlen, ← Nat.add_assoc, ← Nat.add_assoc]
    exact (hsep.trans hitem).trans htail

/-- **A word is read** from just after its `f"` to just after its closing quote, which closes the
f-string it opened. -/
theorem Word.reaches : ∀ (w : Word) {sc : Scanner} {bs : List UInt8},
    sc.Room w.depth w.specDepth → sc.src.Rest sc.pos (utf8 w.chars ++ bs) →
    (sc.inLiteral (sc.pos + 2) {}).Reaches { sc with pos := sc.pos + (utf8 w.chars).length }
  | ⟨before, e, m, sp, after⟩, sc, bs, hroom, h => by
    rw [utf8_word] at h ⊢
    simp only [List.cons_append, List.append_assoc] at h
    have hin : (sc.inLiteral sc.pos {}).Room (max e.depth sp.depth)
        (max e.specDepth sp.specDepth) :=
      room_inLiteral hroom
    have htext := h.cons.cons
    have hbrace := htext.append
    obtain ⟨b, bs₀, hb, hstart⟩ := e.utf8_cons
    have hat : sc.src.textStop .fDouble false (sc.pos + 1 + 1 + (utf8 (textChars before)).length) =
        .openBrace (sc.pos + 1 + 1 + (utf8 (textChars before)).length) := by
      rw [hb] at hbrace
      exact hbrace.textStop_openBrace fun _ => hstart.1
    have hwalk : sc.src.textStop .fDouble false (sc.pos + 1 + 1) =
        .openBrace (sc.pos + 1 + 1 + (utf8 (textChars before)).length) := by
      rw [htext.textStop_text before]
      exact hat
    have hopen : (sc.inLiteral (sc.pos + 1 + 1) ⟨[], false⟩).Reaches _ :=
      reaches_beginField hroom.running textDelimiter?_outside hwalk hat (by omega) (by simp)
    obtain ⟨c, bs₁, hfollow, hc⟩ :=
      Marker.utf8_follows m sp (utf8 (textChars after) ++ 34 :: bs)
    have hexpr : (sc.inLiteral _ ⟨[{ brace := sc.pos + 1 + 1 + (utf8 (textChars before)).length }], true⟩).Reaches _ :=
      FieldExpr.reaches e (hin.inLiteral.mono (le_max_left _ _) (le_max_left _ _)) rfl rfl
        (by rw [← hfollow]; exact hbrace.cons) hc
    obtain ⟨c', bs₂, hfollow', hc'⟩ := Spec.utf8_follows sp (utf8 (textChars after) ++ 34 :: bs)
    obtain ⟨fl', hfl', hmarker⟩ := @Marker.reaches m sc _
      { ({ brace := sc.pos + 1 + 1 + (utf8 (textChars before)).length } : FieldProgress) with sawExpression := true }
      [] true _ _ hroom.running ⟨rfl, rfl, rfl⟩ (by rw [← hfollow']; exact hbrace.cons.append) hc'
    have hspec := @Spec.reaches sp sc _ fl' _
      (Room.inLiteral (hin.mono (le_max_right _ _) (le_max_right _ _))) hfl'
      hbrace.cons.append.append
    have hafter := hbrace.cons.append.append.append.cons
    have hquote : sc.src.textStop .fDouble false _ = _ := hafter.append.textStop_closer
    have hclose := reaches_closeWord hroom.running
      (by rw [hafter.textStop_text after]; exact hquote) hquote (by omega)
    have hlen : (102 :: 34 :: (utf8 (textChars before) ++ 123 :: (utf8 e.chars ++
        (utf8 m.chars ++ (utf8 sp.chars ++ 125 :: (utf8 (textChars after) ++ [34])))))).length =
        2 + (utf8 (textChars before)).length + 1 + (utf8 e.chars).length + (utf8 m.chars).length +
          (utf8 sp.chars).length + 1 + (utf8 (textChars after)).length + 1 := by simp; omega
    have hpos : sc.pos + (2 + (utf8 (textChars before)).length + 1 + (utf8 e.chars).length +
        (utf8 m.chars).length + (utf8 sp.chars).length + 1 + (utf8 (textChars after)).length + 1) =
        sc.pos + 1 + 1 + (utf8 (textChars before)).length + 1 + (utf8 e.chars).length +
          (utf8 m.chars).length + (utf8 sp.chars).length + 1 +
          (utf8 (textChars after)).length + 1 := by omega
    rw [hlen, hpos]
    exact (((hopen.trans hexpr).trans hmarker).trans hspec).trans hclose

/-- **A format spec is read** with the closing `}` of its field, which it closes. -/
theorem Spec.reaches : ∀ (sp : Spec) {sc : Scanner} {q : Nat} {fl : FieldProgress}
    {bs : List UInt8}, (sc.inLiteral q ⟨[fl], true⟩).Room sp.depth sp.specDepth → fl.Ended →
    sc.src.Rest q (utf8 sp.chars ++ 125 :: bs) →
    (sc.inLiteral q ⟨[fl], true⟩).Reaches
      (sc.inLiteral (q + (utf8 sp.chars).length + 1) ⟨[], true⟩)
  | .none, _, _, _, _, hroom, hfl, h => reaches_endField hroom.outer_running hfl h
  | .text P, sc, q, fl, bs, hroom, hfl, h => by
    have hbytes : utf8 (Spec.text P).chars = 58 :: utf8 P.chars := by
      simp only [Spec.chars, utf8_cons]
      rfl
    rw [hbytes] at h ⊢
    have hP := h.cons
    have hend := hP.append
    have hcolon : (sc.inLiteral q ⟨[fl], true⟩).Reaches _ := reaches_colon hroom.outer_running hfl h
    have hspec : (sc.inLiteral _ ⟨[{ fl with inFormatSpec := true }], true⟩).Reaches _ :=
      reaches_endSpec hroom.outer_running rfl (by rw [hP.textStop_spec P]; exact hend.textStop_closeBrace)
      hend.textStop_closeBrace (by omega)
    rw [List.length_cons, Nat.add_comm (utf8 P.chars).length 1, ← Nat.add_assoc]
    exact hcolon.trans hspec
  | .field P e, sc, q, fl, bs, hroom, hfl, h => by
    have hbytes : utf8 (Spec.field P e).chars =
        58 :: (utf8 P.chars ++ 123 :: (utf8 e.chars ++ [125])) := by
      simp only [Spec.chars, utf8_cons, utf8_append]
      rfl
    rw [hbytes] at h ⊢
    simp only [List.cons_append, List.append_assoc] at h
    have hP := h.cons
    have hbrace := hP.append
    have hcolon : (sc.inLiteral q ⟨[fl], true⟩).Reaches _ := reaches_colon hroom.outer_running hfl h
    have hone : 1 ≤ sc.limits.maxFormatSpecDepth :=
      le_trans (le_max_left _ _) hroom.spec
    have hat := hbrace.textStop_openBrace_spec
    have hwalk : sc.src.textStop .fDouble true (q + 1) =
        .openBrace (q + 1 + (utf8 P.chars).length) := by
      rw [hP.textStop_spec P]
      exact hat
    have hopen : (sc.inLiteral (q + 1) ⟨[{ fl with inFormatSpec := true }], true⟩).Reaches _ :=
      reaches_beginField hroom.outer_running (textDelimiter?_spec rfl) hwalk hat (by omega) hone
    have hexpr : (sc.inLiteral _
        ⟨[{ brace := q + 1 + (utf8 P.chars).length }, { fl with inFormatSpec := true }], true⟩).Reaches _ :=
      FieldExpr.reaches e (Room.inLiteral (hroom.mono le_rfl (le_max_right _ _))) rfl rfl
        hbrace.cons (by decide)
    have hendField : (sc.inLiteral _
        ⟨[{ ({ brace := q + 1 + (utf8 P.chars).length } : FieldProgress) with sawExpression := true },
          { fl with inFormatSpec := true }], true⟩).Reaches _ :=
      reaches_endField hroom.outer_running ⟨rfl, rfl, rfl⟩ hbrace.cons.append
    have hend := hbrace.cons.append.cons
    have hspec : (sc.inLiteral _ ⟨[{ fl with inFormatSpec := true }], true⟩).Reaches _ :=
      reaches_endSpec hroom.outer_running rfl hend.textStop_closeBrace hend.textStop_closeBrace le_rfl
    have hlen : (58 :: (utf8 P.chars ++ 123 :: (utf8 e.chars ++ [125]))).length =
        1 + (utf8 P.chars).length + 1 + (utf8 e.chars).length + 1 := by simp; omega
    rw [hlen]
    have hpos : q + (1 + (utf8 P.chars).length + 1 + (utf8 e.chars).length + 1) + 1 =
        q + 1 + (utf8 P.chars).length + 1 + (utf8 e.chars).length + 1 + 1 := by omega
    rw [hpos]
    exact (((hcolon.trans hopen).trans hexpr).trans hendField).trans hspec

end

end FGrammar

/-! ## The scan of a well-formed f-string -/

namespace Scanner

variable {sc : Scanner}

/-- From a running scanner outside every f-string and bracket, with a word and nothing else
ahead, the scan reads the word without a fault and then reports the end. -/
lemma reads_word (w : Word) (hgo : sc.stopped = false) (hlit : sc.literals.entries = [])
    (hbr : sc.brackets = []) (hrest : sc.src.Rest sc.pos (utf8 w.chars))
    (hdepth : w.depth ≤ sc.limits.maxFStringDepth)
    (hspec : w.specDepth ≤ sc.limits.maxFormatSpecDepth) :
    ∃ n, (∀ i < n, (sc.pieceAt i).tag.isFault = false ∧ (sc.pieceAt i).tag ≠ .eof) ∧
      sc.pieceAt n = ⟨.eof, 0⟩ ∧ sc.after (n + 1) = { sc with pos := sc.pos + (utf8 w.chars).length } := by
  have hinner : sc.innerField? = none := by simp [innerField?, DelimiterStack.state?, hlit]
  have hmode : sc.textDelimiter? = none := by simp [textDelimiter?, DelimiterStack.state?, hlit]
  have hzero : sc.literals.depth = 0 := by simp [DelimiterStack.depth, hlit]
  obtain ⟨x, xs, hopener, hx⟩ := w.utf8_opener []
  rw [List.append_nil] at hopener
  have hw : 1 ≤ w.depth := by cases w; simp [Word.depth]
  have hstep := codeStep_fstring (show sc.src.Rest sc.pos _ by rw [← hopener]; exact hrest) hx
    (by omega)
  rw [marked_of_outside hinner] at hstep
  have hword := @Word.reaches w sc [] ⟨hgo, by omega, hspec⟩
    (by rw [List.append_nil]; exact hrest)
  obtain ⟨n, hn, hclean⟩ := (Reaches.code hgo hmode hstep rfl nofun).trans hword
  have hend : sc.src.Rest (sc.pos + (utf8 w.chars).length) [] :=
    Source.Rest.append (by rw [List.append_nil]; exact hrest)
  have heof : step.run { sc with pos := sc.pos + (utf8 w.chars).length } =
      (⟨.eof, 0⟩, { sc with pos := sc.pos + (utf8 w.chars).length }) :=
    step_of_modeStep hgo (by
      simp only [modeStep, run_get_bind, textDelimiter?_moveTo, hmode]
      exact codeStep_eof hend hinner hbr) rfl
  refine ⟨n, hclean, by rw [pieceAt, hn, heof], by rw [after_succ, hn, heof]⟩

end Scanner

open Scanner in
/-- Within the nesting limits, the scan of a word reports no fault, covers the text and ends
with no f-string open. -/
lemma word_scans_cleanly (w : Word) (limits : ScanLimits)
    (hdepth : w.depth ≤ limits.maxFStringDepth)
    (hspec : w.specDepth ≤ limits.maxFormatSpecDepth) :
    (∀ t ∈ (scanText (Source.ofString w.text) limits).1, t.tag.isFault = false) ∧
    ((scanText (Source.ofString w.text) limits).1.map RawToken.len).sum = w.text.utf8ByteSize ∧
    (scanText (Source.ofString w.text) limits).2.literals.depth = 0 := by
  have hrest : (Source.ofString w.text).Rest 0 (utf8 w.chars) := Source.rest_ofList w.chars
  have hpos : (start (Source.ofString w.text) limits).pos = 0 := by
    obtain ⟨x, xs, hopener, -⟩ := w.utf8_opener []
    rw [List.append_nil] at hopener
    have hb : (Source.ofString w.text).byte 0 = 102 := by
      rw [hopener] at hrest
      exact hrest.byte_cons
    simp [start, Source.scanStart, Source.hasByteOrderMark, hb]
  obtain ⟨n, hclean, hpiece, hlast⟩ := @reads_word (start (Source.ofString w.text) limits) w
    rfl rfl rfl (by rw [hpos]; exact hrest) hdepth hspec
  have hplaced := placed_start w.text limits
  have hzero : (start (Source.ofString w.text) limits).literals.depth = 0 := rfl
  rw [scanText]
  generalize start (Source.ofString w.text) limits = sc at *
  have hrun := run_eq_pieces hplaced (e := n) (fun i hi => (hclean i hi).2) (by rw [hpiece])
  rw [hrun, hlast]
  refine ⟨?_, ?_, hzero⟩
  · simp only [List.mem_map, List.mem_range, forall_exists_index, and_imp]
    rintro t i hi rfl
    rcases Nat.lt_succ_iff_lt_or_eq.mp hi with hi | rfl
    · exact (hclean i hi).1
    · rw [hpiece]
      rfl
  · have hsum := pos_after hplaced (n + 1)
    rw [hlast, hpos] at hsum
    have hsize := hrest.size_eq
    rw [Source.size_ofString, Nat.zero_add] at hsize
    have hlist : ((List.range (n + 1)).map sc.pieceAt).map RawToken.len =
        (List.range (n + 1)).map fun i => (sc.pieceAt i).len := by
      rw [List.map_map]
      rfl
    rw [hlist, show ((List.range (n + 1)).map fun i => (sc.pieceAt i).len).sum =
        ∑ i ∈ Finset.range (n + 1), (sc.pieceAt i).len by
      simp [Finset.sum_eq_multiset_sum, Finset.range_val, Multiset.range]]
    simp only at hsum
    omega

/-- **A well-formed f-string scans cleanly**, where the five-byte opener lookahead from every
offset stays within 32 bits: no fault, pieces covering the text, no f-string left open. -/
theorem wellFormed_fstring_scans_cleanly (w : Word) (limits : ScanLimits)
    (hdepth : w.depth ≤ limits.maxFStringDepth)
    (hspec : w.specDepth ≤ limits.maxFormatSpecDepth)
    (hsize : w.text.utf8ByteSize + 5 ≤ maxSourceSize) :
    (∀ t ∈ (scanText (Source.ofString w.text) limits).1, t.tag.isFault = false) ∧
    ((scanText (Source.ofString w.text) limits).1.map RawToken.len).sum = w.text.utf8ByteSize ∧
    (scanText (Source.ofString w.text) limits).2.literals.depth = 0 ∧
    ∀ k, (((scanText (Source.ofString w.text) limits).1.map RawToken.len).take k).sum + 5 ≤
      maxSourceSize := by
  obtain ⟨hclean, hsum, hopen⟩ := word_scans_cleanly w limits hdepth hspec
  refine ⟨hclean, hsum, hopen, fun k => ?_⟩
  have hsplit := List.sum_take_add_sum_drop
    ((scanText (Source.ofString w.text) limits).1.map RawToken.len) k
  omega

/-- The word `f"a{x=:>{y}}b"`: text, a name with `=`, and a spec that ends in a field. -/
def FGrammar.Word.debugSpecSample : Word :=
  ⟨[.char 'a' (by decide)], .name ⟨'x', [], by decide, by simp⟩, .debug,
    .field ⟨['>'], by simp [SpecChar]⟩ (.name ⟨'y', [], by decide, by simp⟩),
    [.char 'b' (by decide)]⟩

theorem wellFormed_fstring_scans_cleanly_debugSpec :
    (Word.debugSpecSample.depth ≤ ({} : ScanLimits).maxFStringDepth ∧
      Word.debugSpecSample.specDepth ≤ ({} : ScanLimits).maxFormatSpecDepth ∧
      Word.debugSpecSample.text.utf8ByteSize + 5 ≤ maxSourceSize) ∧
    (∀ t ∈ (scanText (Source.ofString Word.debugSpecSample.text) {}).1, t.tag.isFault = false) ∧
    ((scanText (Source.ofString Word.debugSpecSample.text) {}).1.map RawToken.len).sum =
      Word.debugSpecSample.text.utf8ByteSize ∧
    (scanText (Source.ofString Word.debugSpecSample.text) {}).2.literals.depth = 0 ∧
    ∀ k, (((scanText (Source.ofString Word.debugSpecSample.text) {}).1.map RawToken.len).take
      k).sum + 5 ≤ maxSourceSize :=
  ⟨⟨by decide, by decide, by decide⟩,
    wellFormed_fstring_scans_cleanly Word.debugSpecSample {} (by decide) (by decide) (by decide)⟩

end ExprFront
