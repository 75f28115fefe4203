import Mathlib
import ExprFront.Proofs.Lockstep

/-!
# Where a lexical error is reported

A scan stops at its first fault, and the lexer reports the fault at the site the scanner
recorded for it, or at the faulting piece itself when it recorded none. This module says what
stands at that site.

`Scanner.FaultAt sc f site` says, for each kind of fault, where a step from the scanner `sc`
reports it: on the character, backslash, closing bracket or `#` that the step read; on the `{`
of the innermost open field; on the innermost bracket open outside all f-strings; on the opener
of the innermost open f-string, or of the string cut off; or from a field's `{` through the
marker that found it empty. `Scanner.Reports` says what one step does with sites: it reports its
fault where `FaultAt` says, records no site unless it faults, and opens a field only behind the
offset it stops at. There is one lemma for each scanning step (`reports_zeroByte`, …), and
`Scanner.reports_step` puts them together.

Read through `LexErrorKind.ofFault`, the site of every lexical error but an oversized text is a
nonempty range of the text between two character boundaries, and `LexError.Designates` says
what the error's kind names there (`lex_error_site`).
-/

namespace ExprFront

/-- Whether a byte is a marker that can find a field empty: `=`, `!`, `:` or `}`. -/
def isFieldMarkerByte (b : UInt8) : Bool := b == 61 || b == 33 || b == 58 || b == 125

/-- Whether a byte is a closing bracket. -/
def isCloserByte (b : UInt8) : Bool := b == 41 || b == 93 || b == 125

lemma Delimiter.openLength_pos (d : Delimiter) : 0 < d.openLength := by
  simp only [Delimiter.openLength]
  cases d.size <;> simp [QuoteSize.len]

/-! ## Characters at a site -/

/-- A site of the text `s`: a nonempty range of its bytes between two character boundaries. -/
structure Span.InText (s : String) (sp : Span) : Prop where
  lt : sp.start < sp.stop
  le_size : sp.stop ≤ s.utf8ByteSize
  start : CharBoundary s sp.start
  stop : CharBoundary s sp.stop

namespace Source

variable {s : String} {a b i : Nat}

/-- A span between two positions of the library reads back as the library's slice. -/
lemma slice_eq_copy {p q : s.Pos} (hpq : p ≤ q) :
    (ofString s).slice ⟨p.offset.byteIdx, q.offset.byteIdx⟩ = (s.slice p q hpq).copy := by
  apply String.toByteArray_inj.mp
  rw [String.toByteArray_copy_slice]
  exact toUTF8_slice p.isValid q.isValid hpq

/-- From a boundary inside the text, the first byte's width covers one character. -/
lemma slice_charWidth (h : CharBoundary s i) (hi : i < s.utf8ByteSize) :
    ∃ c, ((ofString s).slice ⟨i, i + charWidth ((ofString s).byte i)⟩).toList = [c] := by
  obtain ⟨p, hne, hp, hnext⟩ := h.exists_next hi
  refine ⟨p.get hne, ?_⟩
  subst hp
  rw [← hnext, slice_eq_copy (String.Pos.le_of_lt String.Pos.lt_next)]
  simp

/-- A span between two boundaries whose bytes are those of a text `t` reads back as `t`. -/
lemma slice_eq_of_window {t : String} (ha : CharBoundary s a) (hb : CharBoundary s b) (hab : a ≤ b)
    (h : (ofString s).window a b = t.toUTF8.toList) : (ofString s).slice ⟨a, b⟩ = t := by
  apply String.toByteArray_inj.mp
  have hl := toList_toUTF8_slice ha hb hab
  rw [h] at hl
  simp only [String.toUTF8] at hl
  apply ByteArray.ext
  apply Array.toList_inj.mp
  rwa [← byteArray_toList, ← byteArray_toList]

/-- An ASCII byte is the UTF-8 text of one character. -/
lemma toList_toUTF8_ascii {c : UInt8} (hc : c < 128) :
    (String.singleton (Char.ofNat c.toNat)).toUTF8.toList = [c] := by
  have hc' : c.toNat < 128 := hc
  have hval : (Char.ofNat c.toNat).val = c.toNat.toUInt32 := by
    simp [Char.ofNat, Char.ofNatAux, show c.toNat < 55296 by omega, Nat.isValidChar]
  have hsize : (Char.ofNat c.toNat).utf8Size = 1 := by
    rw [Char.utf8Size_eq_one_iff, hval, UInt32.le_iff_toNat_le]
    simp
    omega
  rw [byteArray_toList]
  simp only [String.toUTF8, String.toByteArray_singleton, List.utf8Encode_singleton,
    String.utf8EncodeChar_eq_singleton hsize, hval, List.data_toByteArray]
  simp

/-- A nonzero ASCII byte reads back as its character. -/
lemma slice_ascii (hb : (ofString s).byte i ≠ 0 ∧ (ofString s).byte i < 128) :
    ((ofString s).slice ⟨i, i + 1⟩).toList = [Char.ofNat ((ofString s).byte i).toNat] := by
  have hlt : i < s.utf8ByteSize := by simpa using lt_size_of_byte_ne_zero hb.1
  have hi := CharBoundary.of_lt hlt hb.2
  rw [slice_eq_of_window (t := String.singleton (Char.ofNat ((ofString s).byte i).toNat)) hi
    (hi.succ hlt hb.2) (by omega)]
  · simp
  · rw [toList_toUTF8_ascii hb.2]
    simp [window]

end Source

namespace Span.InText

variable {s : String} {i : Nat}

/-- A nonzero ASCII byte is a site of its own. -/
lemma ascii (hb : (Source.ofString s).byte i ≠ 0 ∧ (Source.ofString s).byte i < 128) :
    Span.InText s ⟨i, i + 1⟩ := by
  have hlt : i < s.utf8ByteSize := by simpa using Source.lt_size_of_byte_ne_zero hb.1
  have hi := CharBoundary.of_lt hlt hb.2
  exact ⟨by simp, hlt, hi, hi.succ hlt hb.2⟩

/-- An opener read at a boundary is a site. -/
lemma opener {d : Delimiter} (hi : CharBoundary s i)
    (hd : Delimiter.ofOpener? ((Source.ofString s).window i (min (i + 5) (Source.ofString s).size))
      = some d) : Span.InText s ⟨i, i + d.openLength⟩ :=
  ⟨by simpa using d.openLength_pos, (hi.opener hd).le_size, hi, hi.opener hd⟩

end Span.InText

/-- Where an opener is read from the bytes ahead stands a boundary: the opener's first byte is
ASCII. -/
lemma CharBoundary.of_opener {s : String} {i : Nat} {d : Delimiter}
    (hd : Delimiter.ofOpener? ((Source.ofString s).window i (min (i + 5) (Source.ofString s).size))
      = some d) : CharBoundary s i := by
  obtain ⟨hlen, hascii⟩ := Delimiter.ofOpener?_ascii hd
  have hpos := d.openLength_pos
  simp only [Source.window, List.length_map, List.length_range] at hlen
  have h0 := hascii 0 hpos
  rw [Source.window_getD _ (by omega), Nat.add_zero] at h0
  exact CharBoundary.of_lt (by simpa using Source.lt_size_of_byte_ne_zero h0.1) h0.2

namespace Scanner

/-- The offsets of the `{` of every open field of every open literal. -/
def braces (sc : Scanner) : List Nat :=
  sc.literals.entries.flatMap fun lit => lit.state.fields.map (·.brace)

/-- The `{` of every open field lies behind the scanner. -/
def BracesBehind (sc : Scanner) : Prop := ∀ b ∈ sc.braces, b < sc.pos

/-- The delimiter that the bytes at the scanner's offset open, looking at five bytes at most. -/
def openerHere? (sc : Scanner) : Option Delimiter :=
  Delimiter.ofOpener? (sc.src.window sc.pos (min (sc.pos + 5) sc.src.size))

/-- Where a fault met by a step from `sc` is reported, for each kind of fault. -/
def FaultAt (sc : Scanner) : ScanFault → Span → Prop
  | .invalidCharacter, sp =>
    sp = ⟨sc.pos, sc.pos + charWidth (sc.src.byte sc.pos)⟩ ∧ sc.pos < sc.src.size
  | .strayBackslash, sp => sp = ⟨sc.pos, sc.pos + 1⟩ ∧ sc.src.byte sc.pos = 92
  | .unterminatedString, sp => ∃ d, sc.openerHere? = some d ∧ d.flags.formatted = false ∧
      sp = ⟨sc.pos, sc.pos + d.openLength⟩ ∧
      ∀ fl enclosing, sc.innerField? = some fl → sc.literals.current? = some enclosing →
        enclosing.closedBy d.quote d.size = false
  | .unterminatedFString, sp => ∃ d o, sc.literals.current? = some d ∧
      sc.literals.currentStart? = some o ∧ sp = ⟨o, o + d.openLength⟩
  | .unterminatedField, sp => ∃ fl, sc.innerField? = some fl ∧ sp = ⟨fl.brace, fl.brace + 1⟩
  | .emptyField, sp => ∃ fl, sc.fieldAtTop? = some fl ∧ sp = ⟨fl.brace, sc.pos + 1⟩ ∧
      isFieldMarkerByte (sc.src.byte sc.pos) = true
  | .loneRightBrace, sp => sc.pos ≤ sp.start ∧ sp.stop = sp.start + 1 ∧ sc.src.byte sp.start = 125
  | .newlineInFString, sp => sc.pos ≤ sp.start ∧ sp.stop = sp.start + 1 ∧
      isLineBreakByte (sc.src.byte sp.start) = true
  | .commentInFString, sp => sp = ⟨sc.pos, sc.pos + 1⟩ ∧ sc.src.byte sc.pos = 35
  | .tooDeeplyNested, sp => (sp = ⟨sc.pos, sc.pos + 1⟩ ∧ sc.src.byte sc.pos = 123) ∨
      ∃ d, sc.openerHere? = some d ∧ d.flags.formatted = true ∧ sp = ⟨sc.pos, sc.pos + d.openLength⟩
  | .delimiterMismatch, _ => True
  | .mismatchedBracket, sp => sp = ⟨sc.pos, sc.pos + 1⟩ ∧ isCloserByte (sc.src.byte sc.pos) = true ∧
      sc.openBrackets ≠ []
  | .unmatchedBracket, sp => sp = ⟨sc.pos, sc.pos + 1⟩ ∧ isCloserByte (sc.src.byte sc.pos) = true ∧
      sc.openBrackets = []
  | .unclosedBracket, sp => sc.innerField? = none ∧
      ∃ ob rest, sc.brackets = ob :: rest ∧ sp = ⟨ob.pos, ob.pos + 1⟩

end Scanner

/-- What the site `sp` of a lexical error of this kind names, in the text of the scanner `sc`
that met the fault: the character the scanner stood on, a closing bracket and whether a bracket
was open for it, the innermost bracket open outside all f-strings, the `{` of the innermost open
field, the opener of a string cut off or of the innermost open f-string, or a field's `{`
through the marker that found it empty. -/
def LexErrorKind.Designates (sc : Scanner) (sp : Span) : LexErrorKind → Prop
  | .sourceTooLarge | .delimiterMismatch _ => False
  | .nullByte => sp.start = sc.pos ∧ (sc.src.slice sp).toList = ['\x00']
  | .invalidCharacter c => sp.start = sc.pos ∧ (sc.src.slice sp).toList = [c] ∧ c ≠ '\x00'
  | .strayBackslash => sp.start = sc.pos ∧ (sc.src.slice sp).toList = ['\\']
  | .unterminatedString => sp.start = sc.pos ∧ ∃ d, sc.openerHere? = some d ∧
      d.flags.formatted = false ∧ sp.stop = sp.start + d.openLength ∧
      Delimiter.ofOpener? (sc.src.slice sp).toUTF8.toList = some d ∧
      ∀ fl enclosing, sc.innerField? = some fl → sc.literals.current? = some enclosing →
        enclosing.closedBy d.quote d.size = false
  | .unterminatedFString => ∃ d, sc.literals.current? = some d ∧
      sc.literals.currentStart? = some sp.start ∧ sp.stop = sp.start + d.openLength ∧
      Delimiter.ofOpener? (sc.src.slice sp).toUTF8.toList = some d
  | .unterminatedField => ∃ fl, sc.innerField? = some fl ∧ sp.start = fl.brace ∧
      (sc.src.slice sp).toList = ['{']
  | .emptyField m => ∃ fl, sc.fieldAtTop? = some fl ∧ sp.start = fl.brace ∧ sp.stop = sc.pos + 1 ∧
      (sc.src.slice sp).toList.head? = some '{' ∧ (sc.src.slice sp).toList.getLast? = some m ∧
      m ∈ ['}', '=', '!', ':']
  | .loneRightBrace => sc.pos ≤ sp.start ∧ (sc.src.slice sp).toList = ['}']
  | .newlineInFString => sc.pos ≤ sp.start ∧
      ((sc.src.slice sp).toList = ['\n'] ∨ (sc.src.slice sp).toList = ['\r'])
  | .commentInFString => sp.start = sc.pos ∧ (sc.src.slice sp).toList = ['#']
  | .tooDeeplyNested => sp.start = sc.pos ∧ ((sc.src.slice sp).toList = ['{'] ∨
      ∃ d, sc.openerHere? = some d ∧ d.flags.formatted = true ∧ sp.stop = sp.start + d.openLength ∧
        Delimiter.ofOpener? (sc.src.slice sp).toUTF8.toList = some d)
  | .mismatchedBracket c => sp.start = sc.pos ∧ (sc.src.slice sp).toList = [c] ∧
      c ∈ [')', ']', '}'] ∧ sc.openBrackets ≠ []
  | .unmatchedBracket c => sp.start = sc.pos ∧ (sc.src.slice sp).toList = [c] ∧
      c ∈ [')', ']', '}'] ∧ sc.openBrackets = []
  | .unclosedBracket c => sc.innerField? = none ∧ ∃ ob rest, sc.brackets = ob :: rest ∧
      sp.start = ob.pos ∧ (sc.src.slice sp).toList = [c] ∧ c ∈ ['(', '[', '{']

namespace Scanner

/-- What one step from `sc`, giving the piece and scanner `r`, does with the places the scanner
records: every field it leaves open was open before or opens behind where it stops, it records
no site unless it faults, and it reports a fault, the first of the scan, where `FaultAt` says:
at the site it records, or else at the piece. -/
structure Reports (sc : Scanner) (r : RawToken × Scanner) : Prop where
  braces : ∀ b ∈ r.2.braces, b ∈ sc.braces ∨ b < r.2.pos
  quiet : r.1.tag.isFault = false → r.2.errorSite = sc.errorSite
  site : ∀ f, r.1.tag = .fault f → sc.errorSite = none → sc.BracesBehind →
    sc.FaultAt f (r.2.errorSite.getD ⟨sc.pos, sc.pos + r.1.len⟩)

variable {sc sc' : Scanner} {r : RawToken × Scanner}

lemma braces_of_literals (h : sc'.literals = sc.literals) : sc'.braces = sc.braces := by
  simp [braces, h]

@[simp] lemma braces_moveTo (p : Nat) : ({ sc with pos := p } : Scanner).braces = sc.braces := rfl

/-- Changing the innermost field but not where its `{` is keeps every `{`. -/
lemma braces_modifyField {g : FieldProgress → FieldProgress} (hg : ∀ fl, (g fl).brace = fl.brace) :
    (sc.modifyField g).braces = sc.braces := by
  rcases sc with ⟨src, limits, pos, ⟨_ | ⟨⟨d, start, ⟨_ | ⟨fl, fls⟩, rep⟩⟩, rest⟩⟩, brackets, site,
    stopped⟩ <;> simp [braces, modifyField, DelimiterStack.modifyState, hg]

@[simp] lemma errorSite_setOpenBrackets (bs : List OpenBracket) :
    (sc.setOpenBrackets bs).errorSite = sc.errorSite := by
  unfold setOpenBrackets
  split <;> rfl

@[simp] lemma braces_setOpenBrackets (bs : List OpenBracket) :
    (sc.setOpenBrackets bs).braces = sc.braces := by
  unfold setOpenBrackets
  split
  · exact braces_modifyField fun _ => rfl
  · rfl

/-- Changing the state of the innermost literal but not its fields keeps every `{`. -/
lemma braces_modifyState {g : LiteralProgress → LiteralProgress} (hg : ∀ st, (g st).fields = st.fields) :
    ({ sc with literals := sc.literals.modifyState g } : Scanner).braces = sc.braces := by
  rcases sc with ⟨src, limits, pos, ⟨_ | ⟨lit, rest⟩⟩, brackets, site, stopped⟩ <;>
    simp [braces, DelimiterStack.modifyState, hg]

/-- Closing the innermost field keeps the `{` of the others. -/
lemma braces_popField :
    ∀ b ∈ ({ sc with literals := sc.literals.modifyState fun st =>
      { st with fields := st.fields.tail } } : Scanner).braces, b ∈ sc.braces := by
  rcases sc with ⟨src, limits, pos, ⟨_ | ⟨⟨d, start, ⟨_ | ⟨fl, fls⟩, rep⟩⟩, rest⟩⟩, brackets, site,
    stopped⟩ <;> simp +contextual [braces, DelimiterStack.modifyState]

/-- A step that faults nowhere, records no site and leaves every `{` where it was. -/
lemma Reports.keep (hb : ∀ b ∈ r.2.braces, b ∈ sc.braces) (hsite : r.2.errorSite = sc.errorSite)
    (hnf : r.1.tag.isFault = false) : sc.Reports r :=
  ⟨fun b h => .inl (hb b h), fun _ => hsite, fun f hf => by rw [hf] at hnf; cases hnf⟩

/-- A step that faults with `f`, reported where `FaultAt` says, leaving every `{` where it was. -/
lemma Reports.fault {f : ScanFault} (hb : ∀ b ∈ r.2.braces, b ∈ sc.braces) (htag : r.1.tag = .fault f)
    (hat : sc.errorSite = none → sc.BracesBehind →
      sc.FaultAt f (r.2.errorSite.getD ⟨sc.pos, sc.pos + r.1.len⟩)) : sc.Reports r := by
  refine ⟨fun b h => .inl (hb b h), fun hnf => ?_, ?_⟩
  · rw [htag] at hnf
    cases hnf
  · intro f' hf'
    rw [htag, RawTag.fault.injEq] at hf'
    exact hf' ▸ hat

/-- Marking the innermost literal as having reported a piece keeps every `{`. -/
@[simp] lemma braces_report (p : Nat) :
    ({ sc with pos := p, literals := sc.literals.modifyState fun st => { st with reported := true } } :
      Scanner).braces = sc.braces :=
  @braces_modifyState { sc with pos := p } (fun st => { st with reported := true }) fun _ => rfl

/-- Opening a field at `p` adds its `{` to the others. -/
lemma braces_pushField {p : Nat} :
    ∀ b ∈ ({ sc with literals := sc.literals.modifyState fun st =>
      { st with fields := { brace := p } :: st.fields, reported := true } } : Scanner).braces,
      b ∈ sc.braces ∨ b = p := by
  rcases sc with ⟨src, limits, pos, ⟨_ | ⟨⟨d, start, st⟩, rest⟩⟩, brackets, site, stopped⟩ <;>
    simp +contextual [braces, DelimiterStack.modifyState, or_comm]

/-- Closing the innermost literal keeps the `{` of the fields of the others. -/
lemma braces_close {q : Quote} {z : QuoteSize} {d : Delimiter}
    {rest : DelimiterStack LiteralProgress} (h : sc.literals.close q z = .ok (d, rest)) :
    ∀ b ∈ ({ sc with literals := rest } : Scanner).braces, b ∈ sc.braces := by
  rcases sc with ⟨src, limits, pos, ⟨_ | ⟨lit, rest'⟩⟩, brackets, site, stopped⟩
  · simp [DelimiterStack.close] at h
  · simp only [DelimiterStack.close] at h
    split at h
    · cases h
      simp +contextual [braces]
    · cases h

@[simp] lemma errorSite_modifyField {g : FieldProgress → FieldProgress} :
    (sc.modifyField g).errorSite = sc.errorSite := rfl

@[simp] lemma currentStart?_modifyField {g : FieldProgress → FieldProgress} :
    (sc.modifyField g).literals.currentStart? = sc.literals.currentStart? := by
  rcases sc with ⟨src, limits, pos, ⟨_ | ⟨⟨d, start, ⟨_ | ⟨fl, fls⟩, rep⟩⟩, rest⟩⟩, brackets, site,
    stopped⟩ <;> rfl

section modifyField

variable {g : FieldProgress → FieldProgress} (hbr : ∀ fl, (g fl).brace = fl.brace)
  (hbk : ∀ fl, (g fl).brackets = fl.brackets)
include hbk

lemma fieldAtTop?_modifyField : (sc.modifyField g).fieldAtTop? = sc.fieldAtTop?.map g := by
  simp only [fieldAtTop?, innerField?_modifyField]
  cases sc.innerField? with
  | none => rfl
  | some fl => by_cases h : fl.brackets.isEmpty <;> simp [Option.filter, h, hbk]

lemma openBrackets_modifyField : (sc.modifyField g).openBrackets = sc.openBrackets := by
  simp only [openBrackets, innerField?_modifyField]
  cases sc.innerField? <;> simp [hbk]

include hbr

/-- A fault is reported alike from a scanner whose innermost field changed in nothing but its
progress through the expression. -/
lemma FaultAt.of_modifyField {f : ScanFault} {sp : Span} (h : (sc.modifyField g).FaultAt f sp) :
    sc.FaultAt f sp := by
  cases f with
  | unterminatedString =>
    obtain ⟨d, hd, hf, rfl, hnot⟩ := h
    refine ⟨d, hd, hf, rfl, fun fl e hfl he => hnot (g fl) e ?_ (by simpa using he)⟩
    simp [hfl]
  | unterminatedFString =>
    obtain ⟨d, o, hd, ho, rfl⟩ := h
    exact ⟨d, o, by simpa using hd, by simpa using ho, rfl⟩
  | unterminatedField =>
    obtain ⟨fl', hfl', rfl⟩ := h
    simp only [innerField?_modifyField, Option.map_eq_some_iff] at hfl'
    obtain ⟨fl, hfl, rfl⟩ := hfl'
    exact ⟨fl, hfl, by simp [hbr]⟩
  | emptyField =>
    obtain ⟨fl', hfl', rfl, hm⟩ := h
    rw [fieldAtTop?_modifyField hbk, Option.map_eq_some_iff] at hfl'
    obtain ⟨fl, hfl, rfl⟩ := hfl'
    exact ⟨fl, hfl, by simp [hbr], hm⟩
  | mismatchedBracket =>
    obtain ⟨rfl, hc, hne⟩ := h
    exact ⟨rfl, hc, by rwa [openBrackets_modifyField hbk] at hne⟩
  | unmatchedBracket =>
    obtain ⟨rfl, hc, hnil⟩ := h
    exact ⟨rfl, hc, by rwa [openBrackets_modifyField hbk] at hnil⟩
  | unclosedBracket =>
    obtain ⟨hin, ob, rest, hbs, rfl⟩ := h
    exact ⟨by simpa using hin, ob, rest, hbs, rfl⟩
  | _ => exact h

/-- A step reports alike from a scanner whose innermost field changed in nothing but its
progress through the expression. -/
lemma Reports.of_modifyField {r : RawToken × Scanner} (h : (sc.modifyField g).Reports r) :
    sc.Reports r := by
  obtain ⟨hb, hq, hs⟩ := h
  refine ⟨fun b hin => ?_, hq, fun f hf hnone hbeh => (hs f hf hnone ?_).of_modifyField hbr hbk⟩
  · simpa [braces_modifyField hbr] using hb b hin
  · intro b hin
    rw [braces_modifyField hbr] at hin
    exact hbeh b hin

end modifyField

end Scanner

/-! ## Code mode -/

namespace ScanM

open Scanner

variable {sc : Scanner}

lemma reports_zeroByte (h0 : sc.src.byte sc.pos = 0) : sc.Reports ((zeroByte sc.pos).run sc) := by
  simp only [zeroByte, run_get_bind, run_ite, run_single]
  split
  · next hlt => exact .fault (fun _ => id) rfl fun hnone _ => by simp [FaultAt, hnone, h0, charWidth, hlt]
  · split
    · next fl hfl => exact .fault (fun _ => id) rfl fun _ _ => ⟨fl, hfl, rfl⟩
    · next hin =>
      split
      · next ob rest hbs => exact .fault (fun _ => id) rfl fun _ _ => ⟨hin, ob, rest, hbs, rfl⟩
      · exact .keep (fun _ => id) rfl rfl

lemma reports_blanks : sc.Reports ((blanks sc.pos).run sc) := .keep (fun _ => id) rfl rfl

lemma reports_lineBreak (hl : isLineBreakByte (sc.src.byte sc.pos) = true) :
    sc.Reports ((lineBreak sc.pos).run sc) := by
  simp only [lineBreak, run_eatLineBreak_bind, run_get_bind]
  split
  · simp only [run_ite, run_fault, run_emit]
    split
    · exact .fault (fun _ => id) rfl fun _ _ => ⟨le_refl _, rfl, hl⟩
    · exact .keep (fun _ => id) rfl rfl
  · simp only [run_ite, run_emit]
    split <;> exact .keep (fun _ => id) rfl rfl

lemma reports_comment (h : sc.src.byte sc.pos = 35) : sc.Reports ((comment sc.pos).run sc) := by
  simp only [comment, run_get_bind, run_ite, run_advance_bind, run_fault, run_moveTo_bind, run_emit]
  split
  · exact .fault (fun _ => id) rfl fun _ _ => ⟨rfl, h⟩
  · exact .keep (fun _ => id) rfl rfl

lemma reports_continuation (h : sc.src.byte sc.pos = 92) :
    sc.Reports ((continuation sc.pos).run sc) := by
  simp only [continuation, run_advance_bind, run_peekAt_bind, run_ite, run_eatLineBreak_bind,
    run_emit]
  split
  · exact .keep (fun _ => id) rfl rfl
  · exact .fault (fun _ => id) rfl fun hnone _ => by simp [FaultAt, hnone, h]

lemma reports_operatorAt (n : Nat) (p : Punct) : sc.Reports ((operatorAt sc.pos n p).run sc) := by
  simp only [operatorAt, run_advance_bind, run_peekAt_bind, run_ite, run_emit]
  split <;> exact .keep (fun _ => id) rfl rfl

lemma reports_pair (p : Punct) : sc.Reports ((pair sc.pos p).run sc) := .keep (fun _ => id) rfl rfl

lemma reports_single (p : Punct) : sc.Reports ((single (.punct p) sc.pos).run sc) :=
  .keep (fun _ => id) rfl rfl

/-- A string or an f-string: an f-string too deep, or a string cut off, is reported at its
opener, unless the string's quotes are those of the literal a field of which it stands in. -/
lemma reports_literal {d : Delimiter} (hd : sc.openerHere? = some d) :
    sc.Reports ((literal sc.pos d).run sc) := by
  simp only [literal, openFString, cutOffString, run_advance_bind, run_get_bind, run_ite,
    run_set_bind, run_fault, run_emit]
  split
  · next hf =>
    split
    · exact .fault (fun _ => id) rfl fun _ _ => .inr ⟨d, hd, hf, rfl⟩
    · exact .keep (fun b hb => by simpa [braces, DelimiterStack.push] using hb) rfl rfl
  · next hf =>
    simp only [Bool.not_eq_true] at hf
    split
    · simp only [run_moveTo_bind, run_emit]
      exact .keep (fun _ => id) rfl rfl
    · simp only [run_moveTo_bind, run_get_bind]
      split
      · next fl enclosing hfl henc =>
        split
        · exact .fault (fun _ => id) rfl fun _ _ => ⟨fl, hfl, rfl⟩
        · next hcl =>
          refine .fault (fun _ => id) rfl fun _ _ => ⟨d, hd, hf, rfl, fun fl' e hfl' he => ?_⟩
          have hfl : sc.innerField? = some fl := hfl
          rw [hfl'] at hfl
          rw [he] at henc
          cases henc
          simpa using hcl
      · next hnot =>
        exact .fault (fun _ => id) rfl fun _ _ =>
          ⟨d, hd, hf, rfl, fun fl e hfl he => absurd (hnot fl e hfl he) id⟩

lemma reports_quoted (h : sc.src.byte sc.pos ≠ 0 ∧ sc.src.byte sc.pos < 128) :
    sc.Reports ((quoted sc.pos).run sc) := by
  simp only [quoted, run_openerAt?_bind]
  split
  · exact reports_literal ‹_›
  · exact .fault (fun _ => id) rfl fun hnone _ => by
      simp [FaultAt, hnone, charWidth_of_lt h.2, Source.lt_size_of_byte_ne_zero h.1]

lemma reports_word : sc.Reports ((word sc.pos).run sc) := by
  simp only [word, run_openerAt?_bind]
  split
  · exact reports_literal ‹_›
  · simp only [run_get_bind, run_moveTo_bind, run_emit]
    exact .keep (fun _ => id) rfl rfl

lemma reports_unicodeWord (h : 128 ≤ sc.src.byte sc.pos) :
    sc.Reports ((unicodeWord sc.pos).run sc) := by
  have h0 : sc.src.byte sc.pos ≠ 0 := fun h0 => by rw [h0] at h; exact absurd h (by decide)
  simp only [unicodeWord, run_get_bind, run_ite, run_moveTo_bind, run_emit]
  split
  · exact .keep (fun _ => id) rfl rfl
  · exact .fault (fun _ => id) rfl fun hnone _ => by
      simp [FaultAt, hnone, Source.lt_size_of_byte_ne_zero h0]

lemma reports_numberEnd (start : Nat) (isFloat : Bool) (sc₁ : Scanner) (hsc : sc₁.literals = sc.literals)
    (hsite : sc₁.errorSite = sc.errorSite) :
    sc.Reports ((numberEnd start isFloat).run sc₁) := by
  simp only [numberEnd, run_peekAt_bind, run_ite, run_advance_bind, run_emit]
  have hb : ∀ b ∈ sc₁.braces, b ∈ sc.braces := fun b hb => by rwa [braces_of_literals hsc] at hb
  split
  · exact .keep hb hsite rfl
  · cases isFloat <;> exact .keep hb hsite rfl

lemma reports_number : sc.Reports ((number sc.pos).run sc) := by
  simp only [number, run_get_bind, run_ite, run_moveTo_bind, run_emit]
  split
  · exact .keep (fun _ => id) rfl rfl
  · exact reports_numberEnd _ _ _ rfl rfl

lemma reports_dot : sc.Reports ((dot sc.pos).run sc) := by
  simp only [dot, run_get_bind, run_ite, run_moveTo_bind, run_advance_bind, run_emit]
  split
  · exact reports_numberEnd _ _ _ rfl rfl
  · split <;> exact .keep (fun _ => id) rfl rfl

/-- A `=` or `!` just read: at a field's top level with no expression before it, the field is
reported empty from its `{` through the marker. -/
lemma reports_endExpression (hm : isFieldMarkerByte (sc.src.byte sc.pos) = true) (p : Punct) :
    sc.Reports ((endExpression sc.pos p).run { sc with pos := sc.pos + 1 }) := by
  simp only [endExpression, run_get_bind]
  split
  · simp only [run_emit]
    exact .keep (fun _ => id) rfl rfl
  · next fl hfl =>
    simp only [run_ite, run_fault, run_modify_bind, run_emit]
    split
    · exact .fault (fun _ => id) rfl fun _ _ => ⟨fl, hfl, rfl, hm⟩
    · exact .keep (fun b hb => by simpa [braces_modifyField] using hb) rfl rfl

lemma reports_colon (h : sc.src.byte sc.pos = 58) : sc.Reports ((colon sc.pos).run sc) := by
  simp only [colon, run_advance_bind, run_get_bind]
  split
  · next fl hfl =>
    simp only [run_ite, run_fault, run_modify_bind, run_emit]
    split
    · exact .fault (fun _ => id) rfl fun _ _ => ⟨fl, hfl, rfl, by simp [h, isFieldMarkerByte]⟩
    · exact .keep (fun b hb => by simpa [braces_modifyField] using hb) rfl rfl
  · simp only [run_peekAt_bind, run_ite, run_advance_bind, run_emit]
    split <;> exact .keep (fun _ => id) rfl rfl

lemma reports_pushBracket (kind : Bracket) (p : Punct) :
    sc.Reports ((pushBracket sc.pos kind p).run sc) := by
  simp only [pushBracket, run_advance_bind, run_modify_bind, run_emit]
  exact .keep (fun b hb => by simpa using hb) (by simp) rfl

/-- A closing bracket: a `}` at a field's top level closes the field, reported empty if it holds
no expression; another closing bracket that does not match is reported on itself. -/
lemma reports_popBracket (hc : isCloserByte (sc.src.byte sc.pos) = true) (kind : Bracket) (p : Punct)
    (hcurly : kind = .curly → sc.src.byte sc.pos = 125) :
    sc.Reports ((popBracket sc.pos kind p).run sc) := by
  simp only [popBracket, endField, run_get_bind, run_ite, run_advance_bind]
  split
  · next htop =>
    simp only [Bool.and_eq_true, beq_iff_eq, Option.isSome_iff_exists] at htop
    obtain ⟨hk, fl₀, hfl₀⟩ := htop
    split
    · exact .keep (fun _ => id) rfl rfl
    · next fl hin =>
      have hfl : sc.fieldAtTop? = some fl := by
        simp only [fieldAtTop?, Option.filter_eq_some_iff] at hfl₀ ⊢
        exact ⟨hin, (Option.some.inj (hfl₀.1.symm.trans hin)) ▸ hfl₀.2⟩
      simp only [run_modifyLiteral_bind, run_ite, run_fault, run_emit]
      split
      · exact .fault braces_popField rfl fun _ _ =>
          ⟨fl, hfl, rfl, by simp [hcurly hk, isFieldMarkerByte]⟩
      · exact .keep braces_popField rfl rfl
  · split
    · next ob obs hobs =>
      simp only [run_ite, run_modify_bind, run_emit, run_fault]
      split
      · exact .keep (fun b hb => by simpa using hb) (by simp) rfl
      · exact .fault (fun _ => id) rfl fun _ _ => ⟨rfl, hc, by simp [hobs]⟩
    · next hobs =>
      simp only [run_fault]
      exact .fault (fun _ => id) rfl fun _ _ => ⟨rfl, hc, hobs⟩

lemma reports_codeStep : sc.Reports (codeStep.run sc) := by
  simp only [codeStep, markExpression, run_get_bind, run_modify_bind]
  have hbr : ∀ (b : UInt8) (fl : FieldProgress), (if beginsExpr b && !fl.markerSeen then
      { fl with sawExpression := true } else fl).brace = fl.brace := fun _ _ => by split <;> rfl
  have hbk : ∀ (b : UInt8) (fl : FieldProgress), (if beginsExpr b && !fl.markerSeen then
      { fl with sawExpression := true } else fl).brackets = fl.brackets := fun _ _ => by
    split <;> rfl
  refine Reports.of_modifyField (hbr (sc.src.byte sc.pos)) (hbk (sc.src.byte sc.pos)) ?_
  split
  · next heq => exact reports_zeroByte (byte_eq_of_byteChar heq rfl)
  · exact reports_blanks
  · exact reports_blanks
  · exact reports_blanks
  · next heq =>
    exact reports_lineBreak (by simp [byte_eq_of_byteChar (n := 10) heq rfl, isLineBreakByte])
  · next heq =>
    exact reports_lineBreak (by simp [byte_eq_of_byteChar (n := 13) heq rfl, isLineBreakByte])
  · next heq => exact reports_comment (byte_eq_of_byteChar heq rfl)
  · next heq => exact reports_continuation (byte_eq_of_byteChar heq rfl)
  · next heq => exact reports_quoted (ascii_of_byteChar heq (by decide))
  · next heq => exact reports_quoted (ascii_of_byteChar heq (by decide))
  · exact reports_dot
  · exact reports_operatorAt _ _
  · rw [run_ite]
    split
    · exact reports_pair _
    · exact reports_operatorAt _ _
  · rw [run_ite]; split <;> exact reports_operatorAt _ _
  · rw [run_ite]; split <;> exact reports_operatorAt _ _
  · exact reports_operatorAt _ _
  · exact reports_operatorAt _ _
  · exact reports_operatorAt _ _
  · exact reports_operatorAt _ _
  · exact reports_operatorAt _ _
  · exact reports_single _
  · simp only [run_ite]
    split
    · exact reports_operatorAt _ _
    · split
      · exact reports_pair _
      · exact reports_single _
  · simp only [run_ite]
    split
    · exact reports_operatorAt _ _
    · split
      · exact reports_pair _
      · exact reports_single _
  · next heq =>
    rw [run_ite]
    split
    · exact reports_pair _
    · rw [run_advance_bind]
      exact reports_endExpression (by simp [byte_eq_of_byteChar (n := 61) heq rfl, isFieldMarkerByte]) _
  · next heq =>
    rw [run_ite]
    split
    · exact reports_pair _
    · rw [run_advance_bind]
      exact reports_endExpression (by simp [byte_eq_of_byteChar (n := 33) heq rfl, isFieldMarkerByte]) _
  · next heq => exact reports_colon (byte_eq_of_byteChar heq rfl)
  · exact reports_single _
  · exact reports_single _
  · exact reports_pushBracket _ _
  · exact reports_pushBracket _ _
  · exact reports_pushBracket _ _
  · next heq =>
    exact reports_popBracket (by simp [byte_eq_of_byteChar (n := 41) heq rfl, isCloserByte]) _ _
      (fun h => by cases h)
  · next heq =>
    exact reports_popBracket (by simp [byte_eq_of_byteChar (n := 93) heq rfl, isCloserByte]) _ _
      (fun h => by cases h)
  · next heq =>
    exact reports_popBracket (by simp [byte_eq_of_byteChar (n := 125) heq rfl, isCloserByte]) _ _
      (fun _ => byte_eq_of_byteChar heq rfl)
  · simp only [run_ite]
    split
    · exact reports_word
    · split
      · exact reports_number
      · split
        · next hhigh => exact reports_unicodeWord hhigh
        · next hlow =>
          have h0 : sc.src.byte sc.pos ≠ 0 := fun h0 =>
            ‹byteChar (sc.src.byte sc.pos) = '\x00' → False› (by rw [h0]; rfl)
          have hlt : sc.src.byte sc.pos < 128 := by simpa using hlow
          exact .fault (fun _ => id) rfl fun hnone _ => by
            simp only [errorSite_modifyField] at hnone
            simp [FaultAt, hnone, charWidth_of_lt hlt, Source.lt_size_of_byte_ne_zero h0]

/-! ## Text mode -/

/-- A `{` in text: a field too deep is reported at its `{`; a field that opens has its `{`
behind the scanner. -/
lemma reports_beginField (h : sc.src.byte sc.pos = 123) : sc.Reports ((beginField sc.pos).run sc) := by
  simp only [beginField, run_advance_bind, run_get_bind]
  split
  · simp only [run_emit]
    exact .keep (fun _ => id) rfl rfl
  · simp only [run_ite, run_fault, run_modifyLiteral_bind, run_emit]
    split
    · exact .fault (fun _ => id) rfl fun _ _ => .inl ⟨rfl, h⟩
    · refine ⟨fun b hb => (braces_pushField b hb).imp id fun hb => ?_, fun _ => rfl,
        fun f hf => by cases hf⟩
      simp only [hb]
      omega

lemma reports_endSpec : sc.Reports ((endSpec sc.pos).run sc) := by
  simp only [endSpec, run_advance_bind, run_modifyLiteral_bind, run_emit]
  exact .keep braces_popField rfl rfl

/-- A field left open is reported at its `{`, wherever the scanner has moved to. -/
lemma reports_openFieldFault {fl : FieldProgress} (hfl : sc.innerField? = some fl) (j : Nat) :
    sc.Reports ((openFieldFault sc.pos).run { sc with pos := j }) := by
  have hfl' : ({ sc with pos := j } : Scanner).innerField? = some fl := hfl
  simp only [openFieldFault, run_get_bind, run_fault, hfl']
  exact .fault (fun _ => id) rfl fun _ _ => ⟨fl, hfl, rfl⟩

/-- The closing quotes of an f-string: the only fault is a mismatch of delimiters. -/
lemma reports_closeFString (d : Delimiter) (j : Nat) :
    sc.Reports ((closeFString sc.pos d).run { sc with pos := j }) := by
  simp only [closeFString, run_get_bind, run_ite, run_textPiece, run_advance_bind]
  split
  · exact .keep (fun b hb => by simpa using hb) rfl rfl
  · split
    · next hclose =>
      simp only [run_set_bind, run_emit]
      exact .keep (braces_close hclose) rfl rfl
    · simp only [run_fault]
      exact .fault (fun _ => id) rfl fun _ _ => trivial

/-- A step in text mode: a lone `}` or a forbidden line break is reported on itself where the
walk through the text found it, the end of the text at the opener of the innermost f-string, or
at the `{` of the field whose format spec it cuts off. -/
lemma reports_textStep {s : String} (hsc : sc.Placed s) {d : Delimiter}
    (hd : sc.textDelimiter? = some d) : sc.Reports ((textStep d).run sc) := by
  simp only [textStep, run_get_bind]
  split
  · next j heq =>
    obtain ⟨hle, hb, -⟩ := hsc.textStop_fits heq
    simp only [run_moveTo_bind, run_ite, run_textPiece]
    split
    · exact .keep (fun b hb => by simpa using hb) rfl rfl
    · obtain rfl : j = sc.pos := by omega
      exact reports_beginField hb
  · next j heq =>
    obtain ⟨hle, -, -⟩ := hsc.textStop_fits heq
    simp only [run_moveTo_bind, run_ite, run_textPiece]
    split
    · exact .keep (fun b hb => by simpa using hb) rfl rfl
    · obtain rfl : j = sc.pos := by omega
      exact reports_endSpec
  · next j heq =>
    obtain ⟨hle, hb, -, -⟩ := hsc.textStop_fits heq
    simp only [run_moveTo_bind, run_fault]
    exact .fault (fun _ => id) rfl fun _ _ => ⟨hle, rfl, hb⟩
  · next j heq =>
    obtain ⟨hle, hl, -⟩ := hsc.textStop_fits heq
    simp only [run_moveTo_bind, run_fault]
    exact .fault (fun _ => id) rfl fun _ _ => ⟨hle, rfl, hl⟩
  · next j heq =>
    simp only [run_moveTo_bind, run_ite, run_fault]
    cases hs : sc.inSpec
    · have hcur := current?_of_textDelimiter? hd
      obtain ⟨o, ho⟩ : ∃ o, sc.literals.currentStart? = some o := by
        obtain ⟨lit, hlit, -⟩ := Option.map_eq_some_iff.mp hcur
        exact ⟨lit.start, by simp [DelimiterStack.currentStart?, hlit]⟩
      simp only [innerField?_eq_none hd hs, Bool.false_eq_true, if_false]
      exact .fault (fun _ => id) rfl fun _ _ => ⟨d, o, hcur, ho, by simp [ho]⟩
    · obtain ⟨fl, hfl, hspec⟩ := exists_of_inSpec hs
      simp only [hfl, hspec, if_true]
      exact reports_openFieldFault hfl j
  · next j heq =>
    simp only [run_moveTo_bind, run_ite]
    cases hs : sc.inSpec
    · simp only [innerField?_eq_none hd hs, Bool.false_eq_true, if_false]
      exact reports_closeFString d j
    · obtain ⟨fl, hfl, hspec⟩ := exists_of_inSpec hs
      simp only [hfl, hspec, if_true]
      exact reports_openFieldFault hfl j

/-! ## Steps -/

lemma reports_modeStep {s : String} (hsc : sc.Placed s) : sc.Reports (modeStep.run sc) := by
  simp only [modeStep, run_get_bind]
  split
  · next d hd => exact reports_textStep hsc hd
  · exact reports_codeStep

end ScanM

namespace Scanner

open ScanM

variable {s : String} {sc : Scanner}

/-- One step of the scan reports as the step of its mode does; a stopped scan reports the end. -/
lemma Placed.reports_step (hsc : sc.Placed s) : sc.Reports (step.run sc) := by
  simp only [step, run_get_bind, run_ite, run_pure]
  split
  · exact .keep (fun _ => id) rfl rfl
  · have h := reports_modeStep hsc
    rw [run_bind]
    generalize modeStep.run sc = r at h ⊢
    obtain ⟨tok, sc'⟩ := r
    split
    · simp only [run_modify_bind, run_pure]
      exact ⟨h.braces, h.quiet, h.site⟩
    · exact h

/-- Up to the first fault, a scan records no site and keeps every field's `{` behind it. -/
lemma quiet_after (h : sc.Placed s) (hnone : sc.errorSite = none) (hbeh : sc.BracesBehind)
    {k : Nat} (hnf : ∀ i < k, (sc.pieceAt i).tag.isFault = false) :
    (sc.after k).errorSite = none ∧ (sc.after k).BracesBehind := by
  -- induction on the number of steps; each step is quiet, and the offset only grows
  induction k with
  | zero => exact ⟨hnone, hbeh⟩
  | succ k ih =>
    obtain ⟨hn, hb⟩ := ih fun i hi => hnf i (by omega)
    have hrep := (h.after k).reports_step
    have hpos := (stepAdvance_after h k).pos_eq
    rw [step_after] at hrep
    refine ⟨(hrep.quiet (hnf k (by omega))).trans hn, fun b hin => ?_⟩
    rcases hrep.braces b hin with hold | hnew
    · have := hb b hold
      simp only at hpos
      omega
    · exact hnew

end Scanner

/-! ## Reading the site -/

lemma char_of_isCloserByte {b : UInt8} (h : isCloserByte b = true) :
    Char.ofNat b.toNat ∈ [')', ']', '}'] := by
  simp only [isCloserByte, Bool.or_eq_true, beq_iff_eq] at h
  rcases h with (rfl | rfl) | rfl <;> decide

lemma char_of_isFieldMarkerByte {b : UInt8} (h : isFieldMarkerByte b = true) :
    Char.ofNat b.toNat ∈ ['}', '=', '!', ':'] := by
  simp only [isFieldMarkerByte, Bool.or_eq_true, beq_iff_eq] at h
  rcases h with ((rfl | rfl) | rfl) | rfl <;> decide

lemma char_of_isLineBreakByte {b : UInt8} (h : isLineBreakByte b = true) :
    Char.ofNat b.toNat = '\n' ∨ Char.ofNat b.toNat = '\r' := by
  simp only [isLineBreakByte, Bool.or_eq_true, beq_iff_eq] at h
  rcases h with rfl | rfl <;> decide

lemma Bracket.char_openByte (k : Bracket) : Char.ofNat k.openByte.toNat ∈ ['(', '[', '{'] := by
  cases k <;> decide

lemma Bracket.ascii_openByte (k : Bracket) : k.openByte ≠ 0 ∧ k.openByte < 128 := by
  cases k <;> decide

namespace Scanner

variable {s : String} {limits : ScanLimits} {sc : Scanner}

/-- An ASCII byte where a fault is reported on it: the site, and the character there. -/
lemma ascii_site {i : Nat} {b : UInt8} (hsc : sc.Placed s) (hb : sc.src.byte i = b)
    (hascii : b ≠ 0 ∧ b < 128) :
    Span.InText s ⟨i, i + 1⟩ ∧ (sc.src.slice ⟨i, i + 1⟩).toList = [Char.ofNat b.toNat] := by
  rw [hsc.src_eq] at hb ⊢
  subst hb
  exact ⟨.ascii hascii, Source.slice_ascii hascii⟩

/-- An opener read where the scanner stands: the site, and the delimiter read back from it. -/
lemma opener_site (hsc : sc.Placed s) {d : Delimiter} (hd : sc.openerHere? = some d) :
    Span.InText s ⟨sc.pos, sc.pos + d.openLength⟩ ∧
      Delimiter.ofOpener? (sc.src.slice ⟨sc.pos, sc.pos + d.openLength⟩).toUTF8.toList = some d := by
  simp only [openerHere?, hsc.src_eq] at hd ⊢
  exact ⟨.opener hsc.boundary hd, Source.ofOpener?_slice hsc.boundary hd⟩

/-- The `{` of an open field: the site, and the character there. -/
lemma brace_site (hsc : sc.Placed s) (hn : sc.Nested (Source.ofString s) limits)
    {fl : FieldProgress} (hfl : sc.innerField? = some fl) :
    Span.InText s ⟨fl.brace, fl.brace + 1⟩ ∧ (sc.src.slice ⟨fl.brace, fl.brace + 1⟩).toList = ['{'] := by
  obtain ⟨lit, hlit, hin⟩ := Nested.exists_of_innerField? hfl
  have hbrace := ((hn.literals lit hlit).fields fl hin).brace
  rw [← hn.src_eq] at hbrace
  exact ascii_site hsc hbrace (by decide)

/-- **Where `FaultAt` places a fault, the site names what the error read there says.** From a
scanner of the text `s` that is soundly nested and has every `{` behind it, the site of any fault
but a delimiter mismatch is a nonempty range of the text between two character boundaries. -/
lemma FaultAt.designates (hsc : sc.Placed s) (hn : sc.Nested (Source.ofString s) limits)
    (hbeh : sc.BracesBehind) {f : ScanFault} {sp : Span} (h : sc.FaultAt f sp)
    (hf : f ≠ .delimiterMismatch) :
    sp.InText s ∧ (LexErrorKind.ofFault f sp sc.src).Designates sc sp := by
  cases f with
  | invalidCharacter =>
    obtain ⟨rfl, hlt⟩ := h
    have hb := hsc.boundary
    rw [hsc.src_eq] at hlt ⊢
    have hlt' : sc.pos < s.utf8ByteSize := by simpa using hlt
    obtain ⟨c, hc⟩ := Source.slice_charWidth hb hlt'
    refine ⟨⟨by have := one_le_charWidth ((Source.ofString s).byte sc.pos); simp only; omega,
      (hb.add_charWidth hlt').le_size, hb,
      hb.add_charWidth hlt'⟩, ?_⟩
    simp only [LexErrorKind.ofFault, hc, List.head?_cons, Option.getD_some]
    split
    · next h0 => exact ⟨rfl, by rw [hsc.src_eq, hc, h0]⟩
    · next h0 => exact ⟨rfl, by rw [hsc.src_eq, hc], h0⟩
  | strayBackslash =>
    obtain ⟨rfl, hb⟩ := h
    obtain ⟨hin, hc⟩ := ascii_site hsc hb (by decide)
    exact ⟨hin, rfl, hc⟩
  | unterminatedString =>
    obtain ⟨d, hd, hform, rfl, hnot⟩ := h
    obtain ⟨hin, hread⟩ := opener_site hsc hd
    exact ⟨hin, rfl, d, hd, hform, rfl, hread, hnot⟩
  | unterminatedFString =>
    obtain ⟨d, o, hd, ho, rfl⟩ := h
    obtain ⟨lit, rest, hentries⟩ : ∃ lit rest, sc.literals.entries = lit :: rest := by
      cases he : sc.literals.entries with
      | nil => simp [DelimiterStack.current?, he] at hd
      | cons lit rest => exact ⟨lit, rest, rfl⟩
    have hlit := (hn.literals lit (by simp [hentries])).opener
    simp only [DelimiterStack.current?, DelimiterStack.currentStart?, hentries, List.head?_cons,
      Option.map_some, Option.some.injEq] at hd ho
    subst hd ho
    have hb := CharBoundary.of_opener hlit
    refine ⟨.opener hb hlit, ?_⟩
    simp only [LexErrorKind.Designates, hsc.src_eq]
    exact ⟨lit.delimiter, by simp [DelimiterStack.current?, hentries],
      by simp [DelimiterStack.currentStart?, hentries], rfl, Source.ofOpener?_slice hb hlit⟩
  | unterminatedField =>
    obtain ⟨fl, hfl, rfl⟩ := h
    obtain ⟨hin, hc⟩ := brace_site hsc hn hfl
    exact ⟨hin, fl, hfl, rfl, hc⟩
  | emptyField =>
    obtain ⟨fl, hfl, rfl, hm⟩ := h
    have hin : sc.innerField? = some fl := (Option.filter_eq_some_iff.mp hfl).1
    obtain ⟨hbrace, hbc⟩ := brace_site hsc hn hin
    have hlt : fl.brace < sc.pos := hbeh fl.brace (by
      obtain ⟨lit, hlit, hfield⟩ := Nested.exists_of_innerField? hin
      exact List.mem_flatMap.mpr ⟨lit, hlit, List.mem_map.mpr ⟨fl, hfield, rfl⟩⟩)
    obtain ⟨hmark, hmc⟩ := ascii_site hsc rfl (by
      simp only [isFieldMarkerByte, Bool.or_eq_true, beq_iff_eq] at hm
      rcases hm with ((h | h) | h) | h <;> rw [h] <;> decide)
    have hb₀ : CharBoundary s fl.brace := hbrace.start
    have hb₁ : CharBoundary s (fl.brace + 1) := hbrace.stop
    have hp₁ : CharBoundary s (sc.pos + 1) := hmark.stop
    have hsplit : sc.src.slice ⟨fl.brace, sc.pos + 1⟩ = sc.src.slice ⟨fl.brace, fl.brace + 1⟩ ++
        sc.src.slice ⟨fl.brace + 1, sc.pos⟩ ++ sc.src.slice ⟨sc.pos, sc.pos + 1⟩ := by
      rw [hsc.src_eq, Source.slice_append hb₀ hb₁ hsc.boundary (by omega) (by omega),
        Source.slice_append hb₀ hsc.boundary hp₁ (by omega) (by omega)]
    have hchars : (sc.src.slice ⟨fl.brace, sc.pos + 1⟩).toList =
        '{' :: (sc.src.slice ⟨fl.brace + 1, sc.pos⟩).toList ++
          [Char.ofNat (sc.src.byte sc.pos).toNat] := by
      rw [hsplit, String.toList_append, String.toList_append, hbc, hmc]
      rfl
    have hlast : (sc.src.slice ⟨fl.brace, sc.pos + 1⟩).toList.getLast? =
        some (Char.ofNat (sc.src.byte sc.pos).toNat) := by
      rw [hchars, List.getLast?_concat]
    refine ⟨⟨by simp only; omega, hmark.le_size, hb₀, hp₁⟩, ?_⟩
    simp only [LexErrorKind.ofFault, hlast, Option.getD_some]
    exact ⟨fl, hfl, rfl, rfl, by rw [hchars]; rfl, hlast, char_of_isFieldMarkerByte hm⟩
  | loneRightBrace =>
    obtain ⟨hle, hstop, hb⟩ := h
    obtain ⟨hin, hc⟩ := ascii_site hsc hb (by decide)
    rcases sp with ⟨a, b⟩
    simp only at hstop hle
    subst hstop
    exact ⟨hin, hle, hc⟩
  | newlineInFString =>
    obtain ⟨hle, hstop, hl⟩ := h
    obtain ⟨hin, hc⟩ := ascii_site hsc rfl (ascii_of_isLineBreakByte _ hl)
    rcases sp with ⟨a, b⟩
    simp only at hstop hle
    subst hstop
    refine ⟨hin, hle, ?_⟩
    rcases char_of_isLineBreakByte hl with hch | hch <;> rw [hc, hch] <;> simp
  | commentInFString =>
    obtain ⟨rfl, hb⟩ := h
    obtain ⟨hin, hc⟩ := ascii_site hsc hb (by decide)
    exact ⟨hin, rfl, hc⟩
  | tooDeeplyNested =>
    rcases h with ⟨rfl, hb⟩ | ⟨d, hd, hform, rfl⟩
    · obtain ⟨hin, hc⟩ := ascii_site hsc hb (by decide)
      exact ⟨hin, rfl, .inl hc⟩
    · obtain ⟨hin, hread⟩ := opener_site hsc hd
      exact ⟨hin, rfl, .inr ⟨d, hd, hform, rfl, hread⟩⟩
  | delimiterMismatch => exact absurd rfl hf
  | mismatchedBracket =>
    obtain ⟨rfl, hc, hne⟩ := h
    obtain ⟨hin, hch⟩ := ascii_site hsc rfl (by
      simp only [isCloserByte, Bool.or_eq_true, beq_iff_eq] at hc
      rcases hc with (h | h) | h <;> rw [h] <;> decide)
    refine ⟨hin, ?_⟩
    simp only [LexErrorKind.ofFault, hch, List.head?_cons, Option.getD_some]
    exact ⟨rfl, hch, char_of_isCloserByte hc, hne⟩
  | unmatchedBracket =>
    obtain ⟨rfl, hc, hnil⟩ := h
    obtain ⟨hin, hch⟩ := ascii_site hsc rfl (by
      simp only [isCloserByte, Bool.or_eq_true, beq_iff_eq] at hc
      rcases hc with (h | h) | h <;> rw [h] <;> decide)
    refine ⟨hin, ?_⟩
    simp only [LexErrorKind.ofFault, hch, List.head?_cons, Option.getD_some]
    exact ⟨rfl, hch, char_of_isCloserByte hc, hnil⟩
  | unclosedBracket =>
    obtain ⟨hnone, ob, rest, hbs, rfl⟩ := h
    have hob : sc.src.byte ob.pos = ob.kind.openByte := by
      rw [hn.src_eq]
      exact hn.brackets ob (by simp [hbs])
    obtain ⟨hin, hch⟩ := ascii_site hsc hob ob.kind.ascii_openByte
    refine ⟨hin, ?_⟩
    simp only [LexErrorKind.ofFault, hch, List.head?_cons, Option.getD_some]
    exact ⟨hnone, ob, rest, hbs, rfl, hch, ob.kind.char_openByte⟩

end Scanner

/-! ## Lexical errors -/

open Scanner in
/-- A lexical error of a text the lexer takes is the first fault of the scan, read at the site
the scanner recorded for it, or at the piece if it recorded none. -/
lemma exists_first_fault {text : String} {limits : ScanLimits} {e : LexError}
    (hsize : text.utf8ByteSize ≤ maxSourceSize) (h : tokenize text limits = .error e) :
    let sc := start (Source.ofString text) limits
    ∃ k f, (sc.pieceAt k).tag = .fault f ∧ (∀ i < k, (sc.pieceAt i).tag.isFault = false) ∧
      e = ⟨(sc.after (k + 1)).errorSite.getD ⟨(sc.after k).pos, (sc.after k).pos + (sc.pieceAt k).len⟩,
        LexErrorKind.ofFault f ((sc.after (k + 1)).errorSite.getD
          ⟨(sc.after k).pos, (sc.after k).pos + (sc.pieceAt k).len⟩) (Source.ofString text),
        (sc.after k).literals.errorContext⟩ := by
  intro sc
  classical
  by_cases hex : ∃ k, (sc.pieceAt k).tag.isFault = true
  · obtain ⟨f, hf⟩ : ∃ f, (sc.pieceAt (Nat.find hex)).tag = .fault f := by
      have hfault := Nat.find_spec hex
      cases htag : (sc.pieceAt (Nat.find hex)).tag <;> simp_all [RawTag.isFault]
    have hnf : ∀ i < Nat.find hex, (sc.pieceAt i).tag.isFault = false := fun i hi => by
      simpa using Nat.find_min hex hi
    refine ⟨Nat.find hex, f, hf, hnf, ?_⟩
    rw [tokenize_of_fault hsize hf hnf] at h
    exact (Except.error.inj h).symm
  · obtain ⟨toks, hok⟩ := exists_tokenize_ok hsize fun i => by simpa using fun hf => hex ⟨i, hf⟩
    rw [hok] at h
    cases h

open Scanner in
/-- **A lexical error names the place it is about.** Every lexing error but an oversized text
has a nonempty site between two character boundaries, where the scan's first fault is and which
`LexErrorKind.Designates` pins down for each kind of error. -/
theorem lex_error_site (text : String) (limits : ScanLimits) (e : LexError)
    (h : tokenize text limits = .error e) (hk : e.kind ≠ .sourceTooLarge) :
    let sc := start (Source.ofString text) limits
    e.span.InText text ∧ ∃ k, (∀ i < k, (sc.pieceAt i).tag.isFault = false) ∧
      (sc.pieceAt k).tag.isFault = true ∧ e.kind.Designates (sc.after k) e.span := by
  intro sc
  have hsc : sc.Placed text := placed_start text limits
  have hsize : text.utf8ByteSize ≤ maxSourceSize := by
    by_contra hlarge
    simp only [tokenize, gt_iff_lt, not_le.mp hlarge, if_true, Except.error.injEq] at h
    exact hk (h ▸ rfl)
  obtain ⟨k, f, hf, hnf, rfl⟩ := exists_first_fault hsize h
  -- up to the fault the scan is quiet, so the step that faults reports where `FaultAt` says
  obtain ⟨hnone, hbeh⟩ := quiet_after hsc rfl (fun b hb => by simp [braces, sc, start] at hb) hnf
  have hrep := (hsc.after k).reports_step
  rw [step_after] at hrep
  have hat := hrep.site f hf hnone hbeh
  have hmis : f ≠ .delimiterMismatch := fun hm => (cooks_after hsc k).noMismatch (hm ▸ hf)
  obtain ⟨hin, hdes⟩ := hat.designates (hsc.after k) ((nested_start _ _).after hsc k) hbeh hmis
  rw [(hsc.after k).src_eq] at hdes
  have hf' : (sc.pieceAt k).tag = .fault f := hf
  exact ⟨hin, k, hnf, by simp [hf', RawTag.isFault], hdes⟩

open Scanner in
/-- A closing parenthesis with nothing open is a lexical error at the parenthesis. -/
theorem lex_error_site_unmatched :
    ∃ e, tokenize ")" {} = .error e ∧ e.kind ≠ .sourceTooLarge ∧
      let sc := start (Source.ofString ")") {}
      e.span.InText ")" ∧ ∃ k, (∀ i < k, (sc.pieceAt i).tag.isFault = false) ∧
        (sc.pieceAt k).tag.isFault = true ∧ e.kind.Designates (sc.after k) e.span := by
  have hf : ((start (Source.ofString ")") {}).pieceAt 0).tag = .fault .unmatchedBracket := by
    decide
  have h := tokenize_of_fault (by decide) hf fun _ h => absurd h (Nat.not_lt_zero _)
  exact ⟨_, h, by simp [LexErrorKind.ofFault], lex_error_site ")" {} _ h
    (by simp [LexErrorKind.ofFault])⟩

end ExprFront
