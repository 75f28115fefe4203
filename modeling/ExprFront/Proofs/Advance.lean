import Mathlib
import ExprFront.Proofs.BodyWalk
import ExprFront.Proofs.ScanMonad

/-!
# How far a step reads

Each step of the scan reads on from the offset the scanner stands at. `Scanner.Advance` says
what every step does to that offset, whatever it reports: the offset moves forward by the
length of the piece and lands on a character boundary of the text; unless the piece is the end
or a fault it covers at least one byte; and the end is reported only at the end of the text,
with nothing open, leaving the scanner as it was.

Every scanning step below is shown to advance so, one lemma for each (`advance_blanks`,
`advance_literal`, …), from which `advance_codeStep` and `advance_textStep` follow by one case
split each over what the step dispatches on.
-/

namespace ExprFront

/-! ## Bytes -/

set_option maxRecDepth 10000 in
lemma toNat_byteChar : ∀ b : UInt8, (byteChar b).toNat = b.toNat := by decide

/-- The byte that a character of the code-mode dispatch stands for. -/
lemma toNat_of_byteChar {b : UInt8} {c : Char} (h : byteChar b = c) : b.toNat = c.toNat := by
  rw [← toNat_byteChar b, h]

/-- The byte that a character of the code-mode dispatch stands for, as a byte. -/
lemma byte_eq_of_byteChar {b n : UInt8} {c : Char} (h : byteChar b = c) (hn : c.toNat = n.toNat) :
    b = n :=
  UInt8.toNat_inj.mp ((toNat_of_byteChar h).trans hn)

/-- A byte that the dispatch reads as a nonzero ASCII character is one. -/
lemma ascii_of_byteChar {b : UInt8} {c : Char} (h : byteChar b = c)
    (hc : 0 < c.toNat ∧ c.toNat < 128) : b ≠ 0 ∧ b < 128 := by
  have hb := toNat_of_byteChar h
  refine ⟨fun h0 => ?_, ?_⟩
  · rw [h0] at hb
    simp at hb
    omega
  · rw [UInt8.lt_iff_toNat_lt]
    simp only [UInt8.reduceToNat]
    omega

/-- A byte equal to a nonzero ASCII byte is one. -/
lemma ascii_of_beq {b n : UInt8} (h : (b == n) = true) (hn : n ≠ 0 ∧ n < 128) : b ≠ 0 ∧ b < 128 := by
  rw [beq_iff_eq] at h
  exact h ▸ hn

set_option maxRecDepth 10000 in
lemma ascii_of_isIdentStartByte : ∀ b : UInt8, ScanM.isIdentStartByte b = true → b ≠ 0 ∧ b < 128 := by
  decide

namespace Source

variable {src : Source} {p : UInt8 → Bool} {i : Nat}

lemma ascii_below_one (h : src.byte i ≠ 0 ∧ src.byte i < 128) :
    ∀ k < 1, src.byte (i + k) ≠ 0 ∧ src.byte (i + k) < 128 := by
  intro k hk
  obtain rfl : k = 0 := by omega
  exact h

lemma ascii_below_two (h0 : src.byte i ≠ 0 ∧ src.byte i < 128)
    (h1 : src.byte (i + 1) ≠ 0 ∧ src.byte (i + 1) < 128) :
    ∀ k < 2, src.byte (i + k) ≠ 0 ∧ src.byte (i + k) < 128 := by
  intro k hk
  match k, hk with
  | 0, _ => exact h0
  | 1, _ => exact h1

/-- A walk that starts on a byte failing its test moves. -/
lemma lt_findFrom (hi : i < src.size) (hp : p (src.byte i) = false) : i < src.findFrom p i := by
  rw [findFrom, if_pos hi, hp]
  exact Nat.lt_of_lt_of_le (Nat.lt_succ_self i) (src.le_findFrom p (i + 1))

end Source

namespace Scanner

/-- The scanner reads the text `s` and stands on one of its character boundaries. -/
structure Placed (s : String) (sc : Scanner) : Prop where
  src_eq : sc.src = Source.ofString s
  boundary : CharBoundary s sc.pos

/-- What a step from `sc` that gives the piece and scanner `r` does to the scan's place in
the text `s`. The text and whether the scan has stopped stay as they are, and the piece covers
the bytes from the old offset to the new one, which is a character boundary. A piece other than
the end or a fault covers at least one byte. The end is reported only at the end of the text
with no field and no outer bracket open, and changes nothing. -/
structure Advance (s : String) (sc : Scanner) (r : RawToken × Scanner) : Prop where
  src_eq : r.2.src = sc.src
  stopped_eq : r.2.stopped = sc.stopped
  pos_eq : r.2.pos = sc.pos + r.1.len
  boundary : CharBoundary s r.2.pos
  covers : r.1.tag = .eof ∨ r.1.tag.isFault = true ∨ 0 < r.1.len
  atEnd : r.1.tag = .eof →
    r.2 = sc ∧ sc.pos = s.utf8ByteSize ∧ sc.innerField? = none ∧ sc.brackets = []

namespace Advance

variable {s : String} {sc sc' : Scanner}

/-- A step that reports the bytes up to a boundary `p` as anything but the end. -/
lemma move {tag : RawTag} {p : Nat} (hsrc : sc'.src = sc.src) (hstop : sc'.stopped = sc.stopped)
    (hpos : sc'.pos = p) (hp : sc.pos ≤ p) (hb : CharBoundary s p) (htag : tag ≠ .eof)
    (hcov : tag.isFault = true ∨ sc.pos < p) :
    Advance s sc (⟨tag, p - sc.pos⟩, sc') where
  src_eq := hsrc
  stopped_eq := hstop
  pos_eq := by simp only; omega
  boundary := hpos ▸ hb
  covers := by
    rcases hcov with h | h
    · exact Or.inr (Or.inl h)
    · exact Or.inr (Or.inr (by simp only; omega))
  atEnd := fun h => absurd h htag

/-- The end of the text, reported with nothing open. -/
lemma eof (hsc : sc.Placed s) (hend : s.utf8ByteSize ≤ sc.pos) (hfield : sc.innerField? = none)
    (hbr : sc.brackets = []) : Advance s sc (⟨.eof, sc.pos - sc.pos⟩, sc) where
  src_eq := rfl
  stopped_eq := rfl
  pos_eq := by simp
  boundary := hsc.boundary
  covers := Or.inl rfl
  atEnd := fun _ => ⟨rfl, le_antisymm hsc.boundary.le_size hend, hfield, hbr⟩

end Advance

end Scanner

/-! ## Code mode -/

set_option maxRecDepth 10000 in
lemma ascii_of_blankTest :
    ∀ b : UInt8, (!(b == 32 || b == 9 || b == 12)) = false → b < 128 := by decide

set_option maxRecDepth 10000 in
lemma ascii_of_hexTest : ∀ b : UInt8, (!(isHexByte b || b == 95)) = false → b < 128 := by decide

set_option maxRecDepth 10000 in
lemma ascii_of_lineBreakTest : ∀ b : UInt8, isLineBreakByte b = true → b < 128 := by decide

namespace Scanner.Placed

variable {s : String} {sc : Scanner}

/-- Past an ASCII byte inside the text, from the scanner's offset, is a boundary. -/
lemma succ (hsc : sc.Placed s) (hlt : sc.pos < sc.src.size) (h : sc.src.byte sc.pos < 128) :
    CharBoundary s (sc.pos + 1) :=
  hsc.boundary.succ (by simpa [hsc.src_eq] using hlt) (by simpa [hsc.src_eq] using h)

/-- Past a run of nonzero ASCII bytes from the scanner's offset is a boundary. -/
lemma add_of_ascii (hsc : sc.Placed s) {n : Nat}
    (h : ∀ k < n, sc.src.byte (sc.pos + k) ≠ 0 ∧ sc.src.byte (sc.pos + k) < 128) :
    CharBoundary s (sc.pos + n) :=
  hsc.boundary.add_of_ascii (hsc.src_eq ▸ h)

/-- Past the line break at the scanner's offset is a boundary. -/
lemma lineBreakEnd (hsc : sc.Placed s) (hl : isLineBreakByte (sc.src.byte sc.pos) = true) :
    CharBoundary s (sc.src.lineBreakEnd sc.pos) := by
  rw [hsc.src_eq]
  exact hsc.boundary.lineBreakEnd (hsc.src_eq ▸ hl)

/-- Past the rest of an identifier from a boundary is a boundary. -/
lemma identEnd (hsc : sc.Placed s) {i : Nat} (hi : CharBoundary s i) :
    CharBoundary s (sc.src.identEnd i) := by
  rw [hsc.src_eq]
  exact hi.identEnd

/-- The offset of a nonzero ASCII byte is a boundary. -/
lemma boundary_of_ascii (hsc : sc.Placed s) {j : Nat} (h : sc.src.byte j ≠ 0 ∧ sc.src.byte j < 128) :
    CharBoundary s j := by
  rw [hsc.src_eq] at h
  exact CharBoundary.of_lt (by simpa using Source.lt_size_of_byte_ne_zero h.1) h.2

/-- Where the text walk from the scanner's offset stops. -/
lemma textStop_fits (hsc : sc.Placed s) {d : Delimiter} {inSpec : Bool} {t : Source.TextStop}
    (h : sc.src.textStop d inSpec sc.pos = t) : t.Fits sc.src d inSpec sc.pos := by
  rw [← h, hsc.src_eq]
  exact Source.textStop_fits hsc.boundary

/-- The same scanner, with its innermost field changed. -/
lemma modifyField (hsc : sc.Placed s) {f : FieldProgress → FieldProgress} :
    Scanner.Placed s (sc.modifyField f) :=
  ⟨hsc.src_eq, hsc.boundary⟩

/-- The same scanner, moved to a boundary. -/
lemma moveTo (hsc : sc.Placed s) {p : Nat} (hb : CharBoundary s p) : Scanner.Placed s { sc with pos := p } :=
  ⟨hsc.src_eq, hb⟩

end Scanner.Placed

namespace ScanM

open Scanner

variable {s : String} {sc : Scanner}

lemma advance_single (hsc : sc.Placed s) (hlt : sc.pos < sc.src.size)
    (h : sc.src.byte sc.pos < 128) {tag : RawTag} (htag : tag ≠ .eof) :
    Advance s sc ((single tag sc.pos).run sc) := by
  rw [run_single]
  exact Advance.move rfl rfl rfl (by omega) (hsc.succ hlt h) htag (Or.inr (by omega))

lemma advance_zeroByte (hsc : sc.Placed s) (h0 : sc.src.byte sc.pos = 0) :
    Advance s sc ((zeroByte sc.pos).run sc) := by
  simp only [zeroByte, run_get_bind, run_ite]
  split
  · next hlt => exact advance_single hsc hlt (by simp [h0]) (by simp)
  · next hge =>
    have hend : s.utf8ByteSize ≤ sc.pos := by simpa [hsc.src_eq] using hge
    split
    · simp only [run_fault]
      exact Advance.move rfl rfl rfl le_rfl hsc.boundary (by simp) (Or.inl rfl)
    · split
      · simp only [run_fault]
        exact Advance.move rfl rfl rfl le_rfl hsc.boundary (by simp) (Or.inl rfl)
      · simp only [run_emit]
        exact Advance.eof hsc hend ‹_› ‹_›

lemma advance_blanks (hsc : sc.Placed s)
    (hb : sc.src.byte sc.pos = 32 ∨ sc.src.byte sc.pos = 9 ∨ sc.src.byte sc.pos = 12) :
    Advance s sc ((blanks sc.pos).run sc) := by
  have hne : sc.src.byte sc.pos ≠ 0 := by rcases hb with h | h | h <;> simp [h]
  simp only [blanks, run_get_bind, run_moveTo_bind, run_emit]
  refine Advance.move rfl rfl rfl (sc.src.le_findFrom _ _) ?_ (by simp) (Or.inr ?_)
  · rw [hsc.src_eq]
    exact hsc.boundary.findFrom ascii_of_blankTest
  · exact Source.lt_findFrom (Source.lt_size_of_byte_ne_zero hne)
      (by rcases hb with h | h | h <;> simp [h])

lemma advance_lineBreak (hsc : sc.Placed s) (hl : isLineBreakByte (sc.src.byte sc.pos) = true) :
    Advance s sc ((lineBreak sc.pos).run sc) := by
  have hlt := sc.src.lt_lineBreakEnd sc.pos
  simp only [lineBreak, run_eatLineBreak_bind, run_get_bind]
  split <;> split <;>
    exact Advance.move rfl rfl rfl hlt.le (hsc.lineBreakEnd hl) (by simp) (Or.inr hlt)

lemma advance_comment (hsc : sc.Placed s) (h : sc.src.byte sc.pos = 35) :
    Advance s sc ((comment sc.pos).run sc) := by
  have hlt : sc.pos < sc.src.size := Source.lt_size_of_byte_ne_zero (by simp [h])
  simp only [comment, run_get_bind, run_ite, run_advance_bind, run_fault, run_moveTo_bind, run_emit]
  split
  · exact Advance.move rfl rfl rfl (by omega) (hsc.succ hlt (by simp [h])) (by simp) (Or.inl rfl)
  · refine Advance.move rfl rfl rfl (sc.src.le_findFrom _ _) ?_ (by simp) (Or.inr ?_)
    · rw [hsc.src_eq]
      exact CharBoundary.of_findFrom ascii_of_lineBreakTest hsc.boundary.le_size
    · exact Source.lt_findFrom hlt (by rw [h]; decide)

lemma advance_continuation (hsc : sc.Placed s) (h : sc.src.byte sc.pos = 92) :
    Advance s sc ((continuation sc.pos).run sc) := by
  have hlt : sc.pos < sc.src.size := Source.lt_size_of_byte_ne_zero (by simp [h])
  have h1 : Scanner.Placed s { sc with pos := sc.pos + 1 } := hsc.moveTo (hsc.succ hlt (by simp [h]))
  simp only [continuation, run_advance_bind, run_peekAt_bind, run_ite, run_eatLineBreak_bind,
    run_emit, Nat.add_zero]
  split
  · next hl =>
    have hlt' := sc.src.lt_lineBreakEnd (sc.pos + 1)
    exact Advance.move rfl rfl rfl (by omega) (h1.lineBreakEnd hl) (by simp) (Or.inr (by omega))
  · exact Advance.move rfl rfl rfl (by omega) h1.boundary (by simp) (Or.inl rfl)

lemma advance_pair (hsc : sc.Placed s)
    (h : ∀ k < 2, sc.src.byte (sc.pos + k) ≠ 0 ∧ sc.src.byte (sc.pos + k) < 128) (p : Punct) :
    Advance s sc ((pair sc.pos p).run sc) := by
  simp only [pair, run_advance_bind, run_emit]
  exact Advance.move rfl rfl rfl (by omega) (hsc.add_of_ascii h) (by simp) (Or.inr (by omega))

lemma advance_operatorAt (hsc : sc.Placed s) {n : Nat} (hn : 0 < n)
    (h : ∀ k < n, sc.src.byte (sc.pos + k) ≠ 0 ∧ sc.src.byte (sc.pos + k) < 128) (plain : Punct) :
    Advance s sc ((operatorAt sc.pos n plain).run sc) := by
  have hn' : Scanner.Placed s { sc with pos := sc.pos + n } := hsc.moveTo (hsc.add_of_ascii h)
  simp only [operatorAt, run_advance_bind, run_peekAt_bind, run_ite, run_emit, Nat.add_zero]
  split
  · next heq =>
    have hlt : sc.pos + n < sc.src.size := Source.lt_size_of_byte_ne_zero (by simp_all)
    exact Advance.move rfl rfl rfl (by omega) (hn'.succ hlt (by simp_all)) (by simp)
      (Or.inr (by omega))
  · exact Advance.move rfl rfl rfl (by omega) hn'.boundary (by simp) (Or.inr (by omega))

lemma advance_literal (hsc : sc.Placed s) {d : Delimiter}
    (hd : Delimiter.ofOpener? (sc.src.window sc.pos (min (sc.pos + 5) sc.src.size)) = some d) :
    Advance s sc ((literal sc.pos d).run sc) := by
  have hopen : CharBoundary s (sc.pos + d.openLength) := by
    rw [hsc.src_eq] at hd
    exact hsc.boundary.opener hd
  have hlen : 0 < d.openLength := by
    simp only [Delimiter.openLength]
    cases d.size <;> simp [QuoteSize.len]
  simp only [literal, openFString, cutOffString, run_advance_bind, run_get_bind, run_ite,
    run_set_bind, run_fault, run_emit]
  split
  · split
    · exact Advance.move rfl rfl rfl (by omega) hopen (by simp) (Or.inl rfl)
    · exact Advance.move rfl rfl rfl (by omega) hopen (by simp) (Or.inr (by omega))
  · have hfits := Source.stringBodyEnd_fits (d := d) hopen
    rw [← hsc.src_eq] at hfits
    split
    · next j hj =>
      rw [hj] at hfits
      obtain ⟨k, hk, hclose, rfl⟩ := hfits
      have hb : CharBoundary s (k + d.closeLength) := CharBoundary.closesAt (hsc.src_eq ▸ hclose)
      simp only [run_moveTo_bind, run_emit]
      exact Advance.move rfl rfl rfl (by omega) hb (by simp) (Or.inr (by omega))
    · next j hj =>
      rw [hj] at hfits
      obtain ⟨hle, hend⟩ := hfits
      have hb : CharBoundary s j := by
        rcases hend with rfl | ⟨hl, -⟩
        · simpa [hsc.src_eq] using CharBoundary.size s
        · rw [hsc.src_eq] at hl
          have hj : j < s.utf8ByteSize := by
            simpa using Source.lt_size_of_byte_ne_zero (ascii_of_isLineBreakByte _ hl).1
          exact CharBoundary.of_lt hj (ascii_of_isLineBreakByte _ hl).2
      simp only [run_moveTo_bind, run_get_bind]
      split
      · split <;> exact Advance.move (p := j) rfl rfl rfl (by omega) hb (by simp) (Or.inl rfl)
      · exact Advance.move (p := j) rfl rfl rfl (by omega) hb (by simp) (Or.inl rfl)

lemma advance_quoted (hsc : sc.Placed s) (h : sc.src.byte sc.pos = 39 ∨ sc.src.byte sc.pos = 34) :
    Advance s sc ((quoted sc.pos).run sc) := by
  have hlt : sc.pos < sc.src.size :=
    Source.lt_size_of_byte_ne_zero (by rcases h with h | h <;> simp [h])
  simp only [quoted, run_openerAt?_bind]
  split
  · exact advance_literal hsc ‹_›
  · exact advance_single hsc hlt (by rcases h with h | h <;> simp [h]) (by simp)

lemma advance_word (hsc : sc.Placed s) (h : sc.src.byte sc.pos ≠ 0 ∧ sc.src.byte sc.pos < 128) :
    Advance s sc ((word sc.pos).run sc) := by
  have hlt : sc.pos < sc.src.size := Source.lt_size_of_byte_ne_zero h.1
  simp only [word, run_openerAt?_bind]
  split
  · exact advance_literal hsc ‹_›
  · simp only [run_get_bind, run_moveTo_bind, run_emit]
    have hle := sc.src.le_identEnd (sc.pos + 1)
    exact Advance.move rfl rfl rfl (by omega) (hsc.identEnd (hsc.succ hlt h.2)) (by simp)
      (Or.inr (by omega))

lemma advance_unicodeWord (hsc : sc.Placed s) (h : 128 ≤ sc.src.byte sc.pos) :
    Advance s sc ((unicodeWord sc.pos).run sc) := by
  have hlt : sc.pos < sc.src.size :=
    Source.lt_size_of_byte_ne_zero (by intro h0; rw [h0] at h; exact absurd h (by decide))
  have hnext : CharBoundary s (sc.pos + charWidth (sc.src.byte sc.pos)) := by
    rw [hsc.src_eq]
    exact hsc.boundary.add_charWidth (by simpa [hsc.src_eq] using hlt)
  have hw := one_le_charWidth (sc.src.byte sc.pos)
  simp only [unicodeWord, run_get_bind, run_ite, run_moveTo_bind, run_emit]
  split
  · have hle := sc.src.le_identEnd (sc.pos + charWidth (sc.src.byte sc.pos))
    exact Advance.move rfl rfl rfl (by omega) (hsc.identEnd hnext) (by simp) (Or.inr (by omega))
  · exact Advance.move rfl rfl rfl (by omega) hnext (by simp) (Or.inl rfl)

/-- The end of a number whose digits run from the scanner's offset to a boundary `q`. -/
lemma advance_numberEnd (hsc : sc.Placed s) {q : Nat} (hq : CharBoundary s q) (hlt : sc.pos < q)
    (isFloat : Bool) : Advance s sc ((numberEnd sc.pos isFloat).run { sc with pos := q }) := by
  have hq' : Scanner.Placed s { sc with pos := q } := hsc.moveTo hq
  simp only [numberEnd, run_peekAt_bind, run_ite, run_advance_bind, run_emit, Nat.add_zero]
  split
  · next hj =>
    have hj' : sc.src.byte q = 106 ∨ sc.src.byte q = 74 := by simpa using hj
    have hqlt : q < sc.src.size :=
      Source.lt_size_of_byte_ne_zero (by rcases hj' with h | h <;> simp [h])
    exact Advance.move rfl rfl rfl (by omega)
      (hq'.succ hqlt (by rcases hj' with h | h <;> simp [h])) (by simp) (Or.inr (by omega))
  · exact Advance.move rfl rfl rfl (by omega) hq (by cases isFloat <;> simp) (Or.inr hlt)

lemma advance_number (hsc : sc.Placed s) (h : isDigitByte (sc.src.byte sc.pos) = true) :
    Advance s sc ((number sc.pos).run sc) := by
  have hd := ascii_of_isIdentByte (sc.src.byte sc.pos) (by simp [isIdentByte, h])
  have hlt : sc.pos < sc.src.size := Source.lt_size_of_byte_ne_zero hd.1
  have h1 : CharBoundary s (sc.pos + 1) := hsc.succ hlt hd.2
  simp only [number, run_get_bind, run_ite, run_moveTo_bind, run_emit]
  split
  · next hr =>
    simp only [Bool.and_eq_true, beq_iff_eq, Bool.or_eq_true] at hr
    have h2 : CharBoundary s (sc.pos + 2) := hsc.add_of_ascii fun k hk => by
      match k, hk with
      | 0, _ => exact hd
      | 1, _ => rcases hr.2 with ((((h | h) | h) | h) | h) | h <;> rw [h] <;> decide
    have hle := sc.src.le_findFrom (fun b => !(isHexByte b || b == 95)) (sc.pos + 2)
    refine Advance.move rfl rfl rfl (by omega) ?_ (by simp) (Or.inr (by omega))
    rw [hsc.src_eq]
    exact h2.findFrom ascii_of_hexTest
  · have hint : CharBoundary s (sc.src.digitsEnd (sc.pos + 1)) := by rw [hsc.src_eq]; exact h1.digitsEnd
    have hle := sc.src.le_digitsEnd (sc.pos + 1)
    split
    · next hdot =>
      dsimp only
      have hdot' : sc.src.byte (sc.src.digitsEnd (sc.pos + 1)) = 46 := by simpa using hdot
      have hfrac : CharBoundary s (sc.src.digitsEnd (sc.src.digitsEnd (sc.pos + 1) + 1)) := by
        have hlt' := Source.lt_size_of_byte_ne_zero (hdot' ▸ (by decide : (46 : UInt8) ≠ 0))
        rw [hsc.src_eq] at hint hdot' hlt' ⊢
        exact (hint.succ (by simpa using hlt') (by rw [hdot']; decide)).digitsEnd
      have hle' := sc.src.le_digitsEnd (sc.src.digitsEnd (sc.pos + 1) + 1)
      have hexp := sc.src.le_exponentEnd (sc.src.digitsEnd (sc.src.digitsEnd (sc.pos + 1) + 1))
      exact advance_numberEnd hsc (by rw [hsc.src_eq] at hfrac ⊢; exact hfrac.exponentEnd)
        (by omega) _
    · dsimp only
      have hexp := sc.src.le_exponentEnd (sc.src.digitsEnd (sc.pos + 1))
      exact advance_numberEnd hsc (by rw [hsc.src_eq] at hint ⊢; exact hint.exponentEnd)
        (by omega) _

lemma advance_dot (hsc : sc.Placed s) (h : sc.src.byte sc.pos = 46) :
    Advance s sc ((dot sc.pos).run sc) := by
  have hlt : sc.pos < sc.src.size := Source.lt_size_of_byte_ne_zero (by simp [h])
  have h1 : CharBoundary s (sc.pos + 1) := hsc.succ hlt (by simp [h])
  simp only [dot, run_get_bind, run_ite, run_moveTo_bind, run_advance_bind, run_emit]
  split
  · have hq : CharBoundary s (sc.src.exponentEnd (sc.src.digitsEnd (sc.pos + 1))).1 := by
      rw [hsc.src_eq]
      exact h1.digitsEnd.exponentEnd
    have hle := sc.src.le_digitsEnd (sc.pos + 1)
    have hexp := sc.src.le_exponentEnd (sc.src.digitsEnd (sc.pos + 1))
    exact advance_numberEnd hsc hq (by omega) true
  · split
    · next h3 =>
      simp only [Bool.and_eq_true, beq_iff_eq] at h3
      have hb : CharBoundary s (sc.pos + 3) := hsc.add_of_ascii fun k hk => by
        match k, hk with
        | 0, _ => rw [Nat.add_zero, h]; decide
        | 1, _ => rw [h3.1]; decide
        | 2, _ => rw [h3.2]; decide
      exact Advance.move rfl rfl rfl (by omega) hb (by simp) (Or.inr (by omega))
    · exact advance_single hsc hlt (by simp [h]) (by simp)

/-- A `=` or `!` marker, read as the one byte at the scanner's offset. -/
lemma advance_endExpression (hsc : sc.Placed s) (hlt : sc.pos < sc.src.size)
    (h : sc.src.byte sc.pos < 128) (p : Punct) :
    Advance s sc ((endExpression sc.pos p).run { sc with pos := sc.pos + 1 }) := by
  have h1 := hsc.succ hlt h
  simp only [endExpression, run_get_bind]
  split
  · simp only [run_emit]
    exact Advance.move rfl rfl rfl (by omega) h1 (by simp) (Or.inr (by omega))
  · simp only [run_ite, run_fault, run_modify_bind, run_emit, Scanner.pos_modifyField]
    split
    · exact Advance.move rfl rfl rfl (by omega) h1 (by simp) (Or.inl rfl)
    · exact Advance.move rfl rfl rfl (by omega) h1 (by simp) (Or.inr (by omega))

lemma advance_colon (hsc : sc.Placed s) (h : sc.src.byte sc.pos = 58) :
    Advance s sc ((colon sc.pos).run sc) := by
  have hlt : sc.pos < sc.src.size := Source.lt_size_of_byte_ne_zero (by simp [h])
  have h1 := hsc.succ hlt (by simp [h])
  simp only [colon, run_advance_bind, run_get_bind]
  split
  · simp only [run_ite, run_fault, run_modify_bind, run_emit, Scanner.pos_modifyField]
    split
    · exact Advance.move rfl rfl rfl (by omega) h1 (by simp) (Or.inl rfl)
    · exact Advance.move rfl rfl rfl (by omega) h1 (by simp) (Or.inr (by omega))
  · simp only [run_peekAt_bind, run_ite, run_advance_bind, run_emit, Nat.add_zero]
    split
    · next heq =>
      have hlt' : sc.pos + 1 < sc.src.size := Source.lt_size_of_byte_ne_zero (by simp_all)
      have h2 := (hsc.moveTo h1).succ hlt' (by simp_all)
      exact Advance.move rfl rfl rfl (by omega) h2 (by simp) (Or.inr (by omega))
    · exact Advance.move rfl rfl rfl (by omega) h1 (by simp) (Or.inr (by omega))

lemma advance_pushBracket (hsc : sc.Placed s) (hlt : sc.pos < sc.src.size)
    (h : sc.src.byte sc.pos < 128) (kind : Bracket) (p : Punct) :
    Advance s sc ((pushBracket sc.pos kind p).run sc) := by
  simp only [pushBracket, run_advance_bind, run_modify_bind, run_emit, Scanner.pos_setOpenBrackets]
  exact Advance.move (by simp) (by simp) (by simp) (by omega) (hsc.succ hlt h) (by simp)
    (Or.inr (by omega))

lemma advance_popBracket (hsc : sc.Placed s) (hlt : sc.pos < sc.src.size)
    (h : sc.src.byte sc.pos < 128) (kind : Bracket) (p : Punct) :
    Advance s sc ((popBracket sc.pos kind p).run sc) := by
  have h1 := hsc.succ hlt h
  simp only [popBracket, endField, run_get_bind, run_ite, run_advance_bind]
  split
  · split
    · simp only [run_emit]
      exact Advance.move rfl rfl rfl (by omega) h1 (by simp) (Or.inr (by omega))
    · simp only [run_modifyLiteral_bind, run_ite, run_fault, run_emit]
      split
      · exact Advance.move rfl rfl rfl (by omega) h1 (by simp) (Or.inl rfl)
      · exact Advance.move rfl rfl rfl (by omega) h1 (by simp) (Or.inr (by omega))
  · split
    · simp only [run_ite, run_modify_bind, run_emit, run_fault, Scanner.pos_setOpenBrackets]
      split
      · exact Advance.move (by simp) (by simp) (by simp) (by omega) h1 (by simp)
          (Or.inr (by omega))
      · exact Advance.move rfl rfl rfl (by omega) h1 (by simp) (Or.inl rfl)
    · simp only [run_fault]
      exact Advance.move rfl rfl rfl (by omega) h1 (by simp) (Or.inl rfl)

/-- With no field open there is no field to record a byte in; otherwise only the field changes,
so a step from the changed scanner is a step from the scanner itself. -/
lemma Advance.of_modifyField {f : FieldProgress → FieldProgress} {m : ScanM RawToken}
    (h : Advance s (sc.modifyField f) (m.run (sc.modifyField f))) :
    Advance s sc (m.run (sc.modifyField f)) where
  src_eq := h.src_eq
  stopped_eq := h.stopped_eq
  pos_eq := h.pos_eq
  boundary := h.boundary
  covers := h.covers
  atEnd := fun he => by
    obtain ⟨hsc, hend, hfield, hbr⟩ := h.atEnd he
    have hnone : sc.innerField? = none := by simpa using hfield
    have hself : sc.modifyField f = sc := Scanner.modifyField_of_innerField?_eq_none hnone
    exact ⟨hsc.trans hself, by simpa using hend, hnone, by simpa using hbr⟩

lemma advance_codeStep (hsc : sc.Placed s) : Advance s sc (codeStep.run sc) := by
  simp only [codeStep, markExpression, run_get_bind, run_modify_bind]
  apply Advance.of_modifyField
  split
  · next heq => exact advance_zeroByte hsc.modifyField (byte_eq_of_byteChar heq rfl)
  · next heq => exact advance_blanks hsc.modifyField (Or.inl (byte_eq_of_byteChar heq rfl))
  · next heq => exact advance_blanks hsc.modifyField (Or.inr (Or.inl (byte_eq_of_byteChar heq rfl)))
  · next heq => exact advance_blanks hsc.modifyField (Or.inr (Or.inr (byte_eq_of_byteChar heq rfl)))
  · next heq =>
    exact advance_lineBreak hsc.modifyField (by simp [byte_eq_of_byteChar (n := 10) heq rfl, isLineBreakByte])
  · next heq =>
    exact advance_lineBreak hsc.modifyField (by simp [byte_eq_of_byteChar (n := 13) heq rfl, isLineBreakByte])
  · next heq => exact advance_comment hsc.modifyField (byte_eq_of_byteChar heq rfl)
  · next heq => exact advance_continuation hsc.modifyField (byte_eq_of_byteChar heq rfl)
  · next heq => exact advance_quoted hsc.modifyField (Or.inl (byte_eq_of_byteChar heq rfl))
  · next heq => exact advance_quoted hsc.modifyField (Or.inr (byte_eq_of_byteChar heq rfl))
  · next heq => exact advance_dot hsc.modifyField (byte_eq_of_byteChar heq rfl)
  · next heq =>
    exact advance_operatorAt hsc.modifyField one_pos
      (Source.ascii_below_one (ascii_of_byteChar heq (by decide))) _
  · next heq =>
    have hA := ascii_of_byteChar heq (by decide)
    rw [run_ite]
    split
    · next hn =>
      exact advance_pair hsc.modifyField (Source.ascii_below_two hA (ascii_of_beq hn (by decide))) _
    · exact advance_operatorAt hsc.modifyField one_pos (Source.ascii_below_one hA) _
  · next heq =>
    have hA := ascii_of_byteChar heq (by decide)
    rw [run_ite]
    split
    · next hn =>
      exact advance_operatorAt hsc.modifyField two_pos
        (Source.ascii_below_two hA (ascii_of_beq hn (by decide))) _
    · exact advance_operatorAt hsc.modifyField one_pos (Source.ascii_below_one hA) _
  · next heq =>
    have hA := ascii_of_byteChar heq (by decide)
    rw [run_ite]
    split
    · next hn =>
      exact advance_operatorAt hsc.modifyField two_pos
        (Source.ascii_below_two hA (ascii_of_beq hn (by decide))) _
    · exact advance_operatorAt hsc.modifyField one_pos (Source.ascii_below_one hA) _
  · next heq =>
    exact advance_operatorAt hsc.modifyField one_pos
      (Source.ascii_below_one (ascii_of_byteChar heq (by decide))) _
  · next heq =>
    exact advance_operatorAt hsc.modifyField one_pos
      (Source.ascii_below_one (ascii_of_byteChar heq (by decide))) _
  · next heq =>
    exact advance_operatorAt hsc.modifyField one_pos
      (Source.ascii_below_one (ascii_of_byteChar heq (by decide))) _
  · next heq =>
    exact advance_operatorAt hsc.modifyField one_pos
      (Source.ascii_below_one (ascii_of_byteChar heq (by decide))) _
  · next heq =>
    exact advance_operatorAt hsc.modifyField one_pos
      (Source.ascii_below_one (ascii_of_byteChar heq (by decide))) _
  · next heq =>
    have hA := ascii_of_byteChar heq (by decide)
    exact advance_single hsc.modifyField (Source.lt_size_of_byte_ne_zero hA.1) hA.2 (by simp)
  · next heq =>
    have hA := ascii_of_byteChar heq (by decide)
    simp only [run_ite]
    split
    · next hn =>
      exact advance_operatorAt hsc.modifyField two_pos
        (Source.ascii_below_two hA (ascii_of_beq hn (by decide))) _
    · split
      · next hn => exact advance_pair hsc.modifyField (Source.ascii_below_two hA (ascii_of_beq hn (by decide))) _
      · exact advance_single hsc.modifyField (Source.lt_size_of_byte_ne_zero hA.1) hA.2 (by simp)
  · next heq =>
    have hA := ascii_of_byteChar heq (by decide)
    simp only [run_ite]
    split
    · next hn =>
      exact advance_operatorAt hsc.modifyField two_pos
        (Source.ascii_below_two hA (ascii_of_beq hn (by decide))) _
    · split
      · next hn => exact advance_pair hsc.modifyField (Source.ascii_below_two hA (ascii_of_beq hn (by decide))) _
      · exact advance_single hsc.modifyField (Source.lt_size_of_byte_ne_zero hA.1) hA.2 (by simp)
  · next heq =>
    have hA := ascii_of_byteChar heq (by decide)
    rw [run_ite]
    split
    · next hn => exact advance_pair hsc.modifyField (Source.ascii_below_two hA (ascii_of_beq hn (by decide))) _
    · rw [run_advance_bind]
      exact advance_endExpression hsc.modifyField (Source.lt_size_of_byte_ne_zero hA.1) hA.2 _
  · next heq =>
    have hA := ascii_of_byteChar heq (by decide)
    rw [run_ite]
    split
    · next hn => exact advance_pair hsc.modifyField (Source.ascii_below_two hA (ascii_of_beq hn (by decide))) _
    · rw [run_advance_bind]
      exact advance_endExpression hsc.modifyField (Source.lt_size_of_byte_ne_zero hA.1) hA.2 _
  · next heq => exact advance_colon hsc.modifyField (byte_eq_of_byteChar heq rfl)
  · next heq =>
    have hA := ascii_of_byteChar heq (by decide)
    exact advance_single hsc.modifyField (Source.lt_size_of_byte_ne_zero hA.1) hA.2 (by simp)
  · next heq =>
    have hA := ascii_of_byteChar heq (by decide)
    exact advance_single hsc.modifyField (Source.lt_size_of_byte_ne_zero hA.1) hA.2 (by simp)
  · next heq =>
    have hA := ascii_of_byteChar heq (by decide)
    exact advance_pushBracket hsc.modifyField (Source.lt_size_of_byte_ne_zero hA.1) hA.2 _ _
  · next heq =>
    have hA := ascii_of_byteChar heq (by decide)
    exact advance_pushBracket hsc.modifyField (Source.lt_size_of_byte_ne_zero hA.1) hA.2 _ _
  · next heq =>
    have hA := ascii_of_byteChar heq (by decide)
    exact advance_pushBracket hsc.modifyField (Source.lt_size_of_byte_ne_zero hA.1) hA.2 _ _
  · next heq =>
    have hA := ascii_of_byteChar heq (by decide)
    exact advance_popBracket hsc.modifyField (Source.lt_size_of_byte_ne_zero hA.1) hA.2 _ _
  · next heq =>
    have hA := ascii_of_byteChar heq (by decide)
    exact advance_popBracket hsc.modifyField (Source.lt_size_of_byte_ne_zero hA.1) hA.2 _ _
  · next heq =>
    have hA := ascii_of_byteChar heq (by decide)
    exact advance_popBracket hsc.modifyField (Source.lt_size_of_byte_ne_zero hA.1) hA.2 _ _
  · simp only [run_ite]
    split
    · next hid => exact advance_word hsc.modifyField (ascii_of_isIdentStartByte _ hid)
    · split
      · next hdig => exact advance_number hsc.modifyField hdig
      · split
        · next hhigh => exact advance_unicodeWord hsc.modifyField hhigh
        · next hlow =>
          have h0 : sc.src.byte sc.pos ≠ 0 := fun h0 =>
            ‹byteChar (sc.src.byte sc.pos) = '\x00' → False› (by rw [h0]; rfl)
          exact advance_single hsc.modifyField (Source.lt_size_of_byte_ne_zero h0)
            (by simpa using hlow) (by simp)

/-! ## Text mode -/

lemma advance_beginField (hsc : sc.Placed s) (h : sc.src.byte sc.pos = 123) :
    Advance s sc ((beginField sc.pos).run sc) := by
  have h1 := hsc.succ (Source.lt_size_of_byte_ne_zero (by simp [h])) (by simp [h])
  simp only [beginField, run_advance_bind, run_get_bind]
  split
  · simp only [run_emit]
    exact Advance.move rfl rfl rfl (by omega) h1 (by simp) (Or.inr (by omega))
  · simp only [run_ite, run_fault, run_modifyLiteral_bind, run_emit]
    split
    · exact Advance.move rfl rfl rfl (by omega) h1 (by simp) (Or.inl rfl)
    · exact Advance.move rfl rfl rfl (by omega) h1 (by simp) (Or.inr (by omega))

lemma advance_endSpec (hsc : sc.Placed s) (h : sc.src.byte sc.pos = 125) :
    Advance s sc ((endSpec sc.pos).run sc) := by
  have h1 := hsc.succ (Source.lt_size_of_byte_ne_zero (by simp [h])) (by simp [h])
  simp only [endSpec, run_advance_bind, run_modifyLiteral_bind, run_emit]
  exact Advance.move rfl rfl rfl (by omega) h1 (by simp) (Or.inr (by omega))

/-- The fault of a field left open, reported where the scanner stands. -/
lemma advance_openFieldFault (hsc : sc.Placed s) {start : Nat} (hle : start ≤ sc.pos) :
    Advance s { sc with pos := start } ((openFieldFault start).run sc) := by
  simp only [openFieldFault, run_get_bind, run_fault]
  exact Advance.move rfl rfl rfl hle hsc.boundary (by simp) (Or.inl rfl)

/-- The closing quotes at `j`, after text from the scanner's offset: the text, if an earlier
piece of the literal was reported, else the end of the literal with the text folded into it. -/
lemma advance_closeFString (hsc : sc.Placed s) {d : Delimiter} {j : Nat} (hle : sc.pos ≤ j)
    (hclose : sc.src.closesAt d j = true) :
    Advance s sc ((closeFString sc.pos d).run { sc with pos := j }) := by
  have hq := Source.byte_of_closesAt hclose 0 (by simp [Delimiter.closeLength]; cases d.size <;> simp [QuoteSize.len])
  have hj := hsc.boundary_of_ascii (j := j) (by simpa using hq ▸ d.quote.byte_ascii)
  have hend : CharBoundary s (j + d.closeLength) := CharBoundary.closesAt (hsc.src_eq ▸ hclose)
  have hlen : 0 < d.closeLength := by simp [Delimiter.closeLength]; cases d.size <;> simp [QuoteSize.len]
  simp only [closeFString, run_get_bind, run_ite, run_textPiece, run_advance_bind]
  split
  · next hrep =>
    simp only [Bool.and_eq_true, decide_eq_true_eq] at hrep
    exact Advance.move rfl rfl rfl hle hj (by simp) (Or.inr hrep.2)
  · split
    · simp only [run_set_bind, run_emit]
      exact Advance.move rfl rfl rfl (by omega) hend (by simp) (Or.inr (by omega))
    · simp only [run_fault]
      exact Advance.move rfl rfl rfl (by omega) hend (by simp) (Or.inl rfl)

lemma advance_textStep (hsc : sc.Placed s) (d : Delimiter) : Advance s sc ((textStep d).run sc) := by
  simp only [textStep, run_get_bind]
  split
  · next j heq =>
    obtain ⟨hle, hb, -⟩ := hsc.textStop_fits heq
    simp only [run_moveTo_bind, run_ite, run_textPiece]
    split
    · exact Advance.move rfl rfl rfl hle (hsc.boundary_of_ascii (by simp [hb])) (by simp)
        (Or.inr ‹_›)
    · obtain rfl : j = sc.pos := by omega
      exact advance_beginField hsc hb
  · next j heq =>
    obtain ⟨hle, hb, -⟩ := hsc.textStop_fits heq
    simp only [run_moveTo_bind, run_ite, run_textPiece]
    split
    · exact Advance.move rfl rfl rfl hle (hsc.boundary_of_ascii (by simp [hb])) (by simp)
        (Or.inr ‹_›)
    · obtain rfl : j = sc.pos := by omega
      exact advance_endSpec hsc hb
  · next j heq =>
    obtain ⟨hle, hb, -, -⟩ := hsc.textStop_fits heq
    have hj := hsc.boundary_of_ascii (j := j) (by simp [hb])
    have hlt : j < sc.src.size := Source.lt_size_of_byte_ne_zero (by simp [hb])
    simp only [run_moveTo_bind, run_fault]
    exact Advance.move rfl rfl rfl (by omega) ((hsc.moveTo hj).succ hlt (by simp [hb])) (by simp)
      (Or.inl rfl)
  · next j heq =>
    obtain ⟨hle, hl, -⟩ := hsc.textStop_fits heq
    simp only [run_moveTo_bind, run_fault]
    exact Advance.move rfl rfl rfl hle (hsc.boundary_of_ascii (ascii_of_isLineBreakByte _ hl))
      (by simp) (Or.inl rfl)
  · next j heq =>
    obtain ⟨hle, rfl⟩ := hsc.textStop_fits heq
    have hj : CharBoundary s sc.src.size := by
      rw [hsc.src_eq, Source.size_ofString]
      exact CharBoundary.size s
    simp only [run_moveTo_bind, run_ite, run_fault]
    split_ifs
    · exact advance_openFieldFault (hsc.moveTo hj) hle
    · exact Advance.move rfl rfl rfl hle hj (by simp) (Or.inl rfl)
  · next j heq =>
    obtain ⟨hle, hclose⟩ := hsc.textStop_fits heq
    have hq := Source.byte_of_closesAt hclose 0
      (by simp [Delimiter.closeLength]; cases d.size <;> simp [QuoteSize.len])
    have hj := hsc.boundary_of_ascii (j := j) (by simpa using hq ▸ d.quote.byte_ascii)
    simp only [run_moveTo_bind, run_ite]
    split_ifs
    · exact advance_openFieldFault (hsc.moveTo hj) hle
    · exact advance_closeFString hsc hle hclose

/-! ## Steps -/

lemma advance_modeStep (hsc : sc.Placed s) : Advance s sc (modeStep.run sc) := by
  simp only [modeStep, run_get_bind]
  split
  · exact advance_textStep hsc _
  · exact advance_codeStep hsc

end ScanM

namespace Scanner

/-- What one step of the scan does, from a scanner on a boundary of the text `s`. It moves the
scanner forward by the piece, to another boundary of `s`. It stops the scan at a fault, and once
the scan has stopped it reports the end, with length zero. Until then it covers at least one byte
unless it reports the end or a fault. And it reports the end only at the end of the text or once
the scan has stopped, and then changes nothing. -/
structure StepAdvance (s : String) (sc : Scanner) (r : RawToken × Scanner) : Prop where
  placed : r.2.Placed s
  pos_eq : r.2.pos = sc.pos + r.1.len
  stopped_eq : r.2.stopped = (sc.stopped || r.1.tag.isFault)
  whenStopped : sc.stopped = true → r.1 = ⟨.eof, 0⟩
  covers : sc.stopped = false → r.1.tag = .eof ∨ r.1.tag.isFault = true ∨ 0 < r.1.len
  atEnd : r.1.tag = .eof → r.2 = sc ∧ (sc.stopped = false → sc.pos = s.utf8ByteSize)

end Scanner

open ScanM in
theorem Scanner.Placed.stepAdvance {s : String} {sc : Scanner} (hsc : sc.Placed s) :
    StepAdvance s sc (step.run sc) := by
  simp only [step, run_get_bind, run_ite, run_pure]
  split
  · next hstop =>
    exact ⟨hsc, by simp, by simp [hstop], fun _ => rfl, fun h => by simp [hstop] at h,
      fun _ => ⟨rfl, fun h => by simp [hstop] at h⟩⟩
  · next hrun =>
    have h := advance_modeStep hsc
    rw [run_bind]
    generalize modeStep.run sc = r at h ⊢
    obtain ⟨tok, sc'⟩ := r
    have hplaced : sc'.Placed s := ⟨h.src_eq.trans hsc.src_eq, h.boundary⟩
    have hrun' : sc.stopped = false := by simpa using hrun
    split
    · next hfault =>
      simp only [run_modify_bind, run_pure]
      exact ⟨⟨hplaced.src_eq, hplaced.boundary⟩, h.pos_eq, by simp [hfault], fun h' => by simp [hrun'] at h',
        fun _ => h.covers, fun he => absurd hfault (by simp only at he; simp [he, RawTag.isFault])⟩
    · next hfault =>
      simp only [run_pure]
      have hstop : sc'.stopped = false := by simpa [hrun'] using h.stopped_eq
      exact ⟨hplaced, h.pos_eq, by simpa [hstop, hrun'] using hfault, fun h' => by simp [hrun'] at h',
        fun _ => h.covers, fun he => ⟨(h.atEnd he).1, fun _ => (h.atEnd he).2.1⟩⟩

end ExprFront
