import Mathlib
import ExprFront.Proofs.Boundary

/-!
# Where the walks through literal bodies stop

A literal's body is walked as a whole (`Source.stringBodyEnd`, `Source.textStop`), and the scanner
then moves to where the walk stopped, or just past it. In a text every such offset is a
character boundary, and the kind of stop names the byte found there:

* `textStop_fits` — a walk through f-string text from a boundary stops at or after its start,
  on the byte its kind is named for (`{`, `}`, a line break, the closing quotes), or at the
  end of the text;
* `textStop_at_stop` — walked again from where it stopped, it stops there again, the same way;
  so a piece of text is never followed by another one;
* `stringBodyEnd_fits` — the walk through an ordinary string stops just past its closing
  quotes, or on the line break or at the end that cuts it off.

The escapes inside a body skip whole characters (`CharBoundary.escapeEnd`,
`CharBoundary.namedEscapeEnd`, `CharBoundary.textEscapeEnd`), which keeps each walk on
boundaries when it starts again after one.
-/

namespace ExprFront

namespace CharBoundary

variable {s : String} {i : Nat}

/-- Past what a backslash escapes is a boundary. -/
lemma escapeEnd (h : CharBoundary s i) : CharBoundary s ((Source.ofString s).escapeEnd i) := by
  unfold Source.escapeEnd
  dsimp only
  split
  · next hb => exact h.lineBreakEnd hb
  · split
    · exact h
    · next hnz =>
      have hi : i < s.utf8ByteSize := by
        by_contra hge
        have hzero : (Source.ofString s).byte i = 0 :=
          Source.byte_of_size_le (by simpa using Nat.le_of_not_lt hge)
        exact hnz (by simp [hzero, Nat.le_of_not_lt hge])
      exact h.add_charWidth hi

/-- Past the name of a named escape is a boundary. -/
lemma namedEscapeEnd (q : UInt8) (h : CharBoundary s i) :
    CharBoundary s ((Source.ofString s).namedEscapeEnd q i) := by
  fun_induction (Source.ofString s).namedEscapeEnd q i with
  | case1 j hj b hb =>
    have hb' : (Source.ofString s).byte j = 125 := by simpa using hb
    exact h.succ (by simpa using hj) (by rw [hb']; decide)
  | case2 => exact h
  | case3 j hj b _ _ ih => exact ih (h.add_charWidth (by simpa using hj))
  | case4 => exact h

/-- Past what a backslash covers in f-string text is a boundary. -/
lemma textEscapeEnd (d : Delimiter) (h : CharBoundary s i) :
    CharBoundary s ((Source.ofString s).textEscapeEnd d i) := by
  unfold Source.textEscapeEnd
  dsimp only
  split
  · exact h
  · split
    · next hN =>
      simp only [Bool.and_eq_true, beq_iff_eq, Bool.not_eq_true'] at hN
      have h2 : CharBoundary s (i + 2) := h.add_of_ascii fun k hk => by
        match k, hk with
        | 0, _ => simp [hN.1.1]
        | 1, _ => simp [hN.2]
      exact h2.namedEscapeEnd d.quote.byte
    · exact h.escapeEnd

end CharBoundary

/-! ## Closing quotes -/

lemma Quote.byte_ascii (q : Quote) : q.byte ≠ 0 ∧ q.byte < 128 := by
  cases q <;> decide

namespace Source

/-- The closing quotes of `d` at `j` are `d.closeLength` quote bytes. -/
lemma byte_of_closesAt {src : Source} {d : Delimiter} {j : Nat} (h : src.closesAt d j = true) :
    ∀ k < d.closeLength, src.byte (j + k) = d.quote.byte := by
  intro k hk
  simp only [closesAt, Bool.and_eq_true, beq_iff_eq, Bool.or_eq_true, Bool.not_eq_true'] at h
  obtain ⟨h0, hrest⟩ := h
  cases hz : d.size with
  | single =>
    have hk0 : k = 0 := by simp [Delimiter.closeLength, hz, QuoteSize.len] at hk; omega
    simpa [hk0] using h0
  | triple =>
    have hlines : d.spansLines = true := by simp [Delimiter.spansLines, hz]
    have h12 := hrest.resolve_left (by simp [hlines])
    have hk3 : k < 3 := by simpa [Delimiter.closeLength, hz, QuoteSize.len] using hk
    match k, hk3 with
    | 0, _ => simpa using h0
    | 1, _ => exact h12.1
    | 2, _ => exact h12.2

end Source

namespace CharBoundary

variable {s : String} {i : Nat}

/-- Past closing quotes is a boundary. -/
lemma closesAt {d : Delimiter} (h : (Source.ofString s).closesAt d i = true) :
    CharBoundary s (i + d.closeLength) := by
  have hq := Source.byte_of_closesAt h
  have hb : (Source.ofString s).byte i = d.quote.byte := by simpa using hq 0 (by
    cases hz : d.size <;> simp [Delimiter.closeLength, hz, QuoteSize.len])
  have hnz : (Source.ofString s).byte i ≠ 0 := hb ▸ d.quote.byte_ascii.1
  have hi : i < s.utf8ByteSize := by simpa using Source.lt_size_of_byte_ne_zero hnz
  refine (of_lt hi (hb ▸ d.quote.byte_ascii.2)).add_of_ascii fun k hk => ?_
  rw [hq k hk]
  exact d.quote.byte_ascii

end CharBoundary

/-! ## F-string text -/

namespace Source

set_option maxRecDepth 10000 in
/-- The bytes a walk through f-string text stops on are all ASCII. -/
lemma textStopTest_ascii (q : Quote) :
    ∀ b : UInt8, (b == q.byte || b == 123 || b == 125 || b == 92 || isLineBreakByte b) = true →
      b < 128 := by
  cases q <;> decide

/-- The offset a walk through f-string text stopped at. -/
def TextStop.pos : TextStop → Nat
  | .openBrace j | .closeBrace j | .loneBrace j | .lineBreak j | .closer j | .eof j => j

/-- Where a walk through f-string text from `i` may stop: at or after `i`, on the byte its kind
is named for, or at the end of the text. -/
def TextStop.Fits (src : Source) (d : Delimiter) (inSpec : Bool) (i : Nat) : TextStop → Prop
  | .openBrace j => i ≤ j ∧ src.byte j = 123 ∧ (inSpec = false → src.byte (j + 1) ≠ 123)
  | .closeBrace j => i ≤ j ∧ src.byte j = 125 ∧ inSpec = true
  | .loneBrace j => i ≤ j ∧ src.byte j = 125 ∧ inSpec = false ∧ src.byte (j + 1) ≠ 125
  | .lineBreak j => i ≤ j ∧ isLineBreakByte (src.byte j) = true ∧ d.spansLines = false
  | .closer j => i ≤ j ∧ src.closesAt d j = true
  | .eof j => i ≤ j ∧ j = src.size

lemma TextStop.Fits.mono {src : Source} {d : Delimiter} {inSpec : Bool} {i i' : Nat}
    {t : TextStop} (hle : i ≤ i') (h : t.Fits src d inSpec i') : t.Fits src d inSpec i := by
  cases t <;> simp only [Fits] at h ⊢ <;> exact ⟨by omega, h.2⟩

/-- **A walk through f-string text stops where its kind says.** From a boundary of a text, it
stops at or after its start: on a `{` that opens a field, on a `}`, on a forbidden line break, on
the closing quotes, or at the end of the text. -/
theorem textStop_fits {s : String} {d : Delimiter} {inSpec : Bool} {i : Nat}
    (h : CharBoundary s i) :
    ((ofString s).textStop d inSpec i).Fits (ofString s) d inSpec i := by
  fun_induction (ofString s).textStop d inSpec i with
  | case1 x hlt b hb hdouble ih =>
    simp only [b, beq_iff_eq] at hb
    simp only [Bool.and_eq_true, beq_iff_eq] at hdouble
    refine (ih (CharBoundary.add_of_ascii (CharBoundary.of_lt (by simpa using hlt)
      (by rw [hb]; decide)) fun k hk => ?_)).mono (Nat.le_add_right_of_le (le_findFrom _ _ x))
    match k, hk with
    | 0, _ => simp [hb]
    | 1, _ => simp [hdouble.2]
  | case2 x _ b hb hnot =>
    simp only [b, beq_iff_eq] at hb
    refine ⟨le_findFrom _ _ x, hb, fun hs => ?_⟩
    simpa [hs] using hnot
  | case3 x hs _ b _ hb =>
    simp only [b, beq_iff_eq] at hb
    exact ⟨le_findFrom _ _ x, hb, hs⟩
  | case4 x _ hlt b _ hb hdouble ih =>
    simp only [b, beq_iff_eq] at hb
    simp only [beq_iff_eq] at hdouble
    refine (ih (CharBoundary.add_of_ascii (CharBoundary.of_lt (by simpa using hlt)
      (by rw [hb]; decide)) fun k hk => ?_)).mono (Nat.le_add_right_of_le (le_findFrom _ _ x))
    match k, hk with
    | 0, _ => simp [hb]
    | 1, _ => simp [hdouble]
  | case5 x hs _ b _ hb hsingle =>
    simp only [b, beq_iff_eq] at hb
    exact ⟨le_findFrom _ _ x, hb, by simpa using hs, by simpa using hsingle⟩
  | case6 x hlt b _ _ hbs ih =>
    simp only [b, beq_iff_eq] at hbs
    have hj := CharBoundary.of_lt (by simpa using hlt) (by rw [hbs]; decide)
    have hafter := (hj.succ (by simpa using hlt) (by rw [hbs]; decide)).textEscapeEnd d
    exact (ih hafter).mono (Nat.le_trans (le_findFrom _ _ x)
      (Nat.le_trans (Nat.le_succ _) (le_textEscapeEnd _ d _)))
  | case7 x _ hlt b _ _ _ hlb ih =>
    simp only [b] at hlb
    have hj := CharBoundary.of_lt (by simpa using hlt) (ascii_of_isLineBreakByte _ hlb).2
    exact (ih (hj.lineBreakEnd hlb)).mono
      (Nat.le_trans (le_findFrom _ _ x) (Nat.le_of_lt (lt_lineBreakEnd _ _)))
  | case8 x hspans _ b _ _ _ hlb =>
    simp only [b] at hlb
    exact ⟨le_findFrom _ _ x, hlb, by simpa using hspans⟩
  | case9 x _ b _ _ _ _ hclose => exact ⟨le_findFrom _ _ x, hclose⟩
  | case10 x hlt b _ _ _ _ _ ih =>
    have hasc := textStopTest_ascii d.quote _ (findFrom_stops hlt)
    have hj := CharBoundary.of_lt (by simpa using hlt) hasc
    exact (ih (hj.succ (by simpa using hlt) hasc)).mono
      (Nat.le_add_right_of_le (le_findFrom _ _ x))
  | case11 x hge =>
    refine ⟨le_findFrom _ _ x, Nat.le_antisymm (findFrom_le_size (by simpa using h.le_size)) ?_⟩
    omega

/-- A walk that starts on a byte it stops on stops at once. -/
lemma findFrom_of_stops {src : Source} {p : UInt8 → Bool} {j : Nat} (hj : j < src.size)
    (hp : p (src.byte j) = true) : src.findFrom p j = j := by
  rw [findFrom]
  simp [hj, hp]

/-- A walk that starts at the end of the text stops at once. -/
lemma findFrom_size (src : Source) (p : UInt8 → Bool) : src.findFrom p src.size = src.size := by
  rw [findFrom]
  simp

/-- **Walked again from where it stopped, a walk through f-string text stops there again**, and
the same way. So what the scanner reports as text before a boundary is followed by the
boundary itself, never by more text. -/
theorem textStop_at_stop {src : Source} {d : Delimiter} {inSpec : Bool} {i : Nat}
    {t : TextStop} (h : t.Fits src d inSpec i) : src.textStop d inSpec t.pos = t := by
  have hq := d.quote.byte_ascii
  cases t with
  | openBrace j =>
    obtain ⟨-, hb, hnext⟩ := h
    have hj : j < src.size := lt_size_of_byte_ne_zero (by rw [hb]; decide)
    rw [TextStop.pos, textStop, findFrom_of_stops hj (by simp [hb])]
    cases inSpec <;> simp_all
  | closeBrace j =>
    obtain ⟨-, hb, hs⟩ := h
    have hj : j < src.size := lt_size_of_byte_ne_zero (by rw [hb]; decide)
    rw [TextStop.pos, textStop, findFrom_of_stops hj (by simp [hb])]
    simp [hb, hs, hj]
  | loneBrace j =>
    obtain ⟨-, hb, hs, hnext⟩ := h
    have hj : j < src.size := lt_size_of_byte_ne_zero (by rw [hb]; decide)
    rw [TextStop.pos, textStop, findFrom_of_stops hj (by simp [hb])]
    simp [hb, hs, hj, hnext]
  | lineBreak j =>
    obtain ⟨-, hb, hs⟩ := h
    have hasc := ascii_of_isLineBreakByte _ hb
    have hj : j < src.size := lt_size_of_byte_ne_zero hasc.1
    rw [TextStop.pos, textStop, findFrom_of_stops hj (by simp [hb])]
    have h123 : src.byte j ≠ 123 := by
      intro h; simp [h, isLineBreakByte] at hb
    have h125 : src.byte j ≠ 125 := by
      intro h; simp [h, isLineBreakByte] at hb
    have h92 : src.byte j ≠ 92 := by
      intro h; simp [h, isLineBreakByte] at hb
    simp [hb, hs, hj, h123, h125, h92]
  | closer j =>
    obtain ⟨-, hc⟩ := h
    have hb : src.byte j = d.quote.byte := by simpa using byte_of_closesAt hc 0 (by
      cases hz : d.size <;> simp [Delimiter.closeLength, hz, QuoteSize.len])
    have hj : j < src.size := lt_size_of_byte_ne_zero (by rw [hb]; exact hq.1)
    rw [TextStop.pos, textStop, findFrom_of_stops hj (by simp [hb])]
    have hne : ∀ c : UInt8, c = 123 ∨ c = 125 ∨ c = 92 ∨ c = 10 ∨ c = 13 → src.byte j ≠ c := by
      rintro c hc' rfl
      cases hqd : d.quote <;> simp [Quote.byte, hqd] at hb <;> rcases hc' with h | h | h | h | h <;>
        simp_all
    have hlb : isLineBreakByte (src.byte j) = false := by
      simp [isLineBreakByte, hne 10 (by simp), hne 13 (by simp)]
    simp [hj, hc, hlb, hne 123 (by simp), hne 125 (by simp), hne 92 (by simp)]
  | eof j =>
    obtain ⟨-, rfl⟩ := h
    rw [TextStop.pos, textStop, findFrom_size]
    simp

/-! ## Ordinary strings -/

set_option maxRecDepth 10000 in
/-- The bytes a walk through an ordinary string stops on are all ASCII. -/
lemma bodyTest_ascii (q : Quote) :
    ∀ b : UInt8, (b == q.byte || b == 92 || isLineBreakByte b) = true → b < 128 := by
  cases q <;> decide

/-- Where the walk through an ordinary string's body from `i` may stop: just past closing quotes
at or after `i`, or on a line break that a single-quoted string may not hold, or at the end. -/
def BodyEnd.Fits (src : Source) (d : Delimiter) (i : Nat) : BodyEnd → Prop
  | .closed j => ∃ k, i ≤ k ∧ src.closesAt d k = true ∧ j = k + d.closeLength
  | .unterminated j =>
    i ≤ j ∧ (j = src.size ∨ (isLineBreakByte (src.byte j) = true ∧ d.spansLines = false))

lemma BodyEnd.Fits.mono {src : Source} {d : Delimiter} {i i' : Nat} {e : BodyEnd}
    (hle : i ≤ i') (h : e.Fits src d i') : e.Fits src d i := by
  cases e with
  | closed j =>
    obtain ⟨k, hk, hc, rfl⟩ := h
    exact ⟨k, by omega, hc, rfl⟩
  | unterminated j => exact ⟨by have := h.1; omega, h.2⟩

/-- **The walk through an ordinary string stops where its kind says**: past its closing quotes,
or where a line break or the end of the text cuts it off. -/
theorem stringBodyEnd_fits {s : String} {d : Delimiter} {i : Nat} (h : CharBoundary s i) :
    ((ofString s).stringBodyEnd d i).Fits (ofString s) d i := by
  fun_induction (ofString s).stringBodyEnd d i with
  | case1 x hlt b hbs ih =>
    simp only [b, beq_iff_eq] at hbs
    have hj := CharBoundary.of_lt (by simpa using hlt) (by rw [hbs]; decide)
    have hafter := (hj.succ (by simpa using hlt) (by rw [hbs]; decide)).escapeEnd
    exact (ih hafter).mono (Nat.le_trans (le_findFrom _ _ x)
      (Nat.le_trans (Nat.le_succ _) (le_escapeEnd _ _)))
  | case2 x _ hlt b _ hlb ih =>
    simp only [b] at hlb
    have hj := CharBoundary.of_lt (by simpa using hlt) (ascii_of_isLineBreakByte _ hlb).2
    exact (ih (hj.lineBreakEnd hlb)).mono
      (Nat.le_trans (le_findFrom _ _ x) (Nat.le_of_lt (lt_lineBreakEnd _ _)))
  | case3 x hspans hlt b _ hlb =>
    simp only [b] at hlb
    exact ⟨le_findFrom _ _ x, Or.inr ⟨hlb, by simpa using hspans⟩⟩
  | case4 x _ b _ _ hclose => exact ⟨_, le_findFrom _ _ x, hclose, rfl⟩
  | case5 x hlt b _ _ _ ih =>
    have hasc := bodyTest_ascii d.quote _ (findFrom_stops hlt)
    have hj := CharBoundary.of_lt (by simpa using hlt) hasc
    exact (ih (hj.succ (by simpa using hlt) hasc)).mono
      (Nat.le_add_right_of_le (le_findFrom _ _ x))
  | case6 x hge =>
    refine ⟨le_findFrom _ _ x, Or.inl (Nat.le_antisymm
      (findFrom_le_size (by simpa using h.le_size)) ?_)⟩
    omega

end Source

/-! ## Openers -/

set_option maxRecDepth 10000 in
lemma ascii_of_isAsciiLetter : ∀ b : UInt8, Delimiter.isAsciiLetter b = true → b ≠ 0 ∧ b < 128 := by
  decide

set_option maxRecDepth 10000 in
lemma ascii_of_quote : ∀ (b : UInt8) (q : Quote), Quote.ofByte? b = some q → b ≠ 0 ∧ b < 128 := by
  decide

/-- An opener is made of ASCII bytes: its prefix letters and its quotes, all among the bytes
it was read from. -/
lemma Delimiter.ofOpener?_ascii {bs : List UInt8} {d : Delimiter} (h : ofOpener? bs = some d) :
    d.openLength ≤ bs.length ∧ ∀ k < d.openLength, bs.getD k 0 ≠ 0 ∧ bs.getD k 0 < 128 := by
  simp only [ofOpener?, Option.bind_eq_bind, Option.bind_eq_some_iff, Option.pure_def,
    Option.some.injEq] at h
  obtain ⟨flags, -, first, hfirst, quote, hquote, rfl⟩ := h
  set pre := (bs.take 3).takeWhile isAsciiLetter with hpre
  have hprefix : pre <+: bs := (List.takeWhile_prefix _).trans (List.take_prefix _ _)
  have hletters : ∀ x ∈ pre, isAsciiLetter x = true := fun x hx => List.mem_takeWhile_imp hx
  have hfirst' : bs.getD pre.length 0 = first := by
    rw [List.head?_drop] at hfirst
    simp [List.getD_eq_getElem?_getD, hfirst]
  have hlen : pre.length < bs.length := by
    rcases List.head?_eq_some_iff.mp hfirst with ⟨tl, htl⟩
    have := congrArg List.length htl
    simp at this
    omega
  have hbyte : ∀ k < pre.length, bs.getD k 0 ≠ 0 ∧ bs.getD k 0 < 128 := by
    intro k hk
    have hkb : k < bs.length := Nat.lt_of_lt_of_le hk hprefix.length_le
    have hk' : bs.getD k 0 = pre[k] := by
      rw [List.getD_eq_getElem?_getD, List.getElem?_eq_getElem hkb, Option.getD_some,
        hprefix.getElem hk]
    rw [hk']
    exact ascii_of_isAsciiLetter _ (hletters _ (List.getElem_mem hk))
  have hq := ascii_of_quote first quote hquote
  split
  · next htriple =>
    simp only [Bool.and_eq_true, beq_iff_eq, List.getElem?_drop] at htriple
    have h1 : bs.getD (pre.length + 1) 0 = first := by
      simp [List.getD_eq_getElem?_getD, htriple.1]
    have h2 : bs.getD (pre.length + 2) 0 = first := by
      simp [List.getD_eq_getElem?_getD, htriple.2]
    obtain ⟨hlen2, -⟩ := List.getElem?_eq_some_iff.mp htriple.2
    refine ⟨by simp [openLength, QuoteSize.len]; omega, fun k hk => ?_⟩
    simp only [openLength, QuoteSize.len] at hk
    rcases Nat.lt_or_ge k pre.length with hk' | hk'
    · exact hbyte k hk'
    · obtain ⟨m, rfl⟩ := Nat.exists_eq_add_of_le hk'
      have hm : m < 3 := by omega
      match m, hm with
      | 0, _ => rw [Nat.add_zero, hfirst']; exact hq
      | 1, _ => rw [h1]; exact hq
      | 2, _ => rw [h2]; exact hq
  · refine ⟨by simp [openLength, QuoteSize.len]; omega, fun k hk => ?_⟩
    simp only [openLength, QuoteSize.len] at hk
    have : k < pre.length ∨ k = pre.length := by omega
    rcases this with hk' | rfl
    · exact hbyte k hk'
    · rw [hfirst']; exact hq

lemma Source.window_getD (src : Source) {a b k : Nat} (hk : k < b - a) :
    (src.window a b).getD k 0 = src.byte (a + k) := by
  simp [window, List.getD_eq_getElem?_getD, hk]

/-- Past an opener read at a boundary is a boundary: the opener is whole ASCII bytes of the
text. -/
lemma CharBoundary.opener {s : String} {i : Nat} {d : Delimiter} (h : CharBoundary s i)
    (hd : Delimiter.ofOpener? ((Source.ofString s).window i (min (i + 5) (Source.ofString s).size))
      = some d) :
    CharBoundary s (i + d.openLength) := by
  obtain ⟨hlen, hascii⟩ := Delimiter.ofOpener?_ascii hd
  simp only [Source.window, List.length_map, List.length_range] at hlen
  refine h.add_of_ascii fun k hk => ?_
  have hk' : k < min (i + 5) (Source.ofString s).size - i := by omega
  rw [← Source.window_getD _ hk']
  exact hascii k hk

end ExprFront
