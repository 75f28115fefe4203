import Mathlib
import ExprFront.Proofs.Advance

/-!
# A scan covers its text

Steps are taken one after another from a scanner: `Scanner.after sc n` is the scanner after `n`
steps and `Scanner.pieceAt sc n` the piece the next step reports. From what one step does
(`Scanner.StepAdvance`) this module derives what a whole run does:

* every scanner a run reaches stands on a character boundary, at the start offset plus the
  lengths of the pieces so far (`Scanner.pos_after`);
* once the end or a fault is reported, the scanner comes to rest: every later step reports the
  end, with length zero (`Scanner.AtRest`);
* until then every step uses up a byte or stops the scan, so the end comes within one step more
  than there are bytes left (`Scanner.exists_pieceAt_eof`), and `Scanner.run` returns exactly
  the pieces up to it (`Scanner.run_eq_pieces`).

`scanText_covers` puts these together for a scan from the start of a text.
-/

namespace ExprFront

namespace Scanner

open ScanM

/-- The scanner after `n` steps. -/
def after (sc : Scanner) : Nat → Scanner
  | 0 => sc
  | n + 1 => (step.run sc).2.after n

/-- The piece that the step after `n` steps reports. -/
def pieceAt (sc : Scanner) (n : Nat) : RawToken := (step.run (sc.after n)).1

variable {s : String} {sc : Scanner}

@[simp] lemma after_zero (sc : Scanner) : sc.after 0 = sc := rfl

lemma after_add (sc : Scanner) (m n : Nat) : sc.after (m + n) = (sc.after m).after n := by
  induction m generalizing sc with
  | zero => simp
  | succ m ih => rw [Nat.add_right_comm]; exact ih _

lemma after_succ (sc : Scanner) (n : Nat) : sc.after (n + 1) = (step.run (sc.after n)).2 := by
  rw [after_add]
  rfl

lemma pieceAt_add (sc : Scanner) (m n : Nat) : sc.pieceAt (m + n) = (sc.after m).pieceAt n := by
  simp only [pieceAt, after_add]

lemma step_after (sc : Scanner) (n : Nat) :
    step.run (sc.after n) = (sc.pieceAt n, sc.after (n + 1)) := by
  rw [after_succ]
  rfl

/-! ## Along a run -/

/-- Every scanner a run reaches stands on a boundary. -/
lemma Placed.after (h : sc.Placed s) (n : Nat) : (sc.after n).Placed s := by
  induction n with
  | zero => exact h
  | succ n ih =>
    rw [after_succ]
    exact ih.stepAdvance.placed

lemma stepAdvance_after (h : sc.Placed s) (n : Nat) :
    StepAdvance s (sc.after n) (sc.pieceAt n, sc.after (n + 1)) := by
  rw [← step_after]
  exact (h.after n).stepAdvance

/-- The offset after `n` steps is the start plus the lengths of the `n` pieces. -/
lemma pos_after (h : sc.Placed s) (n : Nat) :
    (sc.after n).pos = sc.pos + ∑ i ∈ Finset.range n, (sc.pieceAt i).len := by
  induction n with
  | zero => simp
  | succ n ih =>
    rw [Finset.sum_range_succ, (stepAdvance_after h n).pos_eq, ih, Nat.add_assoc]

/-- A run stops the scan only at a fault. -/
lemma stopped_after (h : sc.Placed s) (hgo : sc.stopped = false) {n : Nat}
    (hnf : ∀ i < n, (sc.pieceAt i).tag.isFault = false) : (sc.after n).stopped = false := by
  induction n with
  | zero => exact hgo
  | succ n ih =>
    have hstop := (stepAdvance_after h n).stopped_eq
    simp only at hstop
    rw [hstop, ih fun i hi => hnf i (by omega), hnf n (by omega), Bool.false_or]

/-! ## Coming to rest -/

/-- The scanner's step reports the end and changes nothing. -/
def AtRest (sc : Scanner) : Prop := step.run sc = (⟨.eof, 0⟩, sc)

lemma AtRest.after (h : sc.AtRest) (n : Nat) : sc.after n = sc := by
  induction n with
  | zero => rfl
  | succ n ih => rw [after_succ, ih, h]

lemma AtRest.pieceAt (h : sc.AtRest) (n : Nat) : sc.pieceAt n = ⟨.eof, 0⟩ := by
  rw [Scanner.pieceAt, h.after, h]

/-- A scanner whose step reports the end is at rest: the end changes nothing and covers no
byte. -/
lemma atRest_of_eof (h : sc.Placed s) (he : (step.run sc).1.tag = .eof) : sc.AtRest := by
  have hs := h.stepAdvance
  obtain ⟨hsame, -⟩ := hs.atEnd he
  have hpos := hs.pos_eq
  unfold AtRest
  generalize step.run sc = r at he hsame hpos ⊢
  obtain ⟨⟨tag, len⟩, sc'⟩ := r
  simp only at he hsame hpos
  subst he hsame
  obtain rfl : len = 0 := by omega
  rfl

/-- After a fault the scan has stopped, and a stopped scanner is at rest. -/
lemma atRest_of_fault (h : sc.Placed s) (hf : (step.run sc).1.tag.isFault = true) :
    (step.run sc).2.AtRest := by
  have hs := h.stepAdvance
  have hstop : (step.run sc).2.stopped = true := by simp [hs.stopped_eq, hf]
  have hs' := hs.placed.stepAdvance
  exact atRest_of_eof hs.placed (by rw [hs'.whenStopped hstop])

/-- Once a run reports the end or a fault, every later step reports the end, with length
zero. -/
lemma pieceAt_of_lt (h : sc.Placed s) {n m : Nat}
    (hn : (sc.pieceAt n).tag = .eof ∨ (sc.pieceAt n).tag.isFault = true) (hm : n < m) :
    sc.pieceAt m = ⟨.eof, 0⟩ := by
  have hrest : (sc.after (n + 1)).AtRest := by
    rcases hn with he | hf
    · have hrest := atRest_of_eof (h.after n) (by rw [step_after]; exact he)
      rwa [after_succ, hrest]
    · have := atRest_of_fault (h.after n) (by rw [step_after]; exact hf)
      rwa [after_succ]
  obtain ⟨k, rfl⟩ := Nat.exists_eq_add_of_le hm
  rw [pieceAt_add]
  exact hrest.pieceAt k

/-! ## Reaching the end -/

/-- What is left of a scan of `s`: the bytes not yet read, and one more until the scan stops. -/
def remaining (s : String) (sc : Scanner) : Nat :=
  (s.utf8ByteSize - sc.pos) + (if sc.stopped then 0 else 1)

/-- A step that does not report the end uses up a byte or stops the scan. -/
lemma remaining_step_lt (h : sc.Placed s) (he : (step.run sc).1.tag ≠ .eof) :
    remaining s (step.run sc).2 < remaining s sc := by
  have hs := h.stepAdvance
  have hpos := hs.pos_eq
  have hle := hs.placed.boundary.le_size
  cases hstop : sc.stopped
  · cases hf : (step.run sc).1.tag.isFault
    · have hlen : 0 < (step.run sc).1.len := by
        rcases hs.covers hstop with he' | hf' | hlen
        · exact absurd he' he
        · simp [hf] at hf'
        · exact hlen
      have hgo : (step.run sc).2.stopped = false := by simp [hs.stopped_eq, hstop, hf]
      simp only [remaining, hgo, hstop]
      omega
    · have hstop' : (step.run sc).2.stopped = true := by simp [hs.stopped_eq, hf]
      simp only [remaining, hstop', hstop, if_true, Bool.false_eq_true, if_false]
      omega
  · exact absurd (by rw [hs.whenStopped hstop]) he

/-- While no step has reported the end, each step took one off what is left. -/
lemma remaining_after_add_le (h : sc.Placed s) {n : Nat}
    (hne : ∀ i < n, (sc.pieceAt i).tag ≠ .eof) : remaining s (sc.after n) + n ≤ remaining s sc := by
  induction n with
  | zero => simp
  | succ n ih =>
    have hstep := remaining_step_lt (h.after n) (by rw [step_after]; exact hne n (by omega))
    rw [step_after] at hstep
    have := ih fun i hi => hne i (by omega)
    simp only at hstep
    omega

/-- A run reports the end within one step more than the bytes left to read. -/
lemma exists_pieceAt_eof (h : sc.Placed s) :
    ∃ e ≤ remaining s sc, (sc.pieceAt e).tag = .eof := by
  by_contra hnone
  simp only [not_exists, not_and] at hnone
  have := remaining_after_add_le (n := remaining s sc + 1) h fun i hi => hnone i (by omega)
  omega

/-- A step that does not report the end takes `progress`, the measure `run` recurs on, down. -/
lemma progress_step_lt (h : sc.Placed s) (he : (step.run sc).1.tag ≠ .eof) :
    (step.run sc).2.progress < sc.progress := by
  have hlt := remaining_step_lt h he
  have hs := h.stepAdvance
  have hle := h.boundary.le_size
  have hle' := hs.placed.boundary.le_size
  simp only [remaining] at hlt
  simp only [progress, hs.placed.src_eq, h.src_eq, Source.size_ofString]
  split_ifs at hlt ⊢ <;> omega

/-- `run` takes the steps up to the first end, that end included, and no more. -/
lemma run_eq_pieces (h : sc.Placed s) {e : Nat} (hne : ∀ i < e, (sc.pieceAt i).tag ≠ .eof)
    (he : (sc.pieceAt e).tag = .eof) :
    sc.run = ((List.range (e + 1)).map sc.pieceAt, sc.after (e + 1)) := by
  induction e generalizing sc with
  | zero =>
    have h0 : (step.run sc).1.tag = .eof := he
    rw [Scanner.run]
    cases hr : step.run sc with
    | mk tok next =>
      rw [hr] at h0
      simp only at h0
      simp [h0, pieceAt, after, hr]
  | succ e ih =>
    have h0 : (step.run sc).1.tag ≠ .eof := hne 0 (by omega)
    have hlt := progress_step_lt h h0
    have hrest := ih h.stepAdvance.placed (fun i hi => hne (i + 1) (by omega)) he
    rw [Scanner.run]
    cases hr : step.run sc with
    | mk tok next =>
      rw [hr] at h0 hlt hrest
      simp only [beq_iff_eq, h0, if_false, hlt, if_true, hrest, List.range_succ_eq_map,
        List.map_cons, List.map_map]
      simp [pieceAt, after, hr, Function.comp_def]

/-- The first step of a scan stands on a boundary: the start of the text, or the end of its
byte-order mark, which is one character of three bytes. -/
lemma placed_start (text : String) (limits : ScanLimits) :
    (start (Source.ofString text) limits).Placed text := by
  refine ⟨rfl, ?_⟩
  simp only [start, Source.scanStart]
  split
  · next hbom =>
    simp only [Source.hasByteOrderMark, Bool.and_eq_true, decide_eq_true_eq, beq_iff_eq] at hbom
    have hsize : 3 ≤ text.utf8ByteSize := by simpa using hbom.1.1.1
    have h3 := (CharBoundary.zero text).add_charWidth (by omega)
    rwa [hbom.1.1.2] at h3
  · exact CharBoundary.zero text

end Scanner

open Scanner in
/-- **A scan covers its text.** The scan reaches its end within one step more than the text has
bytes; every piece before it covers a byte, and the offsets between pieces are character
boundaries within the text that reach its end when no fault came first. -/
theorem scanText_covers (text : String) (limits : ScanLimits) :
    let sc := start (Source.ofString text) limits
    let offset := fun n => (Source.ofString text).scanStart + ∑ i ∈ Finset.range n, (sc.pieceAt i).len
    (∃ e ≤ text.utf8ByteSize + 1, (sc.pieceAt e).tag = .eof ∧ (∀ i < e, (sc.pieceAt i).tag ≠ .eof) ∧
        (scanText (Source.ofString text) limits).1 = (List.range (e + 1)).map sc.pieceAt) ∧
    (∀ n, (∀ i ≤ n, (sc.pieceAt i).tag ≠ .eof ∧ (sc.pieceAt i).tag.isFault = false) →
        0 < (sc.pieceAt n).len) ∧
    (∀ n, (sc.pieceAt n).tag = .eof → (sc.pieceAt n).len = 0) ∧
    (∀ n m, (sc.pieceAt n).tag = .eof ∨ (sc.pieceAt n).tag.isFault = true → n < m →
        sc.pieceAt m = ⟨.eof, 0⟩) ∧
    (∀ n, offset n ≤ text.utf8ByteSize) ∧
    (∀ n, (sc.pieceAt n).tag = .eof → (∀ i < n, (sc.pieceAt i).tag.isFault = false) →
        offset n = text.utf8ByteSize) ∧
    (∀ n, CharBoundary text (offset n)) := by
  intro sc offset
  have h : sc.Placed text := placed_start text limits
  have hoffset : ∀ n, offset n = (sc.after n).pos := fun n => (pos_after h n).symm
  refine ⟨?_, ?_, ?_, fun n m hn hm => pieceAt_of_lt h hn hm, ?_, ?_, ?_⟩
  · obtain ⟨e, he, heof⟩ := exists_pieceAt_eof h
    classical
    have hex : ∃ e, (sc.pieceAt e).tag = .eof := ⟨e, heof⟩
    refine ⟨Nat.find hex, ?_, Nat.find_spec hex, fun i hi => Nat.find_min hex hi, ?_⟩
    · have hle := Nat.find_min' hex heof
      have : remaining text sc ≤ text.utf8ByteSize + 1 := by simp [remaining, sc, start]
      omega
    · exact congrArg Prod.fst
        (run_eq_pieces h (fun i hi => Nat.find_min hex hi) (Nat.find_spec hex))
  · intro n hn
    have hgo := stopped_after h rfl fun i hi => (hn i hi.le).2
    rcases (stepAdvance_after h n).covers hgo with he | hf | hlen
    · exact absurd he (hn n le_rfl).1
    · simp [(hn n le_rfl).2] at hf
    · exact hlen
  · intro n he
    have hrest := atRest_of_eof (h.after n) (by rw [step_after]; exact he)
    rw [AtRest, step_after] at hrest
    simp [(Prod.mk.inj hrest).1]
  · intro n
    rw [hoffset]
    exact (h.after n).boundary.le_size
  · intro n he hnf
    rw [hoffset]
    exact ((stepAdvance_after h n).atEnd he).2 (stopped_after h rfl hnf)
  · intro n
    rw [hoffset]
    exact (h.after n).boundary

end ExprFront
