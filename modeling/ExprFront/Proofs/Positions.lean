import Mathlib
import ExprFront.Source.LineIndex
import ExprFront.Proofs.Boundary
import ExprFront.Proofs.Closers

/-!
# Positions counted on the text

`LineIndex.lineCol` finds an offset's line by a binary search over the recorded line starts and
then counts character starts from the line's start. Main statement (`positions_count_text`):
this gives, for every offset, the position counted directly on the text (`Source.positionOf`):
one more than the line feeds before the offset, and one more than the character starts from
the start of its line, one past the last line feed before it. The text has one line more than
it has line feeds, and line `n` starts at the line start with `n - 1` line feeds before it. An
offset strictly inside a multi-byte character counts that character's lead byte, so it reports
the column after the character's (`inside_char_reports_next_column`).

The search is `binarySearch`, whose contract (`binarySearch_ok`, `binarySearch_error`) follows
from one invariant of its halving loop (`narrowSearch_spec`). Over strictly ascending line
starts the line it picks is the last entry at or below the offset (`LastAtOrBelow`), and the
entries up to an offset are the ones the line feeds before it put there (`lineStarts_split`).
-/

namespace ExprFront

/-! ## Binary search -/

/-- An array in ascending order, read as the search reads it. -/
def Ascending (a : Array Nat) : Prop :=
  ∀ i j, i ≤ j → j < a.size → a.getD i 0 ≤ a.getD j 0

/-- An array in strictly ascending order. -/
def StrictlyAscending (a : Array Nat) : Prop :=
  ∀ i j, i < j → j < a.size → a.getD i 0 < a.getD j 0

/-- Index `ℓ` of an array holds its last element at or below `o`. -/
structure LastAtOrBelow (a : Array Nat) (o ℓ : Nat) : Prop where
  lt_size : ℓ < a.size
  le : a.getD ℓ 0 ≤ o
  lt_of_lt : ∀ j, ℓ < j → j < a.size → o < a.getD j 0

section Search

variable {a : Array Nat} {x : Nat}

lemma StrictlyAscending.ascending (hs : StrictlyAscending a) : Ascending a := by
  intro i j hij hj
  rcases Nat.lt_or_eq_of_le hij with h | rfl
  · exact (hs i j h hj).le
  · exact le_rfl

/-- A strictly ascending array holds each value at one index at most. -/
lemma StrictlyAscending.injective (hs : StrictlyAscending a) {i j : Nat}
    (hi : i < a.size) (hj : j < a.size) (h : a.getD i 0 = a.getD j 0) : i = j := by
  rcases lt_trichotomy i j with hij | rfl | hij
  · exact absurd h (hs i j hij hj).ne
  · rfl
  · exact absurd h (hs j i hij hi).ne'

/-- An array has one last element at or below `o`. -/
lemma LastAtOrBelow.eq {o ℓ ℓ' : Nat} (h : LastAtOrBelow a o ℓ) (h' : LastAtOrBelow a o ℓ') :
    ℓ = ℓ' := by
  rcases lt_trichotomy ℓ ℓ' with hl | hl | hl
  · exact absurd (h.lt_of_lt ℓ' hl h'.lt_size) (by have := h'.le; omega)
  · exact hl
  · exact absurd (h'.lt_of_lt ℓ hl h.lt_size) (by have := h.le; omega)

lemma getElem?_eq_some_iff_getD {i s : Nat} : a[i]? = some s ↔ i < a.size ∧ a.getD i 0 = s := by
  by_cases hi : i < a.size <;> simp [hi, Array.getD_eq_getD_getElem?]

/-- Each round of the search keeps `x` inside its window: the elements after the window are
above `x`, and its first one is at or below `x` unless it is the array's first. -/
lemma narrowSearch_spec (hs : Ascending a) (base size : Nat) (hsize : 0 < size)
    (hn : base + size ≤ a.size) (hlo : base = 0 ∨ a.getD base 0 ≤ x)
    (hhi : ∀ j, base + size ≤ j → j < a.size → x < a.getD j 0) :
    narrowSearch a x base size < a.size ∧
      (narrowSearch a x base size = 0 ∨ a.getD (narrowSearch a x base size) 0 ≤ x) ∧
      ∀ j, narrowSearch a x base size < j → j < a.size → x < a.getD j 0 := by
  fun_induction narrowSearch a x base size with
  | case1 base size hle =>
    exact ⟨by omega, hlo, fun j hj hja => hhi j (by omega) hja⟩
  | case2 base size hgt half mid ih =>
    apply ih (by omega)
    · split <;> omega
    · split
      · exact hlo
      · right; omega
    · intro j hj hja
      split at hj
      · rename_i hmid
        exact lt_of_lt_of_le hmid (hs _ _ (by omega) hja)
      · exact hhi j (by omega) hja

/-- A search that finds `x` gives an index holding it. -/
theorem binarySearch_ok (hs : Ascending a) {i : Nat} (h : binarySearch a x = .ok i) :
    i < a.size ∧ a.getD i 0 = x := by
  simp only [binarySearch] at h
  split_ifs at h with hne hv
  cases h
  obtain ⟨hlt, -, -⟩ := narrowSearch_spec (x := x) hs 0 a.size (by omega) (by omega)
    (Or.inl rfl) (fun j hj hja => by omega)
  exact ⟨hlt, hv⟩

/-- A search that misses `x` gives the place where it would go: everything before is below
`x`, everything from there on is above it. -/
theorem binarySearch_error (hs : Ascending a) {i : Nat} (h : binarySearch a x = .error i) :
    i ≤ a.size ∧ (∀ j, j < i → a.getD j 0 < x) ∧ ∀ j, i ≤ j → j < a.size → x < a.getD j 0 := by
  simp only [binarySearch] at h
  split_ifs at h with hne hv hbelow <;> cases h
  · exact ⟨by omega, fun j hj => by omega, fun j _ hj => by omega⟩
  all_goals
    obtain ⟨hlt, hlo, hhi⟩ := narrowSearch_spec (x := x) hs 0 a.size (by omega) (by omega)
      (Or.inl rfl) (fun j hj hja => by omega)
  · refine ⟨by omega, fun j hj => ?_, fun j hj hja => hhi j (by omega) hja⟩
    exact lt_of_le_of_lt (hs j _ (by omega) hlt) hbelow
  · have hb : narrowSearch a x 0 a.size = 0 := by omega
    have h0 : x < a.getD 0 0 := by rw [hb] at hv hbelow; omega
    refine ⟨by omega, fun j hj => by omega, fun j _ hja => ?_⟩
    rcases Nat.eq_zero_or_pos j with rfl | hj0
    · exact h0
    · exact hhi j (by omega) hja

end Search

/-! ## Positions counted on the text -/

namespace Source

variable (src : Source)

/-- The offsets of the line feeds before offset `p`, in order. -/
def feedsBefore (p : Nat) : List Nat := (List.range p).filter fun i => src.byte i == 10

/-- Where the line holding offset `p` starts: one past the last line feed before `p`, or `0`. -/
def lineStartBefore (p : Nat) : Nat :=
  match (src.feedsBefore p).getLast? with
  | some i => i + 1
  | none => 0

/-- The position of an offset counted on the text itself, the offset read as the end if it
lies past it: one more than the line feeds before it, and one more than the character starts
from its line's start up to it. -/
def positionOf (o : Nat) : LineCol :=
  let p := min o src.size
  ⟨(src.window 0 p).count 10 + 1, (src.window (src.lineStartBefore p) p).countP isCharStart + 1⟩

/-- Whether a line starts at offset `s`: the start of the text, or just past a line feed. -/
def StartsLine (s : Nat) : Prop := s = 0 ∨ src.byte (s - 1) = 10

variable {src} {s : Nat}

lemma lineFeeds_eq : src.lineFeeds = src.feedsBefore src.size := rfl

lemma feedsBefore_add (p k : Nat) : src.feedsBefore (p + k) =
    src.feedsBefore p ++ ((List.range k).map (p + ·)).filter fun i => src.byte i == 10 := by
  simp only [feedsBefore, List.range_add, List.filter_append]

lemma mem_feedsBefore {p i : Nat} : i ∈ src.feedsBefore p ↔ i < p ∧ src.byte i = 10 := by
  simp [feedsBefore]

lemma pairwise_feedsBefore (p : Nat) : (src.feedsBefore p).Pairwise (· < ·) :=
  List.pairwise_lt_range.filter _

/-- The line feeds before `p` are counted by the window up to `p`. -/
lemma count_window_zero (p : Nat) : (src.window 0 p).count 10 = (src.feedsBefore p).length := by
  simp [window, feedsBefore, List.count_eq_countP, List.countP_eq_length_filter, List.filter_map,
    Function.comp_def]

lemma mem_window {a b : Nat} {x : UInt8} :
    x ∈ src.window a b ↔ ∃ k, k < b - a ∧ src.byte (a + k) = x := by
  simp [window]

lemma lineStartBefore_le (p : Nat) : src.lineStartBefore p ≤ p := by
  unfold lineStartBefore
  split
  · rename_i i hi
    have := (mem_feedsBefore.1 (List.mem_of_getLast? hi)).1
    omega
  · omega

/-- A line start is where the line holding it starts. -/
lemma lineStartBefore_of_startsLine (h : src.StartsLine s) : src.lineStartBefore s = s := by
  cases s with
  | zero => simp [lineStartBefore, feedsBefore]
  | succ k =>
    have hk : src.byte k = 10 := by simpa [StartsLine] using h
    simp [lineStartBefore, feedsBefore_add k 1, hk]

/-- A line starts within the text, or just past its end at the latest. -/
lemma StartsLine.le_size (h : src.StartsLine s) : s ≤ src.size := by
  rcases h with rfl | h
  · omega
  · by_contra hs
    rw [byte_of_size_le (by omega)] at h
    exact absurd h (by decide)

/-- A lead byte of a multi-byte character begins a character. -/
lemma isCharStart_of_lead : ∀ b : UInt8, 0xC0 ≤ b → isCharStart b = true := by
  decide +kernel

/-- An offset strictly inside a multi-byte character whose lead byte is at `c` is counted with
that character: it is one column further on. -/
theorem positionOf_inside_char {c o : Nat} (hco : c < o) (ho : o < src.size)
    (hc : 0xC0 ≤ src.byte c) (hcont : ∀ i, c < i → i ≤ o → isCharStart (src.byte i) = false) :
    src.positionOf o = ⟨(src.positionOf c).line, (src.positionOf c).column + 1⟩ := by
  have hlead := isCharStart_of_lead _ hc
  -- from the lead byte on, no byte is a line feed, for a line feed begins a character
  have hbytes : ∀ k, k < o - c → src.byte (c + k) ≠ 10 := by
    intro k hk hfeed
    rcases Nat.eq_zero_or_pos k with rfl | hpos
    · rw [Nat.add_zero] at hfeed
      rw [hfeed] at hc
      exact absurd hc (by decide)
    · have := hcont (c + k) (by omega) (by omega)
      rw [hfeed] at this
      exact absurd this (by decide)
  have hfeeds : src.feedsBefore o = src.feedsBefore c := by
    rw [show o = c + (o - c) by omega, feedsBefore_add, List.filter_eq_nil_iff.2, List.append_nil]
    simp only [List.mem_map, List.mem_range, beq_iff_eq]
    rintro _ ⟨k, hk, rfl⟩
    exact hbytes k hk
  have hls : src.lineStartBefore o = src.lineStartBefore c := by
    simp only [lineStartBefore, hfeeds]
  have hwin : src.window c o = src.byte c :: src.window (c + 1) o := by
    rw [window, show o - c = (o - (c + 1)) + 1 by omega, List.range_succ_eq_map]
    simp [window, Function.comp_def, Nat.add_assoc, Nat.add_comm 1]
  have hfeed0 : (src.window c o).count 10 = 0 := by
    rw [List.count_eq_zero, mem_window]
    rintro ⟨k, hk, hfeed⟩
    exact hbytes k hk hfeed
  have hstarts : (src.window (c + 1) o).countP isCharStart = 0 := by
    rw [List.countP_eq_zero]
    intro x hx
    obtain ⟨k, hk, rfl⟩ := mem_window.1 hx
    simp [hcont (c + 1 + k) (by omega) (by omega)]
  simp only [positionOf, min_eq_left ho.le, min_eq_left (hco.trans ho).le, hls]
  rw [← window_append (Nat.zero_le c) hco.le, ← window_append (lineStartBefore_le c) hco.le,
    List.count_append, List.countP_append, hfeed0, hwin, List.countP_cons_of_pos hlead, hstarts]

end Source

/-! ## The index against the text -/

namespace LineIndex

variable {src : Source} {p : Nat}

@[simp] lemma src_build : (build src).src = src := rfl

@[simp] lemma size_lineStarts_build : (build src).lineStarts.size = src.lineFeeds.length + 1 := by
  simp [build]

lemma getD_lineStarts_build (i : Nat) :
    (build src).lineStarts.getD i 0 = (0 :: src.lineFeeds.map (· + 1)).getD i 0 := by
  simp [build, Array.getD_eq_getD_getElem?, List.getD_eq_getElem?_getD]

lemma pairwise_lineStarts (src : Source) : (0 :: src.lineFeeds.map (· + 1)).Pairwise (· < ·) := by
  refine List.pairwise_cons.2 ⟨fun y hy => ?_, ?_⟩
  · obtain ⟨i, -, rfl⟩ := List.mem_map.1 hy
    omega
  · exact List.pairwise_map.2 ((Source.pairwise_feedsBefore _).imp fun h => by omega)

lemma strictlyAscending_lineStarts (src : Source) : StrictlyAscending (build src).lineStarts := by
  intro i j hij hj
  have hs := List.pairwise_iff_getElem.1 (pairwise_lineStarts src)
  have hj' : j < (0 :: src.lineFeeds.map (· + 1)).length := by simpa using hj
  rw [getD_lineStarts_build, getD_lineStarts_build, List.getD_eq_getElem _ _ hj',
    List.getD_eq_getElem _ _ (hij.trans hj')]
  exact hs i j _ _ hij

/-- Every entry of the index is a line start of the text. -/
lemma startsLine_of_mem {s : Nat} (h : s ∈ 0 :: src.lineFeeds.map (· + 1)) : src.StartsLine s := by
  simp only [List.mem_cons, List.mem_map, Source.lineFeeds_eq, Source.mem_feedsBefore] at h
  rcases h with rfl | ⟨i, ⟨-, hi⟩, rfl⟩
  · exact Or.inl rfl
  · exact Or.inr (by simpa using hi)

/-- Over strictly ascending line starts, the first at or below `o`, the line the search picks
for `o` is the last one starting at or before it. -/
lemma lastAtOrBelow_lineIndexOf {ix : LineIndex} {o : Nat} (hs : StrictlyAscending ix.lineStarts)
    (h0 : 0 < ix.lineStarts.size) (hx : ix.lineStarts.getD 0 0 ≤ o) :
    LastAtOrBelow ix.lineStarts o (ix.lineIndexOf o) := by
  unfold lineIndexOf
  split
  · rename_i e he
    obtain ⟨hlt, heq⟩ := binarySearch_ok hs.ascending he
    exact ⟨hlt, heq.le, fun j hj hja => heq ▸ hs e j hj hja⟩
  · rename_i i hi
    obtain ⟨hle, hbelow, habove⟩ := binarySearch_error hs.ascending hi
    -- the first line starts at or below `o`, so `o` goes after it and `insert - 1` is a line
    have hpos : 0 < i := by
      rcases Nat.eq_zero_or_pos i with rfl | h
      · exact absurd (habove 0 le_rfl h0) (by omega)
      · exact h
    exact ⟨by omega, (hbelow (i - 1) (by omega)).le, fun j hj hja => habove j (by omega) hja⟩

/-- The line starts up to offset `p` come first, then those after it. -/
lemma lineStarts_split (hp : p ≤ src.size) :
    ∃ rest, 0 :: src.lineFeeds.map (· + 1) = (0 :: (src.feedsBefore p).map (· + 1)) ++ rest ∧
      ∀ y ∈ rest, p < y := by
  have h := src.feedsBefore_add p (src.size - p)
  rw [Nat.add_sub_cancel' hp] at h
  refine ⟨_, by rw [Source.lineFeeds_eq, h, List.map_append, List.cons_append], ?_⟩
  intro y hy
  simp only [List.mem_map, List.mem_filter, List.mem_range] at hy
  obtain ⟨_, ⟨⟨k, -, rfl⟩, -⟩, rfl⟩ := hy
  omega

/-- Within the text, the last line starting at or before `p` is numbered by the line feeds
before `p`. -/
lemma lastAtOrBelow_build (hp : p ≤ src.size) :
    LastAtOrBelow (build src).lineStarts p (src.feedsBefore p).length := by
  obtain ⟨rest, hsplit, hrest⟩ := lineStarts_split hp
  have hA : ∀ y ∈ 0 :: (src.feedsBefore p).map (· + 1), y ≤ p := by
    intro y hy
    simp only [List.mem_cons, List.mem_map, Source.mem_feedsBefore] at hy
    rcases hy with rfl | ⟨i, ⟨hi, -⟩, rfl⟩ <;> omega
  have hlen : (build src).lineStarts.size = (src.feedsBefore p).length + 1 + rest.length := by
    have := congrArg List.length hsplit
    simp only [List.length_cons, List.length_map, List.length_append] at this
    simp only [size_lineStarts_build]
    omega
  refine ⟨by omega, ?_, fun j hj hja => ?_⟩
  · rw [getD_lineStarts_build, hsplit, List.getD_eq_getElem?_getD,
      List.getElem?_append_left (by simp), List.getElem?_eq_getElem (by simp)]
    exact hA _ (List.getElem_mem _)
  · rw [getD_lineStarts_build, hsplit, List.getD_eq_getElem?_getD,
      List.getElem?_append_right (by simp; omega), List.getElem?_eq_getElem (by simp; omega)]
    exact hrest _ (List.getElem_mem _)

/-- Within the text, the line holding `p` is numbered by the line feeds before it. -/
lemma lineIndexOf_build (hp : p ≤ src.size) :
    (build src).lineIndexOf p = (src.feedsBefore p).length :=
  (lastAtOrBelow_lineIndexOf (strictlyAscending_lineStarts src) (by simp)
    (by rw [getD_lineStarts_build]; simp)).eq (lastAtOrBelow_build hp)

/-- Within the text, the line holding `p` starts one past the last line feed before it. -/
lemma getD_lineStarts_feedsBefore (hp : p ≤ src.size) :
    (build src).lineStarts.getD (src.feedsBefore p).length 0 = src.lineStartBefore p := by
  obtain ⟨rest, hsplit, -⟩ := lineStarts_split hp
  rw [getD_lineStarts_build, hsplit, List.getD_eq_getElem?_getD,
    List.getElem?_append_left (by simp)]
  rcases List.eq_nil_or_concat (src.feedsBefore p) with h | ⟨l, f, h⟩
  · simp [h, Source.lineStartBefore]
  · simp [h, Source.lineStartBefore]

/-- Every line start of the text stands in the index, after one entry per line feed before it. -/
lemma getD_lineStarts_of_startsLine {s : Nat} (h : src.StartsLine s) :
    (build src).lineStarts.getD (src.feedsBefore s).length 0 = s := by
  rw [getD_lineStarts_feedsBefore h.le_size, Source.lineStartBefore_of_startsLine h]

/-- **Positions follow the text.** The binary search over the line starts gives, for every
offset, the line and column counted directly on the text. -/
theorem lineCol_build (src : Source) (o : Nat) : (build src).lineCol o = src.positionOf o := by
  have hp : min o src.size ≤ src.size := min_le_right _ _
  simp only [lineCol, Source.positionOf, src_build, lineIndexOf_build hp,
    getD_lineStarts_feedsBefore hp, Source.count_window_zero]

/-- A text has one line more than it has line feeds. -/
theorem lineCount_build (src : Source) :
    (build src).lineCount = (src.window 0 src.size).count 10 + 1 := by
  simp [lineCount, Source.count_window_zero, Source.lineFeeds_eq]

/-- Lines `1` to `lineCount` have a start, and no others. -/
lemma isSome_lineStart?_build (n : Nat) :
    ((build src).lineStart? n).isSome ↔ 1 ≤ n ∧ n ≤ (build src).lineCount := by
  unfold lineStart? lineCount
  split
  · simp_all
  · simp_all
    omega

/-- Line `n` starts at `s` exactly when a line starts at `s` with `n - 1` line feeds before it. -/
theorem lineStart?_build_eq_some {n s : Nat} :
    (build src).lineStart? n = some s ↔
      1 ≤ n ∧ src.StartsLine s ∧ (src.window 0 s).count 10 + 1 = n := by
  rw [Source.count_window_zero]
  unfold lineStart?
  split
  · simp only [reduceCtorEq, false_iff]
    omega
  rename_i hn
  rw [getElem?_eq_some_iff_getD]
  constructor
  · rintro ⟨hlt, hget⟩
    have hmem : s ∈ 0 :: src.lineFeeds.map (· + 1) := by
      rw [getD_lineStarts_build, List.getD_eq_getElem _ _ (by simpa using hlt)] at hget
      exact hget ▸ List.getElem_mem _
    have hsl := startsLine_of_mem hmem
    have heq := (strictlyAscending_lineStarts src).injective hlt
      (lastAtOrBelow_build hsl.le_size).lt_size (hget.trans (getD_lineStarts_of_startsLine hsl).symm)
    exact ⟨by omega, hsl, by omega⟩
  · rintro ⟨-, hsl, hc⟩
    rw [show n - 1 = (src.feedsBefore s).length by omega]
    exact ⟨(lastAtOrBelow_build hsl.le_size).lt_size, getD_lineStarts_of_startsLine hsl⟩

/-- The line count, lines and columns of a text shorter than the largest source the lexer
takes are no larger than it, so that 32-bit arithmetic computes them exactly. -/
lemma positions_fit (hsize : src.size < maxSourceSize) :
    (build src).lineCount ≤ maxSourceSize ∧ ∀ o,
      ((build src).lineCol o).line ≤ maxSourceSize ∧ ((build src).lineCol o).column ≤ maxSourceSize := by
  have hlen : ∀ a b, (src.window a b).length = b - a := by simp [Source.window]
  refine ⟨?_, fun o => ?_⟩
  · have := List.count_le_length (a := (10 : UInt8)) (l := src.window 0 src.size)
    rw [lineCount_build]
    rw [hlen] at this
    omega
  · have h₁ := List.count_le_length (a := (10 : UInt8)) (l := src.window 0 (min o src.size))
    have h₂ := List.countP_le_length (p := isCharStart)
      (l := src.window (src.lineStartBefore (min o src.size)) (min o src.size))
    rw [hlen] at h₁ h₂
    rw [lineCol_build]
    simp only [Source.positionOf]
    omega

/-- **The index counts lines and columns on the text.** Below the largest source, every position
is the one counted on the text, and the line count is one more than the line feeds. -/
theorem positions_count_text (src : Source) (hsize : src.size < maxSourceSize) :
    (∀ o, (build src).lineCol o = src.positionOf o) ∧
    (build src).lineCount = (src.window 0 src.size).count 10 + 1 ∧
    (∀ n, ((build src).lineStart? n).isSome ↔ 1 ≤ n ∧ n ≤ (build src).lineCount) ∧
    (∀ n s, (build src).lineStart? n = some s ↔
      1 ≤ n ∧ src.StartsLine s ∧ (src.window 0 s).count 10 + 1 = n) ∧
    (∀ c o, c < o → o < src.size → 0xC0 ≤ src.byte c →
      (∀ i, c < i → i ≤ o → isCharStart (src.byte i) = false) →
      (build src).lineCol o =
        ⟨((build src).lineCol c).line, ((build src).lineCol c).column + 1⟩) ∧
    ((build src).lineCount ≤ maxSourceSize ∧ ∀ o,
      ((build src).lineCol o).line ≤ maxSourceSize ∧
        ((build src).lineCol o).column ≤ maxSourceSize) := by
  refine ⟨lineCol_build src, lineCount_build src, isSome_lineStart?_build,
    fun n s => lineStart?_build_eq_some, fun c o hco ho hc hcont => ?_, positions_fit hsize⟩
  rw [lineCol_build, lineCol_build]
  exact Source.positionOf_inside_char hco ho hc hcont

/-- In `é`, the offset between its two bytes is one column after the character. -/
theorem positions_count_text_inside_e :
    (Source.ofString "é").size < maxSourceSize ∧ (0 < 1 ∧ 1 < (Source.ofString "é").size ∧ 0xC0 ≤ (Source.ofString "é").byte 0 ∧
      ∀ i, 0 < i → i ≤ 1 → isCharStart ((Source.ofString "é").byte i) = false) ∧
    (build (Source.ofString "é")).lineCol 1 =
      ⟨((build (Source.ofString "é")).lineCol 0).line,
        ((build (Source.ofString "é")).lineCol 0).column + 1⟩ := by
  have h : 0 < 1 ∧ 1 < (Source.ofString "é").size ∧ 0xC0 ≤ (Source.ofString "é").byte 0 ∧
      ∀ i, 0 < i → i ≤ 1 → isCharStart ((Source.ofString "é").byte i) = false := by
    refine ⟨by decide, by decide, by decide, fun i h1 h2 => ?_⟩
    obtain rfl : i = 1 := by omega
    decide
  have hsize : (Source.ofString "é").size < maxSourceSize := by decide
  exact ⟨hsize, h, (positions_count_text _ hsize).2.2.2.2.1 0 1 h.1 h.2.1 h.2.2.1 h.2.2.2⟩

/-- The offset between the two bytes of `é` does not report the column of `é`, which is 1:
it reports column 2. -/
theorem inside_char_reports_next_column :
    (build (Source.ofString "é")).lineCol 0 = ⟨1, 1⟩ ∧
      (build (Source.ofString "é")).lineCol 1 = ⟨1, 2⟩ := by
  decide +kernel

end LineIndex

end ExprFront
