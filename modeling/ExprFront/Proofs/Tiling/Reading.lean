import Mathlib
import ExprFront.Proofs.StreamShape
import ExprFront.Proofs.Spans.Stream

/-!
# Reading a stretch whose brackets pair up

A token opens (a bracket, an f-string start) or closes (a bracket, an f-string end) or does
neither. `Bracketed` says that the openers and closers of a list of tokens pair up, each closer
with the last opener still unpaired, and nothing else. The shape reader of
`ExprFront.Proofs.TokenShape` keeps a stack of frames, and a bracketed stretch leaves that stack
as it found it but for its innermost frame, which can only grow (`Frame.Keeps`): a literal
gains a piece, a field's expression reaches its format spec (`keeps_readAll`).

On a token stream, `TokenStream.stateAt j` is the reader's state after the first `j` tokens,
`Balanced i j` says that the tokens from `i` up to `j` are bracketed, and `Matches a b` that
the token at `b` closes what the token at `a` opens. Across a pair the reader comes back to the
stack it had before the opener, whose innermost literal or format spec has a piece
(`stateAt_matches`).
-/

namespace ExprFront

namespace TokenKind

/-- Whether a token opens a bracket or an f-string. -/
def opens : TokenKind → Bool
  | .punct p => p.opening?.isSome
  | .fstringStart _ => true
  | _ => false

/-- Whether a token closes a bracket or an f-string. -/
def closes : TokenKind → Bool
  | .punct p => p.closing?.isSome
  | .fstringEnd _ => true
  | _ => false

end TokenKind

/-- Tokens whose openers and closers pair up, each closer with the last opener still unpaired. -/
inductive Bracketed : List Token → Prop
  | nil : Bracketed []
  | plain {t : Token} {ts : List Token} (ho : t.kind.opens = false) (hc : t.kind.closes = false)
      (rest : Bracketed ts) : Bracketed (t :: ts)
  | group {o c : Token} {inner ts : List Token} (ho : o.kind.opens = true)
      (hinner : Bracketed inner) (hc : c.kind.closes = true) (rest : Bracketed ts) :
      Bracketed (o :: (inner ++ c :: ts))

namespace Bracketed

theorem append {xs ys : List Token} (hx : Bracketed xs) (hy : Bracketed ys) :
    Bracketed (xs ++ ys) := by
  induction hx with
  | nil => exact hy
  | plain ho hc _ ih => exact .plain ho hc ih
  | group ho hinner hc _ _ ih =>
    simpa only [List.cons_append, List.append_assoc] using Bracketed.group ho hinner hc ih

theorem single {t : Token} (ho : t.kind.opens = false) (hc : t.kind.closes = false) :
    Bracketed [t] :=
  .plain ho hc .nil

/-- An opener, a bracketed stretch and a closer. -/
theorem pair {o c : Token} {inner : List Token} (ho : o.kind.opens = true)
    (hinner : Bracketed inner) (hc : c.kind.closes = true) : Bracketed (o :: (inner ++ [c])) :=
  .group ho hinner hc .nil

end Bracketed

/-! ## What the reader does to its stack -/

/-- No punctuation both opens and closes. -/
theorem Punct.opening?_eq_none_of_isSome {p : Punct} (h : p.closing?.isSome = true) :
    p.opening? = none := by
  obtain ⟨k, hk⟩ := Option.isSome_iff_exists.mp h
  exact Punct.opening?_eq_none_of_closing? hk

namespace Frame

/-- How reading at a frame's own level can change it: a literal gains a piece, and a field's
expression reaches its format spec. -/
inductive Grows : Frame → Frame → Prop
  | refl (f : Frame) : Grows f f
  | piece (d : Delimiter) (o : Span) (p : Bool) : Grows (.literal d o p) (.literal d o true)
  | spec : Grows .field .spec

theorem Grows.trans {f g h : Frame} (hfg : Grows f g) (hgh : Grows g h) : Grows f h := by
  cases hfg with
  | refl => exact hgh
  | piece d o p =>
    cases hgh with
    | refl => exact .piece d o p
    | piece => exact .piece d o p
  | spec =>
    cases hgh with
    | refl => exact .spec

/-- Two stacks alike below their innermost frame, which grows from the one to the other. -/
inductive Keeps : List Frame → List Frame → Prop
  | nil : Keeps [] []
  | cons {f g : Frame} (rest : List Frame) (h : Grows f g) : Keeps (f :: rest) (g :: rest)

namespace Keeps

theorem refl : ∀ frames : List Frame, Keeps frames frames
  | [] => .nil
  | f :: rest => .cons rest (.refl f)

theorem trans {a b c : List Frame} (hab : Keeps a b) (hbc : Keeps b c) : Keeps a c := by
  cases hab with
  | nil => exact hbc
  | cons rest h =>
    cases hbc with
    | cons _ h' => exact .cons rest (h.trans h')

/-- What keeps a stack with an innermost frame keeps what lies below it. -/
theorem cons_left {f : Frame} {rest frames : List Frame} (h : Keeps (f :: rest) frames) :
    ∃ g, frames = g :: rest ∧ Grows f g := by
  cases h with
  | cons _ hg => exact ⟨_, rfl, hg⟩

end Keeps

/-- A piece read in text grows the innermost frame. -/
theorem keeps_markPiece {frames : List Frame} (htext : inText frames = true) :
    Keeps frames (markPiece frames) := by
  rcases frames with _ | ⟨_ | ⟨d, o, p⟩ | _ | _, rest⟩
  · exact .nil
  · exact Keeps.refl _
  · exact .cons rest (.piece d o p)
  · exact Keeps.refl _
  · exact Keeps.refl _

/-- A colon in code grows the innermost frame. -/
theorem keeps_colon (frames : List Frame) : Keeps frames (colon frames) := by
  rcases frames with _ | ⟨_ | _ | _ | _, rest⟩
  · exact .nil
  · exact Keeps.refl _
  · exact Keeps.refl _
  · exact .cons rest .spec
  · exact Keeps.refl _

/-- A closing bracket closes the innermost frame. -/
theorem close_some {k : Bracket} {frames frames' : List Frame} (h : close k frames = some frames') :
    ∃ f, frames = f :: frames' := by
  unfold close at h
  split at h
  · split_ifs at h
    cases h
    exact ⟨_, rfl⟩
  · split_ifs at h
    cases h
    exact ⟨_, rfl⟩
  · cases h

/-- The stack below what an opener opens: marked in text, as it was in code. -/
def beneath (frames : List Frame) : List Frame :=
  if inText frames then markPiece frames else frames

theorem keeps_beneath (frames : List Frame) : Keeps frames (beneath frames) := by
  unfold beneath
  split
  · next htext => exact keeps_markPiece htext
  · exact Keeps.refl _

end Frame

namespace ShapeState

variable {src : Source} {st st' : ShapeState} {t : Token}

/-- A token that neither opens nor closes grows the innermost frame. -/
theorem keeps_read_plain (ho : t.kind.opens = false) (hc : t.kind.closes = false)
    (hr : st.read src t = some st') : Frame.Keeps st.frames st'.frames := by
  simp only [read, Option.map_eq_some_iff] at hr
  obtain ⟨frames, hframes, rfl⟩ := hr
  dsimp only
  split at hframes
  · next htext =>
    unfold Frame.readText at hframes
    split at hframes
    · split_ifs at hframes
      cases hframes
      exact Frame.keeps_markPiece htext
    all_goals simp_all [TokenKind.opens, TokenKind.closes, Punct.opening?, Punct.closing?]
  · unfold Frame.readCode at hframes
    split at hframes
    · simp_all [TokenKind.opens]
    · cases hframes
    · cases hframes
    · cases hframes
    · next p hk =>
      split at hframes
      · simp_all [TokenKind.opens]
      · simp_all [TokenKind.closes]
      · cases hframes
        split_ifs
        · exact Frame.keeps_colon _
        · exact Frame.Keeps.refl _
    · cases hframes
      exact Frame.Keeps.refl _

/-- An opener opens one frame over the stack beneath it. -/
theorem read_opener (ho : t.kind.opens = true) (hr : st.read src t = some st') :
    ∃ f, st'.frames = f :: Frame.beneath st.frames := by
  simp only [read, Option.map_eq_some_iff] at hr
  obtain ⟨frames, hframes, rfl⟩ := hr
  dsimp only
  split at hframes
  · next htext =>
    unfold Frame.readText at hframes
    split at hframes
    · simp_all [TokenKind.opens]
    · cases hframes
      exact ⟨.field, by simp [Frame.beneath, htext]⟩
    · simp_all [TokenKind.opens, Punct.opening?]
    · simp_all [TokenKind.opens]
    · cases hframes
  · next hcode =>
    have hb : Frame.beneath st.frames = st.frames := by simp [Frame.beneath, hcode]
    unfold Frame.readCode at hframes
    split at hframes
    · cases hframes
      exact ⟨_, by rw [hb]⟩
    · cases hframes
    · cases hframes
    · cases hframes
    · split at hframes
      · cases hframes
        exact ⟨_, by rw [hb]⟩
      · next hop _ => simp_all [TokenKind.opens]
      · next hop _ => simp_all [TokenKind.opens]
    · simp_all [TokenKind.opens]

/-- A closer closes the innermost frame. -/
theorem read_closer (hc : t.kind.closes = true) (hr : st.read src t = some st') :
    ∃ f, st.frames = f :: st'.frames := by
  simp only [read, Option.map_eq_some_iff] at hr
  obtain ⟨frames, hframes, rfl⟩ := hr
  dsimp only
  split at hframes
  · unfold Frame.readText at hframes
    split at hframes
    · simp_all [TokenKind.closes]
    · simp_all [TokenKind.closes, Punct.closing?]
    · cases hframes
      simp_all
    · split_ifs at hframes
      cases hframes
      simp_all
    · cases hframes
  · unfold Frame.readCode at hframes
    split at hframes
    · simp_all [TokenKind.closes]
    · cases hframes
    · cases hframes
    · cases hframes
    · split at hframes
      · simp_all [TokenKind.closes, Punct.opening?_eq_none_of_isSome]
      · exact Frame.close_some hframes
      · next hcl => simp_all [TokenKind.closes]
    · simp_all [TokenKind.closes]

/-- The reader run over a list of tokens, if it reads them all. -/
def readAll (src : Source) : ShapeState → List Token → Option ShapeState
  | st, [] => some st
  | st, t :: ts => (st.read src t).bind fun st' => readAll src st' ts

@[simp] theorem readAll_nil : readAll src st [] = some st := rfl

theorem readAll_cons (ts : List Token) :
    readAll src st (t :: ts) = (st.read src t).bind fun st' => readAll src st' ts := rfl

theorem readAll_append (xs ys : List Token) :
    readAll src st (xs ++ ys) = (readAll src st xs).bind fun st' => readAll src st' ys := by
  induction xs generalizing st with
  | nil => rfl
  | cons x xs ih =>
    simp only [List.cons_append, readAll_cons, ih]
    cases st.read src x <;> rfl

/-- **A bracketed stretch keeps the stack below its innermost frame.** -/
theorem keeps_readAll {ws : List Token} (hw : Bracketed ws) :
    ∀ {st st' : ShapeState}, readAll src st ws = some st' →
      Frame.Keeps st.frames st'.frames := by
  induction hw with
  | nil =>
    intro st st' h
    cases h
    exact Frame.Keeps.refl _
  | plain ho hc _ ih =>
    intro st st' h
    simp only [readAll_cons, Option.bind_eq_some_iff] at h
    obtain ⟨s₁, h₁, h₂⟩ := h
    exact (keeps_read_plain ho hc h₁).trans (ih h₂)
  | group ho _ hc _ ihinner ihrest =>
    intro st st' h
    simp only [readAll_cons, readAll_append, Option.bind_eq_some_iff] at h
    obtain ⟨s₁, h₁, s₂, h₂, s₃, h₃, h₄⟩ := h
    -- the opener opens a frame, the stretch inside keeps what lies below it, the closer closes it
    obtain ⟨f, hf⟩ := read_opener ho h₁
    have hin := ihinner h₂
    rw [hf] at hin
    obtain ⟨g, hg, -⟩ := hin.cons_left
    obtain ⟨g', hg'⟩ := read_closer hc h₃
    have hbelow : s₃.frames = Frame.beneath st.frames := by
      rw [hg] at hg'
      exact (List.cons.inj hg').2.symm
    exact (Frame.keeps_beneath _).trans (hbelow ▸ ihrest h₄)

end ShapeState

/-! ## Positions in a token stream -/

namespace TokenStream

variable {ts : TokenStream} {i j k : Nat}

/-- The tokens from position `i` up to position `j`. -/
def segment (ts : TokenStream) (i j : Nat) : List Token :=
  (ts.tokens.toList.drop i).take (j - i)

/-- The reader's state after the first `j` tokens, if it reads them. -/
def stateAt (ts : TokenStream) (j : Nat) : Option ShapeState :=
  ShapeState.init.readAll ts.src (ts.tokens.toList.take j)

/-- The tokens from position `i` up to position `j` are bracketed. -/
def Balanced (ts : TokenStream) (i j : Nat) : Prop :=
  i ≤ j ∧ Bracketed (ts.segment i j)

/-- The token at position `b` closes what the token at position `a` opens: the tokens between
are bracketed. -/
def Matches (ts : TokenStream) (a b : Nat) : Prop :=
  a < b ∧ (ts.tokenAt a).kind.opens = true ∧ (ts.tokenAt b).kind.closes = true ∧
    ts.Balanced (a + 1) b

theorem segment_append (hij : i ≤ j) (hjk : j ≤ k) :
    ts.segment i k = ts.segment i j ++ ts.segment j k := by
  unfold segment
  obtain ⟨m, rfl⟩ := Nat.exists_eq_add_of_le hij
  obtain ⟨n, rfl⟩ := Nat.exists_eq_add_of_le hjk
  rw [show i + m + n - i = m + n by omega, show i + m - i = m by omega,
    show i + m + n - (i + m) = n by omega, List.take_add, List.drop_drop, Nat.add_comm i m]

theorem segment_single (hi : i < ts.tokens.size) : ts.segment i (i + 1) = [ts.tokenAt i] := by
  unfold segment
  rw [Nat.add_sub_cancel_left, tokenAt_eq hi, List.take_one, List.head?_drop]
  simp [hi]

@[simp] theorem segment_self : ts.segment i i = [] := by
  simp [segment]

theorem stateAt_segment (hij : i ≤ j) :
    ts.stateAt j = (ts.stateAt i).bind fun st => st.readAll ts.src (ts.segment i j) := by
  unfold stateAt segment
  obtain ⟨m, rfl⟩ := Nat.exists_eq_add_of_le hij
  rw [List.take_add, ShapeState.readAll_append, Nat.add_sub_cancel_left]

theorem stateAt_succ (hi : i < ts.tokens.size) :
    ts.stateAt (i + 1) = (ts.stateAt i).bind fun st => st.read ts.src (ts.tokenAt i) := by
  rw [stateAt_segment (Nat.le_succ i), segment_single hi]
  cases ts.stateAt i with
  | none => rfl
  | some st =>
    simp only [Option.bind_some, ShapeState.readAll_cons, ShapeState.readAll_nil]
    cases st.read ts.src (ts.tokenAt i) <;> rfl

namespace Balanced

theorem refl (i : Nat) : ts.Balanced i i := ⟨le_rfl, by simp [Bracketed.nil]⟩

theorem trans (hij : ts.Balanced i j) (hjk : ts.Balanced j k) : ts.Balanced i k :=
  ⟨hij.1.trans hjk.1, by rw [segment_append hij.1 hjk.1]; exact hij.2.append hjk.2⟩

/-- A token that neither opens nor closes. -/
theorem plain (hi : i < ts.tokens.size) (ho : (ts.tokenAt i).kind.opens = false)
    (hc : (ts.tokenAt i).kind.closes = false) : ts.Balanced i (i + 1) :=
  ⟨Nat.le_succ i, by rw [segment_single hi]; exact Bracketed.single ho hc⟩

end Balanced

/-- An opener and the closer that matches it make a bracketed stretch. -/
theorem Matches.balanced (h : ts.Matches i j) (hj : j < ts.tokens.size) :
    ts.Balanced i (j + 1) := by
  obtain ⟨hij, ho, hc, hle, hinner⟩ := h
  refine ⟨by omega, ?_⟩
  rw [segment_append (Nat.le_succ i) (show i + 1 ≤ j + 1 by omega),
    segment_append hle (Nat.le_succ j), segment_single (by omega), segment_single hj]
  simpa using Bracketed.pair ho hinner hc

/-- Across a bracketed stretch the reader keeps the stack below its innermost frame. -/
theorem keeps_stateAt {st st' : ShapeState} (hi : ts.stateAt i = some st)
    (hij : ts.Balanced i j) (hj : ts.stateAt j = some st') : Frame.Keeps st.frames st'.frames := by
  rw [stateAt_segment hij.1, hi, Option.bind_some] at hj
  exact ShapeState.keeps_readAll hij.2 hj

/-- **Across a pair the reader comes back to the stack beneath the opener.** -/
theorem stateAt_matches {st st' : ShapeState} (ha : ts.stateAt a = some st)
    (hab : ts.Matches a b) (hb : b < ts.tokens.size) (hst' : ts.stateAt (b + 1) = some st') :
    st'.frames = Frame.beneath st.frames := by
  obtain ⟨hlt, ho, hc, hbal⟩ := hab
  have ha' : a < ts.tokens.size := by omega
  -- the reader reads the opener, the stretch inside, and the closer
  obtain ⟨s₁, h₁⟩ : ∃ s₁, ts.stateAt (a + 1) = some s₁ := by
    rw [stateAt_segment (show a + 1 ≤ b + 1 by omega)] at hst'
    cases h : ts.stateAt (a + 1) with
    | none => simp [h] at hst'
    | some s₁ => exact ⟨s₁, rfl⟩
  obtain ⟨s₂, h₂⟩ : ∃ s₂, ts.stateAt b = some s₂ := by
    rw [stateAt_succ hb] at hst'
    cases h : ts.stateAt b with
    | none => simp [h] at hst'
    | some s₂ => exact ⟨s₂, rfl⟩
  have hr₁ : st.read ts.src (ts.tokenAt a) = some s₁ := by
    rw [stateAt_succ ha', ha, Option.bind_some] at h₁
    exact h₁
  have hr₂ : s₂.read ts.src (ts.tokenAt b) = some st' := by
    rw [stateAt_succ hb, h₂, Option.bind_some] at hst'
    exact hst'
  obtain ⟨f, hf⟩ := ShapeState.read_opener ho hr₁
  have hin := keeps_stateAt h₁ hbal h₂
  rw [hf] at hin
  obtain ⟨g, hg, -⟩ := hin.cons_left
  obtain ⟨g', hg'⟩ := ShapeState.read_closer hc hr₂
  rw [hg] at hg'
  exact (List.cons.inj hg').2.symm

end TokenStream

end ExprFront
