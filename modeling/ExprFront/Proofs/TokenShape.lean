import Mathlib
import ExprFront.Token.Lexer

/-!
# The shape of a token stream

The tokens of a text nest: brackets of code inside brackets, f-strings inside code, fields inside
f-strings, format specs inside fields, and fields again inside format specs. This module states
that nesting as a reader that takes the tokens one at a time and keeps a stack of what is open
(`Frame`), innermost first.

* In code, at the top level, in a bracket or in a field's expression, an opening bracket opens
  and a closing one must close the innermost bracket, of its own kind. A `}` directly in a field
  closes the field and a `:` there begins its format spec. An f-string start opens a literal.
  Pieces of f-string text and f-string ends do not occur.
* In the text of a literal or of a format spec only pieces of text and fields occur; a piece is
  never empty and never follows another piece. A format spec ends with its field's `}`. A literal
  ends with an end token whose closing quotes are those of its start and whose text is the rest
  of its span (`Frame.EndFits`). That text is empty unless nothing of the literal came before the
  end, and then the start and the end together are the literal.
* The stream ends with the end-of-input token, with nothing open.

`ShapeState.accepts` runs the reader over a list of tokens. Every stack the reader reaches is
`Frame.Settled` (`ShapeState.settled_read`): a literal none of whose pieces was read is
innermost, and no bracket stands directly inside a format spec.
-/

namespace ExprFront

namespace Punct

/-- The bracket a punctuation token opens, if it opens one. -/
def opening? : Punct → Option Bracket
  | .lparen => some .paren
  | .lbracket => some .square
  | .lbrace => some .curly
  | _ => none

/-- The bracket a punctuation token closes, if it closes one. -/
def closing? : Punct → Option Bracket
  | .rparen => some .paren
  | .rbracket => some .square
  | .rbrace => some .curly
  | _ => none

end Punct

/-- What the tokens read so far opened and did not close. -/
inductive Frame where
  /-- A bracket of code. -/
  | bracket (k : Bracket)
  /-- The text of an f-string whose start token, with delimiter `d`, covers `opener`;
  `hasPiece` tells whether a piece of its text or a field of it has been read. -/
  | literal (d : Delimiter) (opener : Span) (hasPiece : Bool)
  /-- The expression of a field. -/
  | field
  /-- The format spec of a field. -/
  | spec
  deriving DecidableEq, Repr

namespace Frame

/-- Whether the innermost frame is text: of a literal or of a format spec. -/
def inText : List Frame → Bool
  | .literal .. :: _ | .spec :: _ => true
  | _ => false

/-- A `:` directly in a field begins its format spec; elsewhere it changes nothing. -/
def colon : List Frame → List Frame
  | .field :: rest => .spec :: rest
  | frames => frames

/-- A closing bracket closes the innermost bracket if it is of its kind, and a `}` directly in a
field closes the field. -/
def close (k : Bracket) : List Frame → Option (List Frame)
  | .bracket k' :: rest => if k = k' then some rest else none
  | .field :: rest => if k = .curly then some rest else none
  | _ => none

/-- Records that the innermost literal has a piece, where the literal is the innermost frame. -/
def markPiece : List Frame → List Frame
  | .literal d o _ :: rest => .literal d o true :: rest
  | frames => frames

/-- Once marked, the innermost frame is no unread literal. -/
lemma head?_markPiece (frames : List Frame) (d : Delimiter) (o : Span) :
    (markPiece frames).head? ≠ some (.literal d o false) := by
  rcases frames with _ | ⟨_ | _ | _ | _, rest⟩ <;> simp [markPiece]

/-- A token read in code. -/
def readCode (t : Token) (frames : List Frame) : Option (List Frame) :=
  match t.kind with
  | .fstringStart d => some (.literal d t.span false :: frames)
  | .fstringMiddle | .fstringEnd _ | .eof => none
  | .punct p =>
    match p.opening?, p.closing? with
    | some k, _ => some (.bracket k :: frames)
    | none, some k => close k frames
    | none, none => some (if p = .colon then colon frames else frames)
  | _ => some frames

/-- How an end token `t` with text span `text` closes a literal whose start, with delimiter
`d`, covers `opener`: its text is its span less the closing quotes, which are those of `d`; and
the text is empty unless nothing of the literal was read before, and then the end follows the
start directly and the two together are the literal. -/
def EndFits (src : Source) (d : Delimiter) (opener : Span) (hasPiece : Bool) (t : Token)
    (text : Span) : Prop :=
  text = ⟨t.span.start, t.span.stop - d.closeLength⟩ ∧
  t.span.start + d.closeLength ≤ t.span.stop ∧
  src.window (t.span.stop - d.closeLength) t.span.stop =
    List.replicate d.closeLength d.quote.byte ∧
  (text.start < text.stop → hasPiece = false ∧ t.span.start = opener.stop ∧
    src.slice opener ++ src.slice t.span = src.slice ⟨opener.start, t.span.stop⟩)

instance (src : Source) (d : Delimiter) (opener : Span) (hasPiece : Bool) (t : Token)
    (text : Span) : Decidable (EndFits src d opener hasPiece t text) :=
  inferInstanceAs (Decidable (_ ∧ _ ∧ _ ∧ _))

/-- A token read in the text of a literal or of a format spec; `afterMiddle` tells whether the
token before was a piece of text. -/
def readText (src : Source) (afterMiddle : Bool) (t : Token) (frames : List Frame) :
    Option (List Frame) :=
  match t.kind, frames with
  | .fstringMiddle, _ =>
    if !afterMiddle && t.span.start < t.span.stop then some (markPiece frames) else none
  | .punct .lbrace, _ => some (.field :: markPiece frames)
  | .punct .rbrace, .spec :: rest => some rest
  | .fstringEnd text, .literal d o p :: rest =>
    if EndFits src d o p t text then some rest else none
  | _, _ => none

/-- What every stack the reader reaches satisfies: a literal none of whose pieces was read is
the innermost frame, and no bracket stands directly inside a format spec. -/
structure Settled (frames : List Frame) : Prop where
  unread_innermost : ∀ f ∈ frames.tail, ∀ d o, f ≠ .literal d o false
  spec_bare : frames.IsChain fun a b => ∀ k, a = .bracket k → b ≠ .spec

namespace Settled

variable {frames frames' : List Frame}

lemma nil : Settled [] := ⟨by simp, List.isChain_nil⟩

/-- Closing the innermost frame keeps the stack settled. -/
lemma tail {f : Frame} (h : Settled (f :: frames)) : Settled frames :=
  ⟨fun g hg => h.unread_innermost g (List.mem_of_mem_tail hg), h.spec_bare.tail⟩

/-- Opening a frame keeps the stack settled, where the innermost frame was read from and the new
frame is no bracket directly inside a format spec. -/
lemma push {f : Frame} (h : Settled frames)
    (hhead : ∀ d o, frames.head? ≠ some (.literal d o false))
    (hpair : ∀ k, f = .bracket k → frames.head? ≠ some .spec) : Settled (f :: frames) := by
  refine ⟨fun g hg d o => ?_, h.spec_bare.cons fun g hg k hk => ?_⟩
  · rcases frames with _ | ⟨g₀, rest⟩
    · simp at hg
    · rcases List.mem_cons.mp hg with rfl | hrest
      · exact fun heq => hhead d o (by simp [heq])
      · exact h.unread_innermost g hrest d o
  · rintro rfl
    exact hpair k hk (Option.mem_def.mp hg)

lemma markPiece (h : Settled frames) : Settled (Frame.markPiece frames) := by
  rcases frames with _ | ⟨_ | ⟨d, o, p⟩ | _ | _, rest⟩
  all_goals first
    | exact h
    | exact ⟨h.unread_innermost, List.isChain_cons.mpr
        ⟨fun _ _ _ hk => (by cases hk), (List.isChain_cons.mp h.spec_bare).2⟩⟩

lemma colon (h : Settled frames) : Settled (Frame.colon frames) := by
  rcases frames with _ | ⟨_ | _ | _ | _, rest⟩
  all_goals first
    | exact h
    | exact ⟨h.unread_innermost, List.isChain_cons.mpr
        ⟨fun _ _ _ hk => (by cases hk), (List.isChain_cons.mp h.spec_bare).2⟩⟩

lemma close {k : Bracket} (h : Settled frames) (hr : Frame.close k frames = some frames') :
    Settled frames' := by
  rcases frames with _ | ⟨_ | _ | _ | _, rest⟩ <;> simp only [Frame.close] at hr
  all_goals first
    | cases hr
    | (split_ifs at hr; cases hr; exact h.tail)

/-- A token read in code keeps the stack settled. -/
lemma readCode {t : Token} (h : Settled frames) (hcode : inText frames = false)
    (hr : Frame.readCode t frames = some frames') : Settled frames' := by
  -- in code the innermost frame is no text, hence neither a literal nor a format spec
  have hlit : ∀ d o, frames.head? ≠ some (.literal d o false) := by
    intro d o hhead
    rcases frames with _ | ⟨f, rest⟩ <;> simp_all [inText]
  have hspec : frames.head? ≠ some .spec := by
    intro hhead
    rcases frames with _ | ⟨f, rest⟩ <;> simp_all [inText]
  unfold Frame.readCode at hr
  split at hr
  · cases hr
    exact h.push hlit (by simp)
  · cases hr
  · cases hr
  · cases hr
  · split at hr
    · cases hr
      exact h.push hlit fun _ _ => hspec
    · exact h.close hr
    · cases hr
      split_ifs
      · exact h.colon
      · exact h
  · cases hr
    exact h

/-- A token read in text keeps the stack settled. -/
lemma readText {src : Source} {a : Bool} {t : Token} (h : Settled frames)
    (hr : Frame.readText src a t frames = some frames') : Settled frames' := by
  unfold Frame.readText at hr
  split at hr
  · split_ifs at hr
    cases hr
    exact h.markPiece
  · cases hr
    exact h.markPiece.push (head?_markPiece _) (by simp)
  · cases hr
    exact h.tail
  · split_ifs at hr
    cases hr
    exact h.tail
  · cases hr

end Settled

end Frame

/-- The state of the reader: the frames open, innermost first, and whether the token before
was a piece of f-string text. -/
structure ShapeState where
  /-- What is open, innermost first. -/
  frames : List Frame
  /-- Whether the token before was a piece of f-string text. -/
  afterMiddle : Bool
  deriving DecidableEq, Repr

namespace ShapeState

/-- Nothing read yet. -/
def init : ShapeState := ⟨[], false⟩

/-- Reads one token other than the end of input, in text or in code as the innermost frame
says; nothing if it does not fit there. -/
def read (src : Source) (st : ShapeState) (t : Token) : Option ShapeState :=
  let frames? := if Frame.inText st.frames then Frame.readText src st.afterMiddle t st.frames
    else Frame.readCode t st.frames
  frames?.map fun frames => ⟨frames, t.kind == .fstringMiddle⟩

/-- Whether a token stream, read from `st`, has the shape: every token fits where it stands, and
the stream ends with the end-of-input token, with nothing open. -/
def accepts (src : Source) (st : ShapeState) : List Token → Bool
  | [] => false
  | t :: ts =>
    if t.kind = .eof then st.frames.isEmpty && ts.isEmpty
    else
      match st.read src t with
      | some st' => st'.accepts src ts
      | none => false

/-- **Every stack the reader reaches is settled.** -/
lemma settled_read {src : Source} {st st' : ShapeState} {t : Token} (h : Frame.Settled st.frames)
    (hr : st.read src t = some st') : Frame.Settled st'.frames := by
  simp only [read, Option.map_eq_some_iff] at hr
  obtain ⟨frames, hframes, rfl⟩ := hr
  split at hframes
  · exact h.readText hframes
  · next hcode => exact h.readCode (Bool.eq_false_iff.mpr hcode) hframes

end ShapeState

end ExprFront
