import Mathlib
import ExprFront.Literal.Escape

/-!
# The decoder's shortcut

`decode` returns a literal's body as it is, without reading it, when nothing in it asks to be
read: no brace in f-string text, and no backslash outside a raw literal. This module proves that
the shortcut is only a shortcut: the character loop `decodeLoop` copies every character that
begins neither a doubled brace nor an escape (`decodeLoop_copy`), so on a body made of such
characters it returns the body unchanged, wherever it starts and whatever it has written before
(`decodeLoop_of_copied`). Hence `decode` is the loop run from the start of the body, on every
body, prefix and f-string setting (`decode_eq_decodeLoop`).
-/

namespace ExprFront

namespace Escape

/-- A character the loop copies: no brace where doubled braces are read, and no backslash where
escapes are. -/
def Copied (flags : StringFlags) (inFString : Bool) (c : Char) : Prop :=
  (inFString && (c == '{' || c == '}')) = false ∧ (c == '\\' && !flags.raw) = false

end Escape

open Escape

variable {flags : StringFlags} {inFString : Bool} {c : Char} {cs : List Char} {pos : Nat}
  {out : String}

/-- A character that begins neither a doubled brace nor an escape stands for itself. -/
lemma decodeLoop_copy (hc : Copied flags inFString c) :
    decodeLoop flags inFString (c :: cs) pos out =
      decodeLoop flags inFString cs (pos + c.utf8Size) (out.push c) := by
  rw [decodeLoop.eq_def]
  simp [hc.1, hc.2]

/-- The loop appends a text of copied characters as it is. The induction runs along the text,
with the position and the output so far generalized. -/
lemma decodeLoop_of_copied (h : ∀ c ∈ cs, Copied flags inFString c) :
    decodeLoop flags inFString cs pos out = .ok (out ++ String.ofList cs) := by
  induction cs generalizing pos out with
  | nil =>
    rw [decodeLoop.eq_def]
    simp
  | cons c cs ih =>
    rw [decodeLoop_copy (h c List.mem_cons_self),
      ih fun d hd => h d (List.mem_cons_of_mem c hd)]
    simp [String.ext_iff]

/-- The condition under which `decode` takes its shortcut says that every character of the body
is copied. -/
lemma copied_of_shortcut {raw : String}
    (h : (!(inFString && raw.any (fun c => c == '{' || c == '}')) &&
      (flags.raw || !raw.any (· == '\\'))) = true) :
    ∀ c ∈ raw.toList, Copied flags inFString c := by
  simp only [Bool.and_eq_true, Bool.not_eq_true', Bool.and_eq_false_imp, Bool.or_eq_true,
    String.any, String.contains_bool_eq, List.any_eq_false, Bool.not_eq_true'] at h
  obtain ⟨hbrace, hslash⟩ := h
  intro c hc
  constructor
  · cases hin : inFString
    · rfl
    · simpa using hbrace hin c hc
  · rcases hslash with hraw | hno
    · simp [hraw]
    · simp only [Bool.and_eq_false_iff, beq_eq_false_iff_ne, Bool.not_eq_false']
      exact .inl fun heq => by simpa [heq] using hno c hc

/-- **The shortcut agrees with the loop.** Whenever `decode` takes its shortcut, the character
loop run on the body returns the body unchanged; so `decode` is the loop run from the start of
the body, for every body, prefix and f-string setting. -/
theorem decode_eq_decodeLoop (raw : String) (flags : StringFlags) (inFString : Bool) :
    ((!(inFString && raw.any (fun c => c == '{' || c == '}')) &&
        (flags.raw || !raw.any (· == '\\'))) = true →
      decodeLoop flags inFString raw.toList 0 "" = .ok raw) ∧
    decode raw flags inFString = decodeLoop flags inFString raw.toList 0 "" := by
  have hloop : (!(inFString && raw.any (fun c => c == '{' || c == '}')) &&
      (flags.raw || !raw.any (· == '\\'))) = true →
      decodeLoop flags inFString raw.toList 0 "" = .ok raw := fun h => by
    rw [decodeLoop_of_copied (copied_of_shortcut h)]
    simp
  refine ⟨hloop, ?_⟩
  unfold decode
  dsimp only
  split
  · next hshort => exact (hloop hshort).symm
  · rfl

end ExprFront
