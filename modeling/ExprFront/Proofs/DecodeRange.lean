import ExprFront.Proofs.EscapeFaults

/-!
# The characters of a decoded literal

In a bytes literal every escape decodes to a character at most U+00FF: an octal or `\x` escape
beyond `0xFF` is a fault, the one-letter escapes stand for ASCII characters, and `\u`, `\U` and
`\N` are kept as they are written. The characters outside escapes are copied as they are,
whatever they are, and nothing checks that they lie in that range.

So the decoded value of a bytes literal holds only characters at most U+00FF and characters of
its raw text (`decode_bytes_latin1_or_copied`), and a raw text beyond that range is kept beyond
it (`bytes_literal_keeps_wide_char`).
-/

namespace ExprFront

namespace Escape

/-- In a bytes literal an escape value that names a character is at most `0xFF`. -/
lemma codePoint_bytes_le {pos v : Nat} {ch : Char} (h : codePoint true pos v = .ok ch) :
    ch.toNat ≤ 0xFF := by
  rw [codePoint_eq] at h
  by_cases hv : 0xFF < v
  · rw [show valueFault? true v = some (.invalidCodePoint v) from if_pos (.inr (.inr ⟨rfl, hv⟩))]
      at h
    cases h
  · rw [show valueFault? true v = none from if_neg (by simp; omega)] at h
    cases h
    rw [Char.toNat_ofNat]
    split <;> omega

/-- The one-letter escapes stand for ASCII characters. -/
lemma simpleEscape?_lt {e ch : Char} (h : simpleEscape? e = some ch) : ch.toNat < 128 := by
  unfold simpleEscape? at h
  split at h <;> cases h <;> decide

end Escape

open Escape

/-- One step of the decoder's loop keeps the range of the value: it appends characters that
are characters of the text or at most U+00FF, and goes on with part of the text. -/
lemma covered_step {v out out' : String} {cs cs' : List Char} (new : List Char)
    (hout : out'.toList = out.toList ++ new) (hnew : ∀ c ∈ new, c ∈ cs ∨ c.toNat ≤ 0xFF)
    (hrest : ∀ c ∈ cs', c ∈ cs)
    (ih : ∀ c ∈ v.toList, c ∈ out'.toList ∨ c ∈ cs' ∨ c.toNat ≤ 0xFF) :
    ∀ c ∈ v.toList, c ∈ out.toList ∨ c ∈ cs ∨ c.toNat ≤ 0xFF := by
  intro c hc
  rcases ih c hc with h | h | h
  · rw [hout, List.mem_append] at h
    rcases h with h | h
    · exact .inl h
    · exact .inr (hnew c h)
  · exact .inr (.inl (hrest c h))
  · exact .inr (.inr h)

/-- In a bytes literal every character the decoder's loop gives was already in its output,
is a character of the text it reads, or is at most U+00FF. -/
theorem decodeLoop_bytes_range {flags : StringFlags} (hb : flags.bytes = true) {inFString : Bool}
    {cs : List Char} {pos : Nat} {out v : String} (h : decodeLoop flags inFString cs pos out = .ok v) :
    ∀ c ∈ v.toList, c ∈ out.toList ∨ c ∈ cs ∨ c.toNat ≤ 0xFF := by
  fun_induction decodeLoop flags inFString cs pos out with
  | case1 pos out =>
    cases h
    exact fun c hc => .inl hc
  | case2 pos out c hbrace d rest' hd ih =>
    exact covered_step _ (String.toList_push _) (by simp) (fun x hx => by simp [hx]) (ih h)
  | case3 pos out c hbrace d rest' hd ih =>
    exact covered_step _ (String.toList_push _) (by simp) (fun x hx => by simp [hx]) (ih h)
  | case4 pos out c hbrace =>
    cases h
    exact covered_step _ (String.toList_push _) (by simp) (fun _ hx => hx) fun x hx => .inl hx
  | case5 pos out c hbrace hc =>
    cases h
    exact covered_step _ (String.toList_push _) (by simp) (fun _ hx => hx) fun x hx => .inl hx
  | case6 pos out c hbrace hc e rest' he ih =>
    exact covered_step [] (by simp) (by simp) (fun x hx => by simp [hx]) (ih h)
  | case7 pos out c hbrace hc e rest' hnl hcr hhead ih =>
    exact covered_step [] (by simp) (by simp) (fun x hx => by simp [List.mem_of_mem_drop hx])
      (ih h)
  | case8 pos out c hbrace hc e rest' hnl hcr hhead ih =>
    exact covered_step [] (by simp) (by simp) (fun x hx => by simp [hx]) (ih h)
  | case9 pos out c hbrace hc e rest' hnl hcr ch hsimple ih =>
    have hch := simpleEscape?_lt hsimple
    exact covered_step _ (String.toList_push _) (by simp; omega) (fun x hx => by simp [hx]) (ih h)
  | case10 pos out c hbrace hc e rest' hnl hcr hsimple hoct ds ch hcp ih =>
    rw [hb] at hcp
    have hch := codePoint_bytes_le hcp
    exact covered_step _ (String.toList_push _) (by simp; omega)
      (fun x hx => by simp [List.mem_of_mem_drop hx]) (ih h)
  | case12 pos out c hbrace hc e rest' hnl hcr hsimple hoct n hw v hv ch hcp ih =>
    rw [hb] at hcp
    have hch := codePoint_bytes_le hcp
    exact covered_step _ (String.toList_push _) (by simp; omega)
      (fun x hx => by simp [List.mem_of_mem_drop hx]) (ih h)
  | case11 | case13 | case14 | case15 => cases h
  | case16 pos out c hbrace hc e rest' hnl hcr hsimple hoct hw hN ih =>
    exact covered_step ['\\', e] (by simp) (by simp) (fun x hx => by simp [hx]) (ih h)
  | case17 pos out c rest hbrace hc ih =>
    exact covered_step _ (String.toList_push _) (by simp) (fun x hx => by simp [hx]) (ih h)

/-- **The characters of a decoded bytes literal.** Every character of the value of a bytes
literal is at most U+00FF or is a character of its raw text: escapes give only the former, and
only characters written outside escapes can be beyond that range. -/
theorem decode_bytes_latin1_or_copied (raw : String) (flags : StringFlags) (inFString : Bool)
    (v : String) (hb : flags.bytes = true) (h : decode raw flags inFString = .ok v) :
    ∀ c ∈ v.toList, c.toNat ≤ 0xFF ∨ c ∈ raw.toList := by
  unfold decode at h
  dsimp only at h
  split at h
  · cases h
    exact fun c hc => .inr hc
  · intro c hc
    rcases decodeLoop_bytes_range hb h c hc with h | h | h
    · simp at h
    · exact .inr h
    · exact .inl h

/-- A bytes literal with a hex escape and a character beyond U+00FF: the escape gives `ÿ`, the
other character is copied. -/
theorem decode_bytes_hex_and_wide :
    decode "\\xff\u0100" { bytes := true } false = .ok "\xff\u0100" ∧
      ∀ c ∈ "\xff\u0100".toList, c.toNat ≤ 0xFF ∨ c ∈ "\\xff\u0100".toList := by
  have hdec : decode "\\xff\u0100" { bytes := true } false = .ok "\xff\u0100" := by
    have hchars : "\\xff\u0100".toList = ['\\', 'x', 'f', 'f', '\u0100'] := by decide
    simp [decode, String.any, String.contains_bool_eq, hchars, decodeLoop, simpleEscape?, isOctal,
      octalDigit?, hexWidth?, hexValue?, digitsValue?, hexDigit?, codePoint]
  exact ⟨hdec, decode_bytes_latin1_or_copied _ _ _ _ rfl hdec⟩

/-- A bytes literal keeps a character beyond U+00FF that its raw text holds: the value of the
body `Ā` is `Ā`, whose code is `0x100`. -/
theorem bytes_literal_keeps_wide_char :
    decode "\u0100" { bytes := true } false = .ok "\u0100" ∧ 0xFF < '\u0100'.toNat := by
  have hchars : "\u0100".toList = ['\u0100'] := by decide
  refine ⟨?_, by decide⟩
  simp [decode, String.any, String.contains_bool_eq, hchars]

end ExprFront
