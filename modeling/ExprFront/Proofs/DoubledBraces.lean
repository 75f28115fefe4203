import Mathlib
import ExprFront.Literal.Escape
import ExprFront.Proofs.DecodeShortcut
import ExprFront.Token.Lexer

/-!
# Doubled braces in decoded f-string text

The scan of f-string text reads `{{` and `}}` as one brace of literal text, and the decoder,
asked to read the same text as f-string text, reads them so too. This file proves that the two
readings agree: decoding f-string text gives what decoding the text as plain string text gives
once each doubled brace is written once (`collapseBraces`).

They agree as long as no backslash that begins an escape stands right before a brace
(`escapesBrace`). There the decoder reads the backslash and the first brace as one unknown
escape, which it keeps as it is, and the second brace on its own; the scan never lets a backslash
take a brace, so it saw a doubled brace. The text `\{{` therefore decodes to `\{{`, not to `\{`
(`escaped_doubled_brace_keeps_both`).
-/

namespace ExprFront

namespace Escape

/-- The text with each doubled brace written once, read from the left as the scan reads it. -/
def collapseBraces : List Char → List Char
  | c :: d :: rest =>
    if (c == '{' || c == '}') && d == c then c :: collapseBraces rest
    else c :: collapseBraces (d :: rest)
  | cs => cs

/-- Some backslash that begins an escape, read from the left, is followed by a brace. -/
def escapesBrace : List Char → Bool
  | '\\' :: c :: rest => c == '{' || c == '}' || escapesBrace rest
  | _ :: rest => escapesBrace rest
  | [] => false

variable {c d : Char} {cs : List Char}

lemma collapseBraces_cons (hc : (c == '{' || c == '}') = false) :
    collapseBraces (c :: cs) = c :: collapseBraces cs := by
  cases cs with
  | nil => rfl
  | cons d rest => simp [collapseBraces, hc]

lemma collapseBraces_pair (hc : (c == '{' || c == '}') = true) :
    collapseBraces (c :: c :: cs) = c :: collapseBraces cs := by
  simp [collapseBraces, hc]

lemma collapseBraces_brace (hd : (d == c) = false) :
    collapseBraces (c :: d :: cs) = c :: collapseBraces (d :: cs) := by
  simp [collapseBraces, hd]

lemma head?_collapseBraces (cs : List Char) : (collapseBraces cs).head? = cs.head? := by
  rcases cs with _ | ⟨c, _ | ⟨d, rest⟩⟩
  · rfl
  · rfl
  · simp only [collapseBraces]
    split <;> rfl

/-- Text with no brace has no doubled brace to collapse. -/
lemma collapseBraces_of_noBrace (h : ∀ c ∈ cs, (c == '{' || c == '}') = false) :
    collapseBraces cs = cs := by
  induction cs with
  | nil => rfl
  | cons c cs ih =>
    rw [collapseBraces_cons (h c List.mem_cons_self), ih fun x hx => h x (List.mem_cons_of_mem c hx)]

lemma escapesBrace_cons (hc : c ≠ '\\') : escapesBrace (c :: cs) = escapesBrace cs := by
  cases cs <;> simp [escapesBrace, hc]

/-- A stretch of characters that are no braces passes through unchanged. -/
lemma collapseBraces_take_drop (m : Nat) (hp : ∀ c ∈ cs.take m, (c == '{' || c == '}') = false) :
    (collapseBraces cs).take m = cs.take m ∧
      (collapseBraces cs).drop m = collapseBraces (cs.drop m) := by
  induction m generalizing cs with
  | zero => simp
  | succ m ih =>
    cases cs with
    | nil => simp [collapseBraces]
    | cons c cs =>
      have hp' : ∀ x ∈ cs.take m, (x == '{' || x == '}') = false := fun x hx =>
        hp x (List.take_succ_cons ▸ List.mem_cons_of_mem c hx)
      obtain ⟨htake, hdrop⟩ := ih hp'
      rw [collapseBraces_cons (hp c (by simp)), List.take_succ_cons, List.take_succ_cons, htake,
        List.drop_succ_cons, List.drop_succ_cons, hdrop]
      exact ⟨rfl, rfl⟩

lemma escapesBrace_drop (m : Nat) (hp : ∀ c ∈ cs.take m, c ≠ '\\') :
    escapesBrace (cs.drop m) = escapesBrace cs := by
  induction m generalizing cs with
  | zero => simp
  | succ m ih =>
    cases cs with
    | nil => simp
    | cons c cs =>
      have hp' : ∀ x ∈ cs.take m, x ≠ '\\' := fun x hx =>
        hp x (List.take_succ_cons ▸ List.mem_cons_of_mem c hx)
      rw [List.drop_succ_cons, ih hp', escapesBrace_cons (hp c (by simp))]

/-- A run of digits with a value is made of characters that `digit?` reads. -/
lemma isSome_of_digitsValue? {base : Nat} {digit? : Char → Option Nat} {ds : List Char} {v : Nat}
    (h : digitsValue? base digit? ds = some v) : ∀ c ∈ ds, (digit? c).isSome := by
  unfold digitsValue? at h
  generalize 0 = a at h
  induction ds generalizing a with
  | nil => simp
  | cons c ds ih =>
    simp only [List.foldlM_cons] at h
    cases hc : digit? c with
    | none => simp [hc] at h
    | some x =>
      simp only [hc, Option.map_some] at h
      intro x hx
      rcases List.mem_cons.mp hx with rfl | hx
      · simp [hc]
      · exact ih _ h x hx

/-- Whether a value names a character does not depend on where its escape stands. -/
lemma codePoint_offset {bytes : Bool} {offset v : Nat} {ch : Char}
    (h : codePoint bytes offset v = .ok ch) (offset' : Nat) : codePoint bytes offset' v = .ok ch := by
  unfold codePoint at h ⊢
  dsimp only at h ⊢
  by_cases hv : v ≤ (if bytes then 0xFF else 0x10FFFF) ∧ ¬(0xD800 ≤ v ∧ v ≤ 0xDFFF)
  · rw [if_pos hv] at h ⊢
    exact h
  · rw [if_neg hv] at h
    cases h

/-- A character that a digit reading accepts is neither a brace nor a backslash, when the
reading refuses all three. -/
lemma plain_of_digit {digit? : Char → Option Nat}
    (hd : digit? '{' = none ∧ digit? '}' = none ∧ digit? '\\' = none) (h : (digit? c).isSome) :
    (c == '{' || c == '}') = false ∧ c ≠ '\\' := by
  obtain ⟨h1, h2, h3⟩ := hd
  refine ⟨?_, fun hc => by simp [hc, h3] at h⟩
  cases hb : (c == '{' || c == '}')
  · rfl
  · simp only [Bool.or_eq_true, beq_iff_eq] at hb
    rcases hb with rfl | rfl <;> simp [h1, h2] at h

lemma hexDigit?_refuses :
    hexDigit? '{' = none ∧ hexDigit? '}' = none ∧ hexDigit? '\\' = none := by
  decide

lemma octalDigit?_refuses :
    octalDigit? '{' = none ∧ octalDigit? '}' = none ∧ octalDigit? '\\' = none := by
  decide

/-- The first `n` characters read by a hex escape are digits. -/
lemma plain_of_hexValue? {n v : Nat} (h : hexValue? n cs = some v) :
    ∀ c ∈ cs.take n, (c == '{' || c == '}') = false ∧ c ≠ '\\' := by
  unfold hexValue? at h
  dsimp only at h
  split_ifs at h
  exact fun c hc => plain_of_digit hexDigit?_refuses (isSome_of_digitsValue? h c hc)

lemma hexValue?_collapseBraces {n v : Nat} (h : hexValue? n cs = some v) :
    hexValue? n (collapseBraces cs) = some v := by
  have htake := (collapseBraces_take_drop n fun c hc => (plain_of_hexValue? h c hc).1).1
  unfold hexValue? at h ⊢
  rw [htake]
  exact h

/-- The digits after the first that an octal escape reads do not change. -/
lemma octalDigits_collapseBraces (cs : List Char) :
    ((collapseBraces cs).take 2).takeWhile isOctal = (cs.take 2).takeWhile isOctal := by
  rcases cs with _ | ⟨a, _ | ⟨b, r⟩⟩
  · rfl
  · rfl
  · cases ha : (a == '{' || a == '}')
    · have hb := head?_collapseBraces (b :: r)
      rw [collapseBraces_cons ha]
      obtain ⟨b', r', hbr⟩ : ∃ b' r', collapseBraces (b :: r) = b' :: r' := by
        cases hc : collapseBraces (b :: r) with
        | nil => simp [hc] at hb
        | cons b' r' => exact ⟨b', r', rfl⟩
      rw [hbr] at hb ⊢
      simp only [List.head?_cons, Option.some.injEq] at hb
      subst hb
      rfl
    · have hnot : isOctal a = false := by
        simp only [Bool.or_eq_true, beq_iff_eq] at ha
        rcases ha with rfl | rfl <;> decide
      simp only [collapseBraces]
      split <;> simp [hnot]

/-- The digits after the first that an octal escape reads are no braces and no backslashes. -/
lemma plain_of_octalDigits (cs : List Char) : ∀ c ∈ cs.take ((cs.take 2).takeWhile isOctal).length,
    (c == '{' || c == '}') = false ∧ c ≠ '\\' := by
  have hpre : (cs.take 2).takeWhile isOctal <+: cs :=
    (List.takeWhile_prefix isOctal).trans (List.take_prefix 2 cs)
  rw [← List.prefix_iff_eq_take.mp hpre]
  intro c hc
  have hoct : isOctal c = true := List.mem_takeWhile_imp hc
  exact plain_of_digit octalDigit?_refuses hoct

end Escape

open Escape

variable {flags : StringFlags} {c : Char} {cs : List Char} {pos : Nat} {out : String}

/-- Outside f-string text, a character that begins no escape stands for itself. -/
lemma decodeLoop_plain_cons (hc : (c == '\\' && !flags.raw) = false) :
    decodeLoop flags false (c :: cs) pos out =
      decodeLoop flags false cs (pos + c.utf8Size) (out.push c) :=
  decodeLoop_copy ⟨rfl, hc⟩

/-- Outside f-string text, text with no escape to read decodes to itself. -/
lemma decodeLoop_of_plain (hplain : flags.raw = true ∨ '\\' ∉ cs) :
    decodeLoop flags false cs pos out = .ok (out ++ String.ofList cs) := by
  refine decodeLoop_of_copied fun c hc => ⟨rfl, ?_⟩
  rcases hplain with h | h
  · simp [h]
  · simp [show c ≠ '\\' from fun heq => h (heq ▸ hc)]

lemma ne_backslash_of_brace (hb : (c == '{' || c == '}') = true) : c ≠ '\\' := by
  simp only [Bool.or_eq_true, beq_iff_eq] at hb
  rcases hb with rfl | rfl <;> decide

lemma backslash_of_escape (hc : (c == '\\' && !flags.raw) = true) : c = '\\' ∧ flags.raw = false := by
  simpa using hc

/-- An escape's backslash and a character after it that is no brace pass through. -/
lemma collapseBraces_escape {e : Char} (hesc : escapesBrace ('\\' :: e :: cs) = false) :
    collapseBraces ('\\' :: e :: cs) = '\\' :: e :: collapseBraces cs ∧ escapesBrace cs = false := by
  have he : (e == '{' || e == '}' || escapesBrace cs) = false := hesc
  simp only [Bool.or_eq_false_iff] at he
  refine ⟨?_, he.2⟩
  rw [collapseBraces_cons (by decide), collapseBraces_cons (by simp [he.1.1, he.1.2])]

/-- Reading f-string text gives what reading it with doubled braces collapsed gives outside
f-string text, since `escapesBrace` keeps braces out of every escape's reach. -/
lemma decodeLoop_collapseBraces {v : String} (hesc : flags.raw = false → escapesBrace cs = false)
    (h : decodeLoop flags true cs pos out = .ok v) (pos' : Nat) :
    decodeLoop flags false (collapseBraces cs) pos' out = .ok v := by
  fun_induction decodeLoop flags true cs pos out generalizing pos' with
  | case1 pos out =>
    rw [show collapseBraces [] = [] from rfl, decodeLoop.eq_def]
    exact h
  | case2 pos out e hb d rest' hd ih =>
    simp only [Bool.true_and] at hb
    rw [beq_iff_eq.mp hd] at hesc ⊢
    have he : (e == '\\' && !flags.raw) = false := by
      simp [ne_backslash_of_brace hb]
    rw [collapseBraces_pair hb, decodeLoop_plain_cons he]
    refine ih (fun hraw => ?_) h _
    rw [← escapesBrace_cons (ne_backslash_of_brace hb), ← escapesBrace_cons (ne_backslash_of_brace hb)]
    exact hesc hraw
  | case3 pos out e hb d rest' hd ih =>
    simp only [Bool.true_and] at hb
    have he : (e == '\\' && !flags.raw) = false := by
      simp [ne_backslash_of_brace hb]
    rw [collapseBraces_brace (Bool.eq_false_iff.mpr hd), decodeLoop_plain_cons he]
    refine ih (fun hraw => ?_) h _
    rw [← escapesBrace_cons (ne_backslash_of_brace hb)]
    exact hesc hraw
  | case4 pos out e hb =>
    simp only [Bool.true_and] at hb
    have he : (e == '\\' && !flags.raw) = false := by
      simp [ne_backslash_of_brace hb]
    rw [show collapseBraces [e] = [e] from rfl, decodeLoop_plain_cons he, decodeLoop.eq_def]
    exact h
  | case5 pos out c hb hc =>
    obtain ⟨rfl, hraw⟩ := backslash_of_escape hc
    rw [show collapseBraces ['\\'] = ['\\'] from rfl, decodeLoop.eq_def]
    simpa [hraw] using h
  | case6 pos out c hb hc e rest' he ih =>
    obtain ⟨rfl, hraw⟩ := backslash_of_escape hc
    obtain ⟨hcol, hrest⟩ := collapseBraces_escape (hesc hraw)
    rw [hcol, decodeLoop.eq_def]
    simp [hraw, he]
    exact ih (fun _ => hrest) h _
  | case7 pos out c hb hc e rest' hnl hcr hhead ih =>
    obtain ⟨rfl, hraw⟩ := backslash_of_escape hc
    obtain ⟨hcol, hrest⟩ := collapseBraces_escape (hesc hraw)
    obtain ⟨r, rfl⟩ : ∃ r, rest' = '\n' :: r := by
      cases rest' with
      | nil => simp at hhead
      | cons x r => exact ⟨r, by simpa using hhead⟩
    rw [hcol, collapseBraces_cons (by decide), decodeLoop.eq_def]
    simp only [beq_iff_eq] at hcr
    simp [hraw, hcr]
    exact ih (fun _ => by rwa [← escapesBrace_cons (show '\n' ≠ '\\' by decide)]) h _
  | case8 pos out c hb hc e rest' hnl hcr hhead ih =>
    obtain ⟨rfl, hraw⟩ := backslash_of_escape hc
    obtain ⟨hcol, hrest⟩ := collapseBraces_escape (hesc hraw)
    rw [hcol, decodeLoop.eq_def]
    simp only [beq_iff_eq] at hcr hhead
    simp [hraw, hcr, head?_collapseBraces, hhead]
    exact ih (fun _ => hrest) h _
  | case9 pos out c hb hc e rest' hnl hcr ch hsimple ih =>
    obtain ⟨rfl, hraw⟩ := backslash_of_escape hc
    obtain ⟨hcol, hrest⟩ := collapseBraces_escape (hesc hraw)
    rw [hcol, decodeLoop.eq_def]
    simp only [beq_iff_eq] at hnl hcr
    simp [hraw, hnl, hcr, hsimple]
    exact ih (fun _ => hrest) h _
  | case10 pos out c hb hc e rest' hnl hcr hsimple hoct ds ch hcp ih =>
    obtain ⟨rfl, hraw⟩ := backslash_of_escape hc
    obtain ⟨hcol, hrest⟩ := collapseBraces_escape (hesc hraw)
    have hplain := plain_of_octalDigits rest'
    have hdrop := (collapseBraces_take_drop _ fun x hx => (hplain x hx).1).2
    rw [hcol, decodeLoop.eq_def]
    simp only [beq_iff_eq] at hnl hcr
    have hcp' : codePoint flags.bytes pos'
        ((digitsValue? 8 octalDigit? (e :: (rest'.take 2).takeWhile isOctal)).getD 0) = .ok ch :=
      codePoint_offset hcp pos'
    simp [hraw, hnl, hcr, hsimple, hoct, octalDigits_collapseBraces, hcp', hdrop]
    refine ih (fun _ => ?_) h _
    rw [show ds.length - 1 = ((rest'.take 2).takeWhile isOctal).length from rfl,
      escapesBrace_drop _ fun x hx => (hplain x hx).2]
    exact hrest
  | case12 pos out c hb hc e rest' hnl hcr hsimple hoct n hw w hw' ch hcp ih =>
    obtain ⟨rfl, hraw⟩ := backslash_of_escape hc
    obtain ⟨hcol, hrest⟩ := collapseBraces_escape (hesc hraw)
    have hplain := plain_of_hexValue? hw'
    have hdrop := (collapseBraces_take_drop _ fun x hx => (hplain x hx).1).2
    rw [hcol, decodeLoop.eq_def]
    simp only [beq_iff_eq] at hnl hcr
    simp [hraw, hnl, hcr, hsimple, hoct, hw, hexValue?_collapseBraces hw', codePoint_offset hcp pos',
      hdrop]
    refine ih (fun _ => ?_) h _
    rw [escapesBrace_drop _ fun x hx => (hplain x hx).2]
    exact hrest
  | case11 | case13 | case14 | case15 => simp at h
  | case16 pos out c hb hc e rest' hnl hcr hsimple hoct hw hN ih =>
    obtain ⟨rfl, hraw⟩ := backslash_of_escape hc
    obtain ⟨hcol, hrest⟩ := collapseBraces_escape (hesc hraw)
    rw [hcol, decodeLoop.eq_def]
    simp only [beq_iff_eq] at hnl hcr
    simp [hraw, hnl, hcr, hsimple, hoct, hw]
    rw [if_neg (by simpa using hN)]
    exact ih (fun _ => hrest) h _
  | case17 pos out c rest hb hc ih =>
    have hb' : (c == '{' || c == '}') = false := by simpa using hb
    rw [collapseBraces_cons hb', decodeLoop_plain_cons (Bool.eq_false_iff.mpr hc)]
    refine ih (fun hraw => ?_) h _
    have hne : c ≠ '\\' := fun hcb => hc (by simp [hcb, hraw])
    rw [← escapesBrace_cons hne]
    exact hesc hraw

/-- **Decoding f-string text reads its doubled braces as the scan does**: with no escaping
backslash right before a brace, the value is that of the text with each doubled brace written once. -/
theorem decode_reads_doubled_braces (text : String) (flags : StringFlags) {v : String}
    (hesc : flags.raw = false → escapesBrace text.toList = false)
    (h : decode text flags true = .ok v) :
    decode (String.ofList (collapseBraces text.toList)) flags false = .ok v := by
  have hloop : decodeLoop flags false (collapseBraces text.toList) 0 "" = .ok v := by
    unfold decode at h
    dsimp only at h
    split at h
    · next hshort =>
      cases h
      simp only [Bool.true_and, String.any, String.contains_bool_eq, Bool.and_eq_true,
        Bool.not_eq_true', List.any_eq_false, Bool.or_eq_true] at hshort
      obtain ⟨hnb, hplain⟩ := hshort
      rw [collapseBraces_of_noBrace fun c hc => by simpa using hnb c hc,
        decodeLoop_of_plain (hplain.imp id fun hno hm => by simpa using hno '\\' hm)]
      simp
    · exact decodeLoop_collapseBraces hesc h 0
  unfold decode
  dsimp only
  split
  · next hshort =>
    simp only [Bool.false_and, Bool.not_false, Bool.true_and, String.any, String.contains_bool_eq,
      String.toList_ofList, Bool.or_eq_true, Bool.not_eq_true', List.any_eq_false] at hshort
    rw [decodeLoop_of_plain (hshort.imp id fun hno hm => by simpa using hno '\\' hm)] at hloop
    simpa using hloop
  · rw [String.toList_ofList]
    exact hloop

theorem decode_reads_doubled_braces_tab :
    (escapesBrace "\\t\x7b\x7bx\x7d\x7d".toList = false ∧
      decode "\\t\x7b\x7bx\x7d\x7d" { formatted := true } true = .ok "\t\x7bx\x7d") ∧
      decode (String.ofList (collapseBraces "\\t\x7b\x7bx\x7d\x7d".toList))
        { formatted := true } false = .ok "\t\x7bx\x7d" := by
  have hchars : "\\t\x7b\x7bx\x7d\x7d".toList = ['\\', 't', '{', '{', 'x', '}', '}'] := by decide
  have hdec : decode "\\t\x7b\x7bx\x7d\x7d" { formatted := true } true = .ok "\t\x7bx\x7d" := by
    simp [decode, String.any, String.contains_bool_eq, hchars, decodeLoop, Escape.simpleEscape?]
  exact ⟨⟨by decide, hdec⟩, decode_reads_doubled_braces _ _ (fun _ => by decide) hdec⟩

/-- A backslash before a doubled brace: the scan of `f'\{{'` gives the text `\{{` as the
literal's end, with a doubled brace in it, and the decoder keeps both braces, where the text with
its doubled brace collapsed decodes to `\{`. -/
theorem escaped_doubled_brace_keeps_both :
    (tokenize "f'\\\x7b\x7b'" {}).map (fun toks => toks.toList.map Token.kind) =
        .ok [.fstringStart ⟨.single, .single, { formatted := true }, 1⟩, .fstringEnd ⟨2, 5⟩, .eof] ∧
      (Source.ofString "f'\\\x7b\x7b'").slice ⟨2, 5⟩ = "\\\x7b\x7b" ∧
      escapesBrace "\\\x7b\x7b".toList = true ∧
      decode "\\\x7b\x7b" { formatted := true } true = .ok "\\\x7b\x7b" ∧
      decode (String.ofList (collapseBraces "\\\x7b\x7b".toList)) { formatted := true } false =
        .ok "\\\x7b" := by
  have hchars : "\\\x7b\x7b".toList = ['\\', '{', '{'] := by decide
  have hcol : collapseBraces ['\\', '{', '{'] = ['\\', '{'] := by decide
  refine ⟨by decide +kernel, by decide +kernel, by decide, ?_⟩
  simp [decode, hchars, hcol, decodeLoop, Escape.simpleEscape?, Escape.isOctal, Escape.octalDigit?,
    Escape.hexWidth?]

end ExprFront
