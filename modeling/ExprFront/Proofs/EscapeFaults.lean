import ExprFront.Proofs.DoubledBraces

/-!
# Where decoding a literal fails

Read from the left, the raw text of a literal falls into pieces (`Escape.split`): outside a raw
literal a backslash and the character after it begin an escape, which an octal digit extends by
up to two more octal digits, and `x` (and outside bytes literals `u` and `U`) by as many hex
digits as the escape takes; in f-string text `{{` and `}}` are pairs; every other character
stands alone. The pieces tile the text (`split_text`).

An escape is malformed (`RawPiece.fault?`) when it takes hex digits and fewer follow than it
takes, when its numeric value is a surrogate, beyond `0x10FFFF`, or in a bytes literal beyond
`0xFF`, or when it is a named escape `\N` outside a bytes literal. `Escape.firstFault` reports the
first malformed piece at the byte offset where it starts.

The main statement, `decode_fails_at_first_malformed_escape`, says that decoding fails exactly
when a piece is malformed, and then with the fault of the first one, at the offset of its
backslash. The decoder's loop is followed case by case (`decodeLoop_error_iff`); its shortcut
applies only to text without escapes, where no piece is malformed.
-/

namespace ExprFront

namespace Escape

/-! ## The pieces of a raw text -/

/-- A piece of the raw text of a literal. -/
inductive RawPiece where
  /-- A character on its own. -/
  | plain (c : Char)
  /-- A doubled brace in f-string text. -/
  | pair (c : Char)
  /-- A backslash, the character after it, and the digits that extend the escape. -/
  | escape (letter : Char) (digits : List Char)
  deriving DecidableEq, Repr

namespace RawPiece

/-- The characters of a piece. -/
def text : RawPiece → List Char
  | .plain c => [c]
  | .pair c => [c, c]
  | .escape e ds => '\\' :: e :: ds

/-- The number of bytes of a piece. -/
def size (p : RawPiece) : Nat := (p.text.map Char.utf8Size).sum

end RawPiece

/-- The digits that extend an escape with the letter `e`, read from the characters after it: up
to two more octal digits after an octal digit, and the hex digits of an escape that takes them,
up to as many as it takes. -/
def extension (bytes : Bool) (e : Char) (rest : List Char) : List Char :=
  if isOctal e then (rest.take 2).takeWhile isOctal
  else
    match hexWidth? bytes e with
    | some n => (rest.take n).takeWhile fun c => (hexDigit? c).isSome
    | none => []

/-- The pieces of a raw text, read from the left. -/
def split (flags : StringFlags) (inFString : Bool) : List Char → List RawPiece
  | [] => []
  | c :: rest =>
    if inFString = true ∧ (c = '{' ∨ c = '}') ∧ rest.head? = some c then
      .pair c :: split flags inFString (rest.drop 1)
    else if c = '\\' ∧ flags.raw = false then
      match rest with
      | [] => [.plain c]
      | e :: rest' =>
        .escape e (extension flags.bytes e rest') ::
          split flags inFString (rest'.drop (extension flags.bytes e rest').length)
    else .plain c :: split flags inFString rest
termination_by cs => cs.length
decreasing_by
  all_goals
    try simp only [List.length_drop, List.length_cons]
    omega

/-- The value of a run of digits in a base, each read as a hex digit. -/
def digitsValue (base : Nat) (ds : List Char) : Nat :=
  ds.foldl (fun v c => v * base + (hexDigit? c).getD 0) 0

/-- The fault of a numeric escape with the value `v`, if `v` names no character: a surrogate, a
value beyond `0x10FFFF`, or in a bytes literal a value beyond `0xFF`. -/
def valueFault? (bytes : Bool) (v : Nat) : Option EscapeFault :=
  if (0xD800 ≤ v ∧ v ≤ 0xDFFF) ∨ 0x10FFFF < v ∨ (bytes = true ∧ 0xFF < v) then
    some (.invalidCodePoint v)
  else none

/-- What is wrong with a piece, if it is a malformed escape: an octal escape whose value names
no character, a hex escape with fewer digits than it takes or whose value names no character,
or a named escape outside a bytes literal. -/
def RawPiece.fault? (bytes : Bool) : RawPiece → Option EscapeFault
  | .escape e ds =>
    if isOctal e then valueFault? bytes (digitsValue 8 (e :: ds))
    else
      match hexWidth? bytes e with
      | some n => if ds.length < n then some (.truncatedHex e n) else valueFault? bytes (digitsValue 16 ds)
      | none => if e = 'N' ∧ bytes = false then some .namedUnicode else none
  | _ => none

/-- The first malformed piece, with the offset where it starts, counting from `pos`. -/
def firstFault (bytes : Bool) (pos : Nat) : List RawPiece → Option EscapeError
  | [] => none
  | p :: ps =>
    match p.fault? bytes with
    | some f => some ⟨pos, f⟩
    | none => firstFault bytes (pos + p.size) ps

/-! ## Digits -/

variable {c e : Char} {cs rest : List Char} {bytes : Bool}

/-- A character below `0x80` is one byte. -/
lemma utf8Size_of_ascii (h : c ≤ '\x7f') : c.utf8Size = 1 := Char.utf8Size_eq_one_iff.2 h

/-- An octal digit is a hex digit of the same value. -/
lemma hexDigit?_of_octalDigit? {x : Nat} (h : octalDigit? c = some x) : hexDigit? c = some x := by
  unfold octalDigit? at h
  unfold hexDigit?
  split_ifs at h with h8
  cases h
  rw [if_pos ⟨h8.1, le_trans h8.2 (by decide)⟩]

/-- A hex digit is one byte. -/
lemma utf8Size_of_hexDigit (h : (hexDigit? c).isSome) : c.utf8Size = 1 := by
  unfold hexDigit? at h
  split_ifs at h with h1 h2 h3
  · exact utf8Size_of_ascii (le_trans h1.2 (by decide))
  · exact utf8Size_of_ascii (le_trans h2.2 (by decide))
  · exact utf8Size_of_ascii (le_trans h3.2 (by decide))
  · simp at h

lemma hexDigit_of_isOctal (h : isOctal c = true) : (hexDigit? c).isSome := by
  unfold isOctal at h
  obtain ⟨x, hx⟩ := Option.isSome_iff_exists.mp h
  rw [hexDigit?_of_octalDigit? hx]
  rfl

/-- The value of digits read one by one, as the decoder reads them, from any start. -/
lemma foldlM_digits {base : Nat} {digit? : Char → Option Nat}
    (hd : ∀ c x, digit? c = some x → hexDigit? c = some x) :
    ∀ (ds : List Char) (a : Nat), (∀ c ∈ ds, (digit? c).isSome) →
      ds.foldlM (fun v c => (digit? c).map (v * base + ·)) a =
        some (ds.foldl (fun v c => v * base + (hexDigit? c).getD 0) a)
  | [], _, _ => rfl
  | c :: ds, a, h => by
    obtain ⟨x, hx⟩ := Option.isSome_iff_exists.mp (h c List.mem_cons_self)
    simp only [List.foldlM_cons, hx, Option.map_some, Option.bind_eq_bind, Option.bind_some,
      List.foldl_cons, hd c x hx, Option.getD_some]
    exact foldlM_digits hd ds _ fun c hc => h c (List.mem_cons_of_mem _ hc)

/-- Octal digits have the value the decoder reads. -/
lemma digitsValue?_octal {ds : List Char} (h : ∀ c ∈ ds, isOctal c = true) :
    digitsValue? 8 octalDigit? ds = some (digitsValue 8 ds) :=
  foldlM_digits (fun _ _ hx => hexDigit?_of_octalDigit? hx) ds 0 h

/-- Hex digits have the value the decoder reads. -/
lemma digitsValue?_hex {ds : List Char} (h : ∀ c ∈ ds, (hexDigit? c).isSome) :
    digitsValue? 16 hexDigit? ds = some (digitsValue 16 ds) :=
  foldlM_digits (fun _ _ hx => hx) ds 0 h

/-- A hex escape reads its `n` digits when all of them are there, with their value. -/
lemma hexValue?_of_takeWhile {n : Nat}
    (h : ((rest.take n).takeWhile fun c => (hexDigit? c).isSome).length = n) :
    hexValue? n rest = some (digitsValue 16 (rest.take n)) ∧
      ((rest.take n).takeWhile fun c => (hexDigit? c).isSome) = rest.take n := by
  have hle : ((rest.take n).takeWhile fun c => (hexDigit? c).isSome).length ≤ (rest.take n).length :=
    (List.takeWhile_prefix _).length_le
  have hlen : (rest.take n).length = n := by
    have := List.length_take_le n rest
    omega
  have hall : ((rest.take n).takeWhile fun c => (hexDigit? c).isSome) = rest.take n :=
    (List.takeWhile_prefix _).eq_of_length (by omega)
  refine ⟨?_, hall⟩
  have hdigits : ∀ c ∈ rest.take n, (hexDigit? c).isSome := by
    rw [← hall]
    exact fun c hc => List.mem_takeWhile_imp (p := fun c => (hexDigit? c).isSome) hc
  simp only [hexValue?, hlen, if_true, digitsValue?_hex hdigits]

/-- A hex escape with fewer digits than it takes reads none. -/
lemma hexValue?_of_takeWhile_lt {n : Nat}
    (h : ((rest.take n).takeWhile fun c => (hexDigit? c).isSome).length < n) :
    hexValue? n rest = none := by
  unfold hexValue?
  dsimp only
  split_ifs with hlen
  · cases hv : digitsValue? 16 hexDigit? (rest.take n) with
    | none => rfl
    | some v =>
      have hall := isSome_of_digitsValue? hv
      rw [List.takeWhile_eq_self_iff.mpr hall] at h
      omega
  · rfl

/-- A value names a character exactly when it has no fault, wherever its escape stands. -/
lemma codePoint_eq (pos v : Nat) :
    codePoint bytes pos v =
      match valueFault? bytes v with
      | none => .ok (Char.ofNat v)
      | some f => .error ⟨pos, f⟩ := by
  have hiff : (v ≤ (if bytes then 0xFF else 0x10FFFF) ∧ ¬(0xD800 ≤ v ∧ v ≤ 0xDFFF)) ↔
      ¬((0xD800 ≤ v ∧ v ≤ 0xDFFF) ∨ 0x10FFFF < v ∨ (bytes = true ∧ 0xFF < v)) := by
    cases bytes <;> simp <;> omega
  unfold codePoint valueFault?
  by_cases h : (0xD800 ≤ v ∧ v ≤ 0xDFFF) ∨ 0x10FFFF < v ∨ (bytes = true ∧ 0xFF < v)
  · rw [if_neg fun h' => hiff.mp h' h, if_pos h]
  · rw [if_pos (hiff.mpr h), if_neg h]

/-- A hex escape reads exactly the digits that extend it, and fails when fewer than it takes
follow. -/
lemma hexValue?_eq (n : Nat) (rest : List Char) :
    hexValue? n rest =
      if ((rest.take n).takeWhile fun c => (hexDigit? c).isSome).length < n then none
      else some (digitsValue 16 (rest.take n)) := by
  split_ifs with hlt
  · exact hexValue?_of_takeWhile_lt hlt
  · have hle : ((rest.take n).takeWhile fun c => (hexDigit? c).isSome).length ≤ n :=
      ((List.takeWhile_prefix _).length_le).trans (List.length_take_le _ _)
    exact (hexValue?_of_takeWhile (by omega)).1

/-! ## Escape letters -/

/-- A letter of a one-letter escape is one byte, and neither begins a numeric escape nor is `N`. -/
lemma letter_of_simpleEscape? {v : Char} (h : simpleEscape? e = some v) :
    isOctal e = false ∧ hexWidth? bytes e = none ∧ e ≠ 'N' ∧ e.utf8Size = 1 := by
  unfold simpleEscape? at h
  split at h <;> first | (cases bytes <;> decide) | simp at h

/-- A letter that takes hex digits is one byte and no octal digit. -/
lemma letter_of_hexWidth? {n : Nat} (h : hexWidth? bytes e = some n) :
    isOctal e = false ∧ e ≠ 'N' ∧ e.utf8Size = 1 := by
  unfold hexWidth? at h
  split at h
  · decide
  · split_ifs at h
    decide
  · split_ifs at h
    decide
  · simp at h

/-- An octal digit is one byte. -/
lemma utf8Size_of_isOctal (h : isOctal c = true) : c.utf8Size = 1 :=
  utf8Size_of_hexDigit (hexDigit_of_isOctal h)

/-! ## Pieces -/

namespace RawPiece

@[simp] lemma size_plain (c : Char) : (plain c).size = c.utf8Size := by simp [size, text]

lemma size_pair (hc : c = '{' ∨ c = '}') : (pair c).size = 2 := by
  rcases hc with rfl | rfl <;> rfl

/-- An escape whose digits are one byte each. -/
lemma size_escape {ds : List Char} (h : ∀ c ∈ ds, c.utf8Size = 1) :
    (escape e ds).size = 1 + e.utf8Size + ds.length := by
  have hsum : (ds.map Char.utf8Size).sum = ds.length := by
    rw [List.map_congr_left h]
    simp
  simp only [size, text, List.map_cons, List.sum_cons, hsum]
  simp only [show Char.utf8Size '\\' = 1 from rfl]
  omega

@[simp] lemma fault?_plain (c : Char) : (plain c).fault? bytes = none := rfl

@[simp] lemma fault?_pair (c : Char) : (pair c).fault? bytes = none := rfl

/-- An escape with a letter that takes no digits is malformed only as a named escape. -/
lemma fault?_escape_of_letter (ho : isOctal e = false) (hw : hexWidth? bytes e = none) :
    (escape e []).fault? bytes = if e = 'N' ∧ bytes = false then some .namedUnicode else none := by
  simp [fault?, ho, hw]

end RawPiece

/-- A letter that takes no digits is extended by none. -/
lemma extension_of_letter (ho : isOctal e = false) (hw : hexWidth? bytes e = none) :
    extension bytes e rest = [] := by
  simp [extension, ho, hw]

/-! ## How the text falls into pieces -/

section Split

variable {flags : StringFlags} {inFString : Bool}

@[simp] lemma split_nil : split flags inFString [] = [] := by
  rw [split]

/-- A doubled brace in f-string text is a pair. -/
lemma split_pair (hin : inFString = true) (hc : c = '{' ∨ c = '}') (rest : List Char) :
    split flags inFString (c :: c :: rest) = .pair c :: split flags inFString rest := by
  rw [split]
  simp [hin, hc]

/-- Outside a raw literal a backslash and the character after it begin an escape. -/
lemma split_escape (hraw : flags.raw = false) (e : Char) (rest : List Char) :
    split flags inFString ('\\' :: e :: rest) =
      .escape e (extension flags.bytes e rest) ::
        split flags inFString (rest.drop (extension flags.bytes e rest).length) := by
  rw [split.eq_def]
  simp [hraw]

/-- A backslash at the end of the text stands alone. -/
lemma split_backslash : split flags inFString ['\\'] = [.plain '\\'] := by
  rw [split]
  simp only [List.head?_nil, reduceCtorEq, and_false, if_false, true_and]
  split_ifs <;> simp

/-- A character that begins neither a pair nor an escape stands alone. -/
lemma split_plain (hpair : ¬(inFString = true ∧ (c = '{' ∨ c = '}') ∧ rest.head? = some c))
    (hesc : ¬(c = '\\' ∧ flags.raw = false)) :
    split flags inFString (c :: rest) = .plain c :: split flags inFString rest := by
  rw [split.eq_def]
  dsimp only
  rw [if_neg hpair, if_neg hesc]

/-- A brace of f-string text that the next character does not double stands alone. -/
lemma split_brace (hc : c = '{' ∨ c = '}') (hd : rest.head? ≠ some c) :
    split flags inFString (c :: rest) = .plain c :: split flags inFString rest := by
  have hb : c ≠ '\\' := by rcases hc with rfl | rfl <;> decide
  exact split_plain (fun h => hd h.2.2) (fun h => hb h.1)

/-- The digits that extend an escape are the characters after its letter. -/
lemma extension_prefix (e : Char) (rest : List Char) : extension bytes e rest <+: rest := by
  unfold extension
  split_ifs
  · exact (List.takeWhile_prefix _).trans (List.take_prefix _ _)
  · split
    · exact (List.takeWhile_prefix _).trans (List.take_prefix _ _)
    · exact List.nil_prefix

/-- **The pieces tile the text.** -/
theorem split_text (flags : StringFlags) (inFString : Bool) (cs : List Char) :
    (split flags inFString cs).flatMap RawPiece.text = cs := by
  fun_induction split flags inFString cs with
  | case1 => rfl
  | case2 c rest hpair ih =>
    obtain ⟨-, -, hhead⟩ := hpair
    obtain ⟨r, rfl⟩ : ∃ r, rest = c :: r := by
      cases rest with
      | nil => simp at hhead
      | cons x r => exact ⟨r, by simpa using hhead⟩
    simpa [RawPiece.text] using ih
  | case3 => rfl
  | case4 c hesc e rest' _ ih =>
    rw [List.flatMap_cons, ih, hesc.1]
    simp only [RawPiece.text, List.cons_append, List.cons.injEq, true_and]
    have hpre : extension flags.bytes e rest' <+: rest' := extension_prefix e rest'
    obtain ⟨t, ht⟩ := hpre
    generalize extension flags.bytes e rest' = x at ht ⊢
    subst ht
    simp
  | case5 c rest _ _ ih => simp [RawPiece.text, ih]

end Split

/-! ## The first malformed piece -/

lemma firstFault_cons_of_none {p : RawPiece} {ps : List RawPiece} {pos : Nat}
    (h : p.fault? bytes = none) : firstFault bytes pos (p :: ps) = firstFault bytes (pos + p.size) ps := by
  simp [firstFault, h]

lemma firstFault_cons_of_some {p : RawPiece} {ps : List RawPiece} {pos : Nat} {f : EscapeFault}
    (h : p.fault? bytes = some f) : firstFault bytes pos (p :: ps) = some ⟨pos, f⟩ := by
  simp [firstFault, h]

/-- No piece is reported exactly when none is malformed. -/
lemma firstFault_eq_none_iff {ps : List RawPiece} {pos : Nat} :
    firstFault bytes pos ps = none ↔ ∀ p ∈ ps, p.fault? bytes = none := by
  induction ps generalizing pos with
  | nil => simp [firstFault]
  | cons p ps ih =>
    cases hp : p.fault? bytes with
    | none => simp [firstFault_cons_of_none hp, ih, hp]
    | some f => simp [firstFault_cons_of_some hp, hp]

/-- The digits an octal escape reads are octal digits. -/
lemma octal_digits (hoct : isOctal e = true) :
    ∀ x ∈ e :: (rest.take 2).takeWhile isOctal, isOctal x = true := by
  intro x hx
  rcases List.mem_cons.mp hx with rfl | hx
  · exact hoct
  · exact List.mem_takeWhile_imp hx

/-! ## Past one escape -/

section Escapes

open RawPiece

variable {flags : StringFlags} {inFString : Bool} {pos : Nat}

/-- Past an escape whose letter takes no digits, and which is no named escape that the literal
refuses, the search goes on after the letter. -/
lemma firstFault_letter (hraw : flags.raw = false) (ho : isOctal e = false)
    (hw : hexWidth? flags.bytes e = none) (hN : ¬(e = 'N' ∧ flags.bytes = false)) :
    firstFault flags.bytes pos (split flags inFString ('\\' :: e :: rest)) =
      firstFault flags.bytes (pos + 1 + e.utf8Size) (split flags inFString rest) := by
  rw [split_escape hraw, extension_of_letter ho hw, firstFault_cons_of_none
    (by rw [fault?_escape_of_letter ho hw, if_neg hN]), size_escape (by simp)]
  simp only [List.length_nil, List.drop_zero, Nat.add_zero, Nat.add_assoc]

/-- A named escape that the literal refuses is reported at its backslash. -/
lemma firstFault_named (hraw : flags.raw = false) (hbytes : flags.bytes = false) :
    firstFault flags.bytes pos (split flags inFString ('\\' :: 'N' :: rest)) =
      some ⟨pos, .namedUnicode⟩ := by
  have ho : isOctal 'N' = false := by decide
  have hw : hexWidth? flags.bytes 'N' = none := by rw [hbytes]; rfl
  rw [split_escape hraw, extension_of_letter ho hw, firstFault_cons_of_some
    (by rw [fault?_escape_of_letter ho hw, if_pos ⟨rfl, hbytes⟩])]

/-- An octal escape is reported when its value names no character; else the search goes on
after its digits. -/
lemma firstFault_octal (hraw : flags.raw = false) (ho : isOctal e = true) :
    firstFault flags.bytes pos (split flags inFString ('\\' :: e :: rest)) =
      match valueFault? flags.bytes (digitsValue 8 (e :: (rest.take 2).takeWhile isOctal)) with
      | some f => some ⟨pos, f⟩
      | none => firstFault flags.bytes (pos + 2 + ((rest.take 2).takeWhile isOctal).length)
          (split flags inFString (rest.drop ((rest.take 2).takeWhile isOctal).length)) := by
  have hext : extension flags.bytes e rest = (rest.take 2).takeWhile isOctal := by
    simp [extension, ho]
  have hfault : (escape e ((rest.take 2).takeWhile isOctal)).fault? flags.bytes =
      valueFault? flags.bytes (digitsValue 8 (e :: (rest.take 2).takeWhile isOctal)) := by
    simp [fault?, ho]
  rw [split_escape hraw, hext]
  cases hv : valueFault? flags.bytes (digitsValue 8 (e :: (rest.take 2).takeWhile isOctal)) with
  | some f => rw [firstFault_cons_of_some (hfault.trans hv)]
  | none =>
    rw [firstFault_cons_of_none (hfault.trans hv), size_escape fun c hc =>
      utf8Size_of_isOctal (List.mem_takeWhile_imp hc), utf8Size_of_isOctal ho]
    dsimp only
    congr 1
    omega

/-- A hex escape is reported when fewer digits follow than it takes, or when its value names no
character; else the search goes on after its digits. -/
lemma firstFault_hex {n : Nat} (hraw : flags.raw = false) (hw : hexWidth? flags.bytes e = some n) :
    firstFault flags.bytes pos (split flags inFString ('\\' :: e :: rest)) =
      match hexValue? n rest with
      | none => some ⟨pos, .truncatedHex e n⟩
      | some v =>
        match valueFault? flags.bytes v with
        | some f => some ⟨pos, f⟩
        | none => firstFault flags.bytes (pos + 2 + n) (split flags inFString (rest.drop n)) := by
  obtain ⟨ho, -, he⟩ := letter_of_hexWidth? hw
  have hext : extension flags.bytes e rest = (rest.take n).takeWhile fun c => (hexDigit? c).isSome := by
    simp [extension, ho, hw]
  have hfault : ∀ ds, (escape e ds).fault? flags.bytes =
      if ds.length < n then some (.truncatedHex e n) else valueFault? flags.bytes (digitsValue 16 ds) := by
    intro ds
    simp [fault?, ho, hw]
  rw [split_escape hraw, hext, hexValue?_eq]
  split_ifs with hlt
  · rw [firstFault_cons_of_some (by rw [hfault, if_pos hlt])]
  · have hle : ((rest.take n).takeWhile fun c => (hexDigit? c).isSome).length ≤ n :=
      ((List.takeWhile_prefix _).length_le).trans (List.length_take_le n rest)
    have hall := (hexValue?_of_takeWhile
      (show ((rest.take n).takeWhile fun c => (hexDigit? c).isSome).length = n by omega)).2
    have hlen : (rest.take n).length = n := by
      have := congrArg List.length hall
      have := List.length_take_le n rest
      omega
    rw [hall]
    cases hv : valueFault? flags.bytes (digitsValue 16 (rest.take n)) with
    | some f =>
      have hf : (escape e (rest.take n)).fault? flags.bytes = some f := by
        rw [hfault, if_neg (by omega), hv]
      simp only [firstFault_cons_of_some hf, hv]
    | none =>
      have hdigits : ∀ c ∈ rest.take n, (hexDigit? c).isSome := by
        rw [← hall]
        exact fun c hc => List.mem_takeWhile_imp (p := fun c => (hexDigit? c).isSome) hc
      have hf : (escape e (rest.take n)).fault? flags.bytes = none := by
        rw [hfault, if_neg (by omega), hv]
      rw [firstFault_cons_of_none hf,
        size_escape fun c hc => utf8Size_of_hexDigit (hdigits c hc), he, hlen]
      simp only [hv]
      congr 1
      omega

end Escapes

/-! ## The decoder's loop -/

open RawPiece

/-- **The decoder's loop fails at the first malformed piece**, wherever it starts. The induction
follows the loop; in each case the text before the loop's next call is one piece, or in the case
of a carriage return and a line feed after a backslash, an escape and the line feed after it. -/
theorem decodeLoop_error_iff (flags : StringFlags) (inFString : Bool) (cs : List Char) (pos : Nat)
    (out : String) (err : EscapeError) :
    decodeLoop flags inFString cs pos out = .error err ↔
      firstFault flags.bytes pos (split flags inFString cs) = some err := by
  fun_induction decodeLoop flags inFString cs pos out with
  | case1 pos out => simp [firstFault]
  | case2 pos out c hb d rest' hd ih =>
    simp only [Bool.and_eq_true, Bool.or_eq_true, beq_iff_eq] at hb hd
    subst hd
    obtain ⟨rfl, hc⟩ := hb
    rw [ih, split_pair rfl hc, firstFault_cons_of_none (fault?_pair _), size_pair hc]
  | case3 pos out c hb d rest' hd ih =>
    simp only [Bool.and_eq_true, Bool.or_eq_true, beq_iff_eq] at hb hd
    obtain ⟨rfl, hc⟩ := hb
    rw [ih, split_brace hc (by simpa using hd), firstFault_cons_of_none (fault?_plain _),
      size_plain, utf8Size_of_ascii (by rcases hc with rfl | rfl <;> decide)]
  | case4 pos out c hb =>
    simp only [Bool.and_eq_true, Bool.or_eq_true, beq_iff_eq] at hb
    simp [show split flags inFString [c] = _ from split_brace hb.2 (by simp), firstFault]
  | case5 pos out c hb hc =>
    obtain ⟨rfl, hraw⟩ := backslash_of_escape hc
    simp [split_backslash, firstFault]
  | case6 pos out c hb hc e rest' he ih =>
    obtain ⟨rfl, hraw⟩ := backslash_of_escape hc
    rw [beq_iff_eq.mp he, ih, firstFault_letter hraw (by decide) (by cases flags.bytes <;> rfl)
      fun h => absurd h.1 (by decide)]
    rfl
  | case7 pos out c hb hc e rest' hnl hcr hhead ih =>
    obtain ⟨rfl, hraw⟩ := backslash_of_escape hc
    obtain ⟨r, rfl⟩ : ∃ r, rest' = '\n' :: r := by
      cases rest' with
      | nil => simp at hhead
      | cons x r => exact ⟨r, by simpa using hhead⟩
    rw [beq_iff_eq.mp hcr, ih, firstFault_letter hraw (by decide) (by cases flags.bytes <;> rfl)
      (fun h => absurd h.1 (by decide)), split_plain (by simp) (by simp),
      firstFault_cons_of_none (fault?_plain _)]
    rfl
  | case8 pos out c hb hc e rest' hnl hcr hhead ih =>
    obtain ⟨rfl, hraw⟩ := backslash_of_escape hc
    rw [beq_iff_eq.mp hcr, ih, firstFault_letter hraw (by decide) (by cases flags.bytes <;> rfl)
      fun h => absurd h.1 (by decide)]
    rfl
  | case9 pos out c hb hc e rest' hnl hcr ch hsimple ih =>
    obtain ⟨rfl, hraw⟩ := backslash_of_escape hc
    have hletter : isOctal e = false ∧ hexWidth? flags.bytes e = none ∧ e ≠ 'N' ∧ e.utf8Size = 1 :=
      letter_of_simpleEscape? hsimple
    obtain ⟨ho, hw, hN, hsize⟩ := hletter
    rw [ih, firstFault_letter hraw ho hw fun h => hN h.1, hsize]
  | case10 pos out c hb hc e rest' hnl hcr hsimple hoct ds ch hcp ih =>
    obtain ⟨rfl, hraw⟩ := backslash_of_escape hc
    rw [digitsValue?_octal (octal_digits hoct), Option.getD_some, codePoint_eq] at hcp
    rw [ih, firstFault_octal hraw hoct]
    split at hcp <;> rename_i hv
    · have hlen : ∀ k, pos + 1 + (k + 1) = pos + 2 + k := fun k => by omega
      simp only [hv, ds, List.length_cons, Nat.add_sub_cancel, hlen]
    · cases hcp
  | case11 pos out c hb hc e rest' hnl hcr hsimple hoct ds err' hcp =>
    obtain ⟨rfl, hraw⟩ := backslash_of_escape hc
    rw [digitsValue?_octal (octal_digits hoct), Option.getD_some, codePoint_eq] at hcp
    rw [firstFault_octal hraw hoct]
    split at hcp <;> rename_i hv
    · cases hcp
    · cases hcp
      simp [hv]
  | case12 pos out c hb hc e rest' hnl hcr hsimple hoct n hw v hv ch hcp ih =>
    obtain ⟨rfl, hraw⟩ := backslash_of_escape hc
    rw [codePoint_eq] at hcp
    rw [ih, firstFault_hex hraw hw, hv]
    split at hcp <;> rename_i hval
    · simp only [hval]
    · cases hcp
  | case13 pos out c hb hc e rest' hnl hcr hsimple hoct n hw v hv err' hcp =>
    obtain ⟨rfl, hraw⟩ := backslash_of_escape hc
    rw [codePoint_eq] at hcp
    rw [firstFault_hex hraw hw, hv]
    split at hcp <;> rename_i hval
    · cases hcp
    · cases hcp
      simp [hval]
  | case14 pos out c hb hc e rest' hnl hcr hsimple hoct n hw hv =>
    obtain ⟨rfl, hraw⟩ := backslash_of_escape hc
    rw [firstFault_hex hraw hw, hv]
    simp
  | case15 pos out c hb hc e rest' hnl hcr hsimple hoct hw hN =>
    obtain ⟨rfl, hraw⟩ := backslash_of_escape hc
    simp only [Bool.and_eq_true, beq_iff_eq, Bool.not_eq_true'] at hN
    obtain ⟨rfl, hbytes⟩ := hN
    rw [firstFault_named hraw hbytes]
    simp
  | case16 pos out c hb hc e rest' hnl hcr hsimple hoct hw hN ih =>
    obtain ⟨rfl, hraw⟩ := backslash_of_escape hc
    rw [ih, firstFault_letter hraw (by simpa using hoct) hw (by simpa using hN)]
  | case17 pos out c rest hb hc ih =>
    rw [ih, split_plain (fun h => hb (by simp [h.1, h.2.1])) (by simpa using hc),
      firstFault_cons_of_none (fault?_plain _), size_plain]

/-- An escape among the pieces stands for a backslash of the text, outside a raw literal. -/
lemma raw_of_mem_split {flags : StringFlags} {inFString : Bool} {cs : List Char} {e : Char}
    {ds : List Char} (h : RawPiece.escape e ds ∈ split flags inFString cs) :
    flags.raw = false ∧ '\\' ∈ cs := by
  fun_induction split flags inFString cs with
  | case1 => simp at h
  | case2 c rest _ ih =>
    rcases List.mem_cons.mp h with h | h
    · cases h
    · exact (ih h).imp_right fun hm => List.mem_cons_of_mem _ (List.mem_of_mem_drop hm)
  | case3 => simp at h
  | case4 c hesc e' rest' _ ih =>
    rcases List.mem_cons.mp h with h | h
    · exact ⟨hesc.2, hesc.1 ▸ List.mem_cons_self⟩
    · exact (ih h).imp_right fun hm =>
        List.mem_cons_of_mem _ (List.mem_cons_of_mem _ (List.mem_of_mem_drop hm))
  | case5 c rest _ _ ih =>
    rcases List.mem_cons.mp h with h | h
    · cases h
    · exact (ih h).imp_right (List.mem_cons_of_mem _)

/-- Text of a raw literal, or with no backslash, has no malformed piece. -/
lemma firstFault_of_plain {flags : StringFlags} {inFString : Bool} {cs : List Char} {pos : Nat}
    (h : flags.raw = true ∨ '\\' ∉ cs) : firstFault flags.bytes pos (split flags inFString cs) = none := by
  refine firstFault_eq_none_iff.mpr fun p hp => ?_
  cases p with
  | plain c => rfl
  | pair c => rfl
  | escape e ds =>
    obtain ⟨hraw, hmem⟩ := raw_of_mem_split hp
    rcases h with h | h
    · simp [hraw] at h
    · exact absurd hmem h

end Escape

open Escape in
/-- **Decoding fails exactly at the first malformed escape.** The pieces of the raw text tile it;
decoding fails exactly when some piece is a malformed escape; and then it reports the fault of
the first one, at the byte offset where it starts, which is that of its backslash. -/
theorem decode_fails_at_first_malformed_escape (raw : String) (flags : StringFlags)
    (inFString : Bool) :
    (split flags inFString raw.toList).flatMap RawPiece.text = raw.toList ∧
    ((∃ err, decode raw flags inFString = .error err) ↔
      ∃ p ∈ split flags inFString raw.toList, (p.fault? flags.bytes).isSome) ∧
    ∀ err, decode raw flags inFString = .error err ↔
      firstFault flags.bytes 0 (split flags inFString raw.toList) = some err := by
  -- the decoder fails as its loop does; its shortcut is taken only where no piece is malformed
  have herr : ∀ err, decode raw flags inFString = .error err ↔
      firstFault flags.bytes 0 (split flags inFString raw.toList) = some err := by
    intro err
    unfold decode
    dsimp only
    split
    · next hshort =>
      simp only [Bool.and_eq_true, Bool.not_eq_true', Bool.or_eq_true, String.any,
        String.contains_bool_eq, List.any_eq_false] at hshort
      rw [firstFault_of_plain (hshort.2.imp id fun hno hm => by simpa using hno '\\' hm)]
      simp
    · exact decodeLoop_error_iff flags inFString raw.toList 0 "" err
  refine ⟨split_text flags inFString raw.toList, ?_, herr⟩
  constructor
  · rintro ⟨err, h⟩
    by_contra hnone
    have hall : ∀ p ∈ split flags inFString raw.toList, p.fault? flags.bytes = none :=
      fun p hp => Option.not_isSome_iff_eq_none.mp fun hs => hnone ⟨p, hp, hs⟩
    rw [herr, firstFault_eq_none_iff.mpr hall] at h
    cases h
  · rintro ⟨p, hp, hfault⟩
    cases h : firstFault flags.bytes 0 (split flags inFString raw.toList) with
    | none =>
      rw [firstFault_eq_none_iff.mp h p hp] at hfault
      cases hfault
    | some err => exact ⟨err, (herr err).mpr h⟩

end ExprFront
