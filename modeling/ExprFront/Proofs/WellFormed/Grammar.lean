import Mathlib
import ExprFront.Proofs.Precedence.Term

/-!
# A grammar of well-formed f-strings

The words of this grammar are f-strings that the scanner reads without a fault:

```
F ::= f" T { E M [: P [{ E }]] } T "
E ::= name | digits | 'string' | ( E, … ) | [ E, … ] | F
M ::= (nothing) | = | !r | =!s
```

* `T` is text: characters other than quotes, braces, backslashes and line breaks
  (`TextChar`), and doubled braces `{{`, `}}` (`TextPiece`);
* a name is ASCII (`Name`), digits are decimal (`Digits`), and a string is single-quoted, the
  quote other than the f-string's own, with no backslash or line break in it (`StrChar`);
* a tuple's items are separated by `, `;
* the format spec `P` is text over `<`, `>`, `^` and digits (`SpecChar`), and may end in one
  nested field.

`Word` is `F` and `FieldExpr` is `E`; `Word.text` writes a word out. Two measures bound the
nesting a word needs the scanner to allow: `Word.depth`, the most f-strings open at once while
it is read, and `Word.specDepth`, which is `1` when some format spec holds a field.

The scanner reads bytes, so each part also has its UTF-8 bytes (`bytes`), with lemmas that
spell them out part by part. Every character the grammar writes around the parts it nests is
ASCII; text and string bodies may hold any other character, whose bytes are all at least
`0x80` (`utf8EncodeChar_high`) and so none of the bytes the scanner stops on.
-/

namespace ExprFront

namespace FGrammar

/-! ## The characters of text, strings and format specs -/

/-- A character that f-string text holds as it is: anything but a quote, a brace, a backslash
or a line break. -/
def TextChar (c : Char) : Prop := c ∉ ['"', '\'', '{', '}', '\\', '\n', '\r']

instance : DecidablePred TextChar := fun _ => inferInstanceAs (Decidable (_ ∉ _))

/-- A character that a single-quoted string holds as it is: anything but its quote, a
backslash or a line break. -/
def StrChar (c : Char) : Prop := c ∉ ['\'', '\\', '\n', '\r']

instance : DecidablePred StrChar := fun _ => inferInstanceAs (Decidable (_ ∉ _))

/-- A character of a format spec: an alignment sign or a decimal digit. -/
def SpecChar (c : Char) : Prop := c ∈ ['<', '>', '^'] ∨ c.isDigit = true

instance : DecidablePred SpecChar := fun _ => inferInstanceAs (Decidable (_ ∨ _))

/-- A piece of f-string text: a character as it is, or a doubled brace, which stands for one. -/
inductive TextPiece where
  | char (c : Char) (h : TextChar c)
  | openPair
  | closePair

/-- An ASCII name: a letter or `_`, then letters, digits and `_`. -/
structure Name where
  /-- The first character. -/
  first : Char
  /-- The characters after it. -/
  rest : List Char
  first_ok : (first.isAlpha || first == '_') = true
  rest_ok : ∀ c ∈ rest, isNameChar c = true

/-- Decimal digits, at least one. -/
structure Digits where
  /-- The first digit. -/
  first : Char
  /-- The digits after it. -/
  rest : List Char
  digits_ok : ∀ c ∈ first :: rest, c.isDigit = true

/-- The body of a single-quoted string. -/
structure StrBody where
  /-- The characters between the quotes. -/
  chars : List Char
  chars_ok : ∀ c ∈ chars, StrChar c

/-- The text of a format spec. -/
structure SpecText where
  /-- The characters of the spec. -/
  chars : List Char
  chars_ok : ∀ c ∈ chars, SpecChar c

/-- What may follow a field's expression: nothing, `=`, `!r` or `=!s`. -/
inductive Marker where
  | none
  | debug
  | repr
  | debugStr

/-- The brackets of a tuple. -/
inductive TupleBracket where
  | paren
  | square

mutual

/-- An expression of a field: a name, digits, a string, a tuple of expressions, or an
f-string. -/
inductive FieldExpr where
  | name (x : Name)
  | digits (d : Digits)
  | str (body : StrBody)
  | tuple (k : TupleBracket) (items : List FieldExpr)
  | fstring (w : Word)

/-- An f-string `f"…"` with text, one field and more text. -/
structure Word where
  /-- The text before the field. -/
  before : List TextPiece
  /-- The field's expression. -/
  expr : FieldExpr
  /-- The marker after the expression. -/
  marker : Marker
  /-- The field's format spec. -/
  spec : Spec
  /-- The text after the field. -/
  after : List TextPiece

/-- A field's format spec: none, spec text, or spec text that ends in a nested field. -/
inductive Spec where
  | none
  | text (p : SpecText)
  | field (p : SpecText) (e : FieldExpr)

end

/-! ## Writing words out -/

/-- The characters of a piece of text. -/
def TextPiece.chars : TextPiece → List Char
  | .char c _ => [c]
  | .openPair => ['{', '{']
  | .closePair => ['}', '}']

/-- The characters of text. -/
def textChars (ts : List TextPiece) : List Char := ts.flatMap TextPiece.chars

/-- The characters of a name. -/
def Name.chars (x : Name) : List Char := x.first :: x.rest

/-- The characters of digits. -/
def Digits.chars (d : Digits) : List Char := d.first :: d.rest

/-- The characters of a marker. -/
def Marker.chars : Marker → List Char
  | .none => []
  | .debug => ['=']
  | .repr => ['!', 'r']
  | .debugStr => ['=', '!', 's']

/-- The opening bracket. -/
def TupleBracket.opening : TupleBracket → Char
  | .paren => '('
  | .square => '['

/-- The closing bracket. -/
def TupleBracket.closing : TupleBracket → Char
  | .paren => ')'
  | .square => ']'

mutual

/-- The characters of an expression. -/
def FieldExpr.chars : FieldExpr → List Char
  | .name x => x.chars
  | .digits d => d.chars
  | .str body => '\'' :: (body.chars ++ ['\''])
  | .tuple k items => k.opening :: (FieldExpr.itemChars items ++ [k.closing])
  | .fstring w => w.chars

/-- The characters of tuple items, separated by `, `. -/
def FieldExpr.itemChars : List FieldExpr → List Char
  | [] => []
  | e :: es => e.chars ++ FieldExpr.tailChars es

/-- The characters of the items after the first, each after `, `. -/
def FieldExpr.tailChars : List FieldExpr → List Char
  | [] => []
  | e :: es => ',' :: ' ' :: (e.chars ++ FieldExpr.tailChars es)

/-- The characters of an f-string. -/
def Word.chars : Word → List Char
  | ⟨before, e, m, sp, after⟩ =>
    'f' :: '"' :: (textChars before ++ '{' :: (e.chars ++ (m.chars ++ (sp.chars ++
      '}' :: (textChars after ++ ['"'])))))

/-- The characters of a format spec, with its colon. -/
def Spec.chars : Spec → List Char
  | .none => []
  | .text p => ':' :: p.chars
  | .field p e => ':' :: (p.chars ++ '{' :: (e.chars ++ ['}']))

end

/-- An f-string written out. -/
def Word.text (w : Word) : String := String.ofList w.chars

/-! ## How deeply a word nests -/

mutual

/-- The most f-strings open at once while an expression is read. -/
def FieldExpr.depth : FieldExpr → Nat
  | .name _ | .digits _ | .str _ => 0
  | .tuple _ items => FieldExpr.itemsDepth items
  | .fstring w => w.depth

/-- The most f-strings open at once while tuple items are read. -/
def FieldExpr.itemsDepth : List FieldExpr → Nat
  | [] => 0
  | e :: es => max e.depth (FieldExpr.itemsDepth es)

/-- The most f-strings open at once while an f-string is read, itself included. -/
def Word.depth : Word → Nat
  | ⟨_, e, _, sp, _⟩ => max e.depth sp.depth + 1

/-- The most f-strings open at once while the nested field of a format spec is read. -/
def Spec.depth : Spec → Nat
  | .none | .text _ => 0
  | .field _ e => e.depth

end

mutual

/-- How deeply fields nest in format specs within one f-string of an expression: `1` where
some format spec holds a field, else `0`. -/
def FieldExpr.specDepth : FieldExpr → Nat
  | .name _ | .digits _ | .str _ => 0
  | .tuple _ items => FieldExpr.itemsSpecDepth items
  | .fstring w => w.specDepth

/-- How deeply fields nest in format specs within the f-strings of tuple items. -/
def FieldExpr.itemsSpecDepth : List FieldExpr → Nat
  | [] => 0
  | e :: es => max e.specDepth (FieldExpr.itemsSpecDepth es)

/-- How deeply fields nest in format specs within one f-string of a word. -/
def Word.specDepth : Word → Nat
  | ⟨_, e, _, sp, _⟩ => max e.specDepth sp.specDepth

/-- How deeply fields nest in a format spec: `1` if it holds a field. -/
def Spec.specDepth : Spec → Nat
  | .none | .text _ => 0
  | .field _ e => max 1 e.specDepth

end

/-! ## Bytes -/

/-- The UTF-8 bytes of characters. -/
def utf8 (cs : List Char) : List UInt8 := cs.flatMap String.utf8EncodeChar

@[simp] lemma utf8_nil : utf8 [] = [] := rfl

@[simp] lemma utf8_append (a b : List Char) : utf8 (a ++ b) = utf8 a ++ utf8 b :=
  List.flatMap_append

lemma utf8_cons (c : Char) (cs : List Char) :
    utf8 (c :: cs) = String.utf8EncodeChar c ++ utf8 cs := List.flatMap_cons

/-- An ASCII character is one byte, its code. -/
lemma utf8EncodeChar_of_lt {c : Char} (hc : c.toNat < 128) :
    String.utf8EncodeChar c = [c.toUInt8] := by
  have h1 : c.utf8Size = 1 := by
    rw [Char.utf8Size_eq_one_iff, UInt32.le_iff_toNat_le]
    exact Nat.le_of_lt_succ hc
  rw [String.utf8EncodeChar_eq_singleton h1, Char.toUInt8_val]

/-- Every byte of a character outside ASCII is at least `0x80`. -/
lemma utf8EncodeChar_high {c : Char} (hc : 128 ≤ c.toNat) :
    ∀ b ∈ String.utf8EncodeChar c, 128 ≤ b.toNat := by
  have hv : c.toNat = c.val.toNat := rfl
  intro b hb
  simp only [String.utf8EncodeChar] at hb
  split_ifs at hb <;>
    simp only [List.mem_cons, List.not_mem_nil, or_false] at hb <;>
    rcases hb with rfl | rfl | rfl | rfl <;> simp [UInt8.toNat_ofNat] <;> omega

/-- A fact about ASCII characters follows from checking the 128 of them. -/
lemma ascii_forall {P : Char → Prop} (h : ∀ n, n < 128 → P (Char.ofNat n)) {c : Char}
    (hc : c.toNat < 128) : P c := by
  simpa [Char.ofNat_toNat] using h c.toNat hc

/-- The bytes of characters pass no byte test that passes no byte of `0x80` or more and none
of their ASCII characters. -/
lemma utf8_avoids {p : UInt8 → Bool} (hhigh : ∀ b : UInt8, 128 ≤ b.toNat → p b = false)
    {cs : List Char} (hlow : ∀ c ∈ cs, c.toNat < 128 → p c.toUInt8 = false) :
    ∀ b ∈ utf8 cs, p b = false := by
  intro b hb
  obtain ⟨c, hc, hbc⟩ := List.mem_flatMap.mp hb
  by_cases hlt : c.toNat < 128
  · rw [utf8EncodeChar_of_lt hlt, List.mem_singleton] at hbc
    rw [hbc]
    exact hlow c hc hlt
  · exact hhigh b (utf8EncodeChar_high (by omega) b hbc)

/-- The bytes of ASCII characters are their codes. -/
lemma utf8_of_ascii {cs : List Char} (h : ∀ c ∈ cs, c.toNat < 128) :
    utf8 cs = cs.map Char.toUInt8 := by
  induction cs with
  | nil => rfl
  | cons c cs ih =>
    rw [utf8_cons, utf8EncodeChar_of_lt (h c (by simp)), List.map_cons,
      ih fun d hd => h d (by simp [hd])]
    rfl

@[simp] lemma textChars_nil : textChars [] = [] := rfl

@[simp] lemma textChars_cons (t : TextPiece) (ts : List TextPiece) :
    textChars (t :: ts) = t.chars ++ textChars ts := List.flatMap_cons

@[simp] lemma utf8_openPair : utf8 TextPiece.openPair.chars = [123, 123] := rfl

@[simp] lemma utf8_closePair : utf8 TextPiece.closePair.chars = [125, 125] := rfl

lemma utf8_word (w : Word) :
    utf8 w.chars = 102 :: 34 :: (utf8 (textChars w.before) ++ 123 :: (utf8 w.expr.chars ++
      (utf8 w.marker.chars ++ (utf8 w.spec.chars ++ 125 :: (utf8 (textChars w.after) ++ [34]))))) := by
  cases w
  simp only [Word.chars, utf8_cons, utf8_append]
  rfl

end FGrammar

end ExprFront
