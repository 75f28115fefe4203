import ExprFront.Literal.Flags
import ExprFront.Text.Quoted

/-!
# Escapes in literal text

`decode` turns the body of a literal (no prefix, no quotes) into its value. The escapes are
`\\ \' \" \a \b \f \n \r \t \v`, octal `\ooo` of one to three digits, `\xhh`, and outside bytes
literals `\uXXXX` and `\UXXXXXXXX`. A backslash before a line break removes both. An unknown
escape is kept as written, backslash included. A raw literal keeps every backslash. Inside an
f-string's text, `{{` and `}}` stand for one brace, raw or not.

A numeric escape must name a character: at most `0xFF` in a bytes literal, otherwise a code
point that is no surrogate. `\N{…}` is refused outside bytes literals. Each failure reports the
offset of its backslash.

`decode` first checks whether anything needs doing (no brace in f-string text, and raw or no
backslash) and then returns the text as it is; otherwise it runs `decodeLoop`, which would give
the same text in that case.
-/

namespace ExprFront

/-- Why an escape could not be decoded. -/
inductive EscapeFault where
  /-- An escape `\x`, `\u` or `\U` followed by fewer hex digits than it needs. -/
  | truncatedHex (escape : Char) (expected : Nat)
  /-- A numeric escape whose value is no character of the literal. -/
  | invalidCodePoint (value : Nat)
  /-- A named escape `\N{…}`. -/
  | namedUnicode
  deriving DecidableEq, Repr

/-- An escape that could not be decoded, with the offset of its backslash. -/
structure EscapeError where
  /-- The byte offset of the backslash in the raw text. -/
  offset : Nat
  /-- What is wrong with the escape. -/
  fault : EscapeFault
  deriving DecidableEq, Repr

/-- The text of an escape fault. -/
def EscapeFault.message : EscapeFault → String
  | .truncatedHex e n =>
    "truncated \\" ++ e.toString ++ " escape: expected " ++ toString n ++ " hex digits"
  | .invalidCodePoint v => "escape value 0x" ++ Text.hexDigits v ++ " is not a valid character"
  | .namedUnicode => "\\N\x7b...\x7d named escapes are not supported"

/-- The text of an escape error: the fault and the offset of its backslash. -/
def EscapeError.message (e : EscapeError) : String :=
  e.fault.message ++ " (at byte " ++ toString e.offset ++ ")"

namespace Escape

/-- The value of an octal digit. -/
def octalDigit? (c : Char) : Option Nat :=
  if '0' ≤ c ∧ c ≤ '7' then some (c.toNat - '0'.toNat) else none

/-- The value of an ASCII hex digit, in either case. -/
def hexDigit? (c : Char) : Option Nat :=
  if '0' ≤ c ∧ c ≤ '9' then some (c.toNat - '0'.toNat)
  else if 'a' ≤ c ∧ c ≤ 'f' then some (c.toNat - 'a'.toNat + 10)
  else if 'A' ≤ c ∧ c ≤ 'F' then some (c.toNat - 'A'.toNat + 10)
  else none

/-- Whether a character is an octal digit. -/
def isOctal (c : Char) : Bool := (octalDigit? c).isSome

/-- The value of a run of digits in the given base, each read by `digit?`, or nothing if one
is no digit. -/
def digitsValue? (base : Nat) (digit? : Char → Option Nat) (ds : List Char) : Option Nat :=
  ds.foldlM (fun v c => (digit? c).map (v * base + ·)) 0

/-- The value of exactly `n` hex digits at the front of `cs`, or nothing if there are fewer. -/
def hexValue? (n : Nat) (cs : List Char) : Option Nat :=
  let ds := cs.take n
  if ds.length = n then digitsValue? 16 hexDigit? ds else none

/-- The character an escape value names, or the fault if it names none: in a bytes literal
the value must be at most `0xFF`, otherwise a code point that is no surrogate. -/
def codePoint (bytes : Bool) (offset v : Nat) : Except EscapeError Char :=
  let limit := if bytes then 0xFF else 0x10FFFF
  if v ≤ limit ∧ ¬(0xD800 ≤ v ∧ v ≤ 0xDFFF) then .ok (Char.ofNat v)
  else .error ⟨offset, .invalidCodePoint v⟩

/-- The character a one-letter escape stands for. -/
def simpleEscape? (c : Char) : Option Char :=
  match c with
  | '\\' => some '\\'
  | '\x27' => some '\x27'
  | '"' => some '"'
  | 'a' => some '\x07'
  | 'b' => some '\x08'
  | 'f' => some '\x0c'
  | 'n' => some '\n'
  | 'r' => some '\r'
  | 't' => some '\t'
  | 'v' => some '\x0b'
  | _ => none

/-- How many hex digits an escape letter takes: `x` two, and outside bytes literals `u` four
and `U` eight. -/
def hexWidth? (bytes : Bool) (c : Char) : Option Nat :=
  match c with
  | 'x' => some 2
  | 'u' => if bytes then none else some 4
  | 'U' => if bytes then none else some 8
  | _ => none

end Escape

open Escape in
/-- Decodes the characters `cs`, the first of which lies at byte offset `pos` of the raw
text, appending the value to `out`. -/
def decodeLoop (flags : StringFlags) (inFString : Bool) (cs : List Char) (pos : Nat)
    (out : String) : Except EscapeError String :=
  match cs with
  | [] => .ok out
  | c :: rest =>
    if inFString && (c == '{' || c == '}') then
      match rest with
      | d :: rest' =>
        if d == c then decodeLoop flags inFString rest' (pos + 2) (out.push c)
        else decodeLoop flags inFString (d :: rest') (pos + 1) (out.push c)
      | [] => .ok (out.push c)
    else if c == '\\' && !flags.raw then
      match rest with
      | [] => .ok (out.push '\\')
      | e :: rest' =>
        if e == '\n' then decodeLoop flags inFString rest' (pos + 2) out
        else if e == '\r' then
          -- a carriage return and line feed go together
          if rest'.head? == some '\n' then decodeLoop flags inFString (rest'.drop 1) (pos + 3) out
          else decodeLoop flags inFString rest' (pos + 2) out
        else match simpleEscape? e with
        | some v => decodeLoop flags inFString rest' (pos + 2) (out.push v)
        | none =>
          if isOctal e then
            -- up to two more octal digits follow the first
            let ds := e :: (rest'.take 2).takeWhile isOctal
            match codePoint flags.bytes pos ((digitsValue? 8 octalDigit? ds).getD 0) with
            | .ok ch =>
              decodeLoop flags inFString (rest'.drop (ds.length - 1)) (pos + 1 + ds.length)
                (out.push ch)
            | .error err => .error err
          else
            match hexWidth? flags.bytes e with
            | some n =>
              match hexValue? n rest' with
              | some v =>
                match codePoint flags.bytes pos v with
                | .ok ch => decodeLoop flags inFString (rest'.drop n) (pos + 2 + n) (out.push ch)
                | .error err => .error err
              | none => .error ⟨pos, .truncatedHex e n⟩
            | none =>
              if e == 'N' && !flags.bytes then .error ⟨pos, .namedUnicode⟩
              else decodeLoop flags inFString rest' (pos + 1 + e.utf8Size)
                ((out.push '\\').push e)
    else decodeLoop flags inFString rest (pos + c.utf8Size) (out.push c)
termination_by cs.length
decreasing_by
  all_goals
    try simp only [List.length_drop, List.length_cons]
    omega

/-- The value of a literal's raw body with the given prefix letters; `inFString` says the body
is f-string text, where doubled braces stand for one. -/
def decode (raw : String) (flags : StringFlags) (inFString : Bool) :
    Except EscapeError String :=
  let hasBraces := inFString && raw.any (fun c => c == '{' || c == '}')
  if !hasBraces && (flags.raw || !raw.any (· == '\\')) then .ok raw
  else decodeLoop flags inFString raw.toList 0 ""

end ExprFront
