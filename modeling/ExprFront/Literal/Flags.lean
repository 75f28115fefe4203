import ExprFront.Source.Basic

/-!
# String prefixes

A string literal may carry up to two prefix letters, in either case and either order:

* `r` — raw: a backslash stands for itself;
* `b` — bytes;
* `u` — the legacy unicode marker, which changes nothing;
* `f` — formatted: the literal holds fields.

`StringFlags.ofPrefix?` accepts exactly the valid prefixes: none, `u` alone, or any set of
`r`, `b`, `f` without both `b` and `f`. A repeated letter is refused.
-/

namespace ExprFront

/-- The prefix letters of a string literal. -/
structure StringFlags where
  /-- Letter `r`: backslashes are literal. -/
  raw : Bool := false
  /-- Letter `b`: a bytes literal. -/
  bytes : Bool := false
  /-- Letter `u`: the legacy unicode marker. -/
  unicode : Bool := false
  /-- Letter `f`: an interpolated literal. -/
  formatted : Bool := false
  deriving DecidableEq, Repr, Inhabited

namespace StringFlags

/-- No prefix letter. -/
def none : StringFlags := {}

/-- Whether no letter is set. -/
def isEmpty (fl : StringFlags) : Bool :=
  !(fl.raw || fl.bytes || fl.unicode || fl.formatted)

/-- The flag a prefix byte stands for, set on its own. -/
def ofLetter? (b : UInt8) : Option StringFlags :=
  match byteChar b with
  | 'r' | 'R' => some { raw := true }
  | 'b' | 'B' => some { bytes := true }
  | 'u' | 'U' => some { unicode := true }
  | 'f' | 'F' => some { formatted := true }
  | _ => Option.none

/-- The union of two sets of letters. -/
def union (a b : StringFlags) : StringFlags :=
  ⟨a.raw || b.raw, a.bytes || b.bytes, a.unicode || b.unicode, a.formatted || b.formatted⟩

/-- Whether two sets of letters share one. -/
def meets (a b : StringFlags) : Bool :=
  (a.raw && b.raw) || (a.bytes && b.bytes) || (a.unicode && b.unicode) ||
    (a.formatted && b.formatted)

/-- Reads prefix bytes one by one, refusing an unknown or repeated letter. -/
def collect (acc : StringFlags) : List UInt8 → Option StringFlags
  | [] => some acc
  | b :: rest => do
    let fl ← ofLetter? b
    if acc.meets fl then Option.none else collect (acc.union fl) rest

/-- Whether a set of letters is a valid prefix: none, `u` alone, or no `u` and not both `b`
and `f`. -/
def isValid (fl : StringFlags) : Bool :=
  fl.isEmpty || fl == { unicode := true } || (!fl.unicode && !(fl.bytes && fl.formatted))

/-- The flags of a literal prefix, given as bytes, or nothing if it is no valid prefix. -/
def ofPrefixBytes? (bs : List UInt8) : Option StringFlags :=
  if bs.length > 2 then Option.none
  else
    match collect {} bs with
    | some fl => if fl.isValid then some fl else Option.none
    | Option.none => Option.none

/-- The flags of a literal prefix, or nothing if it is no valid prefix. -/
def ofPrefix? (s : String) : Option StringFlags :=
  ofPrefixBytes? s.toUTF8.toList

/-- The letters set, lowercase, in the order `r b u f`. -/
def letters (fl : StringFlags) : String :=
  (if fl.raw then "r" else "") ++ (if fl.bytes then "b" else "") ++
    (if fl.unicode then "u" else "") ++ (if fl.formatted then "f" else "")

end StringFlags

end ExprFront
