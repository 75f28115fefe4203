import ExprFront.Literal.Delimiter

/-!
# Expression trees

The tree the grammar builds. Every node carries the span it covers, and names, numbers and
literal bodies are read back from the source through spans; nothing is copied out of the text.

Besides `Expr`, the tree has the parts that only occur inside expressions: the parts of an
f-string (`FPart`, `Field`), call arguments (`Arg`), comparison links (`Link`), lambda
parameters (`Param`), dict entries (`DictEntry`) and comprehension clauses (`Clause`).
-/

namespace ExprFront

/-- The kind of a number literal. -/
inductive NumberKind where
  | int | float | imaginary
  deriving DecidableEq, Repr, Inhabited

/-- A named constant. -/
inductive Constant where
  | none | true | false | ellipsis
  deriving DecidableEq, Repr, Inhabited

/-- The conversion of an f-string field: `!s`, `!r` or `!a`. -/
inductive Conversion where
  | str | repr | ascii
  deriving DecidableEq, Repr, Inhabited

/-- The kind of a lambda parameter. -/
inductive ParamKind where
  /-- A plain parameter, with an optional default. -/
  | normal
  /-- Written `*name`. -/
  | varArgs
  /-- Written `**name`. -/
  | kwArgs
  /-- A bare `*`: the parameters after it are keyword-only. -/
  | keywordOnlyMarker
  /-- A `/`: the parameters before it are positional-only. -/
  | positionalOnlyMarker
  deriving DecidableEq, Repr, Inhabited

/-- A binary operator. -/
inductive BinaryOp where
  | add | sub | mul | matMul | div | floorDiv | mod | pow
  | shl | shr | bitAnd | bitOr | bitXor
  deriving DecidableEq, Repr, Inhabited

/-- A prefix operator. -/
inductive UnaryOp where
  | pos | neg | invert | not
  deriving DecidableEq, Repr, Inhabited

/-- A short-circuit operator. -/
inductive BoolOp where
  | and | or
  deriving DecidableEq, Repr, Inhabited

/-- A comparison operator. -/
inductive CmpOp where
  | eq | notEq | lt | ltEq | gt | gtEq | isIn | notIn | is | isNot
  deriving DecidableEq, Repr, Inhabited

namespace Conversion

/-- The conversion a name stands for: `s`, `r` or `a`. -/
def ofName? : String → Option Conversion
  | "s" => some .str
  | "r" => some .repr
  | "a" => some .ascii
  | _ => none

/-- The letter of a conversion. -/
def letter : Conversion → Char
  | .str => 's'
  | .repr => 'r'
  | .ascii => 'a'

end Conversion

/-- How a binary operator is written. -/
def BinaryOp.symbol : BinaryOp → String
  | .add => "+" | .sub => "-" | .mul => "*" | .matMul => "@" | .div => "/"
  | .floorDiv => "//" | .mod => "%" | .pow => "**" | .shl => "<<" | .shr => ">>"
  | .bitAnd => "&" | .bitOr => "|" | .bitXor => "^"

/-- How a prefix operator is written. -/
def UnaryOp.symbol : UnaryOp → String
  | .pos => "+" | .neg => "-" | .invert => "~" | .not => "not"

/-- How a short-circuit operator is written. -/
def BoolOp.symbol : BoolOp → String
  | .and => "and" | .or => "or"

/-- How a comparison operator is written. -/
def CmpOp.symbol : CmpOp → String
  | .eq => "==" | .notEq => "!=" | .lt => "<" | .ltEq => "<=" | .gt => ">" | .gtEq => ">="
  | .isIn => "in" | .notIn => "not in" | .is => "is" | .isNot => "is not"

mutual

/-- An expression and the span it covers. -/
inductive Expr where
  | name (span : Span)
  | number (kind : NumberKind) (span : Span)
  | constant (c : Constant) (span : Span)
  /-- A string literal: its delimiter and the span of its body between the quotes. -/
  | str (delim : Delimiter) (body : Span) (span : Span)
  | fstring (delim : Delimiter) (parts : List FPart) (span : Span)
  /-- Adjacent string literals. -/
  | concat (items : List Expr) (span : Span)
  | attribute (value : Expr) (attr : Span) (span : Span)
  | call (func : Expr) (args : List Arg) (span : Span)
  | subscript (value index : Expr) (span : Span)
  | slice (lower upper step : Option Expr) (span : Span)
  | binary (op : BinaryOp) (left right : Expr) (span : Span)
  | unary (op : UnaryOp) (operand : Expr) (span : Span)
  | boolOp (op : BoolOp) (left right : Expr) (span : Span)
  /-- A chain of comparisons: the left operand and each operator with its right operand. -/
  | compare (left : Expr) (links : List Link) (span : Span)
  | ifElse (test body orelse : Expr) (span : Span)
  | lambda (params : List Param) (body : Expr) (span : Span)
  | namedExpr (target value : Expr) (span : Span)
  | starred (value : Expr) (span : Span)
  | yield (value : Option Expr) (span : Span)
  | yieldFrom (value : Expr) (span : Span)
  | await (value : Expr) (span : Span)
  | tuple (items : List Expr) (span : Span)
  | list (items : List Expr) (span : Span)
  | set (items : List Expr) (span : Span)
  | dict (entries : List DictEntry) (span : Span)
  | listComp (elt : Expr) (clauses : List Clause) (span : Span)
  | setComp (elt : Expr) (clauses : List Clause) (span : Span)
  | generator (elt : Expr) (clauses : List Clause) (span : Span)
  | dictComp (key value : Expr) (clauses : List Clause) (span : Span)

/-- A part of an f-string or of a format spec. -/
inductive FPart where
  /-- Literal text. -/
  | literal (span : Span)
  | field (f : Field)

/-- A field of an f-string: its expression, the text a `=` echoes, the conversion, the parts
of the format spec, and the span from `{` to `}`. -/
inductive Field where
  | mk (expr : Expr) (debug : Option Span) (conversion : Option Conversion)
      (spec : Option (List FPart)) (span : Span)

/-- A call argument. -/
inductive Arg where
  | positional (value : Expr)
  /-- Written `*value`. -/
  | star (value : Expr)
  /-- Written `**value`. -/
  | doubleStar (value : Expr)
  /-- Written `name=value`. -/
  | keyword (name : Span) (value : Expr)

/-- One link of a comparison chain. -/
inductive Link where
  | mk (op : CmpOp) (right : Expr)

/-- A lambda parameter: its kind, its name (a point at the marker for `*` and `/`) and its
default. -/
inductive Param where
  | mk (kind : ParamKind) (name : Span) (default : Option Expr)

/-- An entry of a dict display. -/
inductive DictEntry where
  | pair (key value : Expr)
  /-- Written `**value`. -/
  | unpack (value : Expr)

/-- A comprehension clause: `async`, the target, the iterable and the conditions. -/
inductive Clause where
  | mk (isAsync : Bool) (target iter : Expr) (ifs : List Expr)

end

namespace Expr

/-- The span an expression covers. -/
def span : Expr → Span
  | .name sp | .number _ sp | .constant _ sp | .str _ _ sp | .fstring _ _ sp | .concat _ sp
  | .attribute _ _ sp | .call _ _ sp | .subscript _ _ sp | .slice _ _ _ sp | .binary _ _ _ sp
  | .unary _ _ sp | .boolOp _ _ _ sp | .compare _ _ sp | .ifElse _ _ _ sp | .lambda _ _ sp
  | .namedExpr _ _ sp | .starred _ sp | .yield _ sp | .yieldFrom _ sp | .await _ sp
  | .tuple _ sp | .list _ sp | .set _ sp | .dict _ sp | .listComp _ _ sp | .setComp _ _ sp
  | .generator _ _ sp | .dictComp _ _ _ sp => sp

/-- Whether the expression is a starred one. -/
def isStarred : Expr → Bool
  | .starred _ _ => true
  | _ => false

end Expr

end ExprFront
