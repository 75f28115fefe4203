import ExprFront.Syntax.Expr
import ExprFront.Text.Quoted

/-!
# The S-expression form of a tree

`Expr.dump` writes a tree as an S-expression, reading names and literal text back from the
source. Operators head their operands (`(+ a b)`, `(not x)`), literal text is quoted by
`Text.quote`, a missing slice bound or yield value is `_` or left out, and each form has a
fixed head: `str fstring field debug spec concat . call kw * ** index slice cmp if lambda :=
yield yield-from await tuple list set dict listcomp setcomp genexp dictcomp for async-for`.

The writer appends to a string as it walks, one function per kind of part.
-/

namespace ExprFront

namespace Dump

mutual

/-- Appends the form of an expression. -/
def expr (src : Source) (out : String) : Expr → String
  | .name sp | .number _ sp => out ++ src.slice sp
  | .constant c _ => out ++ match c with
    | .none => "None"
    | .true => "True"
    | .false => "False"
    | .ellipsis => "..."
  | .str _ body _ => out ++ "(str " ++ Text.quote (src.slice body) ++ ")"
  | .fstring _ parts _ => fparts src (out ++ "(fstring") parts ++ ")"
  | .concat items _ => exprs src (out ++ "(concat") items ++ ")"
  | .attribute value attr _ => expr src (out ++ "(. ") value ++ " " ++ src.slice attr ++ ")"
  | .call func args _ => arguments src (expr src (out ++ "(call ") func) args ++ ")"
  | .subscript value index _ => expr src (expr src (out ++ "(index ") value ++ " ") index ++ ")"
  | .slice lower upper step _ =>
    optional src (optional src (optional src (out ++ "(slice") lower) upper) step ++ ")"
  | .binary op l r _ => expr src (expr src (out ++ "(" ++ op.symbol ++ " ") l ++ " ") r ++ ")"
  | .unary op e _ => expr src (out ++ "(" ++ op.symbol ++ " ") e ++ ")"
  | .boolOp op l r _ => expr src (expr src (out ++ "(" ++ op.symbol ++ " ") l ++ " ") r ++ ")"
  | .compare left links _ => chain src (expr src (out ++ "(cmp ") left) links ++ ")"
  | .ifElse test body orelse _ =>
    expr src (expr src (expr src (out ++ "(if ") test ++ " ") body ++ " ") orelse ++ ")"
  | .lambda params body _ =>
    expr src (parameters src (out ++ "(lambda (") true params ++ ") ") body ++ ")"
  | .namedExpr target value _ => expr src (expr src (out ++ "(:= ") target ++ " ") value ++ ")"
  | .starred value _ => expr src (out ++ "(* ") value ++ ")"
  | .yield value _ => optionalYield src out value
  | .yieldFrom value _ => expr src (out ++ "(yield-from ") value ++ ")"
  | .await value _ => expr src (out ++ "(await ") value ++ ")"
  | .tuple items _ => exprs src (out ++ "(tuple") items ++ ")"
  | .list items _ => exprs src (out ++ "(list") items ++ ")"
  | .set items _ => exprs src (out ++ "(set") items ++ ")"
  | .dict es _ => entries src (out ++ "(dict") es ++ ")"
  | .listComp elt cs _ => clauses src (expr src (out ++ "(listcomp ") elt) cs ++ ")"
  | .setComp elt cs _ => clauses src (expr src (out ++ "(setcomp ") elt) cs ++ ")"
  | .generator elt cs _ => clauses src (expr src (out ++ "(genexp ") elt) cs ++ ")"
  | .dictComp k v cs _ =>
    clauses src (expr src (expr src (out ++ "(dictcomp ") k ++ " ") v) cs ++ ")"

/-- Appends each expression after a space. -/
def exprs (src : Source) (out : String) : List Expr → String
  | [] => out
  | e :: rest => exprs src (expr src (out ++ " ") e) rest

/-- Appends a `yield` form, with its value if it has one. -/
def optionalYield (src : Source) (out : String) : Option Expr → String
  | some e => expr src (out ++ "(yield ") e ++ ")"
  | none => out ++ "(yield)"

/-- Appends an optional expression after a space, `_` if it is missing. -/
def optional (src : Source) (out : String) : Option Expr → String
  | some e => expr src (out ++ " ") e
  | none => out ++ " _"

/-- Appends each f-string part after a space. -/
def fparts (src : Source) (out : String) : List FPart → String
  | [] => out
  | .literal sp :: rest => fparts src (out ++ " " ++ Text.quote (src.slice sp)) rest
  | .field f :: rest => fparts src (field src (out ++ " ") f) rest

/-- Appends a field: its expression, then any echo text, conversion and format spec. -/
def field (src : Source) (out : String) : Field → String
  | .mk e debug conv spec _ =>
    let out := expr src (out ++ "(field ") e
    let out := match debug with
      | some sp => out ++ " (debug " ++ Text.quote (src.slice sp) ++ ")"
      | none => out
    let out := match conv with
      | some c => out ++ " !" ++ c.letter.toString
      | none => out
    let out := match spec with
      | some parts => fparts src (out ++ " (spec") parts ++ ")"
      | none => out
    out ++ ")"

/-- Appends each call argument after a space. -/
def arguments (src : Source) (out : String) : List Arg → String
  | [] => out
  | a :: rest =>
    let out := out ++ " "
    let out := match a with
      | .positional v => expr src out v
      | .star v => expr src (out ++ "(* ") v ++ ")"
      | .doubleStar v => expr src (out ++ "(** ") v ++ ")"
      | .keyword name v => expr src (out ++ "(kw " ++ src.slice name ++ " ") v ++ ")"
    arguments src out rest

/-- Appends each comparison link: the operator and the right operand. -/
def chain (src : Source) (out : String) : List Link → String
  | [] => out
  | .mk op right :: rest => chain src (expr src (out ++ " " ++ op.symbol ++ " ") right) rest

/-- Appends lambda parameters separated by spaces; `first` says none has been written. -/
def parameters (src : Source) (out : String) (first : Bool) : List Param → String
  | [] => out
  | .mk kind name default :: rest =>
    let out := if first then out else out ++ " "
    let text := src.slice name
    let out := match kind with
      | .normal => out ++ text
      | .varArgs => out ++ "*" ++ text
      | .kwArgs => out ++ "**" ++ text
      | .keywordOnlyMarker => out ++ "*"
      | .positionalOnlyMarker => out ++ "/"
    let out := match default with
      | some d => expr src (out ++ "=") d
      | none => out
    parameters src out false rest

/-- Appends each dict entry after a space. -/
def entries (src : Source) (out : String) : List DictEntry → String
  | [] => out
  | .pair k v :: rest => entries src (expr src (expr src (out ++ " (") k ++ " ") v ++ ")") rest
  | .unpack v :: rest => entries src (expr src (out ++ " (** ") v ++ ")") rest

/-- Appends each comprehension clause after a space. -/
def clauses (src : Source) (out : String) : List Clause → String
  | [] => out
  | .mk isAsync target iter ifs :: rest =>
    let out := out ++ (if isAsync then " (async-for " else " (for ")
    let out := expr src (expr src out target ++ " ") iter
    clauses src (conditions src out ifs ++ ")") rest

/-- Appends each condition of a clause as ` (if c)`. -/
def conditions (src : Source) (out : String) : List Expr → String
  | [] => out
  | c :: rest => conditions src (expr src (out ++ " (if ") c ++ ")") rest

end

end Dump

/-- The S-expression form of an expression over its source. -/
def Expr.dump (src : Source) (e : Expr) : String := Dump.expr src "" e

end ExprFront
