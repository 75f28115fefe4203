import ExprFront.Syntax.Expr

/-!
# The outline of a tree

`Expr.outline` lists a tree's nodes in preorder, the same order as the S-expression form, one
line each: the node's kind with its span `a..b` and its counts, then its children. A missing
optional child is the line `_`; call arguments, comparison operators, lambda parameters, dict
entries and comprehension clauses have lines of their own before their expressions.
-/

namespace ExprFront

namespace Outline

/-- The word for a boolean in the outline. -/
def flag (b : Bool) : String := if b then "true" else "false"

/-- The name of a number kind. -/
def numberName : NumberKind → String
  | .int => "Int" | .float => "Float" | .imaginary => "Imaginary"

/-- The name of a constant. -/
def constantName : Constant → String
  | .none => "None" | .true => "True" | .false => "False" | .ellipsis => "Ellipsis"

/-- The name of a parameter kind. -/
def paramKindName : ParamKind → String
  | .normal => "Normal" | .varArgs => "VarArgs" | .kwArgs => "KwArgs"
  | .keywordOnlyMarker => "KeywordOnlyMarker" | .positionalOnlyMarker => "PositionalOnlyMarker"

mutual

/-- Appends the lines of an expression. -/
def expr (out : Array String) : Expr → Array String
  | .name sp => out.push ("Name " ++ sp.render)
  | .number k sp => out.push ("Number(" ++ numberName k ++ ") " ++ sp.render)
  | .constant c sp => out.push ("Constant(" ++ constantName c ++ ") " ++ sp.render)
  | .str d body sp =>
    out.push ("Str " ++ sp.render ++ " body=" ++ body.render ++ " delim=" ++ d.render)
  | .fstring d parts sp =>
    fparts (out.push ("FString " ++ sp.render ++ " delim=" ++ d.render ++ " parts=" ++
      toString parts.length)) parts
  | .concat items sp =>
    exprs (out.push ("Concat " ++ sp.render ++ " n=" ++ toString items.length)) items
  | .attribute value attr sp =>
    expr (out.push ("Attribute " ++ sp.render ++ " attr=" ++ attr.render)) value
  | .call func args sp =>
    arguments (expr (out.push ("Call " ++ sp.render ++ " args=" ++ toString args.length)) func) args
  | .subscript value index sp => expr (expr (out.push ("Subscript " ++ sp.render)) value) index
  | .slice lower upper step sp =>
    optional (optional (optional (out.push ("Slice " ++ sp.render)) lower) upper) step
  | .binary op l r sp => expr (expr (out.push ("Binary(" ++ op.symbol ++ ") " ++ sp.render)) l) r
  | .unary op e sp => expr (out.push ("Unary(" ++ op.symbol ++ ") " ++ sp.render)) e
  | .boolOp op l r sp => expr (expr (out.push ("Bool(" ++ op.symbol ++ ") " ++ sp.render)) l) r
  | .compare left links sp =>
    chain (expr (out.push ("Compare " ++ sp.render ++ " links=" ++ toString links.length)) left)
      links
  | .ifElse test body orelse sp =>
    expr (expr (expr (out.push ("IfElse " ++ sp.render)) test) body) orelse
  | .lambda params body sp =>
    expr (parameters (out.push ("Lambda " ++ sp.render ++ " params=" ++ toString params.length))
      params) body
  | .namedExpr target value sp => expr (expr (out.push ("NamedExpr " ++ sp.render)) target) value
  | .starred value sp => expr (out.push ("Starred " ++ sp.render)) value
  | .yield value sp => optional (out.push ("Yield " ++ sp.render)) value
  | .yieldFrom value sp => expr (out.push ("YieldFrom " ++ sp.render)) value
  | .await value sp => expr (out.push ("Await " ++ sp.render)) value
  | .tuple items sp =>
    exprs (out.push ("Tuple " ++ sp.render ++ " n=" ++ toString items.length)) items
  | .list items sp =>
    exprs (out.push ("List " ++ sp.render ++ " n=" ++ toString items.length)) items
  | .set items sp => exprs (out.push ("Set " ++ sp.render ++ " n=" ++ toString items.length)) items
  | .dict es sp =>
    entries (out.push ("Dict " ++ sp.render ++ " n=" ++ toString es.length)) es
  | .listComp elt cs sp =>
    clauses (expr (out.push ("ListComp " ++ sp.render ++ " gens=" ++ toString cs.length)) elt) cs
  | .setComp elt cs sp =>
    clauses (expr (out.push ("SetComp " ++ sp.render ++ " gens=" ++ toString cs.length)) elt) cs
  | .generator elt cs sp =>
    clauses (expr (out.push ("Generator " ++ sp.render ++ " gens=" ++ toString cs.length)) elt) cs
  | .dictComp k v cs sp =>
    clauses (expr (expr (out.push ("DictComp " ++ sp.render ++ " gens=" ++
      toString cs.length)) k) v) cs

/-- Appends the lines of each expression. -/
def exprs (out : Array String) : List Expr → Array String
  | [] => out
  | e :: rest => exprs (expr out e) rest

/-- Appends the lines of an optional expression, `_` if it is missing. -/
def optional (out : Array String) : Option Expr → Array String
  | some e => expr out e
  | none => out.push "_"

/-- Appends the lines of each f-string part. -/
def fparts (out : Array String) : List FPart → Array String
  | [] => out
  | .literal sp :: rest => fparts (out.push ("Lit " ++ sp.render)) rest
  | .field f :: rest => fparts (field out f) rest

/-- Appends the lines of a field: its own, its expression's, then its spec parts'. -/
def field (out : Array String) : Field → Array String
  | .mk e debug conv spec sp =>
    let debugText := match debug with
      | some d => d.render
      | none => "-"
    let convText := match conv with
      | some c => c.letter.toString
      | none => "-"
    let specText := match spec with
      | some parts => toString parts.length
      | none => "-"
    let out := expr (out.push ("Field " ++ sp.render ++ " debug=" ++ debugText ++ " conv=" ++
      convText ++ " spec=" ++ specText)) e
    match spec with
    | some parts => fparts out parts
    | none => out

/-- Appends each call argument's line and its value's lines. -/
def arguments (out : Array String) : List Arg → Array String
  | [] => out
  | .positional v :: rest => arguments (expr (out.push "Arg Positional") v) rest
  | .star v :: rest => arguments (expr (out.push "Arg Star") v) rest
  | .doubleStar v :: rest => arguments (expr (out.push "Arg DoubleStar") v) rest
  | .keyword name v :: rest => arguments (expr (out.push ("Arg Keyword " ++ name.render)) v) rest

/-- Appends each comparison operator's line and its right operand's lines. -/
def chain (out : Array String) : List Link → Array String
  | [] => out
  | .mk op right :: rest => chain (expr (out.push ("Op(" ++ op.symbol ++ ")")) right) rest

/-- Appends each parameter's line and its default's lines. -/
def parameters (out : Array String) : List Param → Array String
  | [] => out
  | .mk kind name default :: rest =>
    let out := out.push ("Param " ++ paramKindName kind ++ " name=" ++ name.render ++
      " default=" ++ flag default.isSome)
    let out := match default with
      | some d => expr out d
      | none => out
    parameters out rest

/-- Appends each dict entry's line and its expressions' lines. -/
def entries (out : Array String) : List DictEntry → Array String
  | [] => out
  | .pair k v :: rest => entries (expr (expr (out.push "Entry") k) v) rest
  | .unpack v :: rest => entries (expr (out.push "Unpack") v) rest

/-- Appends each clause's line, then its target, iterable and conditions. -/
def clauses (out : Array String) : List Clause → Array String
  | [] => out
  | .mk isAsync target iter ifs :: rest =>
    let out := out.push ("For async=" ++ flag isAsync ++ " ifs=" ++ toString ifs.length)
    clauses (exprs (expr (expr out target) iter) ifs) rest

end

end Outline

/-- The outline of an expression: one line per node, in preorder. -/
def Expr.outline (e : Expr) : Array String := Outline.expr #[] e

end ExprFront
