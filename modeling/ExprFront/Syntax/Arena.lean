import ExprFront.Syntax.Parse

/-!
# The expression arena

The parser's output is flat. Every expression of one parse lives in one array,
`ExprArena.exprs`, and refers to its children by `ExprId`, an index into that array. Lists of
children, and the records that only occur inside expressions (f-string parts, call arguments,
dict entries, comparison links, comprehension clauses, lambda parameters), live in side tables
of their own, and an expression holds an `ArenaRange` into one of them. The arena only grows:
`alloc` appends an expression and `allocIn` appends a whole list to one side table.

The parser allocates as it reads and never takes an allocation back: a production allocates its
children first, in the order the source has them (the body of `b if t else o` before its
test), pushes each list to its table once the list is complete, and allocates itself last.
`()` and `[]` take the empty range and push nothing. `Expr.store` makes these allocations in
this order from the tree the grammar builds, so `Expr.parseOutput` is the arena and the root
that a successful parse leaves. A list longer than a range can count has already stopped the
grammar (`ParseM.storeList`).

`ExprArena.children?` reads the ids an expression refers to through the side tables, in the
order the dump visits them, and `ExprArena.walk` is that preorder walk from one id. A read out
of a table's bounds is `none` where the program panics, and the walk's fuel bounds the depth
the program's recursion does not bound.
-/

namespace ExprFront

/-- An index into the arena's expressions. -/
structure ExprId where
  index : Nat
  deriving DecidableEq, Repr, Inhabited

/-- A run of entries of one side table: where it starts and how many entries it holds. -/
structure ArenaRange where
  start : Nat
  len : Nat
  deriving DecidableEq, Repr, Inhabited

/-- The range of `()` and `[]`, which push nothing. -/
def ArenaRange.empty : ArenaRange := ⟨0, 0⟩

namespace Arena

/-- What an expression of the arena is: `Expr`'s constructors with each child an id and each
list a range. -/
inductive Kind where
  | name
  | number (kind : NumberKind)
  | constant (c : Constant)
  | str (delim : Delimiter) (body : Span)
  /-- An f-string, with the range of its parts. -/
  | fstring (delim : Delimiter) (parts : ArenaRange)
  | concat (items : ArenaRange)
  | attribute (value : ExprId) (attr : Span)
  /-- A call, with the range of its arguments. -/
  | call (func : ExprId) (args : ArenaRange)
  | subscript (value index : ExprId)
  | slice (lower upper step : Option ExprId)
  | binary (op : BinaryOp) (left right : ExprId)
  | unary (op : UnaryOp) (operand : ExprId)
  | boolOp (op : BoolOp) (left right : ExprId)
  /-- A comparison chain, with the range of its links. -/
  | compare (left : ExprId) (comparisons : ArenaRange)
  | ifElse (test body orelse : ExprId)
  /-- A lambda, with the range of its parameters. -/
  | lambda (params : ArenaRange) (body : ExprId)
  | namedExpr (target value : ExprId)
  | starred (value : ExprId)
  | yield (value : Option ExprId)
  | yieldFrom (value : ExprId)
  | await (value : ExprId)
  | tuple (items : ArenaRange)
  | list (items : ArenaRange)
  | set (items : ArenaRange)
  /-- A dict display, with the range of its entries. -/
  | dict (entries : ArenaRange)
  /-- A comprehension, with the range of its clauses. -/
  | listComp (elt : ExprId) (generators : ArenaRange)
  | setComp (elt : ExprId) (generators : ArenaRange)
  | generator (elt : ExprId) (generators : ArenaRange)
  | dictComp (key value : ExprId) (generators : ArenaRange)

/-- An expression of the arena and the span it covers. -/
structure Node where
  kind : Kind
  span : Span

/-- A replacement field: its expression, the text a `=` echoes, the conversion, the range of
its format spec's parts and the span from `{` to `}`. -/
structure Field where
  expr : ExprId
  debug : Option Span
  conversion : Option Conversion
  spec : Option ArenaRange
  span : Span

/-- A part of an f-string or of a format spec. -/
inductive Part where
  | literal (span : Span)
  | field (f : Field)

/-- How a call argument is written: plain, `*`, `**` or `name=`. -/
inductive ArgKind where
  | positional
  | star
  | doubleStar
  | keyword (name : Span)

/-- A call argument. -/
structure CallArg where
  kind : ArgKind
  value : ExprId

/-- A dict entry; no key for a `**` unpacking. -/
structure Entry where
  key : Option ExprId
  value : ExprId

/-- One link of a comparison chain. -/
structure Comparison where
  op : CmpOp
  right : ExprId

/-- A comprehension clause, with the range of its conditions. -/
structure Comprehension where
  target : ExprId
  iter : ExprId
  ifs : ArenaRange
  isAsync : Bool

/-- A lambda parameter. -/
structure Param where
  kind : ParamKind
  name : Span
  default : Option ExprId

/-- The ids of an entry: its key, if it has one, then its value. -/
def Entry.ids (e : Entry) : List ExprId := e.key.toList ++ [e.value]

end Arena

open Arena

/-- All expressions of one parse, and the side tables their lists live in. -/
structure ExprArena where
  exprs : Array Node := #[]
  exprLists : Array ExprId := #[]
  fstringParts : Array Part := #[]
  callArgs : Array CallArg := #[]
  dictEntries : Array Entry := #[]
  comparisons : Array Comparison := #[]
  comprehensions : Array Comprehension := #[]
  params : Array Arena.Param := #[]

namespace Arena

/-- The side tables of the arena, each with the type of its entries. -/
inductive Table : Type → Type where
  | exprLists : Table ExprId
  | fstringParts : Table Part
  | callArgs : Table CallArg
  | dictEntries : Table Entry
  | comparisons : Table Comparison
  | comprehensions : Table Comprehension
  | params : Table Param

/-- A side table's entries. -/
def Table.get {α : Type} : Table α → ExprArena → Array α
  | .exprLists, a => a.exprLists
  | .fstringParts, a => a.fstringParts
  | .callArgs, a => a.callArgs
  | .dictEntries, a => a.dictEntries
  | .comparisons, a => a.comparisons
  | .comprehensions, a => a.comprehensions
  | .params, a => a.params

/-- The arena with a side table's entries replaced. -/
def Table.set {α : Type} : Table α → ExprArena → Array α → ExprArena
  | .exprLists, a, t => { a with exprLists := t }
  | .fstringParts, a, t => { a with fstringParts := t }
  | .callArgs, a, t => { a with callArgs := t }
  | .dictEntries, a, t => { a with dictEntries := t }
  | .comparisons, a, t => { a with comparisons := t }
  | .comprehensions, a, t => { a with comprehensions := t }
  | .params, a, t => { a with params := t }

end Arena

namespace ExprArena

/-- Appends an expression and gives its id. -/
def alloc (kind : Arena.Kind) (span : Span) : StateM ExprArena ExprId :=
  modifyGet fun a => (⟨a.exprs.size⟩, { a with exprs := a.exprs.push ⟨kind, span⟩ })

/-- Appends a whole list to a side table and gives the range it takes there. -/
def allocIn {α : Type} (table : Table α) (items : List α) : StateM ExprArena ArenaRange :=
  modifyGet fun a =>
    (⟨(table.get a).size, items.length⟩, table.set a (table.get a ++ items.toArray))

end ExprArena

open ExprArena

mutual

/-- Allocates a tree the way the parser does: each child in source order, each list pushed once
it is complete, the expression itself last. -/
def Expr.store : Expr → StateM ExprArena ExprId
  | .name sp => alloc .name sp
  | .number k sp => alloc (.number k) sp
  | .constant c sp => alloc (.constant c) sp
  | .str d body sp => alloc (.str d body) sp
  | .fstring d parts sp => do
    let parts ← storeParts parts
    let r ← allocIn .fstringParts parts
    alloc (.fstring d r) sp
  | .concat items sp => do
    let ids ← storeAll items
    let r ← allocIn .exprLists ids
    alloc (.concat r) sp
  | .attribute value attr sp => do
    let v ← value.store
    alloc (.attribute v attr) sp
  | .call func args sp => do
    let f ← func.store
    let args ← storeArgs args
    let r ← allocIn .callArgs args
    alloc (.call f r) sp
  | .subscript value index sp => do
    let v ← value.store
    let i ← index.store
    alloc (.subscript v i) sp
  | .slice lower upper step sp => do
    let l ← storeOpt lower
    let u ← storeOpt upper
    let s ← storeOpt step
    alloc (.slice l u s) sp
  | .binary op l r sp => do
    let l ← l.store
    let r ← r.store
    alloc (.binary op l r) sp
  | .unary op e sp => do
    let e ← e.store
    alloc (.unary op e) sp
  | .boolOp op l r sp => do
    let l ← l.store
    let r ← r.store
    alloc (.boolOp op l r) sp
  | .compare left links sp => do
    let l ← left.store
    let links ← storeLinks links
    let r ← allocIn .comparisons links
    alloc (.compare l r) sp
  | .ifElse test body orelse sp => do
    -- the source reads `body if test else orelse`
    let b ← body.store
    let t ← test.store
    let o ← orelse.store
    alloc (.ifElse t b o) sp
  | .lambda params body sp => do
    -- the parameters' defaults are read before the body, the parameters pushed after it
    let params ← storeParams params
    let b ← body.store
    let r ← allocIn .params params
    alloc (.lambda r b) sp
  | .namedExpr target value sp => do
    let t ← target.store
    let v ← value.store
    alloc (.namedExpr t v) sp
  | .starred value sp => do
    let v ← value.store
    alloc (.starred v) sp
  | .yield value sp => do
    let v ← storeOpt value
    alloc (.yield v) sp
  | .yieldFrom value sp => do
    let v ← value.store
    alloc (.yieldFrom v) sp
  | .await value sp => do
    let v ← value.store
    alloc (.await v) sp
  | .tuple [] sp => alloc (.tuple .empty) sp
  | .tuple (item :: items) sp => do
    let ids ← storeAll (item :: items)
    let r ← allocIn .exprLists ids
    alloc (.tuple r) sp
  | .list [] sp => alloc (.list .empty) sp
  | .list (item :: items) sp => do
    let ids ← storeAll (item :: items)
    let r ← allocIn .exprLists ids
    alloc (.list r) sp
  | .set items sp => do
    let ids ← storeAll items
    let r ← allocIn .exprLists ids
    alloc (.set r) sp
  | .dict entries sp => do
    let entries ← storeEntries entries
    let r ← allocIn .dictEntries entries
    alloc (.dict r) sp
  | .listComp elt clauses sp => do
    let e ← elt.store
    let gens ← storeClauses clauses
    let r ← allocIn .comprehensions gens
    alloc (.listComp e r) sp
  | .setComp elt clauses sp => do
    let e ← elt.store
    let gens ← storeClauses clauses
    let r ← allocIn .comprehensions gens
    alloc (.setComp e r) sp
  | .generator elt clauses sp => do
    let e ← elt.store
    let gens ← storeClauses clauses
    let r ← allocIn .comprehensions gens
    alloc (.generator e r) sp
  | .dictComp key value clauses sp => do
    let k ← key.store
    let v ← value.store
    let gens ← storeClauses clauses
    let r ← allocIn .comprehensions gens
    alloc (.dictComp k v r) sp

/-- Allocates each tree of a list in turn. -/
def Expr.storeAll : List Expr → StateM ExprArena (List ExprId)
  | [] => pure []
  | e :: es => do
    let i ← e.store
    let is ← Expr.storeAll es
    pure (i :: is)

/-- Allocates an optional child. -/
def Expr.storeOpt : Option Expr → StateM ExprArena (Option ExprId)
  | none => pure none
  | some e => do
    let i ← e.store
    pure (some i)

/-- Allocates the fields of a list of parts and gives the parts' records, not yet pushed. -/
def Expr.storeParts : List FPart → StateM ExprArena (List Part)
  | [] => pure []
  | .literal sp :: ps => do
    let rest ← Expr.storeParts ps
    pure (.literal sp :: rest)
  | .field f :: ps => do
    let f ← Expr.storeField f
    let rest ← Expr.storeParts ps
    pure (.field f :: rest)

/-- Allocates a field's expression, then the parts of its spec, which are pushed when the spec
ends. -/
def Expr.storeField : ExprFront.Field → StateM ExprArena Arena.Field
  | .mk e debug conv spec sp => do
    let i ← e.store
    let spec ← Expr.storeSpec spec
    pure ⟨i, debug, conv, spec, sp⟩

/-- Allocates and pushes the parts of a format spec, if there is one. -/
def Expr.storeSpec : Option (List FPart) → StateM ExprArena (Option ArenaRange)
  | none => pure none
  | some ps => do
    let parts ← Expr.storeParts ps
    let r ← allocIn .fstringParts parts
    pure (some r)

/-- Allocates the values of a list of call arguments and gives their records. -/
def Expr.storeArgs : List Arg → StateM ExprArena (List CallArg)
  | [] => pure []
  | .positional v :: as => do
    let i ← v.store
    let rest ← Expr.storeArgs as
    pure (⟨.positional, i⟩ :: rest)
  | .star v :: as => do
    let i ← v.store
    let rest ← Expr.storeArgs as
    pure (⟨.star, i⟩ :: rest)
  | .doubleStar v :: as => do
    let i ← v.store
    let rest ← Expr.storeArgs as
    pure (⟨.doubleStar, i⟩ :: rest)
  | .keyword word v :: as => do
    let i ← v.store
    let rest ← Expr.storeArgs as
    pure (⟨.keyword word, i⟩ :: rest)

/-- Allocates the right operands of a comparison chain and gives its links. -/
def Expr.storeLinks : List Link → StateM ExprArena (List Comparison)
  | [] => pure []
  | .mk op right :: ls => do
    let i ← right.store
    let rest ← Expr.storeLinks ls
    pure (⟨op, i⟩ :: rest)

/-- Allocates the defaults of a list of lambda parameters and gives the parameters. -/
def Expr.storeParams : List ExprFront.Param → StateM ExprArena (List Arena.Param)
  | [] => pure []
  | .mk kind ident default :: ps => do
    let d ← Expr.storeOpt default
    let rest ← Expr.storeParams ps
    pure (⟨kind, ident, d⟩ :: rest)

/-- Allocates the keys and values of a list of dict entries and gives the entries. -/
def Expr.storeEntries : List ExprFront.DictEntry → StateM ExprArena (List Entry)
  | [] => pure []
  | .pair k v :: es => do
    let k ← k.store
    let v ← v.store
    let rest ← Expr.storeEntries es
    pure (⟨some k, v⟩ :: rest)
  | .unpack v :: es => do
    let v ← v.store
    let rest ← Expr.storeEntries es
    pure (⟨none, v⟩ :: rest)

/-- Allocates the comprehension clauses, each clause's conditions pushed when the clause ends,
and gives the clauses. -/
def Expr.storeClauses : List Clause → StateM ExprArena (List Comprehension)
  | [] => pure []
  | .mk isAsync target iter ifs :: cs => do
    let t ← target.store
    let i ← iter.store
    let conds ← Expr.storeAll ifs
    let r ← allocIn .exprLists conds
    let rest ← Expr.storeClauses cs
    pure (⟨t, i, r, isAsync⟩ :: rest)

end

namespace ExprArena

/-- The entries of a range of a table, `&table[start..start + len]`; `none` where the range runs
past the table's end. -/
def slice? {α : Type} (table : Array α) (r : ArenaRange) : Option (List α) :=
  if r.start + r.len ≤ table.size then some (table.extract r.start (r.start + r.len)).toList
  else none

/-- The ids a part refers to: a field's expression, then those of its spec's parts, which
`specIds` reads. -/
def partRefs? (specIds : ArenaRange → Option (List ExprId)) : Part → Option (List ExprId)
  | .literal _ => some []
  | .field f => do
    let inner ← f.spec.elim (some []) specIds
    pure (f.expr :: inner)

/-- The ids the parts in a range refer to, in the order the dump visits them. Specs nest, so
this recurses; `fuel` bounds the nesting. -/
def partIds? (a : ExprArena) : Nat → ArenaRange → Option (List ExprId)
  | 0, _ => none
  | fuel + 1, r => do
    let parts ← slice? a.fstringParts r
    let ids ← parts.mapM (partRefs? (a.partIds? fuel))
    pure ids.flatten

/-- The ids a comprehension clause refers to: its target, its iterable and its conditions. -/
def clauseRefs? (a : ExprArena) (g : Comprehension) : Option (List ExprId) := do
  let ifs ← slice? a.exprLists g.ifs
  pure (g.target :: g.iter :: ifs)

/-- The ids the clauses in a range refer to. -/
def generatorIds? (a : ExprArena) (r : ArenaRange) : Option (List ExprId) := do
  let gens ← slice? a.comprehensions r
  let ids ← gens.mapM a.clauseRefs?
  pure ids.flatten

/-- The ids an expression of this kind refers to, in the order the dump visits them. A spec
nests inside a field, whose expression comes before it, so the parts are read with the number
of expressions as fuel. -/
def kindChildren? (a : ExprArena) : Arena.Kind → Option (List ExprId)
  | .name | .number _ | .constant _ | .str _ _ => some []
  | .fstring _ parts => a.partIds? a.exprs.size parts
  | .concat items | .tuple items | .list items | .set items => slice? a.exprLists items
  | .attribute v _ | .unary _ v | .starred v | .yieldFrom v | .await v => some [v]
  | .call f args => do
    let args ← slice? a.callArgs args
    pure (f :: args.map CallArg.value)
  | .subscript l r | .binary _ l r | .boolOp _ l r | .namedExpr l r => some [l, r]
  | .slice l u s => some (l.toList ++ u.toList ++ s.toList)
  | .compare l links => do
    let links ← slice? a.comparisons links
    pure (l :: links.map Comparison.right)
  | .ifElse t b o => some [t, b, o]
  | .lambda params b => do
    let params ← slice? a.params params
    pure (params.filterMap Arena.Param.default ++ [b])
  | .yield v => some v.toList
  | .dict entries => do
    let entries ← slice? a.dictEntries entries
    pure (entries.flatMap Entry.ids)
  | .listComp e gens | .setComp e gens | .generator e gens => do
    let ids ← a.generatorIds? gens
    pure (e :: ids)
  | .dictComp k v gens => do
    let ids ← a.generatorIds? gens
    pure (k :: v :: ids)

/-- The ids the expression `id` refers to; `none` if `id` or one of its ranges is out of
bounds. -/
def children? (a : ExprArena) (id : ExprId) : Option (List ExprId) := do
  let n ← a.exprs[id.index]?
  a.kindChildren? n.kind

/-- The ids the dump visits from `id`, in its order: `id`, then the walk from each child. -/
def walk (a : ExprArena) : Nat → ExprId → Option (List ExprId)
  | 0, _ => none
  | fuel + 1, id => do
    let cs ← a.children? id
    let below ← cs.mapM (a.walk fuel)
    pure (id :: below.flatten)

end ExprArena

end ExprFront
