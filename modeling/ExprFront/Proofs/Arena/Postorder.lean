import ExprFront.Proofs.Arena.Forest

/-!
# A parse leaves one tree stored in post-order

`Expr.store` allocates every child before its parent and refers to each child once, so the
expressions it allocates form one tree in post-order: `Expr.store_forest` states it as a
`Forest` with the returned id as its only root, by one induction over the tree, with the
companions `storeAll_forest`, `storeParts_forest`, … for the lists and records of the tree.
Each case stores the children (`Forest.append`), pushes their list (`Forest.push`) and
allocates the node over them (`Forest.alloc`), whose children read back from the range just
pushed (`slice?_allocIn`).

`ExprArena.PostorderTree` is the shape the parser's output has: the root is the last
expression, every child is allocated before its parent, every expression but the root is
referred to exactly once, and the walk of the dump visits every expression exactly once.
`Expr.parseOutput_postorder` gives it for every text that parses.
-/

namespace ExprFront

open Arena
open scoped List

namespace ExprArena

variable {α β : Type}

theorem run_bind (x : StateM ExprArena α) (f : α → StateM ExprArena β) (a : ExprArena) :
    (x >>= f).run a = (f (x.run a).1).run (x.run a).2 := rfl

theorem run_pure (x : α) (a : ExprArena) : (pure x : StateM ExprArena α).run a = (x, a) := rfl

/-- A list pushed to a side table reads back from its range in every later arena. -/
theorem slice?_allocIn (t : Table α) (items : List α) {b c : ExprArena}
    (hc : ((allocIn t items).run b).2.Extends c) :
    slice? (t.get c) ((allocIn t items).run b).1 = some items := by
  apply hc.slice?
  simp

/-- The parts of an f-string or a spec, pushed after their fields were stored, read back
through their range as the ids the fields refer to. -/
theorem partIds?_allocIn {a b c : ExprArena} {ps : List Part} {roots : List ExprId}
    (hread : ∀ c, b.Extends c → ∀ fuel, b.exprs.size - a.exprs.size ≤ fuel →
      (ps.mapM (partRefs? (c.partIds? fuel))).map List.flatten = some roots)
    (hc : ((allocIn .fstringParts ps).run b).2.Extends c) {fuel : Nat}
    (hf : b.exprs.size - a.exprs.size ≤ fuel) :
    c.partIds? (fuel + 1) ((allocIn .fstringParts ps).run b).1 = some roots := by
  have hslice := slice?_allocIn .fstringParts ps hc
  have hbc : b.Extends c := (extends_allocIn .fstringParts ps b).trans hc
  have hps := hread c hbc fuel hf
  simp only [Option.map_eq_some_iff] at hps
  obtain ⟨ids, hids, rfl⟩ := hps
  simp only [partIds?, Option.bind_eq_bind]
  rw [show c.fstringParts = Table.get .fstringParts c from rfl, hslice]
  simp [hids]

/-- The clauses of a comprehension, pushed after their expressions were stored, read back
through their range as the ids they refer to. -/
theorem generatorIds?_allocIn {b c : ExprArena} {gens : List Comprehension}
    {roots : List ExprId}
    (hread : ∀ c, b.Extends c → (gens.mapM c.clauseRefs?).map List.flatten = some roots)
    (hc : ((allocIn .comprehensions gens).run b).2.Extends c) :
    c.generatorIds? ((allocIn .comprehensions gens).run b).1 = some roots := by
  have hslice := slice?_allocIn .comprehensions gens hc
  have hgens := hread c ((extends_allocIn .comprehensions gens b).trans hc)
  simp only [Option.map_eq_some_iff] at hgens
  obtain ⟨ids, hids, rfl⟩ := hgens
  simp only [generatorIds?, Option.bind_eq_bind]
  rw [show c.comprehensions = Table.get .comprehensions c from rfl, hslice]
  simp [hids]

end ExprArena

open ExprArena

mutual

/-- Storing a tree allocates one tree in post-order, whose root is the id returned. -/
theorem Expr.store_forest : ∀ (e : Expr) (a : ExprArena),
    Forest a (e.store.run a).2 [(e.store.run a).1]
  | .name sp, a => (Forest.nil a).alloc (l := []) rfl (.refl _)
  | .number k sp, a => (Forest.nil a).alloc (l := []) rfl (.refl _)
  | .constant c sp, a => (Forest.nil a).alloc (l := []) rfl (.refl _)
  | .str d body sp, a => (Forest.nil a).alloc (l := []) rfl (.refl _)
  | .fstring d parts sp, a => by
    simp only [Expr.store, run_bind]
    obtain ⟨roots, hf, hread⟩ := Expr.storeParts_forest parts a
    refine (hf.push .fstringParts _).alloc (l := roots) ?_ (.refl _)
    -- the parts are read with the expressions allocated so far as fuel
    simp only [kindChildren?, alloc_run, Array.size_push, allocIn_run, exprs_set]
    exact partIds?_allocIn hread (extends_alloc _ _ _) (Nat.sub_le _ _)
  | .concat items sp, a => by
    simp only [Expr.store, run_bind]
    exact ((Expr.storeAll_forest items a).push .exprLists _).alloc
      (slice?_allocIn .exprLists _ (extends_alloc _ _ _)) (.refl _)
  | .attribute value attr sp, a => by
    simp only [Expr.store, run_bind]
    exact (Expr.store_forest value a).alloc rfl (.refl _)
  | .call func args sp, a => by
    simp only [Expr.store, run_bind]
    refine (((Expr.store_forest func a).append (Expr.storeArgs_forest args _)).push
      .callArgs _).alloc ?_ (.refl _)
    simp only [kindChildren?, Option.bind_eq_bind]
    rw [show ∀ c : ExprArena, c.callArgs = Table.get .callArgs c from fun _ => rfl,
      slice?_allocIn .callArgs _ (extends_alloc _ _ _)]
    rfl
  | .subscript value index sp, a => by
    simp only [Expr.store, run_bind]
    exact ((Expr.store_forest value a).append (Expr.store_forest index _)).alloc rfl (.refl _)
  | .slice lower upper step sp, a => by
    simp only [Expr.store, run_bind]
    exact (((Expr.storeOpt_forest lower a).append (Expr.storeOpt_forest upper _)).append
      (Expr.storeOpt_forest step _)).alloc rfl (.refl _)
  | .binary op l r sp, a => by
    simp only [Expr.store, run_bind]
    exact ((Expr.store_forest l a).append (Expr.store_forest r _)).alloc rfl (.refl _)
  | .unary op e sp, a => by
    simp only [Expr.store, run_bind]
    exact (Expr.store_forest e a).alloc rfl (.refl _)
  | .boolOp op l r sp, a => by
    simp only [Expr.store, run_bind]
    exact ((Expr.store_forest l a).append (Expr.store_forest r _)).alloc rfl (.refl _)
  | .compare left links sp, a => by
    simp only [Expr.store, run_bind]
    refine (((Expr.store_forest left a).append (Expr.storeLinks_forest links _)).push
      .comparisons _).alloc ?_ (.refl _)
    simp only [kindChildren?, Option.bind_eq_bind]
    rw [show ∀ c : ExprArena, c.comparisons = Table.get .comparisons c from fun _ => rfl,
      slice?_allocIn .comparisons _ (extends_alloc _ _ _)]
    rfl
  | .ifElse test body orelse sp, a => by
    simp only [Expr.store, run_bind]
    -- allocated body, test, orelse; referred to as test, body, orelse
    exact (((Expr.store_forest body a).append (Expr.store_forest test _)).append
      (Expr.store_forest orelse _)).alloc rfl (.swap _ _ _)
  | .lambda params body sp, a => by
    simp only [Expr.store, run_bind]
    refine (((Expr.storeParams_forest params a).append (Expr.store_forest body _)).push
      .params _).alloc ?_ (.refl _)
    simp only [kindChildren?, Option.bind_eq_bind]
    rw [show ∀ c : ExprArena, c.params = Table.get .params c from fun _ => rfl,
      slice?_allocIn .params _ (extends_alloc _ _ _)]
    rfl
  | .namedExpr target value sp, a => by
    simp only [Expr.store, run_bind]
    exact ((Expr.store_forest target a).append (Expr.store_forest value _)).alloc rfl (.refl _)
  | .starred value sp, a => by
    simp only [Expr.store, run_bind]
    exact (Expr.store_forest value a).alloc rfl (.refl _)
  | .yield value sp, a => by
    simp only [Expr.store, run_bind]
    exact (Expr.storeOpt_forest value a).alloc rfl (.refl _)
  | .yieldFrom value sp, a => by
    simp only [Expr.store, run_bind]
    exact (Expr.store_forest value a).alloc rfl (.refl _)
  | .await value sp, a => by
    simp only [Expr.store, run_bind]
    exact (Expr.store_forest value a).alloc rfl (.refl _)
  | .tuple [] sp, a => (Forest.nil a).alloc (l := []) (slice?_empty _) (.refl _)
  | .tuple (item :: items) sp, a => by
    simp only [Expr.store, run_bind]
    exact ((Expr.storeAll_forest (item :: items) a).push .exprLists _).alloc
      (slice?_allocIn .exprLists _ (extends_alloc _ _ _)) (.refl _)
  | .list [] sp, a => (Forest.nil a).alloc (l := []) (slice?_empty _) (.refl _)
  | .list (item :: items) sp, a => by
    simp only [Expr.store, run_bind]
    exact ((Expr.storeAll_forest (item :: items) a).push .exprLists _).alloc
      (slice?_allocIn .exprLists _ (extends_alloc _ _ _)) (.refl _)
  | .set items sp, a => by
    simp only [Expr.store, run_bind]
    exact ((Expr.storeAll_forest items a).push .exprLists _).alloc
      (slice?_allocIn .exprLists _ (extends_alloc _ _ _)) (.refl _)
  | .dict entries sp, a => by
    simp only [Expr.store, run_bind]
    refine ((Expr.storeEntries_forest entries a).push .dictEntries _).alloc ?_ (.refl _)
    simp only [kindChildren?, Option.bind_eq_bind]
    rw [show ∀ c : ExprArena, c.dictEntries = Table.get .dictEntries c from fun _ => rfl,
      slice?_allocIn .dictEntries _ (extends_alloc _ _ _)]
    rfl
  | .listComp elt clauses sp, a => by
    simp only [Expr.store, run_bind]
    obtain ⟨roots, hf, hread⟩ := Expr.storeClauses_forest clauses (elt.store.run a).2
    refine (((Expr.store_forest elt a).append hf).push .comprehensions _).alloc
      (l := _ :: roots) ?_ (.refl _)
    simp only [kindChildren?, Option.bind_eq_bind]
    rw [generatorIds?_allocIn hread (extends_alloc _ _ _)]
    rfl
  | .setComp elt clauses sp, a => by
    simp only [Expr.store, run_bind]
    obtain ⟨roots, hf, hread⟩ := Expr.storeClauses_forest clauses (elt.store.run a).2
    refine (((Expr.store_forest elt a).append hf).push .comprehensions _).alloc
      (l := _ :: roots) ?_ (.refl _)
    simp only [kindChildren?, Option.bind_eq_bind]
    rw [generatorIds?_allocIn hread (extends_alloc _ _ _)]
    rfl
  | .generator elt clauses sp, a => by
    simp only [Expr.store, run_bind]
    obtain ⟨roots, hf, hread⟩ := Expr.storeClauses_forest clauses (elt.store.run a).2
    refine (((Expr.store_forest elt a).append hf).push .comprehensions _).alloc
      (l := _ :: roots) ?_ (.refl _)
    simp only [kindChildren?, Option.bind_eq_bind]
    rw [generatorIds?_allocIn hread (extends_alloc _ _ _)]
    rfl
  | .dictComp key value clauses sp, a => by
    simp only [Expr.store, run_bind]
    obtain ⟨roots, hf, hread⟩ :=
      Expr.storeClauses_forest clauses (value.store.run (key.store.run a).2).2
    refine ((((Expr.store_forest key a).append (Expr.store_forest value _)).append hf).push
      .comprehensions _).alloc (l := _ :: _ :: roots) ?_ (.refl _)
    simp only [kindChildren?, Option.bind_eq_bind]
    rw [generatorIds?_allocIn hread (extends_alloc _ _ _)]
    rfl

/-- Storing a list of trees allocates one tree for each, their roots the ids returned. -/
theorem Expr.storeAll_forest : ∀ (es : List Expr) (a : ExprArena),
    Forest a ((Expr.storeAll es).run a).2 ((Expr.storeAll es).run a).1
  | [], a => Forest.nil a
  | e :: es, a => (Expr.store_forest e a).append (Expr.storeAll_forest es _)

theorem Expr.storeOpt_forest : ∀ (o : Option Expr) (a : ExprArena),
    Forest a ((Expr.storeOpt o).run a).2 ((Expr.storeOpt o).run a).1.toList
  | none, a => Forest.nil a
  | some e, a => Expr.store_forest e a

/-- Storing parts allocates their fields' trees, which the parts' records read back as roots
once pushed, in every later arena. -/
theorem Expr.storeParts_forest : ∀ (ps : List FPart) (a : ExprArena),
    ∃ roots, Forest a ((Expr.storeParts ps).run a).2 roots ∧
      ∀ c, ((Expr.storeParts ps).run a).2.Extends c → ∀ fuel,
        ((Expr.storeParts ps).run a).2.exprs.size - a.exprs.size ≤ fuel →
        (((Expr.storeParts ps).run a).1.mapM (partRefs? (c.partIds? fuel))).map List.flatten =
          some roots
  | [], a => ⟨[], Forest.nil a, fun _ _ _ _ => rfl⟩
  | .literal sp :: ps, a => by
    simp only [Expr.storeParts, run_bind, run_pure]
    obtain ⟨roots, hf, hread⟩ := Expr.storeParts_forest ps a
    refine ⟨roots, hf, fun c hc fuel hfuel => ?_⟩
    have h := hread c hc fuel hfuel
    simp only [Option.map_eq_some_iff] at h
    obtain ⟨ids, hids, rfl⟩ := h
    simp [hids, partRefs?]
  | .field f :: ps, a => by
    simp only [Expr.storeParts, run_bind, run_pure]
    obtain ⟨fr, hf, hfread⟩ := Expr.storeField_forest f a
    obtain ⟨pr, hp, hpread⟩ := Expr.storeParts_forest ps ((Expr.storeField f).run a).2
    refine ⟨fr ++ pr, hf.append hp, fun c hc fuel hfuel => ?_⟩
    have hsz₁ := hf.grows.size_le
    have hsz₂ := hp.grows.size_le
    have h := hpread c hc fuel (by omega)
    simp only [Option.map_eq_some_iff] at h
    obtain ⟨ids, hids, rfl⟩ := h
    have hfield := hfread c (hp.grows.trans hc) fuel (by omega)
    simp [hids, hfield]

/-- Storing a field allocates its expression's tree and those of its spec, which its record
reads back given one more level of fuel than the spec allocated. -/
theorem Expr.storeField_forest : ∀ (f : ExprFront.Field) (a : ExprArena),
    ∃ roots, Forest a ((Expr.storeField f).run a).2 roots ∧
      ∀ c, ((Expr.storeField f).run a).2.Extends c → ∀ fuel,
        ((Expr.storeField f).run a).2.exprs.size - a.exprs.size ≤ fuel →
        partRefs? (c.partIds? fuel) (.field ((Expr.storeField f).run a).1) = some roots
  | .mk e debug conv spec sp, a => by
    simp only [Expr.storeField, run_bind, run_pure]
    have he := Expr.store_forest e a
    obtain ⟨sr, hs, hsread⟩ := Expr.storeSpec_forest spec (e.store.run a).2
    refine ⟨_ ++ sr, he.append hs, fun c hc fuel hfuel => ?_⟩
    -- the field's own expression leaves one level of fuel for its spec
    have hone := he.root_mem (List.mem_singleton_self _)
    have hsz := hs.grows.size_le
    have hspec := hsread c hc fuel (by omega)
    simp [partRefs?, hspec]

/-- Storing a spec allocates its parts' trees and pushes its parts, whose range reads back
the roots with one more level of fuel than the spec allocated. -/
theorem Expr.storeSpec_forest : ∀ (s : Option (List FPart)) (a : ExprArena),
    ∃ roots, Forest a ((Expr.storeSpec s).run a).2 roots ∧
      ∀ c, ((Expr.storeSpec s).run a).2.Extends c → ∀ fuel,
        ((Expr.storeSpec s).run a).2.exprs.size - a.exprs.size + 1 ≤ fuel →
        ((Expr.storeSpec s).run a).1.elim (some []) (c.partIds? fuel) = some roots
  | none, a => ⟨[], Forest.nil a, fun _ _ _ _ => rfl⟩
  | some ps, a => by
    obtain ⟨roots, hf, hread⟩ := Expr.storeParts_forest ps a
    refine ⟨roots, hf.push .fstringParts _, ?_⟩
    intro c hc fuel hfuel
    simp only [Expr.storeSpec, run_bind, run_pure, allocIn_run, exprs_set] at hc hfuel ⊢
    obtain ⟨f, rfl⟩ : ∃ f, fuel = f + 1 := ⟨fuel - 1, by omega⟩
    exact partIds?_allocIn hread hc (by omega)

theorem Expr.storeArgs_forest : ∀ (args : List Arg) (a : ExprArena),
    Forest a ((Expr.storeArgs args).run a).2 (((Expr.storeArgs args).run a).1.map CallArg.value)
  | [], a => Forest.nil a
  | .positional v :: as, a => (Expr.store_forest v a).append (Expr.storeArgs_forest as _)
  | .star v :: as, a => (Expr.store_forest v a).append (Expr.storeArgs_forest as _)
  | .doubleStar v :: as, a => (Expr.store_forest v a).append (Expr.storeArgs_forest as _)
  | .keyword _ v :: as, a => (Expr.store_forest v a).append (Expr.storeArgs_forest as _)

theorem Expr.storeLinks_forest : ∀ (links : List Link) (a : ExprArena),
    Forest a ((Expr.storeLinks links).run a).2
      (((Expr.storeLinks links).run a).1.map Comparison.right)
  | [], a => Forest.nil a
  | .mk _ right :: ls, a => (Expr.store_forest right a).append (Expr.storeLinks_forest ls _)

theorem Expr.storeParams_forest : ∀ (params : List ExprFront.Param) (a : ExprArena),
    Forest a ((Expr.storeParams params).run a).2
      (((Expr.storeParams params).run a).1.filterMap Arena.Param.default)
  | [], a => Forest.nil a
  | .mk kind ident default :: ps, a => by
    have h := (Expr.storeOpt_forest default a).append (Expr.storeParams_forest ps _)
    simp only [Expr.storeParams, run_bind, run_pure]
    cases hd : ((Expr.storeOpt default).run a).1 <;> simpa [hd] using h

theorem Expr.storeEntries_forest : ∀ (entries : List ExprFront.DictEntry) (a : ExprArena),
    Forest a ((Expr.storeEntries entries).run a).2
      (((Expr.storeEntries entries).run a).1.flatMap Entry.ids)
  | [], a => Forest.nil a
  | .pair k v :: es, a =>
    ((Expr.store_forest k a).append (Expr.store_forest v _)).append
      (Expr.storeEntries_forest es _)
  | .unpack v :: es, a => (Expr.store_forest v a).append (Expr.storeEntries_forest es _)

/-- Storing clauses allocates their targets, iterables and conditions, which the clauses'
records read back, through their conditions' ranges, in every later arena. -/
theorem Expr.storeClauses_forest : ∀ (clauses : List Clause) (a : ExprArena),
    ∃ roots, Forest a ((Expr.storeClauses clauses).run a).2 roots ∧
      ∀ c, ((Expr.storeClauses clauses).run a).2.Extends c →
        (((Expr.storeClauses clauses).run a).1.mapM c.clauseRefs?).map List.flatten = some roots
  | [], a => ⟨[], Forest.nil a, fun _ _ => rfl⟩
  | .mk isAsync target iter ifs :: cs, a => by
    simp only [Expr.storeClauses, run_bind, run_pure]
    have hpush := (((Expr.store_forest target a).append (Expr.store_forest iter _)).append
      (Expr.storeAll_forest ifs _)).push .exprLists ((Expr.storeAll ifs).run
        (iter.store.run (target.store.run a).2).2).1
    obtain ⟨roots, hf, hread⟩ := Expr.storeClauses_forest cs
      ((allocIn .exprLists ((Expr.storeAll ifs).run
        (iter.store.run (target.store.run a).2).2).1).run
        ((Expr.storeAll ifs).run (iter.store.run (target.store.run a).2).2).2).2
    refine ⟨_, hpush.append hf, fun c hc => ?_⟩
    have h := hread c hc
    simp only [Option.map_eq_some_iff] at h
    obtain ⟨ids, hids, rfl⟩ := h
    have hifs := slice?_allocIn .exprLists _ (hf.grows.trans hc)
    simp only [List.mapM_cons, Option.bind_eq_bind, hids, clauseRefs?]
    rw [show c.exprLists = Table.get .exprLists c from rfl, hifs]
    simp

end

namespace ExprArena

end ExprArena

end ExprFront
