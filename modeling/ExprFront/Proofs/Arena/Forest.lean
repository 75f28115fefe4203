import Mathlib.Data.List.Basic
import ExprFront.Syntax.Arena

/-!
# Arenas that only grow, and the forests they hold

An arena changes only by appending: `alloc` adds an expression and `allocIn` a list to one
side table. `ExprArena.Extends a b` says that `b` is `a` with entries appended, and then
whatever reads from `a` reads the same from `b`: a range (`slice?_extends`), the ids the parts of
an f-string refer to, the children of an expression and the walk from it (`walk_extends`). The
readers that take fuel also read the same with more of it.

`ExprArena.Forest a b roots` says that the expressions `b` holds past those of `a` are trees
stored in post-order, with the given roots. A forest is built the way `Expr.store` builds one:
from nothing (`Forest.nil`), one after another (`Forest.append`), across pushes to the side
tables (`Forest.push`), and by allocating an expression that refers to exactly the roots
(`Forest.alloc`), which makes them one tree. A forest of one tree has its root last
(`Forest.root_last`).
-/

namespace ExprFront

open Arena
open scoped List

/-! ## Options of lists -/

section Lists

variable {α β : Type}

/-- A `mapM` into `Option` succeeds with the values of a function it agrees with. -/
theorem mapM_eq_some_map {f : α → Option β} {g : α → β} :
    ∀ {l : List α}, (∀ x ∈ l, f x = some (g x)) → l.mapM f = some (l.map g)
  | [], _ => rfl
  | x :: xs, h => by
    have hx := h x (List.mem_cons_self ..)
    have hxs := mapM_eq_some_map fun y hy => h y (List.mem_cons_of_mem x hy)
    simp [hx, hxs]

/-- A `mapM` into `Option` keeps its result when the function is replaced by one that gives the
same results wherever the first succeeds. -/
theorem mapM_some_of_imp {f g : α → Option β} :
    ∀ {l : List α} {ys : List β}, (∀ x ∈ l, ∀ y, f x = some y → g x = some y) →
      l.mapM f = some ys → l.mapM g = some ys
  | [], _, _, h => h
  | x :: xs, ys, hfg, h => by
    simp only [List.mapM_cons, Option.bind_eq_bind, Option.bind_eq_some_iff,
      Option.pure_def, Option.some.injEq] at h ⊢
    obtain ⟨y, hy, zs, hzs, rfl⟩ := h
    exact ⟨y, hfg x (List.mem_cons_self ..) y hy, zs,
      mapM_some_of_imp (fun z hz => hfg z (List.mem_cons_of_mem x hz)) hzs, rfl⟩

end Lists

namespace ExprArena

/-! ## Growing -/

/-- `b` is `a` with entries appended to its expressions and to its side tables. -/
structure Extends (a b : ExprArena) : Prop where
  exprs : ∃ s, b.exprs = a.exprs ++ s
  table : ∀ {α : Type} (t : Table α), ∃ s, t.get b = t.get a ++ s

namespace Extends

theorem refl (a : ExprArena) : a.Extends a :=
  ⟨⟨#[], by simp⟩, fun _ => ⟨#[], by simp⟩⟩

theorem trans {a b c : ExprArena} (h₁ : a.Extends b) (h₂ : b.Extends c) : a.Extends c := by
  obtain ⟨s₁, e₁⟩ := h₁.exprs
  obtain ⟨s₂, e₂⟩ := h₂.exprs
  refine ⟨⟨s₁ ++ s₂, by rw [e₂, e₁, Array.append_assoc]⟩, fun t => ?_⟩
  obtain ⟨u₁, f₁⟩ := h₁.table t
  obtain ⟨u₂, f₂⟩ := h₂.table t
  exact ⟨u₁ ++ u₂, by rw [f₂, f₁, Array.append_assoc]⟩

theorem size_le {a b : ExprArena} (h : a.Extends b) : a.exprs.size ≤ b.exprs.size := by
  obtain ⟨s, e⟩ := h.exprs
  simp [e]

/-- An expression of `a` is the same expression in `b`. -/
theorem getElem? {a b : ExprArena} (h : a.Extends b) {i : Nat} {n : Node}
    (hn : a.exprs[i]? = some n) : b.exprs[i]? = some n := by
  obtain ⟨s, e⟩ := h.exprs
  have hi : i < a.exprs.size := by
    by_contra hge
    simp [Array.getElem?_eq_none (Nat.le_of_not_lt hge)] at hn
  rw [e, Array.getElem?_append_left hi, hn]

end Extends

@[simp] theorem alloc_run (k : Kind) (sp : Span) (a : ExprArena) :
    (alloc k sp).run a = (⟨a.exprs.size⟩, { a with exprs := a.exprs.push ⟨k, sp⟩ }) := rfl

@[simp] theorem allocIn_run {α : Type} (t : Table α) (items : List α) (a : ExprArena) :
    (allocIn t items).run a =
      (⟨(t.get a).size, items.length⟩, t.set a (t.get a ++ items.toArray)) := rfl

@[simp] theorem exprs_set {α : Type} (t : Table α) (a : ExprArena) (x : Array α) :
    (t.set a x).exprs = a.exprs := by
  cases t <;> rfl

@[simp] theorem get_set_self {α : Type} (t : Table α) (a : ExprArena) (x : Array α) :
    t.get (t.set a x) = x := by
  cases t <;> rfl

theorem extends_alloc (k : Kind) (sp : Span) (a : ExprArena) :
    a.Extends ((alloc k sp).run a).2 :=
  ⟨⟨#[⟨k, sp⟩], by simp⟩, fun t => ⟨#[], by cases t <;> simp [Table.get]⟩⟩

/-- Pushing to one side table extends the arena: that table by the list, the others by
nothing. -/
theorem extends_allocIn {α : Type} (t : Table α) (items : List α) (a : ExprArena) :
    a.Extends ((allocIn t items).run a).2 := by
  refine ⟨⟨#[], by simp⟩, fun t' => ?_⟩
  cases t <;> cases t' <;> simp [Table.get, Table.set]

/-! ## Reading ranges -/

section Slices

variable {α : Type}

theorem slice?_extends {t : Array α} {r : ArenaRange} {l : List α} (h : slice? t r = some l)
    (s : Array α) : slice? (t ++ s) r = some l := by
  unfold slice? at h ⊢
  split at h
  · next hle =>
    rw [if_pos (by simp; omega), ← h]
    congr 1
    simp only [Array.extract_append, Array.toList_append]
    have hstop : r.start + r.len - t.size = 0 := by omega
    simp [hstop]
  · cases h

/-- A list just pushed reads back from the range `allocIn` gave it. -/
@[simp] theorem slice?_pushed (t : Array α) (items : List α) :
    slice? (t ++ items.toArray) ⟨t.size, items.length⟩ = some items := by
  unfold slice?
  rw [if_pos (by simp)]
  simp

@[simp] theorem slice?_empty (t : Array α) : slice? t .empty = some [] := by
  simp [slice?, ArenaRange.empty]

/-- A range read from a table of `a` reads the same from that table of `b`. -/
theorem Extends.slice? {a b : ExprArena} (h : a.Extends b) {t : Table α} {r : ArenaRange}
    {l : List α} (hl : ExprArena.slice? (t.get a) r = some l) :
    ExprArena.slice? (t.get b) r = some l := by
  obtain ⟨s, e⟩ := h.table t
  rw [e]
  exact slice?_extends hl s

end Slices

/-! ## Reading children -/

/-- The ids read from the parts of a range are read the same in a larger arena with more
fuel. -/
theorem partIds?_extends {a b : ExprArena} (h : a.Extends b) :
    ∀ {f f' : Nat}, f ≤ f' → ∀ {r : ArenaRange} {l : List ExprId},
      a.partIds? f r = some l → b.partIds? f' r = some l
  | 0, _, _, _, _, hl => by simp [partIds?] at hl
  | f + 1, f' + 1, hf, r, l, hl => by
    simp only [partIds?, Option.bind_eq_bind, Option.bind_eq_some_iff, Option.pure_def,
      Option.some.injEq] at hl ⊢
    obtain ⟨ps, hps, ids, hids, rfl⟩ := hl
    refine ⟨ps, h.slice? (t := .fstringParts) hps, ids, mapM_some_of_imp ?_ hids, rfl⟩
    intro p _ y hy
    cases p with
    | literal _ => exact hy
    | field fd =>
      simp only [partRefs?, Option.bind_eq_bind, Option.bind_eq_some_iff, Option.pure_def,
        Option.some.injEq] at hy ⊢
      obtain ⟨inner, hinner, rfl⟩ := hy
      refine ⟨inner, ?_, rfl⟩
      cases hs : fd.spec with
      | none => simpa [hs] using hinner
      | some spec =>
        simp only [hs, Option.elim] at hinner ⊢
        exact partIds?_extends h (by omega) hinner

theorem generatorIds?_extends {a b : ExprArena} (h : a.Extends b) {r : ArenaRange}
    {l : List ExprId} (hl : a.generatorIds? r = some l) : b.generatorIds? r = some l := by
  simp only [generatorIds?, Option.bind_eq_bind, Option.bind_eq_some_iff, Option.pure_def,
    Option.some.injEq] at hl ⊢
  obtain ⟨gs, hgs, ids, hids, rfl⟩ := hl
  refine ⟨gs, h.slice? (t := .comprehensions) hgs, ids, mapM_some_of_imp ?_ hids, rfl⟩
  intro g _ y hy
  simp only [clauseRefs?, Option.bind_eq_bind, Option.bind_eq_some_iff, Option.pure_def,
    Option.some.injEq] at hy ⊢
  obtain ⟨ifs, hifs, rfl⟩ := hy
  exact ⟨ifs, h.slice? (t := .exprLists) hifs, rfl⟩

/-- The children of a kind of expression read in `a` read the same in `b`. -/
theorem kindChildren?_extends {a b : ExprArena} (h : a.Extends b) {k : Kind}
    {cs : List ExprId} (hk : a.kindChildren? k = some cs) : b.kindChildren? k = some cs := by
  have hlists {r : ArenaRange} {l : List ExprId} (hl : slice? a.exprLists r = some l) :=
    h.slice? (t := .exprLists) hl
  cases k <;> simp only [kindChildren?, Option.bind_eq_bind, Option.bind_eq_some_iff,
    Option.pure_def, Option.some.injEq] at hk ⊢
  case fstring => exact partIds?_extends h h.size_le hk
  case concat | tuple | list | set => exact hlists hk
  case call =>
    obtain ⟨args, hargs, rfl⟩ := hk
    exact ⟨args, h.slice? (t := .callArgs) hargs, rfl⟩
  case compare =>
    obtain ⟨links, hlinks, rfl⟩ := hk
    exact ⟨links, h.slice? (t := .comparisons) hlinks, rfl⟩
  case lambda =>
    obtain ⟨params, hparams, rfl⟩ := hk
    exact ⟨params, h.slice? (t := .params) hparams, rfl⟩
  case dict =>
    obtain ⟨entries, hentries, rfl⟩ := hk
    exact ⟨entries, h.slice? (t := .dictEntries) hentries, rfl⟩
  case listComp | setComp | generator | dictComp =>
    obtain ⟨ids, hids, rfl⟩ := hk
    exact ⟨ids, generatorIds?_extends h hids, rfl⟩
  all_goals exact hk

theorem children?_extends {a b : ExprArena} (h : a.Extends b) {id : ExprId}
    {cs : List ExprId} (hc : a.children? id = some cs) : b.children? id = some cs := by
  simp only [children?, Option.bind_eq_bind, Option.bind_eq_some_iff] at hc ⊢
  obtain ⟨n, hn, hk⟩ := hc
  exact ⟨n, h.getElem? hn, kindChildren?_extends h hk⟩

/-- A walk that ends in `a` walks the same in `b`, and with more fuel. -/
theorem walk_extends {a b : ExprArena} (h : a.Extends b) :
    ∀ {f f' : Nat}, f ≤ f' → ∀ {id : ExprId} {l : List ExprId},
      a.walk f id = some l → b.walk f' id = some l
  | 0, _, _, _, _, hl => by simp [walk] at hl
  | f + 1, f' + 1, hf, id, l, hl => by
    simp only [walk, Option.bind_eq_bind, Option.bind_eq_some_iff, Option.pure_def,
      Option.some.injEq] at hl ⊢
    obtain ⟨cs, hcs, below, hbelow, rfl⟩ := hl
    exact ⟨cs, children?_extends h hcs, below,
      mapM_some_of_imp (fun c _ y hy => walk_extends h (by omega) hy) hbelow, rfl⟩

/-! ## Forests -/

/-- The indices of the children of expression `i`; none where they cannot be read. -/
def childIndices (a : ExprArena) (i : Nat) : List Nat :=
  ((a.children? ⟨i⟩).getD []).map ExprId.index

/-- The indices of the expressions `b` holds past those of `a`. -/
def newIndices (a b : ExprArena) : List Nat :=
  List.range' a.exprs.size (b.exprs.size - a.exprs.size)

/-- The new indices of two growths one after the other: those of the first, then those of the
second. -/
theorem newIndices_trans {a b c : ExprArena} (hab : a.exprs.size ≤ b.exprs.size)
    (hbc : b.exprs.size ≤ c.exprs.size) : newIndices a c = newIndices a b ++ newIndices b c := by
  have e := @List.range'_append_1 a.exprs.size (b.exprs.size - a.exprs.size)
    (c.exprs.size - b.exprs.size)
  rw [show a.exprs.size + (b.exprs.size - a.exprs.size) = b.exprs.size by omega,
    show b.exprs.size - a.exprs.size + (c.exprs.size - b.exprs.size) =
      c.exprs.size - a.exprs.size by omega] at e
  exact e.symm

/-- The expressions `b` holds past those of `a` are trees stored in post-order, whose roots are
`roots`: every new expression refers only to new expressions allocated before it, each new
expression is either a root or referred to by exactly one new expression, once, and the walk
from each root visits its tree, given as much fuel as there are new expressions. -/
structure Forest (a b : ExprArena) (roots : List ExprId) : Prop where
  grows : a.Extends b
  children_below : ∀ i, a.exprs.size ≤ i → i < b.exprs.size →
    ∃ cs, b.children? ⟨i⟩ = some cs ∧ ∀ c ∈ cs, a.exprs.size ≤ c.index ∧ c.index < i
  edges : (newIndices a b).flatMap b.childIndices ++ roots.map ExprId.index ~ newIndices a b
  walks : ∃ W : ExprId → List ExprId,
    (∀ r ∈ roots, ∀ fuel, b.exprs.size - a.exprs.size ≤ fuel → b.walk fuel r = some (W r)) ∧
    (roots.flatMap W).map ExprId.index ~ newIndices a b

namespace Forest

variable {a b c : ExprArena} {rs ts : List ExprId} {r : ExprId}

theorem mem_newIndices {i : Nat} : i ∈ newIndices a b ↔ a.exprs.size ≤ i ∧ i < b.exprs.size := by
  simp only [newIndices, List.mem_range'_1]
  omega

/-- A root is one of the new expressions. -/
theorem root_mem (h : Forest a b rs) (hr : r ∈ rs) :
    a.exprs.size ≤ r.index ∧ r.index < b.exprs.size := by
  rw [← mem_newIndices]
  exact h.edges.subset (List.mem_append_right _ (List.mem_map_of_mem hr))

/-- The children read from `b` below its new expressions are those `c` reads. -/
theorem childIndices_extends (h : Forest a b rs) (hbc : b.Extends c) :
    ∀ i ∈ newIndices a b, b.childIndices i = c.childIndices i := by
  intro i hi
  obtain ⟨cs, hcs, _⟩ := h.children_below i (mem_newIndices.1 hi).1 (mem_newIndices.1 hi).2
  simp [childIndices, hcs, children?_extends hbc hcs]

theorem nil (a : ExprArena) : Forest a a [] where
  grows := .refl a
  children_below _ h₁ h₂ := absurd h₂ (Nat.not_lt.2 h₁)
  edges := by simp [newIndices]
  walks := ⟨fun _ => [], by simp, by simp [newIndices]⟩

/-- Two forests allocated one after the other are one forest. -/
theorem append (h₁ : Forest a b rs) (h₂ : Forest b c ts) : Forest a c (rs ++ ts) := by
  have hab := h₁.grows.size_le
  have hbc := h₂.grows.size_le
  have hsplit := newIndices_trans hab hbc
  have hsame := h₁.childIndices_extends h₂.grows
  refine ⟨h₁.grows.trans h₂.grows, fun i hi hic => ?_, ?_, ?_⟩
  · by_cases hib : i < b.exprs.size
    · obtain ⟨cs, hcs, hlt⟩ := h₁.children_below i hi hib
      exact ⟨cs, children?_extends h₂.grows hcs, hlt⟩
    · obtain ⟨cs, hcs, hlt⟩ := h₂.children_below i (by omega) hic
      exact ⟨cs, hcs, fun x hx => ⟨by have := hlt x hx; omega, (hlt x hx).2⟩⟩
  · rw [hsplit, List.flatMap_append, ← List.flatMap_congr hsame, List.map_append]
    calc (newIndices a b).flatMap b.childIndices ++ (newIndices b c).flatMap c.childIndices ++
          (rs.map ExprId.index ++ ts.map ExprId.index)
        ~ ((newIndices a b).flatMap b.childIndices ++ rs.map ExprId.index) ++
          ((newIndices b c).flatMap c.childIndices ++ ts.map ExprId.index) := by
          simp only [List.append_assoc]
          exact List.Perm.append_left _ (List.perm_append_comm_assoc _ _ _)
      _ ~ newIndices a b ++ newIndices b c := h₁.edges.append h₂.edges
  · obtain ⟨W₁, hw₁, hp₁⟩ := h₁.walks
    obtain ⟨W₂, hw₂, hp₂⟩ := h₂.walks
    refine ⟨fun r => if r.index < b.exprs.size then W₁ r else W₂ r, fun r hr fuel hf => ?_, ?_⟩
    · dsimp only
      rcases List.mem_append.1 hr with hr | hr
      · rw [if_pos (h₁.root_mem hr).2]
        exact walk_extends h₂.grows (by omega) (hw₁ r hr fuel (by omega))
      · rw [if_neg (Nat.not_lt.2 (h₂.root_mem hr).1)]
        exact hw₂ r hr fuel (by omega)
    · have e₁ : rs.flatMap (fun r => if r.index < b.exprs.size then W₁ r else W₂ r) =
          rs.flatMap W₁ := List.flatMap_congr fun r hr => if_pos (h₁.root_mem hr).2
      have e₂ : ts.flatMap (fun r => if r.index < b.exprs.size then W₁ r else W₂ r) =
          ts.flatMap W₂ := List.flatMap_congr fun r hr => if_neg (Nat.not_lt.2 (h₂.root_mem hr).1)
      rw [List.flatMap_append, e₁, e₂, List.map_append, hsplit]
      exact hp₁.append hp₂

/-- Pushes to the side tables add no expressions: an empty forest. -/
theorem pushed (h : a.Extends b) (hsize : b.exprs.size = a.exprs.size) : Forest a b [] where
  grows := h
  children_below _ h₁ h₂ := absurd h₂ (by omega)
  edges := by simp [newIndices, hsize]
  walks := ⟨fun _ => [], by simp, by simp [newIndices, hsize]⟩

/-- Pushing a list to a side table keeps a forest as it is. -/
theorem push (h : Forest a b rs) {α : Type} (t : Table α) (items : List α) :
    Forest a ((allocIn t items).run b).2 rs := by
  simpa using h.append (pushed (extends_allocIn t items b) (by simp))

/-- Allocating an expression that refers to exactly the roots of a forest, in any order, makes
them one tree with the new expression its root. -/
theorem alloc (h : Forest a b rs) {k : Kind} {sp : Span} {l : List ExprId}
    (hk : ((alloc k sp).run b).2.kindChildren? k = some l) (hp : l ~ rs) :
    Forest a ((alloc k sp).run b).2 [((alloc k sp).run b).1] := by
  have hb := extends_alloc k sp b
  have hab := h.grows.size_le
  rw [alloc_run] at hk hb ⊢
  set c : ExprArena := { b with exprs := b.exprs.push ⟨k, sp⟩ }
  have hnode : c.children? ⟨b.exprs.size⟩ = some l := by
    simpa [children?, c, Array.getElem?_push_size] using hk
  have hsplit : newIndices a c = newIndices a b ++ [b.exprs.size] := by
    rw [newIndices_trans hab (by simp [c])]
    simp [newIndices, c]
  refine ⟨h.grows.trans hb, fun i hi hic => ?_, ?_, ?_⟩
  · by_cases hib : i < b.exprs.size
    · obtain ⟨l', hl', hlt⟩ := h.children_below i hi hib
      exact ⟨l', children?_extends hb hl', hlt⟩
    · obtain rfl : i = b.exprs.size := by simp [c] at hic; omega
      exact ⟨l, hnode, fun x hx => h.root_mem (hp.subset hx)⟩
  · have hlast : c.childIndices b.exprs.size = l.map ExprId.index := by
      simp [childIndices, hnode]
    rw [hsplit, List.flatMap_append, ← List.flatMap_congr (h.childIndices_extends hb),
      List.flatMap_singleton, hlast]
    have hE : (newIndices a b).flatMap b.childIndices ++ l.map ExprId.index ~ newIndices a b :=
      ((hp.map _).append_left _).trans h.edges
    simpa using hE.append_right [b.exprs.size]
  · obtain ⟨W, hw, hperm⟩ := h.walks
    refine ⟨fun _ => ⟨b.exprs.size⟩ :: l.flatMap W, fun r hr fuel hf => ?_, ?_⟩
    · obtain rfl := List.mem_singleton.1 hr
      obtain ⟨f, rfl⟩ : ∃ f, fuel = f + 1 := ⟨fuel - 1, by simp [c] at hf; omega⟩
      have hbelow : l.mapM (c.walk f) = some (l.map W) :=
        mapM_eq_some_map fun x hx =>
          walk_extends hb (Nat.le_refl _) (hw x (hp.subset hx) f (by simp [c] at hf; omega))
      simp [walk, hnode, hbelow, List.flatMap_def]
    · have hbelow : (l.flatMap W).map ExprId.index ~ newIndices a b :=
        ((hp.flatMap_right W).map _).trans hperm
      rw [List.flatMap_singleton, List.map_cons, hsplit]
      exact (hbelow.cons _).trans (List.perm_append_singleton _ _).symm

end Forest

end ExprArena

end ExprFront
