import Mathlib
import ExprFront.Proofs.ParseRun

/-!
# The order of call arguments

A call's arguments come in four forms: positional (`P`, a named expression), `*x` (`S`),
`name=x` (`K`) and `**x` (`D`). The loop over them, `Grammar.arguments`, keeps two flags, one
set by a keyword argument and one by a `**` argument, and refuses a positional argument after
either and a `*` argument after a `**` one. A generator expression written without parentheses
of its own is allowed only as the first argument with no comma after it.

The flags hold exactly what the language `(P|S)*(K|S)*(K|D)*` needs to know about the
arguments so far. `ArgForm.InOrder` is that language, and `ArgForm.inOrder_iff_pairwise` reads it
as a condition on pairs, `ArgForm.Follows`, which is what the flags test one argument at a
time. `ArgItem.firstRefusal?` replays the flags over a list of argument forms, and
`Grammar.arguments_of_laid` shows the loop fails exactly with its first refusal, over any
arguments that each read as their form says (`Grammar.ArgsLaid`). The main result is
`Grammar.call_arguments_follow_order`.
-/

namespace ExprFront

/-- The form of a call argument: positional (a named expression), `*x`, `name=x` or `**x`. -/
inductive ArgForm where
  | positional | star | keyword | doubleStar
  deriving DecidableEq, Repr

/-- Whether an argument of this form is a keyword one, `name=x`. -/
def ArgForm.isKeyword : ArgForm → Bool
  | .keyword => true
  | _ => false

/-- Whether an argument of this form is a `**` one. -/
def ArgForm.isDoubleStar : ArgForm → Bool
  | .doubleStar => true
  | _ => false

/-- The form of an argument read. -/
def Arg.form : Arg → ArgForm
  | .positional _ => .positional
  | .star _ => .star
  | .doubleStar _ => .doubleStar
  | .keyword _ _ => .keyword

/-- A call argument as the tokens lay it out: its form, whether it is a generator expression
without parentheses of its own, and whether a comma follows it. -/
structure ArgItem where
  /-- The argument's form. -/
  form : ArgForm
  /-- Whether it is a generator expression without parentheses of its own. -/
  generator : Bool
  /-- Whether a comma follows it. -/
  comma : Bool

namespace ArgForm

/-- Argument forms in the order calls allow them: positional and `*` ones, then keyword and
`*` ones, then keyword and `**` ones, that is, a word of `(P|S)*(K|S)*(K|D)*`. -/
def InOrder (ks : List ArgForm) : Prop :=
  ∃ a b c, ks = a ++ b ++ c ∧ (∀ k ∈ a, k = .positional ∨ k = .star) ∧
    (∀ k ∈ b, k = .keyword ∨ k = .star) ∧ ∀ k ∈ c, k = .keyword ∨ k = .doubleStar

/-- Whether an argument of form `b` may come after one of form `a`: a positional one only after
a positional or `*` one, a `*` one after anything but a `**` one. -/
def Follows (a b : ArgForm) : Prop :=
  (b = .positional → a = .positional ∨ a = .star) ∧ (b = .star → a ≠ .doubleStar)

/-- A word of the order is one whose first form may come before every later one, and whose
rest is a word of the order. -/
lemma inOrder_cons {x : ArgForm} {l : List ArgForm} :
    InOrder (x :: l) ↔ (∀ y ∈ l, Follows x y) ∧ InOrder l := by
  constructor
  · rintro ⟨a, b, c, hsplit, ha, hb, hc⟩
    rcases a with _ | ⟨x', a⟩
    · rcases b with _ | ⟨x', b⟩
      · simp only [List.nil_append] at hsplit
        subst hsplit
        refine ⟨fun y hy => ?_, [], [], l, by simp, by simp, by simp,
          fun k hk => hc k (by simp [hk])⟩
        rcases hc y (by simp [hy]) with rfl | rfl <;> simp [Follows]
      · simp only [List.nil_append, List.cons_append, List.cons.injEq] at hsplit
        obtain ⟨rfl, rfl⟩ := hsplit
        refine ⟨fun y hy => ?_, [], b, c, by simp, by simp, fun k hk => hb k (by simp [hk]), hc⟩
        have hx := hb x (by simp)
        refine ⟨fun hyp => ?_, fun _ => by rcases hx with rfl | rfl <;> simp⟩
        subst hyp
        rcases List.mem_append.1 hy with hy | hy
        · rcases hb _ (List.mem_cons_of_mem _ hy) with h | h <;> cases h
        · rcases hc _ hy with h | h <;> cases h
    · simp only [List.cons_append, List.append_assoc, List.cons.injEq] at hsplit
      obtain ⟨rfl, rfl⟩ := hsplit
      refine ⟨fun y _ => ?_, a, b, c, by simp, fun k hk => ha k (by simp [hk]), hb, hc⟩
      rcases ha x (by simp) with rfl | rfl <;> cases y <;> simp [Follows]
  · rintro ⟨hx, a, b, c, rfl, ha, hb, hc⟩
    cases x with
    | positional => exact ⟨.positional :: a, b, c, rfl, by simpa using ha, hb, hc⟩
    | star => exact ⟨.star :: a, b, c, rfl, by simpa using ha, hb, hc⟩
    | keyword =>
      have ha' : ∀ k ∈ a, k = .keyword ∨ k = .star := by
        intro k hk
        rcases ha k hk with rfl | rfl
        · exact absurd (hx .positional (by simp [hk])).1 (by simp)
        · exact .inr rfl
      refine ⟨[], .keyword :: (a ++ b), c, by simp, by simp, ?_, hc⟩
      intro k hk
      simp only [List.mem_cons, List.mem_append] at hk
      rcases hk with rfl | hk | hk
      · exact .inl rfl
      · exact ha' k hk
      · exact hb k hk
    | doubleStar =>
      refine ⟨[], [], .doubleStar :: (a ++ b ++ c), by simp, by simp, by simp, ?_⟩
      intro k hk
      simp only [List.mem_cons] at hk
      rcases hk with rfl | hk
      · exact .inr rfl
      · obtain ⟨h1, h2⟩ := hx k (by simpa using hk)
        cases k <;> simp_all

/-- The order of call arguments is the order in which each form may follow every earlier one. -/
theorem inOrder_iff_pairwise (ks : List ArgForm) : InOrder ks ↔ ks.Pairwise Follows := by
  induction ks with
  | nil => exact ⟨fun _ => .nil, fun _ => ⟨[], [], [], by simp, by simp, by simp, by simp⟩⟩
  | cons x l ih => rw [inOrder_cons, List.pairwise_cons, ih]

end ArgForm

namespace ArgItem

/-- The message an argument is refused with, after arguments that set `sk` if one of them was a
keyword argument and `sd` if one was a `**` one; `first` says that none came before it. A
generator expression is refused unless it is first with no comma after it, a positional
argument after a keyword or `**` one, and a `*` one after a `**` one. -/
def refusal (first sk sd : Bool) (it : ArgItem) : Option String :=
  if it.generator && (!first || it.comma) then some "generator expression must be parenthesized"
  else
    match it.form with
    | .positional =>
      if sd then some "positional argument follows keyword argument unpacking"
      else if sk then some "positional argument follows keyword argument"
      else none
    | .star =>
      if sd then some "iterable argument unpacking follows keyword argument unpacking" else none
    | _ => none

/-- The refusal of an argument read after arguments of the forms `pre`. -/
def refusalAfter (pre : List ArgForm) (it : ArgItem) : Option String :=
  it.refusal pre.isEmpty (pre.any ArgForm.isKeyword) (pre.any ArgForm.isDoubleStar)

/-- The first refusal among arguments read after arguments of the forms `pre`. -/
def firstRefusal? (pre : List ArgForm) : List ArgItem → Option String
  | [] => none
  | it :: rest => (it.refusalAfter pre).or (firstRefusal? (pre ++ [it.form]) rest)

/-- A generator expression without parentheses of its own is only the first argument, with no
comma after it. -/
def GeneratorsFirst (items : List ArgItem) : Prop :=
  ∀ i (hi : i < items.length), items[i].generator = true → i = 0 ∧ items[i].comma = false

lemma generatorsFirst_cons {it : ArgItem} {rest : List ArgItem} :
    GeneratorsFirst (it :: rest) ↔
      (it.generator = true → it.comma = false) ∧ ∀ it' ∈ rest, it'.generator = false := by
  constructor
  · intro h
    refine ⟨fun hg => (h 0 (by simp) hg).2, fun it' hit' => ?_⟩
    obtain ⟨i, hi, rfl⟩ := List.getElem_of_mem hit'
    cases hg : rest[i].generator
    · rfl
    · exact absurd (h (i + 1) (by simpa using hi) (by simpa using hg)).1 (by omega)
  · rintro ⟨hit, hrest⟩ i hi hg
    cases i with
    | zero => exact ⟨rfl, hit hg⟩
    | succ i =>
      have := hrest _ (List.getElem_mem (Nat.lt_of_succ_lt_succ hi))
      simp_all

lemma any_isKeyword_iff (pre : List ArgForm) :
    pre.any ArgForm.isKeyword = true ↔ .keyword ∈ pre := by
  simp only [List.any_eq_true]
  exact ⟨fun ⟨k, hk, hkw⟩ => by cases k <;> simp_all [ArgForm.isKeyword],
    fun h => ⟨_, h, rfl⟩⟩

lemma any_isDoubleStar_iff (pre : List ArgForm) :
    pre.any ArgForm.isDoubleStar = true ↔ .doubleStar ∈ pre := by
  simp only [List.any_eq_true]
  exact ⟨fun ⟨k, hk, hkw⟩ => by cases k <;> simp_all [ArgForm.isDoubleStar],
    fun h => ⟨_, h, rfl⟩⟩

/-- What the loop checks of one argument: a generator expression comes first with no comma after
it, a positional argument after no keyword or `**` one, a `*` one after no `**` one. -/
lemma refusal_eq_none {first sk sd : Bool} {it : ArgItem} :
    it.refusal first sk sd = none ↔ (it.generator = true → first = true ∧ it.comma = false) ∧
      (it.form = .positional → sk = false ∧ sd = false) ∧ (it.form = .star → sd = false) := by
  obtain ⟨k, g, c⟩ := it
  cases k <;> cases g <;> cases c <;> cases first <;> cases sk <;> cases sd <;> decide

/-- An argument may follow each of some forms when it is no positional one after a keyword or
`**` one, and no `*` one after a `**` one. -/
lemma forall_follows_iff {pre : List ArgForm} {k : ArgForm} :
    (∀ a ∈ pre, a.Follows k) ↔
      (k = .positional → .keyword ∉ pre ∧ .doubleStar ∉ pre) ∧ (k = .star → .doubleStar ∉ pre) := by
  constructor
  · intro h
    refine ⟨fun hk => ⟨fun hm => ?_, fun hm => ?_⟩, fun hk hm => ?_⟩
    · simpa using (h _ hm).1 hk
    · simpa using (h _ hm).1 hk
    · exact (h _ hm).2 hk rfl
  · rintro ⟨hP, hS⟩ a ha
    refine ⟨fun hk => ?_, fun hk hd => ?_⟩
    · obtain ⟨hK, hD⟩ := hP hk
      cases a <;> simp_all
    · exact hS hk (hd ▸ ha)

/-- An argument is admitted after others exactly when it may follow each of them and, if it is a
generator expression, it comes first with no comma after it. -/
lemma refusalAfter_eq_none {pre : List ArgForm} {it : ArgItem} :
    it.refusalAfter pre = none ↔
      (it.generator = true → pre = [] ∧ it.comma = false) ∧ ∀ a ∈ pre, a.Follows it.form := by
  simp only [refusalAfter, refusal_eq_none, forall_follows_iff, List.isEmpty_iff,
    Bool.eq_false_iff, Ne, any_isKeyword_iff, any_isDoubleStar_iff]

/-- The first refusal over two runs of arguments: that of the first run, else that of the second
after the first. -/
lemma firstRefusal?_append (pre : List ArgForm) (l₁ l₂ : List ArgItem) :
    firstRefusal? pre (l₁ ++ l₂) =
      (firstRefusal? pre l₁).or (firstRefusal? (pre ++ l₁.map (·.form)) l₂) := by
  induction l₁ generalizing pre with
  | nil => simp [firstRefusal?]
  | cons it l₁ ih => simp [firstRefusal?, ih, Option.or_assoc]

/-- After some arguments, the rest are all admitted exactly when none is a generator expression
and each may follow every argument before it. -/
lemma firstRefusal?_eq_none_after {pre : List ArgForm} (hpre : pre ≠ []) {items : List ArgItem} :
    firstRefusal? pre items = none ↔ (∀ it ∈ items, it.generator = false) ∧
      (∀ a ∈ pre, ∀ it ∈ items, a.Follows it.form) ∧
      (items.map (·.form)).Pairwise ArgForm.Follows := by
  induction items generalizing pre with
  | nil => simp [firstRefusal?]
  | cons it rest ih =>
    rw [firstRefusal?, Option.or_eq_none_iff, refusalAfter_eq_none, ih (by simp)]
    simp only [hpre, false_and, imp_false, Bool.not_eq_true, List.forall_mem_cons,
      List.forall_mem_append, List.map_cons, List.pairwise_cons, List.forall_mem_map, forall_and]
    tauto

/-- From the start, the arguments are all admitted exactly when a generator expression comes
only first with no comma after it, and each may follow every argument before it. -/
lemma firstRefusal?_nil_eq_none {items : List ArgItem} :
    firstRefusal? [] items = none ↔
      GeneratorsFirst items ∧ (items.map (·.form)).Pairwise ArgForm.Follows := by
  cases items with
  | nil => simp [firstRefusal?, GeneratorsFirst]
  | cons it rest =>
    rw [firstRefusal?, Option.or_eq_none_iff, refusalAfter_eq_none, List.nil_append,
      firstRefusal?_eq_none_after (List.cons_ne_nil _ _), generatorsFirst_cons]
    simp only [true_and, List.not_mem_nil, IsEmpty.forall_iff, implies_true, and_true,
      List.forall_mem_singleton, List.map_cons, List.pairwise_cons, List.forall_mem_map]
    tauto

/-- At the first argument whose form breaks the order, with no generator expression up to it,
the first refusal is that argument's own. -/
lemma firstRefusal?_at_first_break {items : List ArgItem} {pre post : List ArgForm} {k : ArgForm}
    (hsplit : items.map (·.form) = pre ++ k :: post) (hpre : ArgForm.InOrder pre)
    (hgen : ∀ it ∈ items.take (pre.length + 1), it.generator = false) {msg : String}
    (hmsg : ∀ c, (ArgItem.mk k false c).refusalAfter pre = some msg) :
    firstRefusal? [] items = some msg := by
  have hlen : pre.length < items.length := by
    have := congrArg List.length hsplit
    simp at this
    omega
  have hbefore : (items.take pre.length).map (·.form) = pre := by
    rw [List.map_take, hsplit, List.take_left']
    rfl
  have hform : items[pre.length].form = k := by
    have := congrArg (·[pre.length]?) hsplit
    simpa only [List.getElem?_map, List.getElem?_eq_getElem hlen, List.getElem?_append_right le_rfl,
      Nat.sub_self, List.getElem?_cons_zero, Option.map_some, Option.some.injEq] using this
  have hgen' : items[pre.length].generator = false :=
    hgen _ (List.mem_iff_getElem.2 ⟨pre.length, by simp; omega, by simp⟩)
  have hitems :
      items = items.take pre.length ++ items[pre.length] :: items.drop (pre.length + 1) := by
    rw [List.getElem_cons_drop, List.take_append_drop]
  have hfirst : firstRefusal? [] (items.take pre.length) = none := by
    refine firstRefusal?_nil_eq_none.2 ⟨fun i hi hg => ?_, ?_⟩
    · rw [hgen _ (List.take_subset_take_left _ (by omega) (List.getElem_mem hi))] at hg
      cases hg
    · rw [hbefore]
      exact (ArgForm.inOrder_iff_pairwise pre).1 hpre
  generalize items[pre.length] = it at hitems hform hgen'
  obtain ⟨k', g, c⟩ := it
  simp only at hform hgen'
  subst hform hgen'
  rw [hitems, firstRefusal?_append, hfirst, Option.none_or, List.nil_append, hbefore,
    firstRefusal?, hmsg c, Option.some_or]

end ArgItem

namespace TokenStream

/-- Whether a positional argument starts at position `p`: none of `*`, `**`, `name=` or `)`. -/
def PositionalAt (ts : TokenStream) (p : Nat) : Prop :=
  (ts.tokenAt p).kind ≠ .punct .star ∧ (ts.tokenAt p).kind ≠ .punct .doubleStar ∧
    (ts.tokenAt p).kind ≠ .punct .rparen ∧
    ¬((ts.tokenAt p).kind = .name ∧ (ts.tokenAt (p + 1)).kind = .punct .eq)

end TokenStream

namespace Grammar

open ParseM

/-- One call argument read from position `p` up to position `q`, its value read with fuel `n`:
its form, whether it is a generator expression without parentheses of its own, and the
argument it gives. -/
inductive ArgRead (ts : TokenStream) (n p : Nat) : ArgForm → Bool → Arg → Nat → Prop
  | star {v q} : (ts.tokenAt p).kind = .punct .star → expression n ts (ts.next p) = .ok (v, q) →
      ArgRead ts n p .star false (.star v) q
  | doubleStar {v q} : (ts.tokenAt p).kind = .punct .doubleStar →
      expression n ts (ts.next p) = .ok (v, q) → ArgRead ts n p .doubleStar false (.doubleStar v) q
  | keyword {v q} : (ts.tokenAt p).kind = .name → (ts.tokenAt (p + 1)).kind = .punct .eq →
      expression n ts (ts.next (ts.next p)) = .ok (v, q) →
      ArgRead ts n p .keyword false (.keyword (ts.tokenAt p).span v) q
  | positional {v q} : ts.PositionalAt p → namedExpression n ts p = .ok (v, q) →
      (ts.tokenAt q).kind ≠ .keyword .for → (ts.tokenAt q).kind ≠ .keyword .async →
      ArgRead ts n p .positional false (.positional v) q
  | generator {v r cs q} : ts.PositionalAt p → namedExpression n ts p = .ok (v, r) →
      ((ts.tokenAt r).kind = .keyword .for ∨ (ts.tokenAt r).kind = .keyword .async) →
      clauses #[] (n - 1) ts r = .ok (cs, q) →
      ArgRead ts n p .positional true
        (.positional (.generator v cs.toList (v.span.merge (ts.spanBefore q)))) q

/-- Call arguments laid out from position `p` up to the closing parenthesis at `r`, the loop over
them running with fuel `n`: each is read by the production of its form, and a comma follows
each but the last. -/
inductive ArgsLaid (ts : TokenStream) : Nat → Nat → List ArgItem → Nat → Prop
  | close {n p} : (ts.tokenAt p).kind = .punct .rparen → ArgsLaid ts (n + 1) p [] p
  | last {n p k g a q} : ArgRead ts n p k g a q → (ts.tokenAt q).kind = .punct .rparen →
      ArgsLaid ts (n + 1) p [⟨k, g, false⟩] q
  | more {n p k g a q items r} : ArgRead ts n p k g a q → (ts.tokenAt q).kind = .punct .comma →
      ArgsLaid ts n (ts.next q) items r → ArgsLaid ts (n + 1) p (⟨k, g, true⟩ :: items) r

variable {ts : TokenStream} {n p q : Nat} {k : ArgForm} {g : Bool} {a : Arg} {acc : Array Arg}
  {sk sd : Bool}

/-- A generator expression as an argument: its clauses, then the refusal of anything but a lone
first argument. -/
lemma loneGenerator_run {v : Expr} {first : Bool} {m r : Nat} {cs : Array Clause}
    (hcs : clauses #[] m ts r = .ok (cs, q)) :
    loneGenerator v first (m + 1) ts r =
      if (!first || (ts.tokenAt q).kind == .punct .comma) = true then
        .error ⟨v.span.merge (ts.spanBefore q), "generator expression must be parenthesized", none, false⟩
      else .ok (.generator v cs.toList (v.span.merge (ts.spanBefore q)), q) := by
  rw [loneGenerator.eq_2]
  simp only [run_bind, hcs, run_previousSpan, run_check, Except.bind]
  split <;> rfl

/-- An argument the loop admits is pushed with its form noted in the flags; the loop goes on past
a comma, and stops before anything else. -/
lemma arguments_admitted (hread : ArgRead ts n p k g a q)
    (hok : (ArgItem.mk k g ((ts.tokenAt q).kind == .punct .comma)).refusal acc.isEmpty sk sd =
      none) :
    arguments acc sk sd (n + 1) ts p =
      if (ts.tokenAt q).kind = .punct .comma then
        arguments (acc.push a) (sk || k.isKeyword) (sd || k.isDoubleStar) n ts (ts.next q)
      else .ok (acc.push a, q) := by
  rw [arguments.eq_2]
  cases hread with
  | star hk hv =>
    simp only [ArgItem.refusal] at hok
    cases sd <;> simp_all [run_bind, run_check, run_currentKind, run_peekKind, Except.bind,
      Except.map]
    split_ifs <;> simp [ArgForm.isKeyword, ArgForm.isDoubleStar]
  | doubleStar hk hv =>
    simp_all [run_bind, run_check, run_currentKind, run_peekKind, Except.bind, Except.map]
    split_ifs <;> simp [ArgForm.isKeyword, ArgForm.isDoubleStar]
  | keyword hk heq hv =>
    simp_all [run_bind, run_check, run_currentKind, run_peekKind, Except.bind, Except.map]
    split_ifs <;> simp [ArgForm.isKeyword, ArgForm.isDoubleStar]
  | positional hp hv hfor hasync =>
    obtain ⟨hstar, hdstar, hclose, hkw⟩ := hp
    simp only [ArgItem.refusal] at hok
    simp only [run_bind, run_check, run_currentSpan, run_currentKind, run_peekKind, Except.bind,
      beq_iff_eq, hclose, if_false]
    generalize hk1 : (ts.tokenAt p).kind = k1 at hstar hdstar hkw ⊢
    generalize hk2 : (ts.tokenAt (p + 1)).kind = k2 at hkw ⊢
    split
    · exact absurd rfl hstar
    · exact absurd rfl hdstar
    · exact absurd ⟨rfl, rfl⟩ hkw
    · cases sd <;> cases sk <;> simp_all [atClause, Except.bind]
      split_ifs <;> simp [ArgForm.isKeyword, ArgForm.isDoubleStar]
  | @generator v r cs q hp hv hcl hcs =>
    obtain ⟨hstar, hdstar, hclose, hkw⟩ := hp
    cases n with
    | zero => simp [namedExpression, outOfFuel] at hv
    | succ m =>
    simp only [ArgItem.refusal] at hok
    simp only [run_bind, run_check, run_currentSpan, run_currentKind, run_peekKind, Except.bind,
      beq_iff_eq, hclose, if_false]
    generalize hk1 : (ts.tokenAt p).kind = k1 at hstar hdstar hkw ⊢
    generalize hk2 : (ts.tokenAt (p + 1)).kind = k2 at hkw ⊢
    split
    · exact absurd rfl hstar
    · exact absurd rfl hdstar
    · exact absurd ⟨rfl, rfl⟩ hkw
    · have hat : [TokenKind.keyword .for, .keyword .async].contains (ts.tokenAt r).kind = true := by
        rcases hcl with h | h <;> simp [h]
      rw [Nat.add_sub_cancel] at hcs
      have hfirst : acc.isEmpty = true ∧ ((ts.tokenAt q).kind == .punct .comma) = false ∧
          sd = false ∧ sk = false := by
        revert hok
        cases acc.isEmpty <;> cases sd <;> cases sk <;>
          cases ((ts.tokenAt q).kind == .punct .comma) <;> simp
      obtain ⟨he, hc, rfl, rfl⟩ := hfirst
      simp only [run_bind, hv, Except.bind, atClause, run_checkAny, hat, if_true,
        loneGenerator_run hcs, he, hc]
      have hc' : (ts.tokenAt q).kind ≠ .punct .comma := by simpa using hc
      simp [run_eat, hc', Except.bind]

/-- An argument the loop refuses ends the loop with the refusal's message. -/
lemma arguments_refused (hread : ArgRead ts n p k g a q) {msg : String}
    (hno : (ArgItem.mk k g ((ts.tokenAt q).kind == .punct .comma)).refusal acc.isEmpty sk sd =
      some msg) :
    ∃ sp, arguments acc sk sd (n + 1) ts p = .error ⟨sp, msg, none, false⟩ := by
  rw [arguments.eq_2]
  cases hread with
  | star hk hv =>
    simp only [ArgItem.refusal] at hno
    cases sd <;> simp_all [run_bind, run_check, run_currentKind, run_peekKind, Except.bind,
      Except.map]
  | doubleStar hk hv => simp [ArgItem.refusal] at hno
  | keyword hk heq hv => simp [ArgItem.refusal] at hno
  | positional hp hv hfor hasync =>
    obtain ⟨hstar, hdstar, hclose, hkw⟩ := hp
    simp only [ArgItem.refusal] at hno
    simp only [run_bind, run_check, run_currentSpan, run_currentKind, run_peekKind, Except.bind,
      beq_iff_eq, hclose, if_false]
    generalize hk1 : (ts.tokenAt p).kind = k1 at hstar hdstar hkw ⊢
    generalize hk2 : (ts.tokenAt (p + 1)).kind = k2 at hkw ⊢
    split
    · exact absurd rfl hstar
    · exact absurd rfl hdstar
    · exact absurd ⟨rfl, rfl⟩ hkw
    · cases sd <;> cases sk <;> simp_all [atClause, Except.bind]
  | @generator v r cs q hp hv hcl hcs =>
    obtain ⟨hstar, hdstar, hclose, hkw⟩ := hp
    cases n with
    | zero => simp [namedExpression, outOfFuel] at hv
    | succ m =>
    simp only [ArgItem.refusal] at hno
    simp only [run_bind, run_check, run_currentSpan, run_currentKind, run_peekKind, Except.bind,
      beq_iff_eq, hclose, if_false]
    generalize hk1 : (ts.tokenAt p).kind = k1 at hstar hdstar hkw ⊢
    generalize hk2 : (ts.tokenAt (p + 1)).kind = k2 at hkw ⊢
    split
    · exact absurd rfl hstar
    · exact absurd rfl hdstar
    · exact absurd ⟨rfl, rfl⟩ hkw
    · have hat : [TokenKind.keyword .for, .keyword .async].contains (ts.tokenAt r).kind = true := by
        rcases hcl with h | h <;> simp [h]
      rw [Nat.add_sub_cancel] at hcs
      simp only [run_bind, hv, Except.bind, atClause, run_checkAny, hat, if_true,
        loneGenerator_run hcs]
      by_cases hgen : (!acc.isEmpty || (ts.tokenAt q).kind == .punct .comma) = true
      · simp only [hgen, Bool.true_and, if_true, Option.some.injEq] at hno ⊢
        exact ⟨_, by rw [hno]⟩
      · simp only [hgen, Bool.true_and, Bool.false_eq_true, if_false] at hno ⊢
        cases sd <;> cases sk <;> simp_all [Except.bind]

/-- An argument read has the form it was read as. -/
lemma ArgRead.form_eq (h : ArgRead ts n p k g a q) : a.form = k := by
  cases h <;> rfl

/-- **The loop over laid-out arguments.** It gives every argument, in order and with its form,
unless one is refused; then it fails with the first refusal's message. -/
theorem arguments_of_laid {items : List ArgItem} {r : Nat} (h : ArgsLaid ts n p items r) :
    ∀ (acc : Array Arg) (pre : List ArgForm), acc.isEmpty = pre.isEmpty →
      (ArgItem.firstRefusal? pre items = none →
        ∃ args : List Arg, args.map Arg.form = items.map (·.form) ∧
          arguments acc (pre.any ArgForm.isKeyword) (pre.any ArgForm.isDoubleStar) n ts p =
            .ok (acc ++ args.toArray, r)) ∧
      (∀ msg, ArgItem.firstRefusal? pre items = some msg → ∃ sp,
        arguments acc (pre.any ArgForm.isKeyword) (pre.any ArgForm.isDoubleStar) n ts p =
          .error ⟨sp, msg, none, false⟩) := by
  induction h with
  | close hclose =>
    intro acc pre _
    refine ⟨fun _ => ⟨[], rfl, ?_⟩, fun msg h => by simp [ArgItem.firstRefusal?] at h⟩
    rw [arguments.eq_2]
    simp [run_bind, run_check, hclose, Except.bind]
  | @last n p k g a q hread hclose =>
    intro acc pre hacc
    have hc : ((ts.tokenAt q).kind == .punct .comma) = false := by simp [hclose]
    have hr : ArgItem.firstRefusal? pre [⟨k, g, false⟩] =
        (ArgItem.mk k g ((ts.tokenAt q).kind == .punct .comma)).refusal acc.isEmpty
          (pre.any ArgForm.isKeyword) (pre.any ArgForm.isDoubleStar) := by
      simp [ArgItem.firstRefusal?, ArgItem.refusalAfter, hacc, hc]
    refine ⟨fun hnone => ⟨[a], by simp [hread.form_eq], ?_⟩, fun msg hmsg => ?_⟩
    · rw [arguments_admitted hread (hr ▸ hnone), if_neg (by simp [hclose])]
      simp
    · exact arguments_refused hread (hr ▸ hmsg)
  | @more n p k g a q items r hread hcomma hrest ih =>
    intro acc pre hacc
    have hc : ((ts.tokenAt q).kind == .punct .comma) = true := by simp [hcomma]
    have hit : ArgItem.refusalAfter pre ⟨k, g, true⟩ =
        (ArgItem.mk k g ((ts.tokenAt q).kind == .punct .comma)).refusal acc.isEmpty
          (pre.any ArgForm.isKeyword) (pre.any ArgForm.isDoubleStar) := by
      simp [ArgItem.refusalAfter, hacc, hc]
    have hpush : (acc.push a).isEmpty = (pre ++ [k]).isEmpty := by simp
    obtain ⟨ihok, iherr⟩ := ih (acc.push a) (pre ++ [k]) hpush
    simp only [List.any_append, List.any_cons, List.any_nil, Bool.or_false] at ihok iherr
    cases hfirst : ArgItem.refusalAfter pre ⟨k, g, true⟩ with
    | some msg =>
      refine ⟨fun hnone => by simp [ArgItem.firstRefusal?, hfirst] at hnone, fun msg' hmsg => ?_⟩
      simp only [ArgItem.firstRefusal?, hfirst, Option.some_or, Option.some.injEq] at hmsg
      exact hmsg ▸ arguments_refused hread (hit ▸ hfirst)
    | none =>
      have hstep := arguments_admitted hread (hit ▸ hfirst)
      rw [if_pos hcomma] at hstep
      simp only [ArgItem.firstRefusal?, hfirst, Option.none_or]
      refine ⟨fun hnone => ?_, fun msg hmsg => ?_⟩
      · obtain ⟨args, hforms, hrun⟩ := ihok hnone
        refine ⟨a :: args, by simp [hforms, hread.form_eq], ?_⟩
        rw [hstep, hrun]
        simp
      · obtain ⟨sp, hrun⟩ := iherr msg hmsg
        exact ⟨sp, hstep.trans hrun⟩

/-- **Call arguments in order.** The argument loop succeeds exactly when the forms are a word of
`(P|S)*(K|S)*(K|D)*` with a bare generator only first and alone, and otherwise fails at the first
argument out of order, saying why. -/
theorem call_arguments_follow_order {items : List ArgItem} {r : Nat}
    (h : ArgsLaid ts n p items r) :
    ((∃ res, arguments #[] false false n ts p = .ok res) ↔
      ArgForm.InOrder (items.map (·.form)) ∧ ArgItem.GeneratorsFirst items) ∧
    (∀ args q, arguments #[] false false n ts p = .ok (args, q) →
      q = r ∧ args.toList.map Arg.form = items.map (·.form)) ∧
    ∀ pre k post, items.map (·.form) = pre ++ k :: post → ArgForm.InOrder pre →
      (∀ it ∈ items.take (pre.length + 1), it.generator = false) →
      (k = .positional → .doubleStar ∈ pre → ∃ sp, arguments #[] false false n ts p =
        .error ⟨sp, "positional argument follows keyword argument unpacking", none, false⟩) ∧
      (k = .positional → .doubleStar ∉ pre → .keyword ∈ pre →
        ∃ sp, arguments #[] false false n ts p =
          .error ⟨sp, "positional argument follows keyword argument", none, false⟩) ∧
      (k = .star → .doubleStar ∈ pre → ∃ sp, arguments #[] false false n ts p =
        .error ⟨sp, "iterable argument unpacking follows keyword argument unpacking", none, false⟩) := by
  obtain ⟨hok, herr⟩ := arguments_of_laid h #[] [] rfl
  simp only [List.any_nil] at hok herr
  -- the loop's outcome is decided by the first refusal, which the order decides
  have hnone : ArgItem.firstRefusal? [] items = none ↔
      ArgForm.InOrder (items.map (·.form)) ∧ ArgItem.GeneratorsFirst items := by
    rw [ArgItem.firstRefusal?_nil_eq_none, ArgForm.inOrder_iff_pairwise, and_comm]
  have hadmitted : ∀ res, arguments #[] false false n ts p = .ok res →
      ArgItem.firstRefusal? [] items = none := by
    intro res hres
    cases hf : ArgItem.firstRefusal? [] items with
    | none => rfl
    | some msg =>
      obtain ⟨sp, hrun⟩ := herr msg hf
      rw [hres] at hrun
      cases hrun
  refine ⟨⟨fun ⟨res, hres⟩ => hnone.1 (hadmitted res hres), fun hord => ?_⟩,
    fun args q hrun => ?_, ?_⟩
  · obtain ⟨args, _, hrun⟩ := hok (hnone.2 hord)
    exact ⟨_, hrun⟩
  · obtain ⟨args', hforms, hrun'⟩ := hok (hadmitted _ hrun)
    rw [hrun] at hrun'
    cases hrun'
    exact ⟨rfl, by simpa using hforms⟩
  · intro pre k post hsplit hpre hgen
    have hbreak := fun msg hmsg =>
      herr msg (ArgItem.firstRefusal?_at_first_break hsplit hpre hgen hmsg)
    refine ⟨fun hk hD => hbreak _ fun c => ?_, fun hk hD hK => hbreak _ fun c => ?_,
      fun hk hD => hbreak _ fun c => ?_⟩ <;>
    · subst hk
      have hsd := ArgItem.any_isDoubleStar_iff pre
      have hsk := ArgItem.any_isKeyword_iff pre
      simp_all [ArgItem.refusalAfter, ArgItem.refusal]

/-- The arguments of `f(**a, b)`, from the token after the `(`. -/
def unpackThenPositional : TokenStream :=
  ⟨Source.ofString "f(**a, b)",
    #[⟨.name, ⟨0, 1⟩, ⟨1, 1⟩⟩, ⟨.punct .lparen, ⟨1, 2⟩, ⟨1, 2⟩⟩,
      ⟨.punct .doubleStar, ⟨2, 4⟩, ⟨1, 3⟩⟩, ⟨.name, ⟨4, 5⟩, ⟨1, 5⟩⟩,
      ⟨.punct .comma, ⟨5, 6⟩, ⟨1, 6⟩⟩, ⟨.name, ⟨7, 8⟩, ⟨1, 8⟩⟩, ⟨.punct .rparen, ⟨8, 9⟩, ⟨1, 9⟩⟩, ⟨.eof, ⟨9, 9⟩, ⟨1, 10⟩⟩]⟩

/-- In `f(**a, b)` the positional `b` follows the `**` argument, and the loop says so. -/
theorem call_arguments_unpacking_then_positional :
    ArgsLaid unpackThenPositional 31 2
        [⟨.doubleStar, false, true⟩, ⟨.positional, false, false⟩] 6 ∧
      ∃ sp, arguments #[] false false 31 unpackThenPositional 2 =
        .error ⟨sp, "positional argument follows keyword argument unpacking", none, false⟩ := by
  have hlaid : ArgsLaid unpackThenPositional 31 2
      [⟨.doubleStar, false, true⟩, ⟨.positional, false, false⟩] 6 :=
    .more (.doubleStar rfl
        (show expression 30 unpackThenPositional 3 = .ok (.name ⟨4, 5⟩, 4) from rfl))
      rfl
      (.last (.positional ⟨by decide, by decide, by decide, by decide⟩
          (show namedExpression 29 unpackThenPositional 5 = .ok (.name ⟨7, 8⟩, 6) from rfl)
          (by decide) (by decide)) rfl)
  have hpre : ArgForm.InOrder [.doubleStar] :=
    ⟨[], [], [.doubleStar], rfl, by simp, by simp, by simp⟩
  exact ⟨hlaid, ((call_arguments_follow_order hlaid).2.2 [.doubleStar] .positional [] rfl hpre
    (by decide)).1 rfl (by simp)⟩

end Grammar

end ExprFront
