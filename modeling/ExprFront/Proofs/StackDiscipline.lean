import ExprFront.Literal.DelimiterStack

/-!
# The stack of open literals is a list, last in, first out

A reader issues four kinds of operation on its `DelimiterStack`: it opens a literal with the
default state for it, closes the innermost literal with a quote and a size, changes the state of
the innermost literal, or looks at the stack. `DelimiterStack.apply` runs one of them the way the
reader does, where a refused close leaves the stack as it was, and `DelimiterStack.replay` runs a
sequence of them.

The plain account of the same behaviour is a list of entries (delimiter, start, state), innermost
first (`EntryList.apply`): opening puts an entry in front, closing with the innermost entry's
quote and size takes it off and answers its delimiter, and any other close is refused, with the
innermost delimiter and the quote and size asked for, and changes nothing; the prefix letters of
a delimiter play no part in a close.

* `apply_follows_entryList` — one operation on a stack does to its entries, and answers, what
  the operation does on the list of its entries, and a look sees the head of the list;
* `Balanced.replay_keeps` — a sequence whose closes match its opens in last-in, first-out order
  closes without a refusal, and leaves every literal below the innermost one as it was, and the
  innermost one's delimiter and start;
* `delimiterStack_is_entryList` puts these together: from the empty stack every sequence answers
  as the list does, and a balanced one returns the depth to where it started.
-/

namespace ExprFront

/-- An operation on a stack of open literals whose states are of type `α`. -/
inductive StackOp (α : Type) where
  /-- Opens a literal with a delimiter at a start offset, with the default state. -/
  | openLiteral (d : Delimiter) (start : Nat)
  /-- Closes the innermost literal with a quote and size. -/
  | close (q : Quote) (z : QuoteSize)
  /-- Changes the state of the innermost literal. -/
  | updateState (f : α → α)
  /-- Looks at the stack. -/
  | peek

/-- What a look at a stack shows: the innermost literal's delimiter, start and state, the number
of literals open, and whether none is. -/
structure StackView (α : Type) where
  /-- The innermost delimiter. -/
  current : Option Delimiter
  /-- The innermost start offset. -/
  currentStart : Option Nat
  /-- The innermost state. -/
  state : Option α
  /-- The number of open literals. -/
  depth : Nat
  /-- Whether no literal is open. -/
  isEmpty : Bool

/-- The answer to an operation: a close gives its result, a look what it shows. -/
inductive StackReply (α : Type) where
  /-- An open or a change of state, which answer nothing. -/
  | done
  /-- The delimiter closed, or why the close was refused. -/
  | closed (r : Except DelimiterError Delimiter)
  /-- What a look shows. -/
  | seen (v : StackView α)

/-- Whether an answer is a refused close. -/
def StackReply.refused {α : Type} : StackReply α → Bool
  | .closed (.error _) => true
  | _ => false

namespace DelimiterStack

variable {α : Type} [Inhabited α]

/-- What a look at the stack shows. -/
def view (st : DelimiterStack α) : StackView α :=
  ⟨st.current?, st.currentStart?, st.state?, st.depth, st.isEmpty⟩

/-- Runs one operation: the answer and the stack after it. A refused close keeps the stack. -/
def apply (st : DelimiterStack α) : StackOp α → StackReply α × DelimiterStack α
  | .openLiteral d start => (.done, st.push d start default)
  | .close q z =>
    match st.close q z with
    | .ok (d, rest) => (.closed (.ok d), rest)
    | .error e => (.closed (.error e), st)
  | .updateState f => (.done, st.modifyState f)
  | .peek => (.seen st.view, st)

/-- Runs a sequence of operations: their answers and the stack after the last. -/
def replay (st : DelimiterStack α) : List (StackOp α) → List (StackReply α) × DelimiterStack α
  | [] => ([], st)
  | op :: ops =>
    let r := st.apply op
    let rest := r.2.replay ops
    (r.1 :: rest.1, rest.2)

/-- The entries of the stack as (delimiter, start, state), innermost first. -/
def toEntries (st : DelimiterStack α) : List (Delimiter × Nat × α) :=
  st.entries.map fun e => (e.delimiter, e.start, e.state)

end DelimiterStack

namespace EntryList

variable {α : Type} [Inhabited α]

/-- What a look at a list of entries shows: its head, its length and whether it is empty. -/
def view (L : List (Delimiter × Nat × α)) : StackView α :=
  ⟨L.head?.map (·.1), L.head?.map (·.2.1), L.head?.map (·.2.2), L.length, L.isEmpty⟩

/-- One operation on a list of entries, innermost first. -/
def apply : List (Delimiter × Nat × α) → StackOp α →
    StackReply α × List (Delimiter × Nat × α)
  | L, .openLiteral d start => (.done, (d, start, default) :: L)
  | [], .close _ _ => (.closed (.error .empty), [])
  | (d, start, x) :: L, .close q z =>
    if d.quote = q ∧ d.size = z then (.closed (.ok d), L)
    else (.closed (.error (.mismatch d q z)), (d, start, x) :: L)
  | [], .updateState _ => (.done, [])
  | (d, start, x) :: L, .updateState f => (.done, (d, start, f x) :: L)
  | L, .peek => (.seen (view L), L)

/-- A sequence of operations on a list of entries. -/
def replay (L : List (Delimiter × Nat × α)) : List (StackOp α) →
    List (StackReply α) × List (Delimiter × Nat × α)
  | [] => ([], L)
  | op :: ops =>
    let r := apply L op
    let rest := replay r.2 ops
    (r.1 :: rest.1, rest.2)

end EntryList

/-! ## One operation -/

namespace DelimiterStack

variable {α : Type}

@[simp] theorem toEntries_mk (es : List (OpenLiteral α)) :
    toEntries ⟨es⟩ = es.map fun e => (e.delimiter, e.start, e.state) := rfl

/-- A look at the stack sees the head of its entries. -/
theorem view_eq (st : DelimiterStack α) : st.view = EntryList.view st.toEntries := by
  obtain ⟨es⟩ := st
  cases es <;> simp [view, EntryList.view, current?, currentStart?, state?, depth, isEmpty]

/-- A close is judged by the innermost quote and size alone, as the list judges it. -/
theorem close_of_entries {st : DelimiterStack α} {e : OpenLiteral α} {rest : List (OpenLiteral α)}
    (h : st.entries = e :: rest) (q : Quote) (z : QuoteSize) :
    st.close q z =
      if e.delimiter.quote = q ∧ e.delimiter.size = z then .ok (e.delimiter, ⟨rest⟩)
      else .error (.mismatch e.delimiter q z) := by
  simp only [close, h, Delimiter.closedBy, Bool.and_eq_true, beq_iff_eq]

variable [Inhabited α]

@[simp] theorem apply_openLiteral (st : DelimiterStack α) (d : Delimiter) (start : Nat) :
    st.apply (.openLiteral d start) = (.done, st.push d start default) := rfl

@[simp] theorem apply_updateState (st : DelimiterStack α) (f : α → α) :
    st.apply (.updateState f) = (.done, st.modifyState f) := rfl

@[simp] theorem apply_peek (st : DelimiterStack α) : st.apply .peek = (.seen st.view, st) := rfl

@[simp] theorem replay_nil (st : DelimiterStack α) : st.replay [] = ([], st) := rfl

@[simp] theorem replay_cons (st : DelimiterStack α) (op : StackOp α) (ops : List (StackOp α)) :
    st.replay (op :: ops) =
      ((st.apply op).1 :: ((st.apply op).2.replay ops).1, ((st.apply op).2.replay ops).2) := rfl

/-- **One operation** does to the entries of a stack, and answers, what it does on the list of
the entries. -/
theorem apply_follows_entryList (st : DelimiterStack α) (op : StackOp α) :
    (st.apply op).map id toEntries = EntryList.apply st.toEntries op := by
  obtain ⟨es⟩ := st
  cases op with
  | openLiteral d start => rfl
  | close q z =>
    cases es with
    | nil => rfl
    | cons e rest =>
      have hclose := close_of_entries (show (⟨e :: rest⟩ : DelimiterStack α).entries = e :: rest
        from rfl) q z
      simp only [apply, hclose]
      by_cases h : e.delimiter.quote = q ∧ e.delimiter.size = z <;>
        simp [h, EntryList.apply]
  | updateState f => cases es <;> rfl
  | peek => simp [apply, EntryList.apply, view_eq]

/-- A sequence of operations follows the list of entries, answer by answer. -/
theorem replay_follows_entryList (st : DelimiterStack α) (ops : List (StackOp α)) :
    (st.replay ops).map id toEntries = EntryList.replay st.toEntries ops := by
  induction ops generalizing st with
  | nil => rfl
  | cons op ops ih =>
    have hop := apply_follows_entryList st op
    have hrest := ih (st.apply op).2
    simp only [Prod.map, id] at hop hrest
    simp only [replay, EntryList.replay, Prod.map, id, ← hop, ← hrest]

end DelimiterStack

/-! ## Balanced sequences -/

/-- A sequence whose closes match its opens in last-in, first-out order: every open is closed
with its own quote and size, after a balanced sequence of its own, and changes of state and
looks stand anywhere. -/
inductive StackOp.Balanced {α : Type} : List (StackOp α) → Prop
  | nil : StackOp.Balanced []
  | update (f : α → α) {ops : List (StackOp α)} :
      StackOp.Balanced ops → StackOp.Balanced (.updateState f :: ops)
  | peek {ops : List (StackOp α)} : StackOp.Balanced ops → StackOp.Balanced (.peek :: ops)
  | nest (d : Delimiter) (start : Nat) {inner rest : List (StackOp α)} :
      StackOp.Balanced inner → StackOp.Balanced rest →
      StackOp.Balanced (.openLiteral d start :: (inner ++ .close d.quote d.size :: rest))

namespace DelimiterStack

variable {α : Type}

/-- `st'` holds what `st` holds below its innermost literal, and that literal's delimiter and
start; only the innermost state may differ. -/
def Keeps (st st' : DelimiterStack α) : Prop :=
  st'.entries.tail = st.entries.tail ∧
    st'.entries.map (fun e => (e.delimiter, e.start)) =
      st.entries.map (fun e => (e.delimiter, e.start))

theorem Keeps.refl (st : DelimiterStack α) : st.Keeps st := ⟨rfl, rfl⟩

theorem Keeps.trans {st₁ st₂ st₃ : DelimiterStack α} (h₁ : st₁.Keeps st₂) (h₂ : st₂.Keeps st₃) :
    st₁.Keeps st₃ :=
  ⟨h₂.1.trans h₁.1, h₂.2.trans h₁.2⟩

/-- Keeping a stack with a given innermost literal keeps that literal's delimiter and start and
everything below it. -/
theorem Keeps.of_cons {e : OpenLiteral α} {es : List (OpenLiteral α)} {st' : DelimiterStack α}
    (h : (⟨e :: es⟩ : DelimiterStack α).Keeps st') :
    ∃ x, st'.entries = ⟨e.delimiter, e.start, x⟩ :: es := by
  obtain ⟨htail, hmap⟩ := h
  obtain ⟨es'⟩ := st'
  cases es' with
  | nil => simp at hmap
  | cons e' rest =>
    simp only [List.map_cons, List.cons.injEq, Prod.mk.injEq] at hmap
    obtain ⟨⟨hd, hs⟩, -⟩ := hmap
    refine ⟨e'.state, ?_⟩
    simp only [List.tail_cons] at htail
    rw [← hd, ← hs, ← htail]

/-- Changing the innermost state keeps the rest. -/
theorem keeps_modifyState (st : DelimiterStack α) (f : α → α) : st.Keeps (st.modifyState f) := by
  obtain ⟨es⟩ := st
  cases es <;> exact ⟨rfl, rfl⟩

/-- Running two sequences one after the other. -/
theorem replay_append [Inhabited α] (st : DelimiterStack α) (xs ys : List (StackOp α)) :
    st.replay (xs ++ ys) =
      ((st.replay xs).1 ++ ((st.replay xs).2.replay ys).1, ((st.replay xs).2.replay ys).2) := by
  induction xs generalizing st with
  | nil => rfl
  | cons op xs ih => simp only [List.cons_append, replay, ih]

/-- **A balanced sequence** closes every literal it opens without a refusal, and leaves the
literals open before it as they were, but for the innermost one's state. -/
theorem Balanced.replay_keeps [Inhabited α] {ops : List (StackOp α)} (h : StackOp.Balanced ops)
    (st : DelimiterStack α) :
    st.Keeps (st.replay ops).2 ∧ ∀ r ∈ (st.replay ops).1, r.refused = false := by
  induction h generalizing st with
  | nil => exact ⟨.refl st, by simp⟩
  | update f _ ih =>
    obtain ⟨hkeep, hrefused⟩ := ih (st.modifyState f)
    refine ⟨(keeps_modifyState st f).trans hkeep, ?_⟩
    simpa [StackReply.refused] using hrefused
  | peek _ ih =>
    obtain ⟨hkeep, hrefused⟩ := ih st
    exact ⟨hkeep, by simpa [StackReply.refused] using hrefused⟩
  | @nest d start inner rest _ _ ihInner ihRest =>
    -- the inner sequence runs on the stack with the new literal innermost, which it keeps
    obtain ⟨hinner, hrefInner⟩ := ihInner (st.push d start default)
    obtain ⟨x, hentries⟩ := Keeps.of_cons hinner
    -- so the close finds that literal, takes it off, and gives back the stack as it was
    have hclose : ((st.push d start default).replay inner).2.apply (.close d.quote d.size) =
        (.closed (.ok d), st) := by
      simp [apply, close_of_entries hentries]
    obtain ⟨hrest, hrefRest⟩ := ihRest st
    simp only [replay_cons, apply_openLiteral, replay_append, hclose]
    refine ⟨hrest, ?_⟩
    simp only [List.mem_cons, List.mem_append]
    rintro r (rfl | hr | rfl | hr)
    · rfl
    · exact hrefInner r hr
    · rfl
    · exact hrefRest r hr

end DelimiterStack

open DelimiterStack in
/-- **The stack of open literals is a list, last in, first out.** Every sequence of operations
answers as the list of entries does, and closes matching their opens in order leave no refusal. -/
theorem delimiterStack_is_entryList {α : Type} [Inhabited α] :
    (∀ ops : List (StackOp α),
      ((DelimiterStack.empty : DelimiterStack α).replay ops).map id toEntries =
        EntryList.replay [] ops) ∧
    ∀ (st : DelimiterStack α) (ops : List (StackOp α)), StackOp.Balanced ops →
      (st.replay ops).2.depth = st.depth ∧ ∀ r ∈ (st.replay ops).1, r.refused = false := by
  refine ⟨fun ops => replay_follows_entryList _ ops, fun st ops h => ?_⟩
  obtain ⟨⟨-, hmap⟩, hrefused⟩ := Balanced.replay_keeps h st
  refine ⟨?_, hrefused⟩
  simpa [depth] using congrArg List.length hmap

end ExprFront
