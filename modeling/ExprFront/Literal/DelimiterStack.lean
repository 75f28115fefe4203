import ExprFront.Literal.Delimiter

/-!
# The stack of open f-strings

Each open f-string pushes its delimiter with its start offset and some state of the reader's
own choosing; the matching close pops it. Nested literals may use equal delimiters, so only the
position on the stack tells them apart.

The stack is a list, innermost first. `close` succeeds only when the quote and size match the
innermost delimiter (its letters do not matter); otherwise it reports `empty` or `mismatch`
and leaves the stack as it was.

The lemmas at the end say what each operation does to `entries`: `push` conses
(`entries_push`), so the depth grows by one and the innermost literal is the new one, and
`close` right after `push` with a matching quote gives back the stack before the push
(`close_push`).
-/

namespace ExprFront

/-- One open literal: its delimiter, its start offset and the reader's state for it. -/
structure OpenLiteral (α : Type) where
  /-- The delimiter the literal opened with. -/
  delimiter : Delimiter
  /-- The offset of the literal's first byte. -/
  start : Nat
  /-- The reader's state for this literal. -/
  state : α

/-- Why a close was refused. -/
inductive DelimiterError where
  /-- No literal is open. -/
  | empty
  /-- The quote or size differs from the innermost open delimiter. -/
  | mismatch (expected : Delimiter) (quote : Quote) (size : QuoteSize)
  deriving DecidableEq, Repr

/-- The text of a refused close. -/
def DelimiterError.message : DelimiterError → String
  | .empty => "no open f-string to close"
  | .mismatch expected q z =>
    "closing " ++ q.name ++ "/" ++ z.name ++ " does not match the open `" ++
      expected.render ++ "`"

/-- The open literals, innermost first. -/
structure DelimiterStack (α : Type) where
  /-- The open literals, innermost first. -/
  entries : List (OpenLiteral α) := []

namespace DelimiterStack

variable {α : Type}

/-- The stack with nothing open. -/
def empty : DelimiterStack α := ⟨[]⟩

/-- Opens a literal. -/
def push (st : DelimiterStack α) (d : Delimiter) (start : Nat) (s : α) : DelimiterStack α :=
  ⟨⟨d, start, s⟩ :: st.entries⟩

/-- The number of open literals. -/
def depth (st : DelimiterStack α) : Nat := st.entries.length

/-- Whether nothing is open. -/
def isEmpty (st : DelimiterStack α) : Bool := st.entries.isEmpty

/-- The innermost open delimiter. -/
def current? (st : DelimiterStack α) : Option Delimiter := st.entries.head?.map (·.delimiter)

/-- The start offset of the innermost open literal. -/
def currentStart? (st : DelimiterStack α) : Option Nat := st.entries.head?.map (·.start)

/-- The state of the innermost open literal. -/
def state? (st : DelimiterStack α) : Option α := st.entries.head?.map (·.state)

/-- Changes the state of the innermost open literal; nothing if none is open. -/
def modifyState (st : DelimiterStack α) (f : α → α) : DelimiterStack α :=
  match st.entries with
  | [] => st
  | e :: rest => ⟨{ e with state := f e.state } :: rest⟩

/-- Closes the innermost literal with a quote and size, giving its delimiter and the rest of
the stack. -/
def close (st : DelimiterStack α) (q : Quote) (z : QuoteSize) :
    Except DelimiterError (Delimiter × DelimiterStack α) :=
  match st.entries with
  | [] => .error .empty
  | e :: rest =>
    if e.delimiter.closedBy q z then .ok (e.delimiter, ⟨rest⟩)
    else .error (.mismatch e.delimiter q z)

/-- Opening a literal puts it in front of the others. -/
@[simp] theorem entries_push (st : DelimiterStack α) (d : Delimiter) (start : Nat) (s : α) :
    (st.push d start s).entries = ⟨d, start, s⟩ :: st.entries := rfl

/-- Opening a literal adds one to the depth. -/
@[simp] theorem depth_push (st : DelimiterStack α) (d : Delimiter) (start : Nat) (s : α) :
    (st.push d start s).depth = st.depth + 1 := rfl

/-- The literal opened last is the innermost one. -/
@[simp] theorem current?_push (st : DelimiterStack α) (d : Delimiter) (start : Nat) (s : α) :
    (st.push d start s).current? = some d := rfl

/-- The start of the literal opened last is the innermost start. -/
@[simp] theorem currentStart?_push (st : DelimiterStack α) (d : Delimiter) (start : Nat)
    (s : α) : (st.push d start s).currentStart? = some start := rfl

/-- Nothing can be closed on an empty stack. -/
@[simp] theorem close_empty (q : Quote) (z : QuoteSize) :
    (empty : DelimiterStack α).close q z = .error .empty := rfl

/-- Closing with the quote and size of the literal opened last gives back its delimiter and
the stack as it was before it opened. -/
theorem close_push (st : DelimiterStack α) (d : Delimiter) (start : Nat) (s : α) (q : Quote)
    (z : QuoteSize) (h : d.closedBy q z = true) :
    (st.push d start s).close q z = .ok (d, st) := by
  simp [close, push, h]

end DelimiterStack

end ExprFront
