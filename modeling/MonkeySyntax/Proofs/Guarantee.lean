import Mathlib.Tactic
import MonkeySyntax.Proofs.Success

namespace MonkeySyntax

namespace Reading

variable {α β : Type} {start : Cursor}

/-- The condition holds of the value and of the place behind the reading unless an error has been
noted. -/
structure Guarantees (reading : Reading α start) (condition : α → Cursor → Prop) : Prop where
  holds : reading.errors = [] → condition reading.value reading.rest

/-- A given value guarantees what holds of it. -/
theorem guarantees_pure {condition : α → Cursor → Prop} {value : α}
    (holds : condition value start) : (pure value : Reading α start).Guarantees condition :=
  ⟨fun _ => holds⟩

/-- A failure guarantees everything, since it notes its error. -/
theorem guarantees_fail {condition : Option α → Cursor → Prop} {cause : SyntaxError} :
    (fail cause : Reading (Option α) start).Guarantees condition := by
  constructor
  intro clean
  rw [errors_fail] at clean
  cases clean

/-- A guarantee may be weakened. -/
theorem Guarantees.mono {reading : Reading α start} {weaker stronger : α → Cursor → Prop}
    (guarantees : reading.Guarantees stronger)
    (implies : ∀ value rest, stronger value rest → weaker value rest) :
    reading.Guarantees weaker :=
  ⟨fun clean => implies _ _ (guarantees.holds clean)⟩

/-- A reading without errors leaves an end of its tokens as every other one does. -/
theorem Guarantees.with_suffix {reading : Reading α start} {condition : α → Cursor → Prop}
    (guarantees : reading.Guarantees condition) :
    reading.Guarantees fun value rest => rest.tokens <:+ start.tokens ∧ condition value rest :=
  ⟨fun clean => ⟨reading.suffix, guarantees.holds clean⟩⟩

/-- A value made from another one guarantees what holds of it. -/
theorem Guarantees.map {reading : Reading α start} {f : α → β} {condition : β → Cursor → Prop}
    (guarantees : reading.Guarantees fun value rest => condition (f value) rest) :
    (reading.map f).Guarantees condition :=
  ⟨guarantees.holds⟩

/-- A reading from the next token guarantees the same from here. -/
theorem Guarantees.fromNext {reading : Reading α start.advance} {condition : α → Cursor → Prop}
    (guarantees : reading.Guarantees condition) : reading.fromNext.Guarantees condition :=
  ⟨guarantees.holds⟩

/-- The start of a statement is no error. -/
theorem Guarantees.noting {reading : Reading α start} {condition : α → Cursor → Prop}
    (guarantees : reading.Guarantees condition) (kind : TokenKind) (literal : String) :
    (reading.noting kind literal).Guarantees condition := by
  constructor
  intro clean
  rw [errors_noting] at clean
  exact guarantees.holds clean

/-- The second part starts from what the first one guarantees. -/
theorem Guarantees.andThen {first : Reading α start} {middle : α → Cursor → Prop}
    {condition : β → Cursor → Prop}
    {second : α → (rest : Cursor) → rest.remaining ≤ start.remaining → Reading β rest}
    (guarantees : first.Guarantees middle)
    (continues : ∀ value rest within, rest.tokens <:+ start.tokens → middle value rest →
      (second value rest within).Guarantees condition) :
    (first.andThen second).Guarantees condition := by
  constructor
  intro clean
  rw [errors_andThen, List.append_eq_nil_iff] at clean
  obtain ⟨cleanFirst, cleanSecond⟩ := clean
  have holds := guarantees.holds cleanFirst
  exact (continues _ _ _ first.suffix holds).holds cleanSecond

/-- A semicolon behind a reading is the only token that it takes besides. -/
theorem Guarantees.terminated {reading : Reading α start} {condition : α → List Token → Prop}
    (guarantees : reading.Guarantees fun value rest => condition value rest.tokens.tail) :
    reading.terminated.Guarantees fun value rest =>
      ∃ behind, condition value behind ∧ rest.tokens.tail = behindSemicolon behind := by
  constructor
  intro clean
  rw [errors_terminated] at clean
  rw [value_terminated]
  exact ⟨_, guarantees.holds clean, tail_rest_terminated reading⟩

end Reading

/-- Without an error the expected token was there. -/
theorem Cursor.guarantees_expecting {α : Type} {cursor : Cursor} {kind : TokenKind}
    {continued : cursor.next.kind = kind → Reading (Option α) cursor.advance}
    {condition : Option α → Cursor → Prop}
    (guarantees : ∀ found, (continued found).Guarantees condition) :
    (cursor.expecting kind continued).Guarantees condition := by
  by_cases found : cursor.next.kind = kind
  · rw [Cursor.expecting_of_eq found]
    exact (guarantees found).fromNext
  · rw [Cursor.expecting_of_ne found]
    exact Reading.guarantees_fail

/-- No token in view has the kind of the end of the input. -/
def Cursor.EndFree (cursor : Cursor) : Prop :=
  ∀ token ∈ cursor.tokens, token.kind ≠ .endOfInput

namespace Cursor

variable {cursor : Cursor}

/-- An end of the tokens has no other kinds. -/
theorem EndFree.of_suffix {later : Cursor} (endFree : cursor.EndFree)
    (suffix : later.tokens <:+ cursor.tokens) : later.EndFree :=
  fun token member => endFree token (suffix.mem member)

/-- Advancing brings no end of the input into view. -/
theorem EndFree.advance (endFree : cursor.EndFree) : cursor.advance.EndFree :=
  endFree.of_suffix cursor.tokens_advance_suffix

/-- Where the input has ended no token is left. -/
theorem EndFree.tokens_eq_nil (endFree : cursor.EndFree)
    (ended : cursor.current.kind = .endOfInput) : cursor.tokens = [] := by
  rw [Cursor.current_eq] at ended
  cases tokens : cursor.tokens with
  | nil => rfl
  | cons token rest =>
    rw [tokens, List.headD_cons] at ended
    exact absurd ended (endFree token (by simp [tokens]))

/-- A current token of another kind is the first one in view. -/
theorem tokens_eq_cons (present : cursor.current.kind ≠ .endOfInput) :
    cursor.tokens = cursor.current :: cursor.tokens.tail := by
  rw [Cursor.current_eq] at present ⊢
  cases tokens : cursor.tokens with
  | nil => rw [tokens] at present; exact absurd rfl present
  | cons token rest => rfl

/-- A current token with tokens behind it is the first one in view. -/
theorem tokens_eq_cons_of_tail (more : cursor.tokens.tail ≠ []) :
    cursor.tokens = cursor.current :: cursor.tokens.tail := by
  rw [Cursor.current_eq]
  cases tokens : cursor.tokens with
  | nil => rw [tokens] at more; exact absurd rfl more
  | cons token rest => rfl

/-- A next token of another kind is the first one behind the current one. -/
theorem tail_eq_cons (present : cursor.next.kind ≠ .endOfInput) :
    cursor.tokens.tail = cursor.next :: cursor.advance.advance.tokens := by
  rw [← current_advance] at present ⊢
  calc cursor.tokens.tail = cursor.advance.tokens := (tokens_advance cursor).symm
    _ = cursor.advance.current :: cursor.advance.tokens.tail := tokens_eq_cons present
    _ = cursor.advance.current :: cursor.advance.advance.tokens := by
      rw [tokens_advance cursor.advance]

end Cursor

end MonkeySyntax
