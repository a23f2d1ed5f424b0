import Mathlib.Tactic
import MonkeySyntax.Reading

namespace MonkeySyntax

namespace Reading

variable {α β γ : Type} {start later further : Cursor}

/-- A successful reading has this value, notes no error and leaves these tokens behind the last
token that it read. -/
structure Succeeds (reading : Reading α start) (value : α) (behind : List Token) : Prop where
  value_eq : reading.value = value
  errors_eq : reading.errors = []
  behind_eq : reading.rest.tokens.tail = behind

/-- A reading goes on as a later one when it stops where that one stops and notes the same errors.
What it read before that is put in front of the later value. -/
structure GoesOn (reading : Reading α start) (complete : β → α) (continued : Reading β later) :
    Prop where
  value_eq : reading.value = complete continued.value
  errors_eq : reading.errors = continued.errors
  rest_eq : reading.rest = continued.rest

/-- A semicolon in front of the tokens behind a statement belongs to the statement. -/
def behindSemicolon : List Token → List Token
  | [] => []
  | token :: rest => if token.kind = .semicolon then rest else token :: rest

/-- A given value stops on the current token. -/
theorem succeeds_pure (value : α) :
    (pure value : Reading α start).Succeeds value start.tokens.tail :=
  ⟨rfl, rfl, rfl⟩

/-- The tokens behind it are those that were behind the current one. -/
theorem succeeds_pure_of_tokens {token : Token} {rest : List Token}
    (starts : start.tokens = token :: rest) (value : α) :
    (pure value : Reading α start).Succeeds value rest :=
  ⟨rfl, rfl, by rw [rest_pure, starts, List.tail_cons]⟩

/-- A reading that goes on twice goes on as the last one. -/
theorem GoesOn.trans {reading : Reading α start} {continued : Reading β later}
    {last : Reading γ further} {outer : β → α} {inner : γ → β}
    (first : reading.GoesOn outer continued) (second : continued.GoesOn inner last) :
    reading.GoesOn (outer ∘ inner) last where
  value_eq := by rw [first.value_eq, second.value_eq, Function.comp]
  errors_eq := first.errors_eq.trans second.errors_eq
  rest_eq := first.rest_eq.trans second.rest_eq

/-- A reading succeeds when it goes on as a successful one. -/
theorem GoesOn.succeeds {reading : Reading α start} {continued : Reading β later}
    {complete : β → α} {value : β} {behind : List Token}
    (goesOn : reading.GoesOn complete continued)
    (succeeds : continued.Succeeds value behind) : reading.Succeeds (complete value) behind where
  value_eq := by rw [goesOn.value_eq, succeeds.value_eq]
  errors_eq := goesOn.errors_eq.trans succeeds.errors_eq
  behind_eq := by rw [goesOn.rest_eq, succeeds.behind_eq]

/-- The part after a successful one decides how the whole goes on. -/
theorem Succeeds.andThen_goesOn {first : Reading α start} {value : α} {behind : List Token}
    (succeeds : first.Succeeds value behind)
    (second : α → (rest : Cursor) → rest.remaining ≤ start.remaining → Reading β rest) :
    (first.andThen second).GoesOn id (second value first.rest first.within) where
  value_eq := by rw [value_andThen, succeeds.value_eq, id]
  errors_eq := by rw [errors_andThen, succeeds.errors_eq, succeeds.value_eq, List.nil_append]
  rest_eq := by rw [rest_andThen, succeeds.value_eq]

/-- The second part succeeds from where the first one stopped. -/
theorem Succeeds.andThen {first : Reading α start} {value : α} {result : β}
    {middle behind : List Token} {second : α → (rest : Cursor) →
      rest.remaining ≤ start.remaining → Reading β rest}
    (succeeds : first.Succeeds value middle)
    (continues : ∀ rest within, rest.tokens.tail = middle →
      (second value rest within).Succeeds result behind) :
    (first.andThen second).Succeeds result behind :=
  (succeeds.andThen_goesOn second).succeeds (continues _ _ succeeds.behind_eq)

/-- A value made from another one is read as well. -/
theorem Succeeds.map {reading : Reading α start} {value : α} {behind : List Token}
    (succeeds : reading.Succeeds value behind) (f : α → β) :
    (reading.map f).Succeeds (f value) behind where
  value_eq := by rw [value_map, succeeds.value_eq]
  errors_eq := succeeds.errors_eq
  behind_eq := succeeds.behind_eq

/-- What succeeds from the next token succeeds from here. -/
theorem Succeeds.fromNext {reading : Reading α start.advance} {value : α} {behind : List Token}
    (succeeds : reading.Succeeds value behind) : reading.fromNext.Succeeds value behind :=
  ⟨succeeds.value_eq, succeeds.errors_eq, succeeds.behind_eq⟩

/-- What goes on from the next token goes on from here. -/
theorem GoesOn.fromNext {reading : Reading α start.advance} {continued : Reading β later}
    {complete : β → α} (goesOn : reading.GoesOn complete continued) :
    reading.fromNext.GoesOn complete continued :=
  ⟨goesOn.value_eq, goesOn.errors_eq, goesOn.rest_eq⟩

/-- The start of a statement is noted, but it is no error. -/
theorem Succeeds.noting {reading : Reading α start} {value : α} {behind : List Token}
    (succeeds : reading.Succeeds value behind) (kind : TokenKind) (literal : String) :
    (reading.noting kind literal).Succeeds value behind where
  value_eq := succeeds.value_eq
  errors_eq := by rw [errors_noting, succeeds.errors_eq]
  behind_eq := succeeds.behind_eq

/-- A semicolon is taken if it is the first token behind. -/
theorem tail_rest_terminated (reading : Reading α start) :
    reading.terminated.rest.tokens.tail = behindSemicolon reading.rest.tokens.tail := by
  rw [rest_terminated, Cursor.next_eq]
  cases follows : reading.rest.tokens.tail with
  | nil => simp [behindSemicolon, follows]
  | cons token rest =>
    rw [List.headD_cons, behindSemicolon]
    split
    · rw [Cursor.tokens_advance, follows, List.tail_cons]
    · exact follows

/-- A statement succeeds with or without its semicolon. -/
theorem Succeeds.terminated {reading : Reading α start} {value : α} {behind : List Token}
    (succeeds : reading.Succeeds value behind) :
    reading.terminated.Succeeds value (behindSemicolon behind) where
  value_eq := by rw [value_terminated, succeeds.value_eq]
  errors_eq := by rw [errors_terminated, succeeds.errors_eq]
  behind_eq := by rw [tail_rest_terminated, succeeds.behind_eq]

end Reading

/-- A construct goes on successfully when the expected token is there and the rest succeeds. -/
theorem Cursor.succeeds_expecting {α : Type} {cursor : Cursor} {kind : TokenKind}
    {continued : cursor.next.kind = kind → Reading (Option α) cursor.advance} {token : Token}
    {rest behind : List Token} {value : Option α} (follows : cursor.tokens.tail = token :: rest)
    (expected : token.kind = kind)
    (succeeds : ∀ found, cursor.advance.tokens = token :: rest →
      (continued found).Succeeds value behind) :
    (cursor.expecting kind continued).Succeeds value behind := by
  have found : cursor.next.kind = kind := by rw [Cursor.next_of_tail follows, expected]
  rw [Cursor.expecting_of_eq found]
  exact (succeeds found (by rw [Cursor.tokens_advance, follows])).fromNext

end MonkeySyntax
