import MonkeySyntax.Source

namespace MonkeySyntax

/-- A cursor sees two tokens, or the last one, or the end of the input. -/
inductive Cursor where
  | more (current next : Token) (source : Source)
  | last (current : Token) (source : Source)
  | done (source : Source)
deriving DecidableEq

namespace Cursor

/-- The source is kept with all that it has been asked. -/
def source : Cursor → Source
  | more _ _ source => source
  | last _ source => source
  | done source => source

/-- The tokens from the current one on are the view of a cursor. -/
def tokens : Cursor → List Token
  | more current next source => current :: next :: source.tokens
  | last current _ => [current]
  | done _ => []

/-- The remaining tokens bound the work that is left. -/
def remaining (cursor : Cursor) : Nat :=
  cursor.tokens.length

/-- Behind the last token the current token is the end of the input. -/
def current : Cursor → Token
  | more current _ _ => current
  | last current _ => current
  | done _ => .endOfInput

def next : Cursor → Token
  | more _ next _ => next
  | last _ _ => .endOfInput
  | done _ => .endOfInput

/-- A cursor that sees one token asks its source for a second one. -/
def fill (current : Token) (source : Source) : Cursor :=
  match source.poll with
  | (some next, source) => more current next source
  | (none, source) => last current source

/-- A cursor starts at the first token of its source. -/
def start (source : Source) : Cursor :=
  match source.poll with
  | (some current, source) => fill current source
  | (none, source) => done source.again

/-- The next token becomes the current one. -/
def advance : Cursor → Cursor
  | more _ next source => fill next source
  | last _ source => done source.again
  | done source => done source.again

/-- Filling a cursor leaves the tokens in view as they were. -/
theorem tokens_fill (token : Token) (source : Source) :
    (fill token source).tokens = token :: source.tokens := by
  unfold fill
  split
  · next given => simp [tokens, Source.tokens_of_poll_eq_some (congrArg Prod.fst given), given]
  · next empty => simp [tokens, Source.tokens_of_poll_eq_none (congrArg Prod.fst empty)]

/-- At first all tokens of the source are in view. -/
@[simp] theorem tokens_start (source : Source) : (start source).tokens = source.tokens := by
  unfold start
  split
  · next given =>
    simp [tokens_fill, Source.tokens_of_poll_eq_some (congrArg Prod.fst given), given]
  · next empty => simp [tokens, Source.tokens_of_poll_eq_none (congrArg Prod.fst empty)]

/-- Advancing takes the current token out of view. -/
@[simp] theorem tokens_advance (cursor : Cursor) : cursor.advance.tokens = cursor.tokens.tail := by
  cases cursor with
  | more current next source => exact tokens_fill next source
  | last current source => rfl
  | done source => rfl

/-- The current token is the first one in view, or else the end of the input. -/
theorem current_eq (cursor : Cursor) : cursor.current = cursor.tokens.headD .endOfInput := by
  cases cursor <;> rfl

/-- The next token is the second one in view, or else the end of the input. -/
theorem next_eq (cursor : Cursor) : cursor.next = cursor.tokens.tail.headD .endOfInput := by
  cases cursor <;> rfl

/-- The current token is the first one in view. -/
theorem current_of_tokens {cursor : Cursor} {token : Token} {rest : List Token}
    (starts : cursor.tokens = token :: rest) : cursor.current = token := by
  rw [current_eq, starts]
  rfl

/-- The next token is the second one in view. -/
theorem next_of_tail {cursor : Cursor} {token : Token} {rest : List Token}
    (follows : cursor.tokens.tail = token :: rest) : cursor.next = token := by
  rw [next_eq, follows]
  rfl

/-- The current token of an advanced cursor is the one that was next. -/
@[simp] theorem current_advance (cursor : Cursor) : cursor.advance.current = cursor.next := by
  rw [current_eq, next_eq, tokens_advance]

/-- Advancing leaves one token less, if there was one. -/
@[simp] theorem remaining_advance (cursor : Cursor) :
    cursor.advance.remaining = cursor.remaining - 1 := by
  simp [remaining]

/-- Advancing leaves an end of the tokens that there were. -/
theorem tokens_advance_suffix (cursor : Cursor) : cursor.advance.tokens <:+ cursor.tokens := by
  rw [tokens_advance]
  exact List.tail_suffix _

/-- A current token other than the end of the input is one of the remaining tokens. -/
theorem remaining_pos {cursor : Cursor} (present : cursor.current.kind ≠ .endOfInput) :
    0 < cursor.remaining := by
  cases cursor with
  | more current next source => simp [remaining, tokens]
  | last current source => simp [remaining, tokens]
  | done source => exact absurd rfl present

/-- A next token other than the end of the input is the second remaining token. -/
theorem one_lt_remaining {cursor : Cursor} (present : cursor.next.kind ≠ .endOfInput) :
    1 < cursor.remaining := by
  cases cursor with
  | more current next source => simp [remaining, tokens]
  | last current source => exact absurd rfl present
  | done source => exact absurd rfl present

end Cursor

end MonkeySyntax
