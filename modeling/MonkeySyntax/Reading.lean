import MonkeySyntax.Cursor
import MonkeySyntax.Log

namespace MonkeySyntax

/-- A reading has a value, the record of what happened on the way and the cursor behind what was
read. It leaves an end of the tokens that it started with, so reading on comes to an end. -/
structure Reading (α : Type) (start : Cursor) where
  value : α
  record : Record
  rest : Cursor
  suffix : rest.tokens <:+ start.tokens

namespace Reading

variable {α β : Type} {start later : Cursor}

/-- A reading never leaves more tokens than it started with. -/
theorem within (reading : Reading α start) : reading.rest.remaining ≤ start.remaining :=
  reading.suffix.length_le

/-- A value is given without reading on. -/
def pure (value : α) : Reading α start :=
  ⟨value, .empty, start, List.suffix_rfl⟩

/-- A failure gives no value and records its cause beside the literal of the current token. -/
def fail (cause : SyntaxError) : Reading (Option α) start :=
  ⟨none, .failed cause start.current.literal, start, List.suffix_rfl⟩

/-- The start of a statement is noted before all that happens in it. -/
def noting (kind : TokenKind) (literal : String) (reading : Reading α start) : Reading α start :=
  ⟨reading.value, (Record.started kind literal).append reading.record, reading.rest,
    reading.suffix⟩

/-- Another value is made from the one that was read. -/
def map (f : α → β) (reading : Reading α start) : Reading β start :=
  ⟨f reading.value, reading.record, reading.rest, reading.suffix⟩

/-- A reading from a later cursor is one from here. -/
def widen (reading : Reading α later) (suffix : later.tokens <:+ start.tokens) :
    Reading α start :=
  ⟨reading.value, reading.record, reading.rest, reading.suffix.trans suffix⟩

/-- A reading from the next token is one from here. -/
def fromNext (reading : Reading α start.advance) : Reading α start :=
  reading.widen start.tokens_advance_suffix

/-- A second reading goes on where the first one stopped. -/
def andThen (first : Reading α start)
    (second : α → (rest : Cursor) → rest.remaining ≤ start.remaining → Reading β rest) :
    Reading β start :=
  let continued := second first.value first.rest first.within
  ⟨continued.value, first.record.append continued.record, continued.rest,
    continued.suffix.trans first.suffix⟩

/-- A semicolon behind what was read belongs to it. -/
def terminated (reading : Reading α start) : Reading α start :=
  if reading.rest.next.kind = .semicolon then
    ⟨reading.value, reading.record, reading.rest.advance,
      reading.rest.tokens_advance_suffix.trans reading.suffix⟩
  else
    reading

/-- The events of a reading stand in the order in which they happened. -/
def events (reading : Reading α start) : List Event :=
  reading.record.events

/-- The errors of a reading stand in the order in which they were found. -/
def errors (reading : Reading α start) : List SyntaxError :=
  reading.record.errors

/-- A given value is the value read. -/
@[simp] theorem value_pure (value : α) : (pure value : Reading α start).value = value := rfl

@[simp] theorem rest_pure (value : α) : (pure value : Reading α start).rest = start := rfl

/-- Giving a value makes no event. -/
@[simp] theorem events_pure (value : α) : (pure value : Reading α start).events = [] := rfl

/-- A failure has no value. -/
@[simp] theorem value_fail (cause : SyntaxError) :
    (fail cause : Reading (Option α) start).value = none := rfl

@[simp] theorem rest_fail (cause : SyntaxError) :
    (fail cause : Reading (Option α) start).rest = start := rfl

/-- A failure is the one event of its reading. -/
@[simp] theorem events_fail (cause : SyntaxError) :
    (fail cause : Reading (Option α) start).events = [.error cause start.current.literal] := rfl

section Noting

variable (kind : TokenKind) (literal : String) (reading : Reading α start)

/-- The start of a statement changes neither its value nor where it stops. -/
@[simp] theorem value_noting : (noting kind literal reading).value = reading.value := rfl

@[simp] theorem rest_noting : (noting kind literal reading).rest = reading.rest := rfl

/-- The start of a statement stands in front of the events in it. -/
@[simp] theorem events_noting :
    (noting kind literal reading).events = .statement kind literal :: reading.events :=
  Record.events_append _ _

/-- The start of a statement is no error. -/
@[simp] theorem errors_noting : (noting kind literal reading).errors = reading.errors :=
  Record.errors_append _ _

end Noting

/-- Only the value changes when another one is made from it. -/
@[simp] theorem value_map (f : α → β) (reading : Reading α start) :
    (reading.map f).value = f reading.value := rfl

@[simp] theorem rest_map (f : α → β) (reading : Reading α start) :
    (reading.map f).rest = reading.rest := rfl

@[simp] theorem events_map (f : α → β) (reading : Reading α start) :
    (reading.map f).events = reading.events := rfl

/-- What is read from a later cursor stays the same seen from here. -/
@[simp] theorem value_widen (reading : Reading α later)
    (suffix : later.tokens <:+ start.tokens) :
    (reading.widen suffix).value = reading.value := rfl

@[simp] theorem rest_widen (reading : Reading α later)
    (suffix : later.tokens <:+ start.tokens) :
    (reading.widen suffix).rest = reading.rest := rfl

@[simp] theorem events_widen (reading : Reading α later)
    (suffix : later.tokens <:+ start.tokens) :
    (reading.widen suffix).events = reading.events := rfl

/-- What is read from the next token stays the same seen from the current one. -/
@[simp] theorem value_fromNext (reading : Reading α start.advance) :
    reading.fromNext.value = reading.value := rfl

@[simp] theorem rest_fromNext (reading : Reading α start.advance) :
    reading.fromNext.rest = reading.rest := rfl

@[simp] theorem events_fromNext (reading : Reading α start.advance) :
    reading.fromNext.events = reading.events := rfl

/-- The value of two readings is that of the second one. -/
@[simp] theorem value_andThen (first : Reading α start)
    (second : α → (rest : Cursor) → rest.remaining ≤ start.remaining → Reading β rest) :
    (first.andThen second).value = (second first.value first.rest first.within).value := rfl

/-- Two readings stop where the second one does. -/
@[simp] theorem rest_andThen (first : Reading α start)
    (second : α → (rest : Cursor) → rest.remaining ≤ start.remaining → Reading β rest) :
    (first.andThen second).rest = (second first.value first.rest first.within).rest := rfl

/-- The events of the second reading follow those of the first. -/
@[simp] theorem events_andThen (first : Reading α start)
    (second : α → (rest : Cursor) → rest.remaining ≤ start.remaining → Reading β rest) :
    (first.andThen second).events =
      first.events ++ (second first.value first.rest first.within).events :=
  Record.events_append _ _

/-- A semicolon does not change the value. -/
@[simp] theorem value_terminated (reading : Reading α start) :
    reading.terminated.value = reading.value := by
  unfold terminated
  split <;> rfl

/-- A semicolon in front is stepped over, and nothing else. -/
theorem rest_terminated (reading : Reading α start) :
    reading.terminated.rest =
      if reading.rest.next.kind = .semicolon then reading.rest.advance else reading.rest := by
  unfold terminated
  split <;> rfl

/-- A semicolon makes no event. -/
@[simp] theorem events_terminated (reading : Reading α start) :
    reading.terminated.events = reading.events := by
  unfold terminated
  split <;> rfl

/-- Giving a value finds no error. -/
@[simp] theorem errors_pure (value : α) : (pure value : Reading α start).errors = [] := rfl

/-- A failure finds one error, its cause. -/
@[simp] theorem errors_fail (cause : SyntaxError) :
    (fail cause : Reading (Option α) start).errors = [cause] := rfl

/-- Another value brings no other errors. -/
@[simp] theorem errors_map (f : α → β) (reading : Reading α start) :
    (reading.map f).errors = reading.errors := rfl

@[simp] theorem errors_fromNext (reading : Reading α start.advance) :
    reading.fromNext.errors = reading.errors := rfl

/-- The errors of the second reading follow those of the first. -/
@[simp] theorem errors_andThen (first : Reading α start)
    (second : α → (rest : Cursor) → rest.remaining ≤ start.remaining → Reading β rest) :
    (first.andThen second).errors =
      first.errors ++ (second first.value first.rest first.within).errors :=
  Record.errors_append _ _

/-- A semicolon is never an error. -/
@[simp] theorem errors_terminated (reading : Reading α start) :
    reading.terminated.errors = reading.errors := by
  unfold terminated
  split <;> rfl

end Reading

/-- A construct goes on at the next token if it is of the expected kind and fails otherwise. -/
def Cursor.expecting {α : Type} (cursor : Cursor) (kind : TokenKind)
    (continued : cursor.next.kind = kind → Reading (Option α) cursor.advance) :
    Reading (Option α) cursor :=
  if found : cursor.next.kind = kind then
    (continued found).fromNext
  else
    .fail (.unexpected kind cursor.next.kind)

namespace Cursor

variable {α : Type} {cursor : Cursor} {kind : TokenKind}
  {continued : cursor.next.kind = kind → Reading (Option α) cursor.advance}

/-- Where the expected token is there, the construct goes on at it. -/
theorem expecting_of_eq (found : cursor.next.kind = kind) :
    cursor.expecting kind continued = (continued found).fromNext :=
  dif_pos found

/-- Where another token is there, its kind is reported. -/
theorem expecting_of_ne (missing : cursor.next.kind ≠ kind) :
    cursor.expecting kind continued = .fail (.unexpected kind cursor.next.kind) :=
  dif_neg missing

end Cursor

end MonkeySyntax
