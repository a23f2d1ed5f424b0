import MonkeySyntax.SyntaxError

namespace MonkeySyntax

/-- An event is the start of a statement or an error, with the literal at which it happened. -/
inductive Event where
  | statement (kind : TokenKind) (literal : String)
  | error (cause : SyntaxError) (literal : String)
deriving DecidableEq

namespace Event

def error? : Event → Option SyntaxError
  | statement _ _ => none
  | error cause _ => some cause

def statement? : Event → Option (TokenKind × String)
  | statement kind literal => some (kind, literal)
  | error _ _ => none

/-- The text of an error event is the message of its error. -/
def message? (event : Event) : Option String :=
  event.error?.map SyntaxError.message

/-- The line of an event names its severity, what happened and the details. -/
def line : Event → String
  | statement kind literal =>
    "TRACE statement kind=" ++ kind.display ++ " literal=" ++ literal
  | error cause literal =>
    "DEBUG syntax error error=" ++ cause.message ++ " literal=" ++ literal

end Event

/-- A log is built from single entries and from pairs of logs, so two logs are joined at once. -/
inductive Log (α : Type) where
  | empty
  | single (entry : α)
  | join (earlier later : Log α)

namespace Log

variable {α : Type}

/-- The entries of a log are put in front of a list. -/
def entriesBefore : Log α → List α → List α
  | empty, later => later
  | single entry, later => entry :: later
  | join first second, later => first.entriesBefore (second.entriesBefore later)

/-- The entries of a log stand in the order in which they were made. -/
def entries (log : Log α) : List α :=
  log.entriesBefore []

/-- Nothing but the entries of a log is put in front of a list. -/
theorem entriesBefore_eq (log : Log α) (later : List α) :
    log.entriesBefore later = log.entries ++ later := by
  induction log generalizing later with
  | empty => rfl
  | single entry => rfl
  | join first second firstHypothesis secondHypothesis =>
    rw [entriesBefore, entries, entriesBefore, firstHypothesis,
      firstHypothesis (second.entriesBefore []), secondHypothesis, secondHypothesis [],
      List.append_nil, List.append_assoc]

@[simp] theorem entries_empty : (empty : Log α).entries = [] := rfl

@[simp] theorem entries_single (entry : α) : (single entry).entries = [entry] := rfl

/-- The entries of the earlier log come first. -/
@[simp] theorem entries_join (earlier later : Log α) :
    (join earlier later).entries = earlier.entries ++ later.entries := by
  rw [entries, entriesBefore, entriesBefore_eq, ← entries]

end Log

/-- A record keeps the events of a reading and, in a list of its own, the errors that were found. -/
structure Record where
  log : Log Event
  found : Log SyntaxError

namespace Record

/-- At first nothing has happened. -/
def empty : Record :=
  ⟨.empty, .empty⟩

/-- The start of a statement is an event and no error. -/
def started (kind : TokenKind) (literal : String) : Record :=
  ⟨.single (.statement kind literal), .empty⟩

/-- A failure is noted as an event, and its cause is added to the errors. -/
def failed (cause : SyntaxError) (literal : String) : Record :=
  ⟨.single (.error cause literal), .single cause⟩

/-- What happens later is recorded behind what happened earlier. -/
def append (earlier later : Record) : Record :=
  ⟨.join earlier.log later.log, .join earlier.found later.found⟩

def events (record : Record) : List Event :=
  record.log.entries

def errors (record : Record) : List SyntaxError :=
  record.found.entries

/-- The earlier events come first. -/
@[simp] theorem events_append (earlier later : Record) :
    (earlier.append later).events = earlier.events ++ later.events :=
  Log.entries_join _ _

/-- The earlier errors come first. -/
@[simp] theorem errors_append (earlier later : Record) :
    (earlier.append later).errors = earlier.errors ++ later.errors :=
  Log.entries_join _ _

end Record

end MonkeySyntax
